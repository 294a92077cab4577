import FeatureFlags.Proofs.Endings
import FeatureFlags.Proofs.Grounds
import FeatureFlags.Proofs.Picking
import FeatureFlags.Proofs.Stickiness

namespace FeatureFlags

open Inquiry

variable {ω : Type}

namespace Services

/-- The worlds that questions lead to. -/
inductive Reaches {σ : Type} (services : Services σ) (start : σ) : σ → Prop
  | start : Reaches services start start
  | read {world} (key user : String) : Reaches services start world →
      Reaches services start (services.read key user world).2
  | list {world} (query : ListQuery) : Reaches services start world →
      Reaches services start (services.list query world).2
  | gateway {world} (query : GatewayQuery) : Reaches services start world →
      Reaches services start (services.gateway query world).2

theorem reaches_stay {σ : Type} (services : Services σ) (start : σ) :
    services.Stay Call.isQuestion (services.Reaches start) where
  read key user _ _ reached := .read key user reached
  write _ _ asked _ := asked.elim
  list query _ _ reached := .list query reached
  gateway query _ _ reached := .gateway query reached

end Services

/-- A computation ends with what it always gives, wherever its calls do not lead. -/
theorem Inquiry.Always.ends {s α σ : Type} {services : Services σ} {asks : Call → Prop}
    {within : σ → Prop} {gives : α → Prop} {x : StateT s Inquiry α} (held : Always asks gives x)
    (stay : services.Stay asks within) :
    Ends services within (fun _ => True) x fun a _ => gives a :=
  fun state journal inside _ =>
    ⟨(held state).run_within stay inside, (held state).run_gives journal⟩

/-- A comparison forces one of its variations on the user: it may do so, and when the condition of
the variation was asked for, in a world of `within`, it held. -/
structure Campaign.Forces {σ : Type} (services : Services σ) (within : σ → Prop) (scope : Scope ω)
    (c : Campaign ω) (v : Variation ω) : Prop where
  comparison : c.kind = .ab
  allowed : c.forcesVariations = true
  targeted : ∃ segment, v.segment = some segment ∧ ∃ asked : Journal σ, within asked.world ∧
    ((segment.holds scope (scope.forcingAttributes c)).run services asked).1 = true

section Forced

variable {σ : Type} {services : Services σ} {within : σ → Prop} {scope : Scope ω}

/-- What has been targeted are variations whose conditions held. -/
theorem Campaign.run_targetedVariations (stay : services.Stay Call.isQuestion within)
    (c : Campaign ω) (attributes : Attributes) (vs : List (Variation ω)) {journal : Journal σ}
    (inside : within journal.world) :
    ∀ v ∈ ((c.targetedVariations scope attributes vs).run services journal).1,
      v ∈ vs ∧ ∃ segment, v.segment = some segment ∧ ∃ asked : Journal σ, within asked.world ∧
        ((segment.holds scope attributes).run services asked).1 = true := by
  induction vs generalizing journal with
  | nil => exact List.forall_mem_nil _
  | cons first rest ih =>
    intro v targeted
    unfold targetedVariations at targeted
    split at targeted
    · have inside : within (journal.noted (.variationForcingSkipped scope.user.id c first)).world :=
        inside
      obtain ⟨member, held⟩ := ih inside v targeted
      exact ⟨List.mem_cons_of_mem _ member, held⟩
    · rename_i segment own
      have asking : (segment.holds scope attributes).Guarantees Call.isQuestion fun _ => True :=
        Segment.holds_guarantees (fun _ _ _ => trivial) attributes segment fun _ _ => trivial
      rw [run_bind, run_bind, run_pure] at targeted
      have others := ih (asking.run_within stay inside)
      split at targeted
      · rename_i held
        rcases List.mem_cons.mp targeted with rfl | later
        · exact ⟨List.mem_cons_self .., segment, own, journal, inside, held⟩
        · obtain ⟨member, held⟩ := others v later
          exact ⟨List.mem_cons_of_mem _ member, held⟩
      · obtain ⟨member, held⟩ := others v targeted
        exact ⟨List.mem_cons_of_mem _ member, held⟩

variable [Quantity ω]

theorem Rules.run_forced? (stay : services.Stay Call.isQuestion within) (c : Campaign ω)
    {journal : Journal σ} (inside : within journal.world) {v : Variation ω}
    (forced : ((Rules.forced? scope c).run services journal).1 = some v) :
    v ∈ c.variations ∧ c.Forces services within scope v := by
  unfold Rules.forced? at forced
  split at forced
  · rename_i kind
    split at forced
    · rename_i allowed
      rw [Campaign.forced?, run_bind] at forced
      have chosen : v ∈ ((c.targetedVariations scope (scope.forcingAttributes c)
          c.variations).run services journal).1 := Campaign.mem_of_choice? forced
      obtain ⟨member, held⟩ := c.run_targetedVariations stay _ _ inside v chosen
      exact ⟨member, kind, allowed, held⟩
    · cases forced
  all_goals cases forced

/-- A rule forces a variation only as a comparison that may. -/
theorem Rules.outcome_ends (stay : services.Stay Call.isQuestion within) (f : Feature ω)
    (c : Campaign ω) :
    Ends services within (fun _ => True) (outcome scope f c) fun outcome _ =>
      ∀ v, outcome.forced = some v → v ∈ c.variations ∧ c.Forces services within scope v := by
  rw [outcome_eq]
  refine Ends.through (fun forced _ => ∀ v, forced = some v → v ∈ c.variations ∧
    c.Forces services within scope v) (ends_lift fun _ journal inside _ => ?_) fun forced => ?_
  · have asking := forced?_guarantees scope.asks_isQuestion c
    exact ⟨asking.run_within stay inside, fun v => run_forced? stay c inside⟩
  split
  · exact ends_pure fun _ held => held
  · refine ((unforced_guarantees scope.asks_isQuestion f c).ends stay).mono (fun _ _ => trivial)
      fun outcome _ none v forced => ?_
    rw [none] at forced
    cases forced

end Forced

/-- How a user gets to the experiments of a feature: a rollout has let the user in before, none is
asked for, or one lets the user in now. -/
inductive Feature.Admits (f : Feature ω) (begun : Decision) : Decision → Prop
  | freely : f.rollouts = [] ∨ begun.enabled = true → Admits f begun begun
  | rollout {c v} : c ∈ f.rollouts → v ∈ c.variations → Admits f begun (begun.withRollout c v)

/-- All that the rules of a feature can make of a decision. -/
inductive Scope.Grants {σ : Type} (services : Services σ) (within : σ → Prop) (scope : Scope ω)
    (f : Feature ω) (begun : Decision) : Decision → Prop
  | nothing : Grants services within scope f begun begun
  | admission {entered} : f.Admits begun entered → Grants services within scope f begun entered
  | experiment {entered c v forced} : f.Admits begun entered → c ∈ f.experiments →
      v ∈ c.variations → (forced = true → c.Forces services within scope v) →
      Grants services within scope f begun (entered.withExperiment c v forced)

/-- A feature that is newly enabled without an experiment has a rollout. -/
theorem Scope.Grants.rollouts_ne_nil {σ : Type} {services : Services σ} {within : σ → Prop}
    {scope : Scope ω} {f : Feature ω} {begun decision : Decision}
    (granted : scope.Grants services within f begun decision) (disabled : begun.enabled = false)
    (enabled : decision.enabled = true) (bare : decision.experiment = none) : f.rollouts ≠ [] := by
  cases granted with
  | nothing =>
    rw [disabled] at enabled
    cases enabled
  | admission admitted =>
    cases admitted with
    | freely _ =>
      rw [disabled] at enabled
      cases enabled
    | rollout among _ => exact List.ne_nil_of_mem among
  | experiment _ _ _ _ => cases bare

section Grants

variable [Quantity ω] {σ : Type} {services : Services σ} {within : σ → Prop} {scope : Scope ω}
variable (stay : services.Stay Call.isQuestion within) (f : Feature ω)
include stay

theorem Evaluation.grantRollout_ends (begun : Decision) :
    Ends services within (fun _ => True) (grantRollout scope f begun) fun decision _ =>
      decision = begun ∨ f.Admits begun decision := by
  unfold grantRollout
  refine ((firstPassed?_guarantees scope.asks_isQuestion f f.rollouts).ends stay).bind fun passed => ?_
  split
  · exact ends_pure fun _ _ => Or.inl rfl
  rename_i c
  refine Ends.through (fun _ _ => c ∈ f.rollouts) (ends_modify fun _ held => held c rfl) fun _ => ?_
  refine ((c.reportTraffic_guarantees _ _).ends stay).bind fun given => ?_
  split
  · exact ends_pure fun _ _ => Or.inl rfl
  · refine ends_pure fun _ held => Or.inr (.rollout held.2 ?_)
    exact Campaign.mem_of_allotted? held.1.symm

/-- A chosen variation is one of the campaign's. -/
theorem Rules.chosen_ends {c : Campaign ω} {outcome : Outcome ω}
    (forced : ∀ v, outcome.forced = some v → v ∈ c.variations ∧ c.Forces services within scope v) :
    Ends services within (fun _ => True) (chosen scope c outcome) fun choice _ =>
      ∀ given, choice = some given → given.1 ∈ c.variations ∧
        (given.2 = true → c.Forces services within scope given.1) := by
  unfold chosen
  split
  · rename_i v settled
    refine ends_pure fun _ _ given same => ?_
    obtain rfl := Option.some.inj same
    exact ⟨(forced v settled).1, fun _ => (forced v settled).2⟩
  · refine ((c.reportTraffic_guarantees _ _).ends stay).bind fun allotted => ends_pure fun _ held => ?_
    intro given same
    obtain ⟨v, found, rfl⟩ := Option.map_eq_some_iff.mp same
    exact ⟨Campaign.mem_of_allotted? (held.1.symm.trans found), nofun⟩

theorem Evaluation.grantExperiment_ends (entered : Decision) {cs : List (Campaign ω)}
    (tried : ∀ c ∈ cs, c ∈ f.experiments) :
    Ends services within (fun _ => True) (grantExperiment scope f entered cs) fun decision _ =>
      decision = entered ∨ ∃ c ∈ f.experiments, ∃ v ∈ c.variations, ∃ forced,
        decision = entered.withExperiment c v forced ∧
          (forced = true → c.Forces services within scope v) := by
  induction cs with
  | nil => exact ends_pure fun _ _ => Or.inl rfl
  | cons c rest ih =>
    have inside := tried c (List.mem_cons_self ..)
    rw [grantExperiment_cons]
    refine (Rules.outcome_ends stay f c).bind fun outcome => ?_
    split
    · refine Ends.mono (Ends.assuming fun forced => ?_) (fun _ held => ⟨held, trivial⟩)
        fun _ _ held => held
      refine (Rules.chosen_ends stay forced).bind fun choice => ends_pure fun _ held => ?_
      cases choice with
      | none => exact Or.inl rfl
      | some given =>
        obtain ⟨member, forces⟩ := held given rfl
        exact Or.inr ⟨c, inside, given.1, member, given.2, rfl, forces⟩
    · exact (ih fun d later => tried d (List.mem_cons_of_mem _ later)).mono
        (fun _ _ => trivial) fun _ _ held => held

theorem Evaluation.grantInTurn_ends (begun : Decision) :
    Ends services within (fun _ => True) (grantInTurn scope f begun) fun decision _ =>
      scope.Grants services within f begun decision := by
  have further {entered : Decision} (admitted : f.Admits begun entered) :
      Ends services within (fun _ => True) (grantExperiment scope f entered f.experiments)
        fun decision _ => scope.Grants services within f begun decision := by
    refine (grantExperiment_ends stay f entered fun c inside => inside).mono (fun _ _ => trivial)
      fun decision _ held => ?_
    obtain rfl | ⟨c, inside, v, member, forced, rfl, forces⟩ := held
    · exact .admission admitted
    · exact .experiment admitted inside member forces
  unfold grantInTurn
  dsimp only
  cases needed : !f.rollouts.isEmpty && !begun.enabled with
  | false =>
    have free : f.Admits begun begun := by
      rcases Bool.and_eq_false_iff.mp needed with none | already
      · exact .freely (Or.inl (by simpa using none))
      · exact .freely (Or.inr (by simpa using already))
    refine Ends.through (fun entered _ => entered = begun) (ends_pure fun _ _ => rfl)
      fun entered => ?_
    rintro state journal inside rfl
    exact further free state journal inside trivial
  | true =>
    have disabled : begun.enabled = false := by
      simpa using (Bool.and_eq_true_iff.mp needed).2
    refine (grantRollout_ends stay f begun).bind fun entered => ?_
    rintro state journal inside (rfl | admitted)
    · rw [disabled]
      exact ⟨inside, .nothing⟩
    · split
      · exact ⟨inside, .admission admitted⟩
      · exact further admitted state journal inside trivial

theorem Evaluation.byRules_ends (begun : Decision) :
    Ends services within (fun _ => True) (byRules scope f begun) fun decision _ =>
      scope.Grants services within f begun decision := by
  rw [byRules_eq]
  split
  · exact (ends_report _).bind fun _ => grantInTurn_ends stay f begun
  · exact grantInTurn_ends stay f begun

end Grants

/-- A decision is complete: a feature is enabled by what is granted, and carries the values of the
variation of the grant that counts. That variation belongs to a campaign of the settings, or to the
copy of one that the feature links. -/
structure Decision.WellFormed (settings : Settings ω) (featureKey : String)
    (decision : Decision) : Prop where
  about : decision.featureKey = featureKey
  enabled_iff : decision.enabled = true ↔ decision.rollout.isSome ∨ decision.experiment.isSome
  values_of_disabled : decision.enabled = false → decision.values = []
  values_of_grant : ∀ grant, decision.grant? = some grant → ∃ c : Campaign ω,
    (c ∈ settings.campaigns ∨ ∃ f, settings.feature? featureKey = some f ∧ c ∈ f.linked) ∧
      ∃ v ∈ c.variations, grant = .of c v grant.forced ∧ decision.values = v.values

/-- A decision grants only what the rules of a feature give: a variation of a rollout that is linked,
a variation of an experiment that is linked, forced only by a comparison, and no experiment of a
feature with rollouts without one of these. -/
structure Decision.GrantedBy {σ : Type} (services : Services σ) (within : σ → Prop)
    (scope : Scope ω) (f : Feature ω) (decision : Decision) : Prop where
  rollout : ∀ grant, decision.rollout = some grant → ∃ c ∈ f.linked, c.kind = .rollout ∧
    ∃ v ∈ c.variations, grant = .of c v false ∧
      (decision.experiment = none → decision.values = v.values)
  experiment : ∀ grant, decision.experiment = some grant → ∃ c ∈ f.linked, c.kind ≠ .rollout ∧
    ∃ v ∈ c.variations, grant = .of c v grant.forced ∧ decision.values = v.values ∧
      (grant.forced = true → c.Forces services within scope v)
  rollout_of_experiment : (∃ c ∈ f.linked, c.kind = .rollout) → decision.experiment.isSome →
    decision.rollout.isSome

section WellFormed

variable {settings : Settings ω} {featureKey : String}

theorem Decision.wellFormed_disabled :
    Decision.WellFormed settings featureKey { featureKey := featureKey } where
  about := rfl
  enabled_iff := by simp
  values_of_disabled _ := rfl
  values_of_grant := nofun

theorem Decision.wellFormed_restored {c : Campaign ω} {v : Variation ω}
    (among : c ∈ settings.campaigns) (member : v ∈ c.variations) :
    (Evaluation.restored featureKey c v).WellFormed settings featureKey where
  about := rfl
  enabled_iff := by simp [Evaluation.restored]
  values_of_disabled := nofun
  values_of_grant grant granted := by
    obtain rfl := Option.some.inj granted
    exact ⟨c, Or.inl among, v, member, rfl, rfl⟩

/-- What decisions by rules start from is well formed. -/
theorem Evaluation.start_wellFormed (record : Option Record) :
    (start featureKey (keptBy settings record)).1.WellFormed settings featureKey := by
  cases settled : keptBy settings record with
  | experiment c v => exact Decision.wellFormed_disabled
  | nothing => exact Decision.wellFormed_disabled
  | rollout c v =>
    obtain ⟨among, -, member, -⟩ :=
      Settings.variationByKey?_eq_some (variationByKey?_of_keptBy (Or.inr settled))
    refine ⟨rfl, by simp [start], nofun, fun grant granted => ?_⟩
    obtain rfl := Option.some.inj granted
    exact ⟨c, Or.inl among, v, member, rfl, rfl⟩

namespace Decision.WellFormed

variable {f : Feature ω} {begun : Decision} (found : settings.feature? featureKey = some f)
include found

theorem withRollout (wellFormed : begun.WellFormed settings featureKey)
    (bare : begun.experiment = none) {c : Campaign ω} {v : Variation ω} (linked : c ∈ f.linked)
    (member : v ∈ c.variations) : (begun.withRollout c v).WellFormed settings featureKey where
  about := wellFormed.about
  enabled_iff := by simp [Decision.withRollout]
  values_of_disabled := nofun
  values_of_grant grant granted := by
    rw [grant?, Decision.withRollout, bare] at granted
    obtain rfl := Option.some.inj granted
    exact ⟨c, Or.inr ⟨f, found, linked⟩, v, member, rfl, rfl⟩

theorem withExperiment (wellFormed : begun.WellFormed settings featureKey) {c : Campaign ω}
    {v : Variation ω} (forced : Bool) (linked : c ∈ f.linked) (member : v ∈ c.variations) :
    (begun.withExperiment c v forced).WellFormed settings featureKey where
  about := wellFormed.about
  enabled_iff := by simp [Decision.withExperiment]
  values_of_disabled := nofun
  values_of_grant grant granted := by
    obtain rfl := Option.some.inj granted
    exact ⟨c, Or.inr ⟨f, found, linked⟩, v, member, rfl, rfl⟩

theorem admits (wellFormed : begun.WellFormed settings featureKey)
    (bare : begun.experiment = none) {entered : Decision} (admitted : f.Admits begun entered) :
    entered.WellFormed settings featureKey := by
  cases admitted with
  | freely _ => exact wellFormed
  | rollout among member =>
    exact wellFormed.withRollout found bare (Feature.mem_rollouts.mp among).1 member

theorem grants {σ : Type} {services : Services σ} {within : σ → Prop} {scope : Scope ω}
    (wellFormed : begun.WellFormed settings featureKey) (bare : begun.experiment = none)
    {decision : Decision} (granted : scope.Grants services within f begun decision) :
    decision.WellFormed settings featureKey := by
  cases granted with
  | nothing => exact wellFormed
  | admission admitted => exact wellFormed.admits found bare admitted
  | experiment admitted among member _ =>
    exact (wellFormed.admits found bare admitted).withExperiment found _
      (Feature.mem_experiments.mp among).1 member

end Decision.WellFormed

end WellFormed

section Granted

variable {σ : Type} {services : Services σ} {within : σ → Prop} {scope : Scope ω} {f : Feature ω}
variable {featureKey : String} {decision : Decision}

theorem Decision.GrantedBy.of_grants
    (granted : scope.Grants services within f { featureKey := featureKey } decision) :
    decision.GrantedBy services within scope f := by
  -- Without a kept rollout only a feature that has no rollouts may go without one.
  have admission {entered : Decision}
      (admitted : f.Admits { featureKey := featureKey } entered) :
      entered.experiment = none ∧ (∀ grant, entered.rollout = some grant → ∃ c ∈ f.linked,
        c.kind = .rollout ∧ ∃ v ∈ c.variations, grant = .of c v false ∧
          entered.values = v.values) ∧
        ((∃ c ∈ f.linked, c.kind = .rollout) → entered.rollout.isSome) := by
    cases admitted with
    | freely free =>
      refine ⟨rfl, nofun, fun ⟨c, linked, kind⟩ => ?_⟩
      have member := Feature.mem_rollouts.mpr ⟨linked, kind⟩
      rw [free.resolve_right Bool.false_ne_true] at member
      cases member
    | @rollout c v among member =>
      refine ⟨rfl, fun grant same => ?_, fun _ => rfl⟩
      obtain ⟨linked, kind⟩ := Feature.mem_rollouts.mp among
      exact ⟨c, linked, kind, v, member, (Option.some.inj same).symm, rfl⟩
  cases granted with
  | nothing => exact ⟨nofun, nofun, fun _ granted => nomatch granted⟩
  | admission admitted =>
    obtain ⟨bare, rollout, -⟩ := admission admitted
    refine ⟨fun grant same => ?_, by simp [bare], by simp [bare]⟩
    obtain ⟨c, linked, kind, v, member, shape, values⟩ := rollout grant same
    exact ⟨c, linked, kind, v, member, shape, fun _ => values⟩
  | @experiment entered c v forced admitted among member forces =>
    obtain ⟨-, rollout, required⟩ := admission admitted
    refine ⟨fun grant same => ?_, fun grant same => ?_, fun needed _ => required needed⟩
    · obtain ⟨d, linked, kind, w, member, shape, -⟩ := rollout grant same
      exact ⟨d, linked, kind, w, member, shape, nofun⟩
    · obtain rfl := Option.some.inj same
      obtain ⟨linked, kind⟩ := Feature.mem_experiments.mp among
      exact ⟨c, linked, kind, v, member, rfl, rfl, forces⟩

namespace Evaluation

variable [Quantity ω] {settings : Settings ω} {user : User}

/-- Deciding a feature ends with what its rules grant, or leaves it disabled. -/
theorem ofFeature_grants (stay : services.Stay Call.isQuestion within) (settings : Settings ω)
    (user : User) (f : Feature ω) (begun : Decision) (session : Session) {journal : Journal σ}
    (inside : within journal.world) :
    let data := ((fetched settings user f).run services journal).1
    let ended := (ofFeature settings user f begun session).run services journal
    ended.1 = { featureKey := begun.featureKey } ∨
      Scope.Grants services within ⟨settings, user, data⟩ f begun ended.1 := by
  intro data ended
  let scope : Scope ω := ⟨settings, user, data⟩
  have asking := (fetched_guarantees settings user f).run_within stay inside
  let ruled := ((byRules scope f begun).run session).run services
    ((fetched settings user f).run services journal).2
  have granted : scope.Grants services within f begun ruled.1.1 :=
    (byRules_ends stay f begun session _ asking trivial).2
  have shape : ended = (conclude begun.featureKey user.id ruled.1.1).run services ruled.2 := by
    simp only [ended, ofFeature_eq, run_bind]
    rfl
  rw [shape, conclude]
  split
  · exact Or.inr granted
  · exact Or.inl rfl

theorem Resumed.wellFormed {record : Option Record} {before : Journal σ}
    {ended : Decision × Journal σ}
    (resumed : Resumed services settings featureKey user (keptBy settings record) before ended) :
    ended.1.WellFormed settings featureKey := by
  cases resumed with
  | restored settled _ =>
    obtain ⟨among, -, member, -⟩ :=
      Settings.variationByKey?_eq_some (variationByKey?_of_keptBy (Or.inl settled))
    exact Decision.wellFormed_restored among member
  | missing _ _ _ => exact Decision.wellFormed_disabled
  | @decided f asking _ found _ =>
    have begun : (start featureKey (keptBy settings record)).1.WellFormed settings featureKey :=
      start_wellFormed record
    have anywhere : (fun _ => True) asking.world := trivial
    rcases ofFeature_grants (services.stay_anywhere _) settings user f
      (start featureKey (keptBy settings record)).1
      (start featureKey (keptBy settings record)).2 anywhere with same | granted
    · rw [same, start_featureKey]
      exact Decision.wellFormed_disabled
    · exact begun.grants found (start_experiment ..) granted

/-- When nothing is kept, a decision that enables a feature grants what its rules give. -/
theorem Resumed.grantedBy {before : Journal σ} {ended : Decision × Journal σ}
    (resumed : Resumed services settings featureKey user .nothing before ended)
    (enabled : ended.1.enabled = true) :
    ∃ f, ∃ asked : Journal σ, settings.feature? featureKey = some f ∧ asked.world = before.world ∧
      ended.1.GrantedBy services (services.Reaches before.world)
        ⟨settings, user, ((fetched settings user f).run services asked).1⟩ f := by
  cases resumed with
  | restored settled _ => cases settled
  | missing _ _ _ => cases enabled
  | @decided f asking _ found reported =>
    have inside : services.Reaches before.world asking.world := by
      rw [reported.1]
      exact .start
    rcases ofFeature_grants (services.reaches_stay before.world) settings user f
      (start featureKey (.nothing : Kept ω)).1 (start featureKey (.nothing : Kept ω)).2 inside
      with same | granted
    · rw [same] at enabled
      cases enabled
    · exact ⟨f, asking, found, reported.1, .of_grants granted⟩

theorem decide_wellFormed (services : Services σ) (settings : Settings ω) (featureKey : String)
    (user : User) (journal : Journal σ) :
    ((decide settings featureKey user).run services journal).1.WellFormed settings featureKey :=
  (decide_resumed services settings featureKey user journal).wellFormed

theorem decide_grantedBy (services : Services σ) (settings : Settings ω) (featureKey : String)
    (user : User) (journal : Journal σ) :
    let decision := ((decide settings featureKey user).run services journal).1
    let read := services.read featureKey user.id journal.world
    read.1.toOption.join = none → decision.enabled = true →
      ∃ f, ∃ asked : Journal σ, settings.feature? featureKey = some f ∧ asked.world = read.2 ∧
        decision.GrantedBy services (services.Reaches read.2)
          ⟨settings, user, ((fetched settings user f).run services asked).1⟩ f := by
  intro decision read new enabled
  obtain ⟨later, moved, -, reading⟩ := run_recordOf services journal featureKey user.id
  have resumed := decide_resumed services settings featureKey user journal
  dsimp only at resumed
  rw [reading, new] at resumed
  rw [← moved]
  exact Resumed.grantedBy resumed enabled

end Evaluation

end Granted

/-- Whatever is kept and whatever the collaborators answer, a decision is well formed. When no record
is kept, it grants only what the rules of the feature give. -/
theorem decision_is_well_formed [Quantity ω] {σ : Type} (services : Services σ)
    (settings : Settings ω) (featureKey : String) (user : User) (journal : Journal σ) :
    let decision := ((Evaluation.evaluate settings featureKey user).run services journal).1
    let read := services.read featureKey user.id journal.world
    decision.WellFormed settings featureKey ∧
      (read.1.toOption.join = none → decision.enabled = true →
        ∃ f, ∃ asked : Journal σ, settings.feature? featureKey = some f ∧ asked.world = read.2 ∧
          decision.GrantedBy services (services.Reaches read.2)
            ⟨settings, user, ((Evaluation.fetched settings user f).run services asked).1⟩ f) := by
  intro decision read
  unfold decision Evaluation.evaluate Evaluation.tryEvaluate
  cases Evaluation.refusal? featureKey user with
  | some error => exact ⟨Decision.wellFormed_disabled, fun _ enabled => nomatch enabled⟩
  | none =>
    simp only [run_bind, run_pure]
    refine ⟨Evaluation.decide_wellFormed .., ?_⟩
    exact Evaluation.decide_grantedBy services settings featureKey user journal

end FeatureFlags
