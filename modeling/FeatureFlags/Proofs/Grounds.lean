import FeatureFlags.Proofs.Calls
import FeatureFlags.Proofs.Champion

namespace FeatureFlags

open Inquiry

variable {ω : Type}

/-- Groups hold experiments only, and none of them forces variations. -/
structure Settings.PlainGroups (settings : Settings ω) : Prop where
  rollouts : ∀ f ∈ settings.features, ∀ c ∈ f.linked, c.kind = .rollout →
    settings.groupOf? c = none
  forcing : ∀ f ∈ settings.features, ∀ c ∈ f.linked, (settings.groupOf? c).isSome →
    c.forcesVariations = false

/-- No group holds a rollout. -/
def Settings.RolloutsUngrouped (settings : Settings ω) : Prop :=
  ∀ f ∈ settings.features, ∀ c ∈ f.linked, c.kind = .rollout → settings.groupOf? c = none

/-- A grant names this campaign, and the variation that a personalize campaign is about. -/
def Grant.Names (grant : Grant) (c : Campaign ω) : Prop :=
  grant.campaign = c.id ∧ grant.campaignKey = c.key ∧
    (c.kind = .personalize → c.variations.head?.map (·.id) = some grant.variation)

theorem Feature.mem_rollouts {f : Feature ω} {c : Campaign ω} :
    c ∈ f.rollouts ↔ c ∈ f.linked ∧ c.kind = .rollout := by
  simp [rollouts]

theorem Feature.mem_experiments {f : Feature ω} {c : Campaign ω} :
    c ∈ f.experiments ↔ c ∈ f.linked ∧ c.kind ≠ .rollout := by
  simp [experiments]

variable [Quantity ω]

/-- A grant is for an experiment of a feature, and that is the champion of its group. -/
def Scope.Grounds (scope : Scope ω) (replies : Replies) (f : Feature ω) (grant : Grant) : Prop :=
  ∃ c ∈ f.experiments, grant.Names c ∧ scope.Wins replies c

/-- A grant is for an experiment of a feature, and its variation is forced, or the experiment is the
champion of its group. -/
def Scope.Backs (scope : Scope ω) (replies : Replies) (f : Feature ω) (grant : Grant) : Prop :=
  ∃ c ∈ f.experiments, grant.Names c ∧
    (grant.forced = true ∧ c.forcesVariations = true ∨
      grant.forced = false ∧ scope.Wins replies c)

/-- Where no group forces variations, what is forced is in no group. -/
theorem Scope.Backs.grounds {scope : Scope ω} {replies : Replies} {f : Feature ω} {grant : Grant}
    (backs : scope.Backs replies f grant) (member : f ∈ scope.settings.features)
    (plain : scope.settings.PlainGroups) : scope.Grounds replies f grant := by
  obtain ⟨c, inside, names, forced | won⟩ := backs
  · refine ⟨c, inside, names, fun id grouped => ?_⟩
    have linked := (Feature.mem_experiments.mp inside).1
    have unforced := plain.forcing f member c linked (by rw [grouped]; rfl)
    exact absurd (unforced.symm.trans forced.2) Bool.false_ne_true
  · exact ⟨c, inside, names, won.2⟩

theorem Scope.Backs.grounds_of_unforced {scope : Scope ω} {replies : Replies} {f : Feature ω}
    {grant : Grant} (backs : scope.Backs replies f grant) (unforced : grant.forced = false) :
    scope.Grounds replies f grant := by
  obtain ⟨c, inside, names, forced | won⟩ := backs
  · exact absurd (unforced.symm.trans forced.1) Bool.false_ne_true
  · exact ⟨c, inside, names, won.2⟩

/-- What a decision grants beyond the one it starts from has its grounds: its rollout lets the user
into the feature, and its experiment is the champion of its group. -/
def Scope.Explains (scope : Scope ω) (replies : Replies) (f : Feature ω)
    (start decision : Decision) : Prop :=
  (decision.rollout.isSome → start.rollout.isSome ∨ scope.passes replies f = true) ∧
    ∀ grant, decision.experiment = some grant → scope.Grounds replies f grant

theorem Rules.forced?_eq_some {scope : Scope ω} {replies : Replies} {c : Campaign ω}
    {v : Variation ω} (forced : (forced? scope c).answer replies = some v) :
    c.kind = .ab ∧ c.forcesVariations = true := by
  unfold forced? at forced
  split at forced
  · rename_i kind
    split at forced
    · rename_i forces
      exact ⟨kind, forces⟩
    · cases forced
  all_goals cases forced

/-- Only comparisons choose among their variations. -/
theorem Campaign.head?_of_allotted? {c : Campaign ω} {account : UInt64} {user : String}
    {v : Variation ω} (other : c.kind ≠ .ab) (given : c.allotted? account user = some v) :
    c.variations.head? = some v := by
  unfold allotted? at given
  split at given
  · split at given
    · rename_i comparison
      exact absurd comparison other
    all_goals exact given
  · cases given

/-- What a decision grants beyond the one it starts from is vouched for: its rollout lets the user
into the feature, and its experiment is backed. -/
def Scope.Vouches (scope : Scope ω) (replies : Replies) (f : Feature ω)
    (start decision : Decision) : Prop :=
  (decision.rollout.isSome → start.rollout.isSome ∨ scope.passes replies f = true) ∧
    ∀ grant, decision.experiment = some grant → scope.Backs replies f grant

section Rules

variable {scope : Scope ω} {replies : Replies}

/-- Outside of groups, and where nothing is forced, a rule lets those pass who may enter, and nothing
is remembered. -/
theorem Rules.outcome_of_ungrouped (f : Feature ω) {c : Campaign ω}
    (unforced : (forced? scope c).answer replies = none)
    (ungrouped : scope.settings.groupOf? c = none) (session : Session) :
    ((outcome scope f c).run session).answer replies =
      (⟨scope.enters replies c, none⟩, session) := by
  have leads : Leads replies (· = session) (outcome scope f c) fun outcome state =>
      outcome = ⟨scope.enters replies c, none⟩ ∧ state = session := by
    unfold outcome
    refine (leads_answer _).bind fun forced => ?_
    rw [unforced]
    split
    · intro state held
      cases held.1
    rw [ungrouped]
    refine (leads_answer _).bind fun entered => leads_pure fun state held => ?_
    obtain ⟨rfl, -, same⟩ := held
    exact ⟨rfl, same⟩
  obtain ⟨given, same⟩ := leads session rfl
  exact Prod.ext given same

theorem Rules.outcome_of_rollout (f : Feature ω) {c : Campaign ω} (kind : c.kind = .rollout)
    (ungrouped : scope.settings.groupOf? c = none) (session : Session) :
    ((outcome scope f c).run session).answer replies =
      (⟨scope.enters replies c, none⟩, session) := by
  refine outcome_of_ungrouped f ?_ ungrouped session
  rw [forced?, kind]
  rfl

theorem Evaluation.firstPassed?_of_rollouts (f : Feature ω) {cs : List (Campaign ω)}
    (plain : ∀ c ∈ cs, c.kind = .rollout ∧ scope.settings.groupOf? c = none) (session : Session) :
    ((firstPassed? scope f cs).run session).answer replies =
      (cs.find? (scope.enters replies), session) := by
  induction cs with
  | nil => rfl
  | cons c rest ih =>
    obtain ⟨kind, ungrouped⟩ := plain c (List.mem_cons_self ..)
    rw [firstPassed?, StateT.run_bind, answer_bind, Rules.outcome_of_rollout f kind ungrouped session,
      List.find?_cons]
    dsimp only
    cases scope.enters replies c with
    | true => rfl
    | false => exact ih fun d member => plain d (List.mem_cons_of_mem _ member)

section Rollouts

variable {f : Feature ω} (ungrouped : ∀ c ∈ f.rollouts, scope.settings.groupOf? c = none)
include ungrouped

/-- A rollout is granted if the first one that lets the user enter gives a variation. -/
theorem Evaluation.answer_grantRollout (begun : Decision) (session : Session) :
    ((grantRollout scope f begun).run session).answer replies =
      (f.rollouts.find? (scope.enters replies)).elim (begun, session) fun c =>
        ((c.allotted? scope.settings.account scope.user.id).elim begun (begun.withRollout c),
          session.withRollout f.key ⟨c.id, c.key, c.variations.head?.map (·.id)⟩) := by
  have plain : ∀ c ∈ f.rollouts, c.kind = .rollout ∧ scope.settings.groupOf? c = none :=
    fun c inside => ⟨(Feature.mem_rollouts.mp inside).2, ungrouped c inside⟩
  rw [grantRollout, StateT.run_bind, answer_bind, firstPassed?_of_rollouts f plain session]
  cases f.rollouts.find? (scope.enters replies) with
  | none => rfl
  | some c =>
    dsimp only [Option.elim_some]
    rw [StateT.run_bind, answer_bind, StateT.run_bind, answer_bind, answer_lift,
      Campaign.answer_reportTraffic]
    cases c.allotted? scope.settings.account scope.user.id <;> rfl

theorem Evaluation.answer_grantRollout_of_unadmitted (nobody : scope.admission? replies f = none)
    (begun : Decision) (session : Session) :
    (((grantRollout scope f begun).run session).answer replies).1 = begun := by
  rw [answer_grantRollout ungrouped]
  cases first : f.rollouts.find? (scope.enters replies) with
  | none => rfl
  | some c =>
    rw [Scope.admission?_of_first first, Option.map_eq_none_iff] at nobody
    simp only [Option.elim_some, nobody, Option.elim_none]

/-- The variation that lets the user in is granted, and remembered by a feature's key. -/
theorem Evaluation.answer_grantRollout_of_admission {c : Campaign ω} {v : Variation ω}
    (admission : scope.admission? replies f = some (c, v)) (begun : Decision) (session : Session) :
    ((grantRollout scope f begun).run session).answer replies =
      (begun.withRollout c v, session.withRollout f.key ⟨c.id, c.key, some v.id⟩) := by
  rw [answer_grantRollout ungrouped]
  cases first : f.rollouts.find? (scope.enters replies) with
  | none =>
    rw [Scope.admission?_of_none first] at admission
    cases admission
  | some d =>
    have among := List.mem_of_find?_eq_some first
    rw [Scope.admission?_of_first first] at admission
    obtain ⟨w, given, same⟩ := Option.map_eq_some_iff.mp admission
    obtain ⟨rfl, rfl⟩ := Prod.mk.inj same
    have kind := (Feature.mem_rollouts.mp among).2
    have head := Campaign.head?_of_allotted? (by simp [kind]) given
    simp only [Option.elim_some, given, head, Option.map_some]

end Rollouts

variable {f : Feature ω} (member : f ∈ scope.settings.features)
  (distinct : (scope.settings.features.map (·.key)).Nodup)
  (rollouts : scope.settings.RolloutsUngrouped)
  (unkept : ∀ id, replies.record (Rules.groupKey id) scope.user.id = none)

include distinct unkept in
/-- A campaign of a group, of which no variation is forced, passes only as the champion of the
group. -/
theorem Rules.unforced_leads (f : Feature ω) (c : Campaign ω) :
    Leads replies (·.Fair scope replies f) (unforced scope f c) fun outcome session =>
      outcome.forced = none ∧ (outcome.passed → scope.Wins replies c) ∧
        session.Fair scope replies f := by
  unfold unforced
  split
  · rename_i ungrouped
    refine (leads_answer _).bind fun entered => leads_pure fun session held => ?_
    refine ⟨rfl, fun _ id grouped => ?_, held.2⟩
    rw [ungrouped] at grouped
    cases grouped
  rename_i id grouped
  have wins (admitted : (scope.verdict replies f id).admits c) : scope.Wins replies c := by
    intro other same
    rw [grouped] at same
    exact Option.some.inj same ▸ Scope.champion_of_verdict admitted
  have settles (winner : GroupWinner) : Leads replies
      (fun session => winner = scope.verdict replies f id ∧ session.Fair scope replies f)
      (settle id c winner) fun outcome session =>
        outcome.forced = none ∧ (outcome.passed → scope.Wins replies c) ∧
          session.Fair scope replies f := by
    refine Leads.through (fun _ session => winner = scope.verdict replies f id ∧
      session.Fair scope replies f) ?_ fun _ => leads_pure fun session held => ?_
    · refine leads_modify fun session held => ?_
      obtain ⟨rfl, fair⟩ := held
      exact ⟨rfl, fair.withWinner id⟩
    · obtain ⟨rfl, fair⟩ := held
      exact ⟨rfl, wins, fair⟩
  refine leads_get.bind fun seen => ?_
  split
  · rename_i winner known
    refine leads_pure fun session held => ?_
    obtain ⟨rfl, fair⟩ := held
    refine ⟨rfl, fun admitted => wins ?_, fair⟩
    rwa [← fair.settled id winner known]
  refine (leads_answer _).bind fun stored => ?_
  have nothing : (storedWinner? scope id).answer replies = none := by
    rw [storedWinner?, answer_bind, answer_recordOf, unkept id]
    rfl
  rw [nothing]
  split
  · intro session held
    cases held.1
  refine (leads_answer _).bind fun entered => ?_
  split
  · have contest := Contest.winner?_leads (rolloutPassed_fair replies f distinct) id f
    refine Leads.bind (contest.mono (fun session held => held.2.2.2) fun _ _ held => held)
      fun winner => ?_
    exact settles _
  · exact leads_pure fun session held => ⟨rfl, nofun, held.2.2.2⟩

include distinct unkept in
/-- A rule forces a variation of a comparison, or says what it says when nothing is forced. -/
theorem Rules.outcome_leads (f : Feature ω) (c : Campaign ω) :
    Leads replies (·.Fair scope replies f) (outcome scope f c) fun outcome session =>
      (outcome.forced.isSome → c.kind = .ab ∧ c.forcesVariations = true) ∧
        (outcome.passed → outcome.forced = none → scope.Wins replies c) ∧
          session.Fair scope replies f := by
  rw [outcome_eq]
  refine (leads_answer _).bind fun forced => ?_
  split
  · rename_i v
    refine leads_pure fun session held => ?_
    exact ⟨fun _ => forced?_eq_some held.1.symm, fun _ unforced => (nomatch unforced), held.2⟩
  · refine (unforced_leads distinct unkept f c).mono (fun session held => held.2) ?_
    rintro outcome session ⟨unforced, wins, fair⟩
    refine ⟨fun forced => ?_, fun passed _ => wins passed, fair⟩
    rw [unforced] at forced
    cases forced

include member distinct rollouts in
/-- Granting a rollout leaves the decision as it is, or the user gets into the feature. -/
theorem Evaluation.grantRollout_leads (start : Decision) :
    Leads replies (·.Fair scope replies f) (grantRollout scope f start) fun decision session =>
      decision = start ∨ (decision.experiment = start.experiment ∧ decision.enabled ∧
        scope.passes replies f = true ∧ session.Fair scope replies f) := by
  have ungrouped : ∀ c ∈ f.rollouts, scope.settings.groupOf? c = none := by
    intro c inside
    obtain ⟨linked, kind⟩ := Feature.mem_rollouts.mp inside
    exact rollouts f member c linked kind
  intro session fair
  cases admission : scope.admission? replies f with
  | none => exact Or.inl (answer_grantRollout_of_unadmitted ungrouped admission start session)
  | some entered =>
    have passed := Scope.passes_of_admission admission
    rw [answer_grantRollout_of_admission ungrouped admission]
    exact Or.inr ⟨rfl, rfl, passed, fair.sound.withRollout distinct member passed _, fair.settled⟩

/-- A chosen variation of a personalize campaign is the one that the campaign is about. -/
theorem Rules.chosen_leads {c : Campaign ω} {outcome : Outcome ω}
    (forcing : outcome.forced.isSome → c.kind = .ab ∧ c.forcesVariations = true)
    (wins : outcome.forced = none → scope.Wins replies c) (inv : Session → Prop) :
    Leads replies inv (chosen scope c outcome) fun choice session =>
      inv session ∧ ∀ v forced, choice = some (v, forced) → (Grant.of c v forced).Names c ∧
        (forced = true ∧ c.forcesVariations = true ∨ forced = false ∧ scope.Wins replies c) := by
  unfold chosen
  split
  · rename_i v forced
    refine leads_pure fun session held => ⟨held, fun w other same => ?_⟩
    obtain ⟨kind, forces⟩ := forcing (by rw [forced]; rfl)
    obtain ⟨rfl, rfl⟩ := Prod.mk.inj (Option.some.inj same)
    refine ⟨⟨rfl, rfl, fun personalize => ?_⟩, Or.inl ⟨rfl, forces⟩⟩
    rw [kind] at personalize
    cases personalize
  · rename_i unforced
    refine (leads_answer _).bind fun given => leads_pure fun session held => ?_
    rw [Campaign.answer_reportTraffic] at held
    refine ⟨held.2, fun w other same => ?_⟩
    obtain ⟨v, found, paired⟩ := Option.map_eq_some_iff.mp same
    obtain ⟨rfl, rfl⟩ := Prod.mk.inj paired
    refine ⟨⟨rfl, rfl, fun kind => ?_⟩, Or.inr ⟨rfl, wins unforced⟩⟩
    rw [held.1] at found
    rw [Campaign.head?_of_allotted? (by simp [kind]) found, Option.map_some]
    rfl

include distinct unkept in
/-- An experiment that is granted names one of the campaigns that are tried, and that campaign
forces the variation or is the champion of its group. -/
theorem Evaluation.grantExperiment_leads (start : Decision) {cs : List (Campaign ω)}
    (tried : ∀ c ∈ cs, c ∈ f.experiments) :
    Leads replies (·.Fair scope replies f) (grantExperiment scope f start cs) fun decision _ =>
      decision.rollout = start.rollout ∧ ∀ grant, decision.experiment = some grant →
        start.experiment = some grant ∨ scope.Backs replies f grant := by
  induction cs with
  | nil => exact leads_pure fun _ _ => ⟨rfl, fun grant granted => Or.inl granted⟩
  | cons c rest ih =>
    have inside := tried c (List.mem_cons_self ..)
    rw [grantExperiment_cons]
    refine (Rules.outcome_leads distinct unkept f c).bind fun outcome => ?_
    split
    · rename_i passed
      refine Leads.assuming fun forcing => Leads.assuming fun wins => ?_
      refine (Rules.chosen_leads forcing (wins passed) _).bind fun choice =>
        leads_pure fun _ named => ?_
      cases choice with
      | none => exact ⟨rfl, fun grant granted => Or.inl granted⟩
      | some given =>
        refine ⟨rfl, fun grant granted => Or.inr ⟨c, inside, ?_⟩⟩
        exact Option.some.inj granted ▸ named.2 _ _ rfl
    · exact (ih fun d later => tried d (List.mem_cons_of_mem _ later)).mono
        (fun session held => held.2.2) fun _ _ held => held

include distinct unkept in
/-- Experiments of a decision that has none yet are granted as they are vouched for. -/
theorem Evaluation.grantExperiment_vouched {start decision : Decision}
    (bare : decision.experiment = none)
    (entered : decision.rollout.isSome → start.rollout.isSome ∨ scope.passes replies f = true) :
    Leads replies (·.Fair scope replies f) (grantExperiment scope f decision f.experiments)
      fun ended _ => scope.Vouches replies f start ended := by
  refine (grantExperiment_leads distinct unkept decision fun c inside => inside).mono
    (fun _ fair => fair) fun ended session held => ⟨?_, fun grant granted => ?_⟩
  · rw [held.1]
    exact entered
  · rcases held.2 grant granted with before | now
    · rw [bare] at before
      cases before
    · exact now

include member distinct rollouts unkept in
theorem Evaluation.grantInTurn_vouched {start : Decision} (bare : start.experiment = none) :
    Leads replies (·.Fair scope replies f) (grantInTurn scope f start) fun decision _ =>
      scope.Vouches replies f start decision := by
  unfold grantInTurn
  dsimp only
  split
  · rename_i byRollout
    rw [Bool.and_eq_true, Bool.not_eq_true', Bool.not_eq_true'] at byRollout
    obtain ⟨nonempty, disabled⟩ := byRollout
    refine (grantRollout_leads member distinct rollouts start).bind fun decision => ?_
    intro session held
    rcases held with rfl | ⟨still, enabled, passed, fair⟩
    · simp only [nonempty, disabled, Bool.not_false, Bool.and_self, if_true]
      refine ⟨fun recorded => Or.inl recorded, fun grant granted => ?_⟩
      change decision.experiment = some grant at granted
      rw [bare] at granted
      cases granted
    · simp only [nonempty, disabled, enabled, Bool.not_false, Bool.not_true, Bool.and_self,
        Bool.and_false, Bool.false_eq_true, if_false]
      exact grantExperiment_vouched distinct unkept (still.trans bare) (fun _ => Or.inr passed)
        session fair
  · rename_i other
    refine Leads.through (fun decision session => decision = start ∧
      session.Fair scope replies f) (leads_pure fun _ fair => ⟨rfl, fair⟩) fun decision => ?_
    intro session held
    obtain ⟨rfl, fair⟩ := held
    rw [Bool.eq_false_iff.mpr other, Bool.false_and, if_neg Bool.false_ne_true]
    exact grantExperiment_vouched distinct unkept bare (fun recorded => Or.inl recorded) session fair

include member distinct rollouts unkept in
/-- Rules that start without an experiment grant nothing that is not vouched for. -/
theorem Evaluation.byRules_vouched {start : Decision} (bare : start.experiment = none) :
    Leads replies (·.Fair scope replies f) (byRules scope f start) fun decision _ =>
      scope.Vouches replies f start decision := by
  have inTurn := grantInTurn_vouched member distinct rollouts unkept bare
  rw [byRules_eq]
  split
  · exact (leads_answer _).bind fun _ => inTurn.mono (fun _ held => held.2) fun _ _ held => held
  · exact inTurn

include member distinct in
/-- Where no group forces variations, rules that start without an experiment grant nothing without
grounds. -/
theorem Evaluation.byRules_leads (plain : scope.settings.PlainGroups)
    (unkept : ∀ id, replies.record (Rules.groupKey id) scope.user.id = none) {start : Decision}
    (bare : start.experiment = none) :
    Leads replies (·.Fair scope replies f) (byRules scope f start) fun decision _ =>
      scope.Explains replies f start decision :=
  (byRules_vouched member distinct plain.rollouts unkept bare).mono (fun _ fair => fair)
    fun _ _ held => ⟨held.1, fun grant granted => (held.2 grant granted).grounds member plain⟩

end Rules

end FeatureFlags
