import FeatureFlags.Proofs.Blindness
import FeatureFlags.Proofs.CallOrder
import FeatureFlags.Proofs.Repetition

namespace FeatureFlags

open Inquiry

variable {ω : Type}

/-- A feature consists of one comparison, which is in no group, forces no variations, and knows its
users by their ids. -/
structure Settings.Compares (settings : Settings ω) (f : Feature ω) (c : Campaign ω) : Prop where
  sole : f.linked = [c]
  kind : c.kind = .ab
  ungrouped : settings.groupOf? c = none
  unforced : c.forcesVariations = false
  unlisted : c.usesUserLists = false

theorem Scope.asks_isLookup (scope : Scope ω) : scope.Asks Call.isLookup where
  read _ := trivial
  list _ _ _ := trivial

theorem Services.Stay.lookups {σ : Type} {services : Services σ} {within : σ → Prop}
    (stay : services.Stay Call.isQuestion within) : services.Stay Call.isLookup within where
  read key user world _ := stay.read key user world trivial
  write _ _ asked := asked.elim
  list query world _ := stay.list query world trivial
  gateway _ _ asked := asked.elim

namespace Evaluation

/-- A condition that a document compiles to is met if it holds of the user without fetched data. -/
theorem answer_meets (settings : Settings ω) (dsl : Json) (user : User) (replies : Replies) :
    (meets settings dsl user).answer replies = (Segment.compile? dsl).elim true fun t =>
      (t.holds ⟨settings, user, none⟩ ⟨user.customVariables, some user.id⟩).answer replies := by
  have reports : (Segment.compileReporting dsl).Guarantees (fun _ => True)
      (· = Segment.compile? dsl) := Segment.compileReporting_guarantees dsl
  rw [meets, answer_bind, reports.answer replies]
  cases Segment.compile? dsl <;> rfl

/-- What a feature of one comparison comes to: a variation, for those who meet the condition and get
one. -/
def compared (featureKey : String) (c : Campaign ω) (met : Bool) (given : Option (Variation ω)) :
    Decision :=
  match met, given with
  | true, some v => Decision.withExperiment { featureKey := featureKey } c v false
  | _, _ => { featureKey := featureKey }

theorem compared_enabled_iff (featureKey : String) (c : Campaign ω) (met : Bool)
    (given : Option (Variation ω)) :
    (compared featureKey c met given).enabled ↔ met = true ∧ given.isSome := by
  cases met <;> cases given <;> simp [compared, Decision.withExperiment]

theorem compared_experiment {featureKey : String} {c : Campaign ω} {met : Bool}
    {given : Option (Variation ω)} (enabled : (compared featureKey c met given).enabled) :
    ∃ v, given = some v ∧
      (compared featureKey c met given).experiment = some (.of c v false) := by
  obtain ⟨rfl, allotted⟩ := (compared_enabled_iff featureKey c met given).mp enabled
  obtain ⟨v, rfl⟩ := Option.isSome_iff_exists.mp allotted
  exact ⟨v, rfl, rfl⟩

/-- What is not enabled is the plain decision anyway. -/
theorem compared_or_plain (featureKey : String) (c : Campaign ω) (met : Bool)
    (given : Option (Variation ω)) :
    (if (compared featureKey c met given).enabled then compared featureKey c met given
      else { featureKey := featureKey }) = compared featureKey c met given := by
  cases met <;> cases given <;> rfl

variable [Quantity ω] {settings : Settings ω} {f : Feature ω} {c : Campaign ω}

/-- The comparison is entered by those who meet its condition, as long as what is fetched for them
does not count. -/
theorem enters_eq_meets (processed : settings.Processed) (member : f ∈ settings.features)
    (compares : settings.Compares f c) (user : User) {data : Option GatewayData}
    (sight : data = none ∨ ∀ t ∈ Segment.compile? c.segments, t.requiresGateway = false)
    (replies : Replies) :
    Scope.enters ⟨settings, user, data⟩ replies c =
      (meets settings c.segments user).answer replies := by
  have linked : c ∈ f.linked := compares.sole ▸ List.mem_singleton_self c
  have entry : c.entrySegment? = Segment.compile? c.segments := by
    rw [Campaign.entrySegment?, compares.kind]
    exact processed.segment_eq member linked
  have known : Scope.entryAttributes ⟨settings, user, data⟩ c =
      ⟨user.customVariables, some user.id⟩ := by
    rw [Scope.entryAttributes, Scope.identity, compares.unlisted]
    rfl
  rw [answer_meets, Scope.enters, Campaign.mayEnter, entry, known]
  cases compiled : Segment.compile? c.segments with
  | none => rfl
  | some t =>
    have same : t.holds ⟨settings, user, data⟩ ⟨user.customVariables, some user.id⟩ =
        t.holds ⟨settings, user, none⟩ ⟨user.customVariables, some user.id⟩ := by
      -- Both scopes are the same, or the condition does not look at what they differ in.
      rcases sight with unfetched | plain
      · rw [unfetched]
      · have alike : Scope.Alike ⟨settings, user, data⟩ ⟨settings, user, none⟩ :=
          ⟨rfl, rfl, rfl, rfl⟩
        exact t.holds_alike alike _ fun required =>
          absurd ((plain t compiled).symm.trans required) Bool.false_ne_true
    simp only [same, answer_bind, answer_pure, Option.elim_some]

/-- The rules of a feature of one comparison grant the variation that is allotted, to those who may
enter. -/
theorem answer_byRules_of_sole (scope : Scope ω) (compares : scope.settings.Compares f c)
    (replies : Replies) (featureKey : String) (session : Session) {given : Option (Variation ω)}
    (allotted : c.allotted? scope.settings.account scope.user.id = given) :
    (((byRules scope f { featureKey := featureKey }).run session).answer replies).1 =
      compared featureKey c (scope.enters replies c) given := by
  have rollouts : f.rollouts = [] := by simp [Feature.rollouts, compares.sole, compares.kind]
  have experiments : f.experiments = [c] := by
    simp [Feature.experiments, compares.sole, compares.kind]
  have unforced : (Rules.forced? scope c).answer replies = none := by
    rw [Rules.forced?, compares.kind, compares.unforced]
    rfl
  rw [answer_byRules_of_admitted (Or.inl rollouts), experiments, grantExperiment_cons,
    StateT.run_bind, answer_bind,
    Rules.outcome_of_ungrouped f unforced compares.ungrouped session]
  dsimp only
  cases scope.enters replies c with
  | false => rfl
  | true =>
    rw [if_pos rfl, Rules.chosen]
    dsimp only
    rw [bind_assoc, StateT.run_bind, answer_bind, answer_lift, Campaign.answer_reportTraffic,
      allotted]
    cases given <;> rfl

section Runs

variable {σ : Type} {services : Services σ} {within : σ → Prop} {replies : Replies}
variable (stay : services.Stay Call.isQuestion within)
variable (lookups : services.AnswerTo Call.isLookup within replies)
include stay lookups

/-- Where nothing is kept about a feature and a user, its rules decide, with the data that have been
fetched. None are fetched for a user who brings them. -/
theorem run_evaluate_anew {featureKey : String} {user : User}
    (accepted : refusal? featureKey user = none) (found : settings.feature? featureKey = some f)
    (new : replies.record featureKey user.id = none) {journal : Journal σ}
    (inside : within journal.world) :
    ∃ data : Option GatewayData, (user.gateway.isSome → data = none) ∧ ∀ ruled,
      (((byRules ⟨settings, user, data⟩ f { featureKey := featureKey }).run {}).answer
        replies).1 = ruled →
      ((evaluate settings featureKey user).run services journal).1 =
        if ruled.enabled then ruled else { featureKey := featureKey } := by
  let afterRead := (recordOf featureKey user.id).run services journal
  have reads : (recordOf featureKey user.id).Guarantees Call.isLookup fun _ => True :=
    guarantees_recordOf.mpr ⟨trivial, fun _ => trivial⟩
  have readWithin : within afterRead.2.world := reads.run_within stay.lookups inside
  have unkept : afterRead.1 = none := (reads.run_answerTo stay.lookups lookups inside).trans new
  -- The gateway may tell anything; all that counts is that asking it forgets no record or list.
  let afterFetch := (fetched settings user f).run services afterRead.2
  have fetchWithin : within afterFetch.2.world :=
    (fetched_guarantees settings user f).run_within stay readWithin
  let scope : Scope ω := ⟨settings, user, afterFetch.1⟩
  have asks := byRules_guarantees scope.asks_isLookup f { featureKey := featureKey } {}
  refine ⟨afterFetch.1, fun own => ?_, fun ruled answered => ?_⟩
  · simp only [afterFetch, fetched_of_own settings own f, run_pure]
  · have shape : (evaluate settings featureKey user).run services journal =
        (ofFeature settings user f { featureKey := featureKey } {}).run services afterRead.2 := by
      rw [evaluate_of_accepted settings accepted, decide_eq, run_bind, unkept]
      change (anew settings featureKey user .nothing).run services afterRead.2 = _
      rw [anew, found]
      rfl
    rw [shape, ofFeature_eq, run_bind, run_bind]
    change ((conclude featureKey user.id _).run services _).1 = _
    rw [asks.run_answerTo stay.lookups lookups fetchWithin, answered]
    unfold conclude
    split <;> rfl

theorem run_evaluate_of_sole (processed : settings.Processed)
    {featureKey : String} (found : settings.feature? featureKey = some f)
    (compares : settings.Compares f c) {user : User}
    (accepted : refusal? featureKey user = none) (new : replies.record featureKey user.id = none)
    (sight : user.gateway.isSome ∨
      ∀ t ∈ Segment.compile? c.segments, t.requiresGateway = false)
    {journal : Journal σ} (inside : within journal.world) {given : Option (Variation ω)}
    (allotted : c.allotted? settings.account user.id = given) :
    ((evaluate settings featureKey user).run services journal).1 =
      compared featureKey c ((meets settings c.segments user).answer replies) given := by
  have member : f ∈ settings.features := List.mem_of_find?_eq_some found
  obtain ⟨data, unfetched, decides⟩ := run_evaluate_anew stay lookups accepted found new inside
  have enters := enters_eq_meets processed member compares user (sight.imp_left unfetched) replies
  have granted := answer_byRules_of_sole ⟨settings, user, data⟩ compares replies featureKey {}
    allotted
  rw [enters] at granted
  rw [decides _ granted, compared_or_plain]

end Runs

end Evaluation

/-- A feature that consists of one comparison is decided for a new user as its condition says on its
own: it is enabled for those who meet the condition and get a variation, and grants them that
variation. Only a feature without a key is never enabled. -/
theorem comparison_is_gated_by_its_condition [Quantity ω] {σ : Type} {services : Services σ}
    {within : σ → Prop} {replies : Replies} (stay : services.Stay Call.isQuestion within)
    (lookups : services.AnswerTo Call.isLookup within replies) {settings : Settings ω}
    (processed : settings.Processed) {featureKey : String} {f : Feature ω} {c : Campaign ω}
    (found : settings.feature? featureKey = some f) (compares : settings.Compares f c)
    (user : User) (named : user.id ≠ "") (new : replies.record featureKey user.id = none)
    (sight : user.gateway.isSome ∨
      ∀ t ∈ Segment.compile? c.segments, t.requiresGateway = false)
    (journal other : Journal σ) (inside : within journal.world) (inside' : within other.world) :
    let decision := ((Evaluation.evaluate settings featureKey user).run services journal).1
    let met := ((Evaluation.meets settings c.segments user).run services other).1
    let allotted := c.allotted? settings.account user.id
    (decision.enabled ↔ featureKey ≠ "" ∧ met = true ∧ allotted.isSome) ∧
      (decision.enabled → ∃ v, allotted = some v ∧
        decision.experiment = some (.of c v false)) := by
  intro decision met allotted
  have answers : met = (Evaluation.meets settings c.segments user).answer replies :=
    (Evaluation.meets_asks (Scope.asks_isLookup _) c.segments).run_answerTo stay.lookups lookups
      inside'
  by_cases keyed : featureKey = ""
  · have refused : Evaluation.refusal? featureKey user = some .emptyFeatureKey := by
      simp [Evaluation.refusal?, keyed, named]
    have off : decision = { featureKey := featureKey } := by
      simp only [decision, Evaluation.evaluate_of_refused settings refused]
      rfl
    rw [off]
    simp [keyed]
  · have accepted := Evaluation.refusal?_eq_none_iff.mpr ⟨named, keyed⟩
    have shape : decision = Evaluation.compared featureKey c met allotted :=
      answers ▸ Evaluation.run_evaluate_of_sole stay lookups processed found compares accepted new
        sight inside rfl
    rw [shape]
    refine ⟨?_, Evaluation.compared_experiment⟩
    rw [Evaluation.compared_enabled_iff]
    exact ⟨fun held => ⟨keyed, held⟩, fun held => held.2⟩

/-- A feature under this key that is tried out with users of one country. -/
def homeTrial (featureKey : String) : Settings Binary64 where
  features := [
    { id := 1, key := featureKey, name := none, rules := [⟨10, none, none, none⟩], values := [] }]
  campaigns := [
    trial 10 "home_ab" .ab (.object [("and", .array [.object [("country", .string "US")]])])]
  groups := []
  campaignGroups := []
  account := 1
  sdkKey := none
  version := none

def homeSettings (featureKey : String) : Settings Binary64 :=
  (homeTrial featureKey).process.toOption.getD .empty

/-- A user who is known to be at home. -/
def homeUser : User :=
  { id := "ann", ipAddress := some "10.0.0.1", gateway := some countryData }

/-- What is decided of the feature where nothing is kept. -/
def homeDecision (featureKey : String) (user : User) : Decision :=
  ((Evaluation.evaluate (homeSettings featureKey) featureKey user).run
    (Services.inMemory (fun _ => .ok none) trialGateway) ⟨⟨[]⟩, [], []⟩).1

/-- Whether the user meets the condition of a campaign. -/
def homeMeets (featureKey : String) (user : User) (c : Campaign Binary64) : Bool :=
  ((Evaluation.meets (homeSettings featureKey) c.segments user).run
    (Services.inMemory (fun _ => .ok none) trialGateway) ⟨⟨[]⟩, [], []⟩).1

/-- Users at home get the variation that is allotted to them, users abroad get nothing. -/
theorem home_trial_is_for_users_at_home : ∃ f c,
    (homeSettings "home").feature? "home" = some f ∧ (homeSettings "home").Compares f c ∧
      homeMeets "home" homeUser c = true ∧ homeMeets "home" farUser c = false ∧
      ((homeDecision "home" homeUser).enabled ∧
        ∃ v, c.allotted? (homeSettings "home").account homeUser.id = some v ∧
          (homeDecision "home" homeUser).experiment = some (.of c v false)) ∧
      ¬(homeDecision "home" farUser).enabled := by
  have present : ((homeSettings "home").feature? "home").isSome := by decide +kernel
  obtain ⟨f, found⟩ := Option.isSome_iff_exists.mp present
  have facts : ∀ g ∈ (homeSettings "home").feature? "home", g.linked.length = 1 ∧
      ∀ d ∈ g.linked, d.kind = .ab ∧ (homeSettings "home").groupOf? d = none ∧
        d.forcesVariations = false ∧ d.usesUserLists = false ∧
        homeMeets "home" homeUser d = true ∧ homeMeets "home" farUser d = false ∧
        (d.allotted? (homeSettings "home").account homeUser.id).isSome := by
    decide +kernel
  obtain ⟨single, each⟩ := facts f found
  obtain ⟨c, sole⟩ := List.length_eq_one_iff.mp single
  obtain ⟨kind, ungrouped, unforced, unlisted, home, far, allotted⟩ :=
    each c (sole ▸ List.mem_singleton_self c)
  have compares : (homeSettings "home").Compares f c := ⟨sole, kind, ungrouped, unforced, unlisted⟩
  have processed : (homeSettings "home").Processed := Settings.processed_getD (by decide +kernel)
  have stay := @Services.inMemory_stay (fun _ => .ok none) trialGateway ⟨[]⟩
  have lookups := (@Services.inMemory_answer (fun _ => .ok none) trialGateway ⟨[]⟩).to Call.isLookup
  obtain ⟨enabled, grants⟩ := comparison_is_gated_by_its_condition stay lookups processed found
    compares homeUser (by decide) rfl (Or.inl rfl) ⟨⟨[]⟩, [], []⟩ ⟨⟨[]⟩, [], []⟩ rfl rfl
  obtain ⟨disabled, -⟩ := comparison_is_gated_by_its_condition stay lookups processed found
    compares farUser (by decide) rfl (Or.inl rfl) ⟨⟨[]⟩, [], []⟩ ⟨⟨[]⟩, [], []⟩ rfl rfl
  have on : (homeDecision "home" homeUser).enabled := enabled.mpr ⟨by decide, home, allotted⟩
  have off : ¬(homeDecision "home" farUser).enabled := fun held =>
    Bool.false_ne_true (far.symm.trans (disabled.mp held).2.1)
  exact ⟨f, c, found, compares, home, far, ⟨on, grants on⟩, off⟩

/-- Without a key the feature is disabled even for a user who meets the condition and would get a
variation: a request for it is refused. -/
theorem nameless_trial_is_for_nobody : (homeSettings "").Processed ∧
    ((homeSettings "").feature? "").map (·.linked.length) = some 1 ∧
    (∃ f ∈ (homeSettings "").features, ∃ c ∈ f.linked, f.key = "" ∧ c.kind = .ab ∧
      (homeSettings "").groupOf? c = none ∧ c.forcesVariations = false ∧
      c.usesUserLists = false ∧ homeMeets "" homeUser c = true ∧
      (c.allotted? (homeSettings "").account homeUser.id).isSome) ∧
    (homeDecision "" homeUser).enabled = false :=
  ⟨Settings.processed_getD (by decide +kernel), by decide +kernel, by decide +kernel,
    by decide +kernel⟩

end FeatureFlags
