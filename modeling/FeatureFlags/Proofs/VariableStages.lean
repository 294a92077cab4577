import FeatureFlags.Proofs.Exclusivity
import FeatureFlags.Proofs.Likeness

namespace FeatureFlags

open Inquiry

variable {ω : Type} [Quantity ω]

/-- Users whose targeting variables alone differ are decided alike by rules that force nothing. -/
theorem Scope.decideAlike_of_unforcing (settings : Settings ω) (user : User)
    (others : List (String × Attribute)) (data : Option GatewayData) {f : Feature ω}
    (unforcing : ∀ c ∈ f.linked, c.kind = .ab → c.forcesVariations = false) :
    DecideAlike ⟨settings, { user with targetingVariables := others }, data⟩
      ⟨settings, user, data⟩ f := by
  have alike : Alike ⟨settings, { user with targetingVariables := others }, data⟩
      ⟨settings, user, data⟩ := ⟨rfl, rfl, rfl, rfl⟩
  refine {
    toAlike := alike
    forced := fun c linked => ?_
    enter := fun c _ => alike.enter rfl fun _ => rfl
    contests := fun _ _ _ _ _ _ d _ => alike.enter rfl fun _ => rfl }
  unfold Rules.forced?
  cases kind : c.kind with
  | ab =>
    rw [unforcing c linked kind]
    rfl
  | rollout => rfl
  | personalize => rfl

/-- The variation that a rule forces is the one that its campaign forces: what follows when nothing
is forced forces nothing either. -/
theorem Rules.forced_of_run_outcome {σ : Type} (services : Services σ) (scope : Scope ω)
    (f : Feature ω) (c : Campaign ω) (session : Session) (journal : Journal σ) :
    (((outcome scope f c).run session).run services journal).1.1.forced =
      ((forced? scope c).run services journal).1 := by
  have lifted : (liftM (forced? scope c) : StateT Session Inquiry _).run session =
      (forced? scope c >>= fun forced => pure (forced, session)) := rfl
  rw [outcome_eq, StateT.run_bind, run_bind, lifted, run_bind, run_pure]
  cases ((forced? scope c).run services journal).1 with
  | some v => rfl
  | none =>
    exact (unforced_guarantees scope.asks_isQuestion f c session).run_gives _

/-- Targeting variables count only for what a feature's own comparisons force, and custom variables
do not count for what is forced. -/
theorem variables_stay_in_their_stage {σ : Type} (services : Services σ) (settings : Settings ω)
    (user : User) (others : List (String × Attribute)) :
    (∀ featureKey journal,
      (∀ f, settings.feature? featureKey = some f →
        ∀ c ∈ f.linked, c.kind = .ab → c.forcesVariations = false) →
      (Evaluation.evaluate settings featureKey { user with targetingVariables := others }).run
          services journal =
        (Evaluation.evaluate settings featureKey user).run services journal) ∧
    ∀ fetched f c session journal,
      (((Rules.outcome ⟨settings, { user with customVariables := others }, fetched⟩ f c).run
          session).run services journal).1.1.forced =
        (((Rules.outcome ⟨settings, user, fetched⟩ f c).run session).run services
          journal).1.1.forced := by
  constructor
  · intro featureKey journal unforcing
    have same : Evaluation.evaluate settings featureKey { user with targetingVariables := others } =
        Evaluation.evaluate settings featureKey user := by
      refine Evaluation.evaluate_alike (by rfl) fun f found => ⟨by rfl, fun data => ?_⟩
      exact Scope.decideAlike_of_unforcing settings user others data (unforcing f found)
    rw [same]
  · intro fetched f c session journal
    have alike : Scope.Alike ⟨settings, { user with customVariables := others }, fetched⟩
        ⟨settings, user, fetched⟩ := ⟨rfl, rfl, rfl, rfl⟩
    have same := Rules.forced?_alike alike (alike.forcingAttributes_eq rfl c)
      fun _ _ _ _ _ => rfl
    rw [Rules.forced_of_run_outcome, Rules.forced_of_run_outcome, same]

/-- A search is tried out with users of a plan, and forced on testers; a cart is tried out with those
who do not try out the search. -/
def testing : Settings Binary64 where
  features := [
    { id := 1, key := "cart", name := none, rules := [⟨10, none, none, none⟩], values := [] },
    { id := 2, key := "search", name := none, rules := [⟨40, none, none, none⟩], values := [] }]
  campaigns := [
    trial 10 "cart_ab" .ab .null,
    { trial 40 "search_ab" .ab
        (.object [("custom_variable", .object [("plan", .string "pro")])]) with
      forcesVariations := true
      variations := [⟨1, "on", none, .ofNat 100,
        .object [("custom_variable", .object [("qa", .string "on")])], [], none, none, none⟩] }]
  groups := [(5, ⟨none, ["10", "40"], some 2, ["40"], []⟩)]
  campaignGroups := [("10", 5), ("40", 5)]
  account := 1
  sdkKey := none
  version := none

def testingSettings : Settings Binary64 := testing.process.toOption.getD .empty

/-- A user with these custom and targeting variables. -/
def tester (custom targeting : List (String × Attribute)) : User :=
  { id := "ann", customVariables := custom, targetingVariables := targeting }

def onPlan : List (String × Attribute) := [("plan", .string "pro")]

def onTest : List (String × Attribute) := [("qa", .string "on")]

/-- How a feature is decided where nothing is kept. -/
def testerRun (featureKey : String) (custom targeting : List (String × Attribute)) :
    Decision × Journal Unit :=
  (Evaluation.evaluate testingSettings featureKey (tester custom targeting)).run Services.none
    ⟨(), [], []⟩

/-- What a campaign forces on a tester as a rule of a feature. -/
def testerForced? (f : Feature Binary64) (c : Campaign Binary64)
    (custom targeting : List (String × Attribute)) : Option (Variation Binary64) :=
  (((Rules.outcome ⟨testingSettings, tester custom targeting, none⟩ f c).run {}).run Services.none
    ⟨(), [], []⟩).1.1.forced

/-- The search is forced on testers, of the plan or not, and on them alone; the cart, in the same
group, does not see who is a tester. -/
theorem cart_does_not_see_testers :
    (∀ f, testingSettings.feature? "cart" = some f →
      ∀ c ∈ f.linked, c.kind = .ab → c.forcesVariations = false) ∧
    (testerRun "cart" [] []).1.experiment = some ⟨10, "cart_ab", 1, "on", false⟩ ∧
    testerRun "cart" [] onTest = testerRun "cart" [] [] ∧
    ∃ f ∈ testingSettings.features, ∃ c ∈ f.linked, c.key = "search_ab" ∧
      (testerForced? f c onPlan []).isNone ∧ (testerForced? f c onPlan onTest).isSome ∧
      testerForced? f c [] onTest = testerForced? f c onPlan onTest := by
  have unforcing : ∀ f ∈ testingSettings.feature? "cart",
      ∀ c ∈ f.linked, c.kind = .ab → c.forcesVariations = false := by
    decide +kernel
  obtain ⟨f, member, c, linked, isSearch, unforced, forced⟩ :
      ∃ f ∈ testingSettings.features, ∃ c ∈ f.linked, c.key = "search_ab" ∧
        (testerForced? f c onPlan []).isNone ∧ (testerForced? f c onPlan onTest).isSome := by
    decide +kernel
  obtain ⟨untargeted, -⟩ :=
    variables_stay_in_their_stage Services.none testingSettings (tester [] []) onTest
  obtain ⟨-, uncustomized⟩ :=
    variables_stay_in_their_stage Services.none testingSettings (tester onPlan onTest) []
  exact ⟨unforcing, by decide +kernel, untargeted "cart" _ unforcing, f, member, c, linked,
    isSearch, unforced, forced, uncustomized none f c {} _⟩

end FeatureFlags
