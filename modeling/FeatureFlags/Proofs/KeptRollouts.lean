import FeatureFlags.Proofs.CallOrder
import FeatureFlags.Proofs.Repetition

namespace FeatureFlags

open Inquiry

variable {ω : Type}

namespace Evaluation

/-- A kept rollout whose variation still exists lets the user in, unless the record also keeps an
experiment's variation. -/
theorem kept_of_rollout? {settings : Settings ω} {record : Record} {key : String}
    {variation : UInt64} {c : Campaign ω} {v : Variation ω}
    (bare : record.experimentVariation = none) (names : record.rollout? = some (key, variation))
    (available : settings.variationByKey? key variation = some (c, v)) :
    kept settings record = .rollout c v := by
  simp [kept, bare, names, available]

variable [Quantity ω]

/-- A decision that starts enabled ends enabled. -/
theorem ofFeature_guarantees_enabled (settings : Settings ω) (user : User) (f : Feature ω)
    {begun : Decision} (entered : begun.enabled) (session : Session) :
    (ofFeature settings user f begun session).Guarantees (fun _ => True)
      fun decision => decision.enabled := by
  rw [ofFeature_eq]
  refine (guarantees_trivial (fetched settings user f)).bind fun data _ => ?_
  have scopeAsks : Scope.Asks ⟨settings, user, data⟩ fun _ => True :=
    ⟨fun _ => trivial, fun _ _ _ => trivial⟩
  refine (byRules_guarantees scopeAsks f begun session).bind fun ruled goesOn => ?_
  have enabled : ruled.1.enabled := by
    rcases goesOn.2 with same | enabled
    · rwa [same]
    · exact enabled
  unfold conclude
  rw [if_pos enabled]
  exact ⟨trivial, enabled⟩

section Runs

variable {σ : Type} {services : Services σ} {settings : Settings ω} {featureKey : String}
variable {user : User} {journal : Journal σ}

theorem Resumed.enabled_of_rollout {c : Campaign ω} {v : Variation ω} {f : Feature ω}
    {ended : Decision × Journal σ}
    (resumed : Resumed services settings featureKey user (.rollout c v) journal ended)
    (found : settings.feature? featureKey = some f) : ended.1.enabled := by
  cases resumed with
  | restored settled _ => cases settled
  | missing _ absent _ =>
    rw [found] at absent
    cases absent
  | decided _ _ _ =>
    exact (ofFeature_guarantees_enabled settings user _ rfl _).run_gives _

theorem Resumed.enabled_of_experiment {c : Campaign ω} {v : Variation ω}
    {ended : Decision × Journal σ}
    (resumed : Resumed services settings featureKey user (.experiment c v) journal ended) :
    ended.1.enabled := by
  cases resumed with
  | restored settled _ => rfl
  | missing unsettled _ _ => exact absurd rfl (unsettled c v)
  | decided unsettled _ _ => exact absurd rfl (unsettled c v)

end Runs

end Evaluation

/-- Where the record of a feature and a user names a rollout whose variation still exists, each
request that is not refused is answered with an enabled feature; but an experiment's variation in
the record has to exist still. -/
theorem kept_rollout_lets_in [Quantity ω] {σ : Type} (services : Services σ)
    {settings : Settings ω} {featureKey : String} {f : Feature ω}
    (found : settings.feature? featureKey = some f) (user : User) (journal : Journal σ)
    {record : Record}
    (reads : (services.read featureKey user.id journal.world).1 = .ok (some record))
    {key : String} {variation : UInt64} (names : record.rollout? = some (key, variation))
    (available : (settings.variationByKey? key variation).isSome)
    (lasting : record.experimentVariation.isSome → settings.restores (some record)) :
    ((Evaluation.evaluate settings featureKey user).run services journal).1.enabled ↔
      user.id ≠ "" ∧ featureKey ≠ "" := by
  rw [← Evaluation.refusal?_eq_none_iff]
  cases accepted : Evaluation.refusal? featureKey user with
  | some error =>
    rw [Evaluation.evaluate_of_refused settings accepted]
    simp
  | none =>
    have resumed := Evaluation.decide_resumed services settings featureKey user journal
    have shown : ((recordOf featureKey user.id).run services journal).1 = some record := by
      rw [result_recordOf, reads]
      rfl
    dsimp only at resumed
    rw [shown, ← Evaluation.evaluate_of_accepted settings accepted] at resumed
    rw [eq_self, iff_true]
    cases experiment : record.experimentVariation with
    | none =>
      obtain ⟨⟨c, v⟩, kept⟩ := Option.isSome_iff_exists.mp available
      have settled : Evaluation.keptBy settings (some record) = .rollout c v :=
        Evaluation.kept_of_rollout? experiment names kept
      rw [settled] at resumed
      exact resumed.enabled_of_rollout found
    | some kept =>
      obtain ⟨c, v, settled⟩ := settings.restores_iff.mp (lasting (by rw [experiment]; rfl))
      rw [settled] at resumed
      exact resumed.enabled_of_experiment

/-- The cart when it has been closed for new users, and is not tried out any more. -/
def closedCart : Settings Binary64 where
  features := [{
    id := 1
    key := "cart"
    name := none
    rules := [⟨30, some 1, none, none⟩]
    values := [] }]
  campaigns := [⟨30, "cart_rollout", none, .rollout, .ofNat 0, .null, false, false,
    [⟨1, "on", none, .ofNat 0, .null, [], none, none, none⟩], none, none, none, none⟩]
  groups := []
  campaignGroups := []
  account := 1
  sdkKey := none
  version := none

def closedSettings : Settings Binary64 := closedCart.process.toOption.getD .empty

/-- What is kept of the cart once it has been decided for a user by the former settings. -/
def cartStore (user : User) : Store :=
  ((Evaluation.evaluate cartSettings "cart" user).run
    (Services.inMemory (fun _ => .ok none) trialGateway) ⟨⟨[]⟩, [], []⟩).2.world

/-- What is decided of the closed cart when this is kept. -/
def closedDecision (store : Store) (user : User) : Decision :=
  ((Evaluation.evaluate closedSettings "cart" user).run
    (Services.inMemory (fun _ => .ok none) trialGateway) ⟨store, [], []⟩).1

/-- Who was abroad keeps the cart that is closed for new users. -/
theorem closed_cart_stays_abroad :
    (closedDecision ⟨[]⟩ farUser).enabled = false ∧
      ∃ f record, closedSettings.feature? "cart" = some f ∧
        (cartStore farUser).get? "cart" farUser.id = some record ∧
        record.rollout? = some ("cart_rollout", 1) ∧
        (closedDecision (cartStore farUser) farUser).enabled := by
  have present : (closedSettings.feature? "cart").isSome := by decide +kernel
  obtain ⟨f, found⟩ := Option.isSome_iff_exists.mp present
  let record : Record := ⟨"cart", "ann", some 30, some "cart_rollout", some 1, none, none, none⟩
  have kept : (cartStore farUser).get? "cart" farUser.id = some record := by decide +kernel
  have names : record.rollout? = some ("cart_rollout", 1) := by decide
  have stays := kept_rollout_lets_in (Services.inMemory (fun _ => .ok none) trialGateway) found
    farUser ⟨cartStore farUser, [], []⟩ (congrArg Except.ok kept) names (by decide +kernel) (by decide)
  exact ⟨by decide +kernel, f, record, found, kept, names, stays.mpr ⟨by decide, by decide⟩⟩

/-- Who was at home loses it: the record also keeps the variation of an experiment, and once that
is gone nothing of the record counts. -/
theorem closed_cart_lost_at_home :
    (closedSettings.feature? "cart").isSome ∧
      ((cartStore trialUser).get? "cart" trialUser.id).bind (·.rollout?) =
        some ("cart_rollout", 1) ∧
      (closedSettings.variationByKey? "cart_rollout" 1).isSome ∧
      (closedDecision (cartStore trialUser) trialUser).enabled = false := by
  decide +kernel

end FeatureFlags
