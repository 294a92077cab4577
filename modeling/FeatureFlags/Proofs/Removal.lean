import FeatureFlags.Proofs.CallOrder
import FeatureFlags.Proofs.Repetition

namespace FeatureFlags

open Inquiry

variable {ω : Type}

/-- The settings by which features are decided after some requests. -/
def inForce (settings : Settings ω) : List (Request ω) → Settings ω
  | [] => settings
  | .replace next :: rest => inForce next rest
  | .evaluate _ _ :: rest => inForce settings rest

variable [Quantity ω]

/-- Requests are carried out by the settings that earlier ones have put in force. -/
theorem serve_append (settings : Settings ω) (earlier later : List (Request ω)) :
    serve settings (earlier ++ later) = (do
      let before ← serve settings earlier
      let after ← serve (inForce settings earlier) later
      return before ++ after) := by
  induction earlier generalizing settings with
  | nil => simp [serve, inForce]
  | cons request rest ih =>
    cases request with
    | replace next => exact ih next
    | evaluate featureKey user => simp [serve, inForce, ih]

/-- Without the feature nothing is written, and the only decision that enables it is that of a kept
experiment which the settings still have. -/
theorem Evaluation.Effect.of_missing {σ : Type} {services : Services σ} {store : σ → Store}
    {settings : Settings ω} {featureKey : String} {user : User} {before after : Store}
    {decision : Decision}
    (effect : Effect services store settings featureKey user before decision after)
    (missing : settings.feature? featureKey = none) :
    after = before ∧
      (decision.enabled ↔ user.id ≠ "" ∧ featureKey ≠ "" ∧
        settings.restores (before.get? featureKey user.id)) ∧
      (decision = { featureKey := featureKey } ∨ ∃ c v,
        before.Keeps featureKey user.id c.key v.id ∧
          settings.variationByKey? c.key v.id = some (c, v) ∧
          decision = restored featureKey c v) := by
  rw [← and_assoc (b := featureKey ≠ ""), ← refusal?_eq_none_iff]
  cases effect with
  | refused refused =>
    refine ⟨rfl, ?_, Or.inl rfl⟩
    rw [refused]
    simp
  | @kept c v accepted settled =>
    have restores := settings.restores_iff.mpr ⟨c, v, settled⟩
    obtain ⟨keeps, available⟩ := keptBy_eq_experiment_iff.mp settled
    refine ⟨rfl, ?_, Or.inr ⟨c, v, keeps, available, rfl⟩⟩
    rw [accepted, restores]
    simp [restored]
  | missing _ unsettled _ =>
    have gone := settings.restores_eq_false unsettled
    refine ⟨rfl, ?_, Or.inl rfl⟩
    rw [gone]
    simp
  | decided _ _ found _ _ _ =>
    rw [missing] at found
    cases found

/-- Whatever has been decided before and by whichever settings, a feature that has been taken out of
the settings is off, and deciding it leaves the store as it is. The one exception is a kept
experiment whose campaign and variation have not been taken out: that is granted again. -/
theorem removed_feature_is_off {τ : Type}
    (list : ListQuery → τ → Except ServiceError (Option String) × τ)
    (gateway : GatewayQuery → τ → Except ServiceError (Option String) × τ)
    (settings : Settings ω) (earlier later : List (Request ω)) (featureKey : String) (user : User)
    (journal : Journal (Store × τ))
    (removed : (inForce settings earlier).feature? featureKey = none) :
    let services := Services.recorded list gateway
    let now := inForce settings earlier
    let before := (serve settings earlier).run services journal
    let store := before.2.world.1
    ((serve settings (earlier ++ [.evaluate featureKey user])).run services
        journal).2.world.1 = store ∧
      ∃ decision rest,
        ((serve settings (earlier ++ .evaluate featureKey user :: later)).run services journal).1 =
          before.1 ++ ⟨now, featureKey, user, decision⟩ :: rest ∧
        (decision.enabled ↔ user.id ≠ "" ∧ featureKey ≠ "" ∧
          now.restores (store.get? featureKey user.id)) ∧
        (decision = { featureKey := featureKey } ∨ ∃ c v,
          store.Keeps featureKey user.id c.key v.id ∧
            now.variationByKey? c.key v.id = some (c, v) ∧
            decision = Evaluation.restored featureKey c v) := by
  intro services now before store
  have keeps := Services.recorded_keepsRecords list gateway
  let decided := (Evaluation.evaluate now featureKey user).run services before.2
  have effect : Evaluation.Effect services Prod.fst now featureKey user store decided.1
      decided.2.world.1 := Evaluation.evaluate_effect keeps now featureKey user before.2
  obtain ⟨unchanged, enabled, shape⟩ := effect.of_missing removed
  refine ⟨?_, decided.1, ((serve now later).run services decided.2).1, ?_, enabled, shape⟩
  · simpa only [serve_append, serve, run_bind, run_pure] using unchanged
  · simp only [serve_append, serve, run_bind, run_pure]
    rfl

/-- The campaigns of the cart without the cart. -/
def withdrawnSettings : Settings Binary64 :=
  ({ cart with features := [] } : Settings Binary64).process.toOption.getD .empty

/-- What happens to a cart that is first decided for a user, and then taken out of the settings. -/
def withdrawal (user : User) (later : List (Request Binary64)) :
    List (Served Binary64) × Journal (Store × Unit) :=
  (serve cartSettings ([.evaluate "cart" user, .replace withdrawnSettings] ++ later)).run
    (Services.recorded (fun _ world => (.ok none, world))
      fun query world => (trialGateway query, world)) ⟨(⟨[]⟩, ()), [], []⟩

/-- A user abroad had the rollout only, and loses the cart with its feature. -/
theorem withdrawn_cart_is_off : withdrawnSettings.feature? "cart" = none ∧
    (withdrawal farUser []).1.map (·.decision.rollout) =
      [some ⟨30, "cart_rollout", 1, "on", false⟩] ∧
    (withdrawal farUser [.evaluate "cart" farUser]).2.world.1 =
      (withdrawal farUser []).2.world.1 ∧
    ∃ rest, (withdrawal farUser [.evaluate "cart" farUser]).1 = (withdrawal farUser []).1 ++
      ⟨withdrawnSettings, "cart", farUser, { featureKey := "cart" }⟩ :: rest := by
  have removed : withdrawnSettings.feature? "cart" = none :=
    Option.isNone_iff_eq_none.mp (by decide +kernel)
  have unkept : withdrawnSettings.restores
      ((withdrawal farUser []).2.world.1.get? "cart" farUser.id) = false := by decide +kernel
  obtain ⟨unchanged, decision, rest, run, enabled, shape⟩ := removed_feature_is_off
    (fun _ world => (.ok none, world)) (fun query world => (trialGateway query, world))
    cartSettings [.evaluate "cart" farUser, .replace withdrawnSettings] [] "cart" farUser
    ⟨(⟨[]⟩, ()), [], []⟩ removed
  have off : decision = { featureKey := "cart" } := by
    rcases shape with off | ⟨c, v, -, -, rfl⟩
    · exact off
    · have restores := (enabled.mp rfl).2.2
      exact absurd (unkept.symm.trans restores) Bool.false_ne_true
  exact ⟨removed, by decide +kernel, unchanged, rest, off ▸ run⟩

/-- A user at home keeps the experiment although the feature is gone: its campaign is not. -/
theorem withdrawn_cart_stays_on : (withdrawnSettings.feature? "cart").isNone ∧
    (withdrawal trialUser [.evaluate "cart" trialUser]).1.map (fun served =>
      (served.decision.enabled, served.decision.experiment)) =
      [(true, some ⟨10, "cart_ab", 1, "on", false⟩),
       (true, some ⟨10, "cart_ab", 1, "on", false⟩)] := by
  decide +kernel

end FeatureFlags
