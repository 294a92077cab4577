import FeatureFlags.Proofs.ContestAgreement
import FeatureFlags.Proofs.SoleComparison

namespace FeatureFlags

open Inquiry

variable {ω : Type} [Quantity ω]

section Agreement

variable {scope : Scope ω} {replies : Replies} {f : Feature ω}

/-- Experiments leave the rollout of a decision as it is, and take nothing back. -/
theorem Evaluation.grantExperiment_keeps (entered : Decision) (cs : List (Campaign ω)) :
    Always (fun _ => True)
      (fun ended => ended.rollout = entered.rollout ∧ (entered.enabled = true → ended.enabled = true))
      (grantExperiment scope f entered cs) := by
  induction cs with
  | nil => exact always_pure ⟨rfl, id⟩
  | cons c rest ih =>
    rw [grantExperiment_cons]
    refine (always_trivial _).bind fun outcome _ => ?_
    split
    · refine (always_trivial _).bind fun choice _ => always_pure ?_
      cases choice with
      | none => exact ⟨rfl, id⟩
      | some given => exact ⟨rfl, fun _ => rfl⟩
    · exact ih

/-- Rules that begin with nothing grant the rollout that lets the user in. -/
theorem Evaluation.rollout_of_answer_byRules
    (ungrouped : ∀ c ∈ f.rollouts, scope.settings.groupOf? c = none) (featureKey : String)
    (session : Session) {ruled : Decision}
    (answered : (((byRules scope f { featureKey := featureKey }).run session).answer replies).1 =
      ruled) :
    ruled.rollout = (scope.admission? replies f).map (fun entered => .of entered.1 entered.2 false) ∧
      (ruled.rollout.isSome → ruled.enabled = true) := by
  have keeps (entered : Decision) (session : Session) :
      let ended := (((grantExperiment scope f entered f.experiments).run session).answer replies).1
      ended.rollout = entered.rollout ∧ (entered.enabled = true → ended.enabled = true) :=
    (grantExperiment_keeps entered f.experiments session).answer replies
  rw [← answered]
  cases admission : scope.admission? replies f with
  | some entered =>
    rw [answer_byRules_of_admission ungrouped rfl admission]
    obtain ⟨same, on⟩ := keeps (Decision.withRollout { featureKey := featureKey } entered.1 entered.2) _
    exact ⟨same, fun _ => on rfl⟩
  | none =>
    by_cases empty : f.rollouts = []
    · rw [answer_byRules_of_admitted (Or.inl empty)]
      obtain ⟨same, -⟩ := keeps { featureKey := featureKey } session
      rw [same]
      exact ⟨rfl, nofun⟩
    · rw [answer_byRules_of_unadmitted ungrouped empty rfl admission]
      exact ⟨rfl, nofun⟩

/-- Where nothing is kept, a user who brings gateway data along is granted the rollout that lets the
user in. -/
theorem Evaluation.rollout_of_run_evaluate {σ : Type} {services : Services σ} {within : σ → Prop}
    (stay : services.Stay Call.isQuestion within)
    (lookups : services.AnswerTo Call.isLookup within replies) {settings : Settings ω} {user : User}
    (ungrouped : ∀ c ∈ f.rollouts, settings.groupOf? c = none) {featureKey : String}
    (accepted : refusal? featureKey user = none) (found : settings.feature? featureKey = some f)
    (own : user.gateway.isSome) (new : replies.record featureKey user.id = none)
    {journal : Journal σ} (inside : within journal.world) :
    ((evaluate settings featureKey user).run services journal).1.rollout =
      (Scope.admission? ⟨settings, user, none⟩ replies f).map fun entered =>
        .of entered.1 entered.2 false := by
  obtain ⟨data, unfetched, decides⟩ := run_evaluate_anew stay lookups accepted found new inside
  rw [unfetched own] at decides
  generalize answered :
    (((byRules ⟨settings, user, none⟩ f { featureKey := featureKey }).run {}).answer replies).1 =
      ruled at decides
  obtain ⟨same, on⟩ := rollout_of_answer_byRules ungrouped featureKey {} answered
  rw [decides ruled rfl, ← same]
  split
  · rfl
  · rename_i off
    rw [Option.not_isSome_iff_eq_none.mp (mt on off)]

end Agreement

/-- The gate of a feature, as groups see it, agrees with what is decided of the feature where nothing
is kept: it is open if the feature has no rollouts or the decision has one, and the rollout that it
remembers is the one of the decision. -/
theorem gate_agrees_with_decision {σ : Type} {services : Services σ} {within : σ → Prop}
    {replies : Replies} (stay : services.Stay Call.isQuestion within)
    (lookups : services.AnswerTo Call.isLookup within replies) {settings : Settings ω}
    (distinct : (settings.features.map (·.key)).Nodup) (rollouts : settings.RolloutsUngrouped)
    {f : Feature ω} (member : f ∈ settings.features) (keyed : f.key ≠ "") {user : User}
    (named : user.id ≠ "") (own : user.gateway.isSome) (new : replies.record f.key user.id = none)
    (journal other : Journal σ) (inside : within journal.world) (inside' : within other.world) :
    let gate := (((Rules.rolloutPassed ⟨settings, user, none⟩ f).run {}).run services journal).1
    let decision := ((Evaluation.evaluate settings f.key user).run services other).1
    (gate.1 = true ↔ f.rollouts = [] ∨ decision.rollout.isSome) ∧
      ∀ grant, decision.rollout = some grant →
        gate.2.rollout? f.key = some ⟨grant.campaign, grant.campaignKey, some grant.variation⟩ := by
  intro gate decision
  let scope : Scope ω := ⟨settings, user, none⟩
  have ungrouped : ∀ c ∈ f.rollouts, settings.groupOf? c = none := by
    intro c among
    obtain ⟨linked, kind⟩ := Feature.mem_rollouts.mp among
    exact rollouts f member c linked kind
  have opens : gate = if f.rollouts = [] then (true, {})
      else (scope.admission? replies f).elim (false, {}) fun entered =>
        (true, Session.withRollout {} f.key ⟨entered.1.id, entered.1.key, some entered.2.id⟩) := by
    rw [← Rules.answer_rolloutPassed rfl]
    exact (Rules.rolloutPassed_guarantees scope.asks_isLookup f {}).run_answerTo stay.lookups lookups
      inside
  have granted : decision.rollout =
      (scope.admission? replies f).map fun entered => .of entered.1 entered.2 false :=
    Evaluation.rollout_of_run_evaluate stay lookups ungrouped
      (Evaluation.refusal?_eq_none_iff.mpr ⟨named, keyed⟩)
      (Settings.feature?_of_mem distinct member) own new inside'
  by_cases empty : f.rollouts = []
  · rw [opens, if_pos empty, granted, Scope.admission?_of_empty empty]
    exact ⟨iff_of_true rfl (Or.inl empty), nofun⟩
  · rw [opens, if_neg empty, granted]
    cases scope.admission? replies f with
    | none => exact ⟨iff_of_false Bool.false_ne_true (by simp [empty]), nofun⟩
    | some entered =>
      refine ⟨iff_of_true rfl (Or.inr rfl), fun grant same => ?_⟩
      obtain rfl := Option.some.inj same
      rw [Option.elim_some, Session.rollout?_withRollout, if_pos rfl]
      rfl

/-- Whether the user gets into a feature, and what is remembered of it, where nothing is kept. -/
def shopGate (f : Feature Binary64) : Bool × Session :=
  (((Rules.rolloutPassed ⟨shopSettings, shopUser, none⟩ f).run {}).run
    (Services.fixed (fun _ _ => .ok none) (fun _ => .ok none) fun _ => .ok none) ⟨(), [], []⟩).1

def shopDecision (featureKey : String) : Decision :=
  ((Evaluation.evaluate shopSettings featureKey shopUser).run
    (Services.fixed (fun _ _ => .ok none) (fun _ => .ok none) fun _ => .ok none) ⟨(), [], []⟩).1

/-- The gate of the cart remembers the rollout that the cart is decided by, and the search, which has
no rollouts, lets everybody in. -/
theorem gates_of_cart_and_search : (shopSettings.features.map (·.key)).Nodup ∧
    shopSettings.RolloutsUngrouped ∧ shopUser.id ≠ "" ∧ shopUser.gateway.isSome ∧
    ∃ f ∈ shopSettings.features, ∃ g ∈ shopSettings.features, f.key = "cart" ∧ g.key = "search" ∧
      (shopDecision "cart").rollout = some ⟨30, "cart_rollout", 1, "on", false⟩ ∧
      (shopGate f).1 = true ∧ (shopGate f).2.rollout? "cart" = some ⟨30, "cart_rollout", some 1⟩ ∧
      g.rollouts = [] ∧ (shopGate g).1 = true := by
  have distinct : (shopSettings.features.map (·.key)).Nodup := by decide +kernel
  have rollouts : shopSettings.RolloutsUngrouped := by
    unfold Settings.RolloutsUngrouped
    decide +kernel
  have named : shopUser.id ≠ "" := by decide
  obtain ⟨f, member, isCart⟩ : ∃ f ∈ shopSettings.features, f.key = "cart" := by decide +kernel
  obtain ⟨g, member', isSearch, none⟩ :
      ∃ g ∈ shopSettings.features, g.key = "search" ∧ g.rollouts.isEmpty = true := by
    decide +kernel
  have empty : g.rollouts = [] := List.isEmpty_iff.mp none
  have granted : (shopDecision "cart").rollout = some ⟨30, "cart_rollout", 1, "on", false⟩ := by
    decide +kernel
  have stay := @Services.fixed_stay (fun _ _ => .ok Option.none) (fun _ => .ok Option.none)
    (fun _ => .ok Option.none) Call.isQuestion
  have lookups := (@Services.fixed_answer (fun _ _ => .ok Option.none) (fun _ => .ok Option.none)
    fun _ => .ok Option.none).to Call.isLookup
  obtain ⟨opens, remembers⟩ := gate_agrees_with_decision stay lookups distinct rollouts member
    (by rw [isCart]; decide) named rfl rfl ⟨(), [], []⟩ ⟨(), [], []⟩ trivial trivial
  obtain ⟨opens', -⟩ := gate_agrees_with_decision stay lookups distinct rollouts member'
    (by rw [isSearch]; decide) named rfl rfl ⟨(), [], []⟩ ⟨(), [], []⟩ trivial trivial
  rw [isCart] at opens remembers
  exact ⟨distinct, rollouts, named, rfl, f, member, g, member', isCart, isSearch, granted,
    opens.mpr (Or.inr (Option.isSome_of_eq_some granted)), remembers _ granted, empty,
    opens'.mpr (Or.inl empty)⟩

end FeatureFlags
