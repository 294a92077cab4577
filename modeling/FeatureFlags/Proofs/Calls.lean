import FeatureFlags.Evaluation
import FeatureFlags.Proofs.Gathering

namespace FeatureFlags

open Inquiry

variable {ω : Type}

/-- Calls that evaluations in a scope may make: they read records of its user, and ask about lists
with a name for its account. -/
structure Scope.Asks (scope : Scope ω) (asks : Call → Prop) : Prop where
  read : ∀ key, asks (.read key scope.user.id)
  list : ∀ tag list, list ≠ "" → asks (.list ⟨tag, list, scope.settings.account⟩)

theorem Inquiry.Guarantees.bind {α β : Type} {asks : Call → Prop} {mid : α → Prop}
    {gives : β → Prop} {x : Inquiry α} {f : α → Inquiry β} (first : x.Guarantees asks mid)
    (rest : ∀ a, mid a → (f a).Guarantees asks gives) : (x >>= f).Guarantees asks gives :=
  guarantees_bind.mpr (first.mono (fun _ asked => asked) rest)

/-- Whatever its state, a computation makes only the calls of `asks` and has a result of
`gives`. -/
def Inquiry.Always {s α : Type} (asks : Call → Prop) (gives : α → Prop)
    (x : StateT s Inquiry α) : Prop :=
  ∀ state, (x.run state).Guarantees asks fun result => gives result.1

section Always

variable {s α β : Type} {asks : Call → Prop} {mid : α → Prop} {gives : β → Prop}

theorem Inquiry.Always.bind {x : StateT s Inquiry α} {f : α → StateT s Inquiry β}
    (first : Always asks mid x) (rest : ∀ a, mid a → Always asks gives (f a)) :
    Always asks gives (x >>= f) := by
  intro state
  rw [StateT.run_bind]
  exact (first state).bind fun result held => rest result.1 held result.2

theorem Inquiry.always_pure {b : β} (held : gives b) :
    Always asks gives (pure b : StateT s Inquiry β) := fun _ => held

theorem Inquiry.Guarantees.lift {x : Inquiry β} (held : x.Guarantees asks gives) :
    Always asks gives (liftM x : StateT s Inquiry β) := by
  intro state
  change (x >>= fun b => pure (b, state)).Guarantees asks _
  exact held.bind fun _ held => held

theorem Inquiry.always_report (event : Event) :
    Always asks (fun _ => True) (liftM (report event) : StateT s Inquiry Unit) :=
  Guarantees.lift trivial

theorem Inquiry.always_get : Always asks (fun _ => True) (get : StateT s Inquiry s) :=
  fun _ => trivial

theorem Inquiry.always_set (state : s) :
    Always asks (fun _ => True) (set state : StateT s Inquiry Unit) := fun _ => trivial

theorem Inquiry.always_modify (f : s → s) :
    Always asks (fun _ => True) (modify f : StateT s Inquiry Unit) := fun _ => trivial

theorem Inquiry.always_trivial (x : StateT s Inquiry α) :
    Always (fun _ => True) (fun _ => True) x := fun state => guarantees_trivial (x.run state)

end Always

theorem Inquiry.guarantees_all {asks : Call → Prop} {xs : List (Inquiry Bool)}
    (each : ∀ x ∈ xs, x.Guarantees asks fun _ => True) :
    (Inquiry.all xs).Guarantees asks fun _ => True := by
  induction xs with
  | nil => trivial
  | cons x rest ih =>
    refine (each x (List.mem_cons_self ..)).bind fun held _ => ?_
    split
    · exact ih fun y member => each y (List.mem_cons_of_mem _ member)
    · trivial

theorem Inquiry.guarantees_anyElse {asks : Call → Prop} {last : Inquiry Bool}
    {xs : List (Inquiry Bool)} (decided : last.Guarantees asks fun _ => True)
    (each : ∀ x ∈ xs, x.Guarantees asks fun _ => True) :
    (Inquiry.anyElse last xs).Guarantees asks fun _ => True := by
  induction xs with
  | nil => exact decided
  | cons x rest ih =>
    refine (each x (List.mem_cons_self ..)).bind fun held _ => ?_
    split
    · trivial
    · exact ih fun y member => each y (List.mem_cons_of_mem _ member)

namespace Segment

mutual

/-- Whether kept decisions of features are asked for. -/
def hasToggle : Segment → Bool
  | .and children | .or children => anyHasToggle children
  | .not child => hasToggle child
  | .featureToggle _ _ => true
  | .customVariable _ _ | .userIds _ | .userList _ | .userAgent _ | .location _ _ | .device _ _
  | .unknown _ => false

def anyHasToggle : List Segment → Bool
  | [] => false
  | s :: rest => hasToggle s || anyHasToggle rest

end

theorem hasToggle_of_mem {child : Segment} {children : List Segment} (member : child ∈ children)
    (toggle : child.hasToggle) : anyHasToggle children := by
  induction children with
  | nil => simp at member
  | cons first rest ih =>
    rw [anyHasToggle, Bool.or_eq_true]
    rcases List.mem_cons.mp member with same | later
    · exact Or.inl (same ▸ toggle)
    · exact Or.inr (ih later)

variable {scope : Scope ω} {asks : Call → Prop}

theorem inList_guarantees
    (lists : ∀ tag list, list ≠ "" → asks (.list ⟨tag, list, scope.settings.account⟩))
    (list tag : String) : (inList scope list tag).Guarantees asks fun _ => True := by
  unfold inList
  split
  · trivial
  · exact ⟨lists tag list (by simp_all), fun _ => trivial⟩

theorem toggleHolds_guarantees (reads : ∀ key, asks (.read key scope.user.id)) (feature : UInt64)
    (toggle : Toggle) : (toggleHolds scope feature toggle).Guarantees asks fun _ => True := by
  unfold toggleHolds
  split
  · trivial
  · exact ⟨reads _, fun _ => trivial⟩

/-- A condition asks about lists, and for records only where it has a toggle. -/
theorem holds_guarantees
    (lists : ∀ tag list, list ≠ "" → asks (.list ⟨tag, list, scope.settings.account⟩))
    (attributes : Attributes) (segment : Segment)
    (reads : segment.hasToggle → ∀ key, asks (.read key scope.user.id)) :
    (holds scope attributes segment).Guarantees asks fun _ => True := by
  induction segment using Segment.induction with
  | and children ih =>
    rw [holds_and]
    split
    · unfold locationsHold
      split <;> trivial
    · refine guarantees_all fun x member => ?_
      obtain ⟨child, kept, rfl⟩ := List.mem_map.mp member
      have inside := (List.mem_filter.mp kept).1
      exact ih child inside fun toggle => reads (hasToggle_of_mem inside toggle)
  | or children ih =>
    rw [holds_or]
    split
    · unfold devicesHold
      split <;> trivial
    · refine guarantees_anyElse ?_ fun x member => ?_
      · unfold firstToggleHolds
        cases first : children.findSome? toggle? with
        | none => trivial
        | some found =>
          obtain ⟨child, inside, toggle⟩ := List.exists_of_findSome?_eq_some first
          refine toggleHolds_guarantees (reads (hasToggle_of_mem inside ?_)) _ _
          cases child <;> simp [toggle?] at toggle
          rfl
      · obtain ⟨child, before, rfl⟩ := List.mem_map.mp member
        have inside := List.takeWhile_subset _ before
        exact ih child inside fun toggle => reads (hasToggle_of_mem inside toggle)
  | not child ih => exact (ih reads).bind fun _ _ => trivial
  | customVariable name operand =>
    rw [holds]
    unfold customVariableHolds
    split
    · trivial
    · exact inList_guarantees lists _ _
    · trivial
  | userList list =>
    rw [holds]
    unfold userListHolds
    split
    · trivial
    · exact inList_guarantees lists _ _
  | _ => simp [holds]

end Segment

namespace Decision

/-- A decision goes on from another one: it is about the same feature, and it is enabled unless it
is the same. -/
def GoesOn (start decision : Decision) : Prop :=
  decision.featureKey = start.featureKey ∧ (decision = start ∨ decision.enabled)

theorem GoesOn.refl (start : Decision) : start.GoesOn start := ⟨rfl, Or.inl rfl⟩

theorem GoesOn.trans {first second third : Decision} (before : first.GoesOn second)
    (after : second.GoesOn third) : first.GoesOn third := by
  refine ⟨after.1.trans before.1, ?_⟩
  rcases after.2 with same | enabled
  · exact same ▸ before.2
  · exact Or.inr enabled

end Decision

/-- A decision that also grants a variation of a rollout. -/
def Decision.withRollout (decision : Decision) (c : Campaign ω) (v : Variation ω) : Decision :=
  { decision with enabled := true, values := v.values, rollout := some (.of c v false) }

/-- A decision that also grants a variation of an experiment. -/
def Decision.withExperiment (decision : Decision) (c : Campaign ω) (v : Variation ω) (forced : Bool) :
    Decision :=
  { decision with enabled := true, values := v.values, experiment := some (.of c v forced) }

/-- What a rule says that forces no variation. -/
def Rules.unforced [Quantity ω] (scope : Scope ω) (feature : Feature ω) (campaign : Campaign ω) :
    StateT Session Inquiry (Outcome ω) := do
  match scope.settings.groupOf? campaign with
  | none =>
    let passed ← campaign.mayEnter scope (scope.entryAttributes campaign)
    return ⟨passed, none⟩
  | some group =>
    match (← get).winner? group with
    | some winner => return ⟨winner.admits campaign, none⟩
    | none =>
      match ← storedWinner? scope group with
      | some winner => settle group campaign winner
      | none =>
        if ← campaign.mayEnter scope (scope.entryAttributes campaign) then
          let winner ← Contest.winner? scope (rolloutPassed scope) group feature
          settle group campaign (winner.elim .nobody .of)
        else return ⟨false, none⟩

theorem Rules.outcome_eq [Quantity ω] (scope : Scope ω) (feature : Feature ω)
    (campaign : Campaign ω) :
    outcome scope feature campaign = (do
      match ← forced? scope campaign with
      | some v => return ⟨true, some v⟩
      | none => unforced scope feature campaign) := rfl

/-- The variation for a user whom a rule lets pass: the forced one, or the one that is allotted. -/
def Rules.chosen [Quantity ω] (scope : Scope ω) (campaign : Campaign ω) (outcome : Outcome ω) :
    StateT Session Inquiry (Option (Variation ω × Bool)) :=
  match outcome.forced with
  | some v => pure (some (v, true))
  | none => do
    let v ← campaign.reportTraffic scope.settings.account scope.user.id
    return v.map fun v => (v, false)

theorem Evaluation.grantExperiment_cons [Quantity ω] (scope : Scope ω) (feature : Feature ω)
    (decision : Decision) (c : Campaign ω) (rest : List (Campaign ω)) :
    grantExperiment scope feature decision (c :: rest) = (do
      let outcome ← Rules.outcome scope feature c
      if outcome.passed then
        let choice ← Rules.chosen scope c outcome
        return choice.elim decision fun given => decision.withExperiment c given.1 given.2
      else grantExperiment scope feature decision rest) := by
  rw [grantExperiment]
  refine congrArg (Rules.outcome scope feature c >>= ·) (funext fun outcome => ?_)
  split
  · unfold Rules.chosen
    cases outcome.forced with
    | some v => rfl
    | none =>
      dsimp only
      rw [bind_assoc]
      refine bind_congr fun v => ?_
      cases v <;> rfl
  · rfl

/-- What rules grant: first a rollout, if one is needed, and then an experiment. -/
def Evaluation.grantInTurn [Quantity ω] (scope : Scope ω) (feature : Feature ω) (start : Decision) :
    StateT Session Inquiry Decision := do
  let byRollout := !feature.rollouts.isEmpty && !start.enabled
  let decision ← if byRollout then grantRollout scope feature start else pure start
  if byRollout && !decision.enabled then return decision
  grantExperiment scope feature decision feature.experiments

theorem Evaluation.byRules_eq [Quantity ω] (scope : Scope ω) (feature : Feature ω)
    (start : Decision) :
    byRules scope feature start = if feature.rollouts.isEmpty then
      (do Inquiry.report (.noRollouts start.featureKey); grantInTurn scope feature start)
      else grantInTurn scope feature start := by
  unfold byRules grantInTurn
  split <;> rfl

/-- Compiling a condition asks for nothing, and only adds reports. -/
theorem Segment.compileReporting_guarantees {asks : Call → Prop} (dsl : Json) :
    (compileReporting dsl).Guarantees asks (· = compile? dsl) := by
  have reported (sources : List String) :
      (sources.forM fun source => report (.patternRejected source)).Guarantees asks
        fun _ => True := by
    induction sources with
    | nil => trivial
    | cons source rest ih =>
      have rejected : (report (.patternRejected source)).Guarantees asks fun _ => True := trivial
      exact rejected.bind fun _ _ => ih
  exact (reported _).bind fun _ _ => rfl

section Calls

variable {scope : Scope ω} {asks : Call → Prop} (allowed : scope.Asks asks)
include allowed

theorem Campaign.mayEnter_guarantees (campaign : Campaign ω) (attributes : Attributes) :
    (campaign.mayEnter scope attributes).Guarantees asks fun _ => True := by
  unfold Campaign.mayEnter
  split
  · trivial
  · exact (Segment.holds_guarantees allowed.list _ _ fun _ => allowed.read).bind fun _ _ => trivial

omit allowed in
theorem Evaluation.meets_asks {settings : Settings ω} {user : User}
    (allowed : Scope.Asks ⟨settings, user, none⟩ asks) (dsl : Json) :
    (meets settings dsl user).Guarantees asks fun _ => True := by
  refine (Segment.compileReporting_guarantees dsl).bind fun compiled _ => ?_
  split
  · trivial
  · exact Segment.holds_guarantees allowed.list _ _ fun _ => allowed.read

theorem Campaign.targetedVariations_guarantees (campaign : Campaign ω) (attributes : Attributes)
    (vs : List (Variation ω)) :
    (campaign.targetedVariations scope attributes vs).Guarantees asks fun _ => True := by
  induction vs with
  | nil => trivial
  | cons v rest ih =>
    unfold Campaign.targetedVariations
    split
    · exact ih
    · refine (Segment.holds_guarantees allowed.list _ _ fun _ => allowed.read).bind fun _ _ => ?_
      exact ih.bind fun _ _ => trivial

theorem Rules.storedWinner?_guarantees (group : UInt64) :
    (Rules.storedWinner? scope group).Guarantees asks fun _ => True := by
  unfold Rules.storedWinner?
  rw [guarantees_bind, guarantees_recordOf]
  refine ⟨allowed.read _, fun record => ?_⟩
  split
  · trivial
  · split <;> trivial

theorem Rules.firstEntered?_guarantees (campaigns : List (Campaign ω)) :
    (Rules.firstEntered? scope campaigns).Guarantees asks fun _ => True := by
  induction campaigns with
  | nil => trivial
  | cons c rest ih =>
    refine (c.mayEnter_guarantees allowed _).bind fun held _ => ?_
    split
    · trivial
    · exact ih

variable [Quantity ω]

omit allowed in
/-- The variation that is reported is the one that is allotted. -/
theorem Campaign.reportTraffic_guarantees (campaign : Campaign ω) (account : UInt64)
    (user : String) : (campaign.reportTraffic account user).Guarantees asks
      (· = campaign.allotted? account user) := by
  unfold Campaign.reportTraffic Campaign.reportAllotted Campaign.reportInclusion Campaign.allotted?
  simp only [guarantees_bind, guarantees_note, guarantees_pure]
  split
  · cases campaign.kind <;> exact rfl
  · exact rfl

theorem Campaign.forced?_guarantees (campaign : Campaign ω) (attributes : Attributes) :
    (campaign.forced? scope attributes).Guarantees asks fun _ => True :=
  (campaign.targetedVariations_guarantees allowed _ _).bind fun _ _ => trivial

theorem Rules.rolloutPassed_guarantees (feature : Feature ω) :
    Always asks (fun _ => True) (Rules.rolloutPassed scope feature) := by
  refine always_get.bind fun session _ => ?_
  split
  · exact always_pure trivial
  split
  · exact (always_report _).bind fun _ _ => always_pure trivial
  refine (Rules.firstEntered?_guarantees allowed _).lift.bind fun entered _ => ?_
  split
  · exact always_pure trivial
  refine (Campaign.reportTraffic_guarantees _ _ _).lift.bind fun v _ => ?_
  split
  · exact always_pure trivial
  · exact (always_set _).bind fun _ _ => always_pure trivial

theorem Rules.forced?_guarantees (campaign : Campaign ω) :
    (Rules.forced? scope campaign).Guarantees asks fun _ => True := by
  unfold Rules.forced?
  split
  · split
    · exact campaign.forced?_guarantees allowed _
    · trivial
  all_goals trivial

omit allowed [Quantity ω] in
theorem Contest.candidates_guarantees {s : Type} {gate : Feature ω → StateT s Inquiry Bool}
    (gated : ∀ feature, Always asks (fun _ => True) (gate feature)) (members seen : List String)
    (features : List (Feature ω)) :
    Always asks (fun _ => True) (Contest.candidates gate members seen features) := by
  induction features generalizing seen with
  | nil => exact always_pure trivial
  | cons f rest ih =>
    refine (gated f).bind fun passed _ => ?_
    split
    · exact (ih _).bind fun _ _ => always_pure trivial
    · exact ih _

theorem Contest.sorted_guarantees (found : List (Feature ω × Campaign ω)) :
    (Contest.sorted scope found).Guarantees asks fun _ => True := by
  induction found with
  | nil => trivial
  | cons pair rest ih =>
    unfold Contest.sorted
    rw [guarantees_bind, guarantees_recordOf]
    refine ⟨allowed.read _, fun record => ?_⟩
    split
    · exact ih.bind fun _ _ => trivial
    refine (pair.2.mayEnter_guarantees allowed _).bind fun entered _ => ?_
    have inclusion : (pair.2.reportInclusion scope.user.id).Guarantees asks fun _ => True := trivial
    dsimp only
    split
    · refine inclusion.bind fun part _ => ?_
      split <;> exact ih.bind fun _ _ => trivial
    · exact ih.bind fun _ _ => trivial

theorem Contest.winner?_guarantees {s : Type} {gate : Feature ω → StateT s Inquiry Bool}
    (gated : ∀ feature, Always asks (fun _ => True) (gate feature)) (id : UInt64)
    (feature : Feature ω) :
    Always asks (fun _ => True) (Contest.winner? scope gate id feature) := by
  unfold Contest.winner?
  split
  · exact (always_report _).bind fun _ _ => always_pure trivial
  refine (Contest.candidates_guarantees gated _ _ _).bind fun found _ => ?_
  refine (Contest.sorted_guarantees allowed found).lift.bind fun parts _ => ?_
  split
  split
  · exact (always_report _).bind fun _ _ => always_pure trivial
  · exact (always_report _).bind fun _ _ => always_pure trivial

/-- A rule that forces no variation lets the user enter, or leaves it to the group. -/
theorem Rules.unforced_guarantees (feature : Feature ω) (campaign : Campaign ω) :
    Always asks (fun outcome => outcome.forced = none)
      (Rules.unforced scope feature campaign) := by
  have settled (group : UInt64) (winner : GroupWinner) :
      Always asks (fun outcome => outcome.forced = none) (Rules.settle group campaign winner) :=
    (always_modify _).bind fun _ _ => always_pure rfl
  unfold Rules.unforced
  split
  · exact (campaign.mayEnter_guarantees allowed _).lift.bind fun _ _ => always_pure rfl
  refine always_get.bind fun session _ => ?_
  split
  · exact always_pure rfl
  refine (Rules.storedWinner?_guarantees allowed _).lift.bind fun stored _ => ?_
  split
  · exact settled _ _
  refine (campaign.mayEnter_guarantees allowed _).lift.bind fun entered _ => ?_
  split
  · refine (Contest.winner?_guarantees allowed (Rules.rolloutPassed_guarantees allowed) _ _).bind
      fun winner _ => settled _ _
  · exact always_pure rfl

theorem Rules.outcome_guarantees (feature : Feature ω) (campaign : Campaign ω) :
    Always asks (fun _ => True) (Rules.outcome scope feature campaign) := by
  rw [Rules.outcome_eq]
  refine (Rules.forced?_guarantees allowed campaign).lift.bind fun forced _ => ?_
  split
  · exact always_pure trivial
  · exact fun session => (Rules.unforced_guarantees allowed feature campaign session).mono
      (fun _ asked => asked) fun _ _ => trivial

theorem Evaluation.firstPassed?_guarantees (feature : Feature ω) (campaigns : List (Campaign ω)) :
    Always asks (fun passed => ∀ c, passed = some c → c ∈ campaigns)
      (Evaluation.firstPassed? scope feature campaigns) := by
  induction campaigns with
  | nil => exact always_pure fun c same => nomatch same
  | cons first rest ih =>
    refine (Rules.outcome_guarantees allowed feature first).bind fun outcome _ => ?_
    split
    · exact always_pure fun c same => Option.some.inj same ▸ List.mem_cons_self ..
    · exact fun session => (ih session).mono (fun _ asked => asked)
        fun _ inside c same => List.mem_cons_of_mem _ (inside c same)

theorem Evaluation.grantRollout_guarantees (feature : Feature ω) (decision : Decision) :
    Always asks decision.GoesOn (Evaluation.grantRollout scope feature decision) := by
  refine (Evaluation.firstPassed?_guarantees allowed _ _).bind fun passed _ => ?_
  split
  · exact always_pure (.refl _)
  refine (always_modify _).bind fun _ _ => ?_
  refine (Campaign.reportTraffic_guarantees _ _ _).lift.bind fun v _ => ?_
  split
  · exact always_pure (.refl _)
  · exact always_pure ⟨rfl, Or.inr rfl⟩

omit allowed in
theorem Rules.chosen_guarantees (campaign : Campaign ω) (outcome : Outcome ω) :
    Always asks (fun _ => True) (Rules.chosen scope campaign outcome) := by
  unfold Rules.chosen
  split
  · exact always_pure trivial
  · exact (Campaign.reportTraffic_guarantees _ _ _).lift.bind fun _ _ => always_pure trivial

theorem Evaluation.grantExperiment_guarantees (feature : Feature ω) (decision : Decision)
    (campaigns : List (Campaign ω)) :
    Always asks decision.GoesOn
      (Evaluation.grantExperiment scope feature decision campaigns) := by
  induction campaigns with
  | nil => exact always_pure (.refl _)
  | cons c rest ih =>
    rw [Evaluation.grantExperiment_cons]
    refine (Rules.outcome_guarantees allowed feature c).bind fun outcome _ => ?_
    split
    · refine (Rules.chosen_guarantees c outcome).bind fun choice _ => always_pure ?_
      cases choice with
      | none => exact .refl _
      | some given => exact ⟨rfl, Or.inr rfl⟩
    · exact ih

/-- Deciding by rules writes nothing, and its decision is enabled if it grants anything. -/
theorem Evaluation.byRules_guarantees (feature : Feature ω) (start : Decision) :
    Always asks start.GoesOn (Evaluation.byRules scope feature start) := by
  have further (decision : Decision) (before : start.GoesOn decision) (stop : Bool) :
      Always asks start.GoesOn (if stop then return decision
        else Evaluation.grantExperiment scope feature decision feature.experiments) := by
    split
    · exact always_pure before
    · exact fun state => (Evaluation.grantExperiment_guarantees allowed feature decision _ state).mono
        (fun _ asked => asked) fun _ after => before.trans after
  have granted : Always asks start.GoesOn (Evaluation.grantInTurn scope feature start) := by
    unfold Evaluation.grantInTurn
    dsimp only
    split
    · exact (Evaluation.grantRollout_guarantees allowed feature start).bind fun decision before =>
        further decision before _
    · exact (always_pure (.refl start)).bind fun decision before => further decision before _
  rw [Evaluation.byRules_eq]
  split
  · exact (always_report _).bind fun _ _ => granted
  · exact granted

end Calls

end FeatureFlags
