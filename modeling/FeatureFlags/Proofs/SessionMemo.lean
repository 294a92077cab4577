import FeatureFlags.Proofs.Champion
import FeatureFlags.Proofs.Endings

namespace FeatureFlags

open Inquiry

variable {ω : Type}

namespace Session

/-- Whatever is settled in the earlier session is settled in the same way in the later one. -/
structure Keeps (earlier later : Session) : Prop where
  winner : ∀ group winner, earlier.winner? group = some winner → later.winner? group = some winner
  rollout : ∀ key rollout, earlier.rollout? key = some rollout → later.rollout? key = some rollout

theorem Keeps.refl (session : Session) : session.Keeps session := ⟨fun _ _ h => h, fun _ _ h => h⟩

theorem Keeps.trans {first second third : Session} (before : first.Keeps second)
    (after : second.Keeps third) : first.Keeps third where
  winner group winner known := after.winner group winner (before.winner group winner known)
  rollout key rollout known := after.rollout key rollout (before.rollout key rollout known)

theorem keeps_withRollout {session : Session} {key : String} (new : session.rollout? key = none)
    (rollout : PassedRollout) : session.Keeps (session.withRollout key rollout) where
  winner _ _ known := known
  rollout other earlier known := by
    rw [rollout?_withRollout]
    split
    · rename_i same
      rw [same, new] at known
      cases known
    · exact known

theorem keeps_withWinner {session : Session} {group : UInt64} (new : session.winner? group = none)
    (winner : GroupWinner) : session.Keeps (session.withWinner group winner) where
  winner other earlier known := by
    rw [winner?_withWinner]
    split
    · rename_i same
      rw [same, new] at known
      cases known
    · exact known
  rollout _ _ known := known

/-- The later session has settled rollouts beyond those of the earlier one, and no further
winner. -/
structure AddsRollouts (earlier later : Session) : Prop where
  keeps : earlier.Keeps later
  winners : later.winners = earlier.winners

theorem AddsRollouts.refl (session : Session) : session.AddsRollouts session := ⟨.refl session, rfl⟩

theorem AddsRollouts.trans {first second third : Session} (before : first.AddsRollouts second)
    (after : second.AddsRollouts third) : first.AddsRollouts third :=
  ⟨before.keeps.trans after.keeps, after.winners.trans before.winners⟩

theorem AddsRollouts.winner? {earlier later : Session} (adds : earlier.AddsRollouts later)
    (group : UInt64) : later.winner? group = earlier.winner? group := by
  unfold Session.winner?
  rw [adds.winners]

end Session

/-- The variation that a personalize campaign is about, which is its first one. -/
def Campaign.pinned? (c : Campaign ω) : Option UInt64 :=
  match c.kind with
  | .personalize => c.variations.head?.map (·.id)
  | .ab | .rollout => none

/-- Telling personalize campaigns by their first variation from all other campaigns is asking for
the variation that they are about. -/
theorem Campaign.match_pinned {α : Type} (c : Campaign ω) (plain : α) (pinned : UInt64 → α) :
    (match c.kind, c.variations with
      | .personalize, v :: _ => pinned v.id
      | _, _ => plain) = c.pinned?.elim plain pinned := by
  unfold pinned?
  cases c.kind with
  | personalize => cases c.variations <;> rfl
  | _ => rfl

/-- Two campaigns are the same winner exactly if their ids agree, and the variations that they are
about as personalize campaigns. -/
theorem GroupWinner.of_eq_iff {c d : Campaign ω} :
    of c = of d ↔ c.id = d.id ∧ c.pinned? = d.pinned? := by
  have shape (e : Campaign ω) : of e = e.pinned?.elim (.campaign e.id) (.variation e.id) :=
    e.match_pinned _ _
  rw [shape c, shape d]
  cases c.pinned? <;> cases d.pinned? <;> simp

section Step

variable [Quantity ω] {σ : Type} {services : Services σ} {scope : Scope ω}

/-- A gate settles at most the rollout of its feature, and only where none is settled. -/
theorem Rules.rolloutPassed_adds (f : Feature ω) (before : Session) :
    Ends services (fun _ => True) (· = before) (rolloutPassed scope f) fun _ after =>
      before.AddsRollouts after := by
  have still {after : Session} (same : after = before) : before.AddsRollouts after :=
    same ▸ .refl before
  refine Ends.get_bind ?_
  split
  · exact ends_pure fun after => still
  rename_i unsettled
  have new : before.rollout? f.key = none := by simpa using unsettled
  split
  · exact (ends_asked _).bind fun _ => ends_pure fun after => still
  refine (ends_asked _).bind fun entered => ?_
  split
  · exact ends_pure fun after => still
  refine (ends_asked _).bind fun given => ?_
  split
  · exact ends_pure fun after => still
  refine Ends.bind (ends_set fun after same => ?_) fun _ => ends_pure fun _ held => held
  exact ⟨Session.keeps_withRollout new _, rfl⟩

/-- A contest keeps what its gate keeps. -/
theorem Contest.winner?_keeps {kept : Session → Prop} {gate : Feature ω → StateT Session Inquiry Bool}
    (gated : ∀ f, Ends services (fun _ => True) kept (gate f) fun _ => kept) (id : UInt64)
    (feature : Feature ω) :
    Ends services (fun _ => True) kept (winner? scope gate id feature) fun _ => kept := by
  have gathered (members seen : List String) (fs : List (Feature ω)) :
      Ends services (fun _ => True) kept (candidates gate members seen fs) fun _ => kept := by
    induction fs generalizing seen with
    | nil => exact ends_pure fun _ held => held
    | cons f rest ih =>
      refine (gated f).bind fun passed => ?_
      split
      · exact (ih _).bind fun _ => ends_pure fun _ held => held
      · exact ih _
  unfold winner?
  split
  · exact (ends_asked _).bind fun _ => ends_pure fun _ held => held
  refine (gathered _ _ _).bind fun found => (ends_asked _).bind fun parts => ?_
  split
  split
  · exact (ends_asked _).bind fun _ => ends_pure fun _ held => held
  · exact (ends_asked _).bind fun _ => ends_pure fun _ held => held

/-- What a rule that links a campaign may do to a session: nothing that is settled is lost, a
campaign of a group passes without a forced variation only as the winner that is settled by then,
and a forced variation or a campaign outside of groups settles nothing. -/
structure Rules.Settles (scope : Scope ω) (c : Campaign ω) (before : Session) (outcome : Outcome ω)
    (after : Session) : Prop where
  keeps : before.Keeps after
  winner : outcome.passed → outcome.forced = none → ∀ group,
    scope.settings.groupOf? c = some group → after.winner? group = some (.of c)
  frame : outcome.forced.isSome ∨ scope.settings.groupOf? c = none → after = before

omit [Quantity ω] in
/-- Where no winner of a group is settled, one may be, and a campaign passes if it is this one. -/
theorem Rules.settle_settles {before : Session} {group : UInt64} {c : Campaign ω}
    (grouped : scope.settings.groupOf? c = some group) (new : before.winner? group = none)
    (winner : GroupWinner) :
    Ends services (fun _ => True) (before.AddsRollouts ·) (settle group c winner)
      (Settles scope c before) := by
  let settled (after : Session) : Prop :=
    before.Keeps after ∧ after.winner? group = some winner
  have modified : Ends services (fun _ => True) (before.AddsRollouts ·)
      (modify (·.withWinner group winner) : StateT Session Inquiry Unit) fun _ => settled := by
    refine ends_modify fun middle adds => ⟨adds.keeps.trans ?_, ?_⟩
    · exact Session.keeps_withWinner ((adds.winner? group).trans new) winner
    · rw [Session.winner?_withWinner, if_pos rfl]
  refine modified.bind fun _ => ends_pure fun after held => ⟨held.1, ?_, ?_⟩
  · intro admitted _ other same
    have won : winner = .of c := GroupWinner.admits_iff.mp admitted
    rw [grouped] at same
    rw [← Option.some.inj same, held.2, won]
  · rintro (forced | ungrouped)
    · cases forced
    · rw [grouped] at ungrouped
      cases ungrouped

/-- What a rule says and settles, whatever the collaborators reply. -/
theorem Rules.outcome_settles (f : Feature ω) (c : Campaign ω) (before : Session) :
    Ends services (fun _ => True) (· = before) (outcome scope f c) (Settles scope c before) := by
  have still {outcome : Outcome ω} {after : Session} (same : after = before)
      (winner : outcome.passed → outcome.forced = none → ∀ group,
        scope.settings.groupOf? c = some group → before.winner? group = some (.of c)) :
      Settles scope c before outcome after := by
    subst same
    exact ⟨.refl _, winner, fun _ => rfl⟩
  refine (ends_asked _).bind fun forced => ?_
  split
  · exact ends_pure fun after same => still same nofun
  split
  · rename_i ungrouped
    refine (ends_asked _).bind fun entered => ends_pure fun after same => still same ?_
    intro _ _ group grouped
    rw [ungrouped] at grouped
    cases grouped
  rename_i group grouped
  refine Ends.get_bind ?_
  split
  · rename_i winner known
    refine ends_pure fun after same => still same ?_
    intro admitted _ other same
    have won : winner = .of c := GroupWinner.admits_iff.mp admitted
    rw [grouped] at same
    rw [← Option.some.inj same, known, won]
  rename_i new
  have unsettled (state : Session) (same : state = before) : before.AddsRollouts state :=
    same ▸ .refl before
  refine (ends_asked _).bind fun stored => ?_
  split
  · exact (settle_settles grouped new _).mono unsettled fun _ _ held => held
  refine (ends_asked _).bind fun entered => ?_
  split
  · -- The contest asks the gate again, so rollouts may have been added when the winner is settled.
    have gated (g : Feature ω) : Ends services (fun _ => True) (before.AddsRollouts ·)
        (rolloutPassed scope g) fun _ => (before.AddsRollouts ·) := by
      intro state journal inside adds
      obtain ⟨stays, further⟩ := rolloutPassed_adds g state state journal inside rfl
      exact ⟨stays, adds.trans further⟩
    exact ((Contest.winner?_keeps gated group f).mono unsettled fun _ _ held => held).bind
      fun winner => settle_settles grouped new _
  · exact ends_pure fun after same => still same nofun

end Step

end FeatureFlags
