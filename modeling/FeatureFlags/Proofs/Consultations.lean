import FeatureFlags.Proofs.SessionMemo

namespace FeatureFlags

open Inquiry

variable {ω : Type}

/-- What may be asked while a session lasts: what a rule says that links a campaign to a feature,
or whether rollouts let the user into a feature. -/
inductive Consultation (ω : Type) where
  | rule (feature : Feature ω) (campaign : Campaign ω)
  | gate (feature : Feature ω)

/-- What was asked and answered, with the sessions before and after. -/
inductive Consulted (ω : Type) where
  | rule (feature : Feature ω) (campaign : Campaign ω) (before : Session) (outcome : Outcome ω)
      (after : Session)
  | gate (feature : Feature ω) (before : Session) (passed : Bool) (after : Session)

namespace Consulted

def asked : Consulted ω → Consultation ω
  | rule f c _ _ _ => .rule f c
  | gate f _ _ _ => .gate f

def before : Consulted ω → Session
  | rule _ _ session _ _ | gate _ session _ _ => session

def after : Consulted ω → Session
  | rule _ _ _ _ session | gate _ _ _ session => session

/-- A rule that links this campaign has let the user pass, and not by a forced variation. -/
def Passes (step : Consulted ω) (c : Campaign ω) : Prop :=
  ∃ f before outcome after, step = .rule f c before outcome after ∧ outcome.passed ∧
    outcome.forced = none

/-- A rule that links this campaign has been consulted, and it forced a variation, or the campaign
is in no group. -/
def Aside (step : Consulted ω) (settings : Settings ω) (c : Campaign ω) : Prop :=
  ∃ f before outcome after, step = .rule f c before outcome after ∧
    (outcome.forced.isSome ∨ settings.groupOf? c = none)

/-- What a single consultation may do to its session. -/
def Lawful (scope : Scope ω) : Consulted ω → Prop
  | rule _ c before outcome after => Rules.Settles scope c before outcome after
  | gate _ before _ after => before.AddsRollouts after

theorem Lawful.keeps {scope : Scope ω} {step : Consulted ω} (lawful : step.Lawful scope) :
    step.before.Keeps step.after := by
  cases step with
  | rule => exact Rules.Settles.keeps lawful
  | gate => exact Session.AddsRollouts.keeps lawful

end Consulted

namespace Rules

variable [Quantity ω]

/-- Consults the rules once, and takes down the sessions before and after. -/
def consult (scope : Scope ω) : Consultation ω → StateT Session Inquiry (Consulted ω)
  | .rule feature campaign => do
    let before ← get
    let outcome ← outcome scope feature campaign
    return .rule feature campaign before outcome (← get)
  | .gate feature => do
    let before ← get
    let passed ← rolloutPassed scope feature
    return .gate feature before passed (← get)

/-- Consults the rules again and again in one session. -/
def consultAll (scope : Scope ω) :
    List (Consultation ω) → StateT Session Inquiry (List (Consulted ω))
  | [] => return []
  | call :: rest => do
    let step ← consult scope call
    return step :: (← consultAll scope rest)

omit [Quantity ω] in
/-- Consultations one after the other, from a first session to a last one: each of them is lawful,
and whatever is settled in a session is settled in all that come later. -/
structure Run (scope : Scope ω) (first : Session) (calls : List (Consultation ω))
    (steps : List (Consulted ω)) (last : Session) : Prop where
  asked : steps.map (·.asked) = calls
  lawful : ∀ step ∈ steps, step.Lawful scope
  ordered : (first :: ((steps.flatMap fun step => [step.before, step.after]) ++ [last])).Pairwise
    Session.Keeps

variable {σ : Type} {services : Services σ} {scope : Scope ω}

theorem consult_ends (call : Consultation ω) (first : Session) :
    Ends services (fun _ => True) (· = first) (consult scope call) fun step last =>
      step.asked = call ∧ step.before = first ∧ step.after = last ∧ step.Lawful scope := by
  cases call with
  | rule f c =>
    refine Ends.get_bind ((outcome_settles f c first).bind fun outcome => ends_get.bind fun seen => ?_)
    refine ends_pure fun last held => ?_
    obtain ⟨rfl, settles⟩ := held
    exact ⟨rfl, rfl, rfl, settles⟩
  | gate f =>
    refine Ends.get_bind ((rolloutPassed_adds f first).bind fun passed => ends_get.bind fun seen => ?_)
    refine ends_pure fun last held => ?_
    obtain ⟨rfl, adds⟩ := held
    exact ⟨rfl, rfl, rfl, adds⟩

omit [Quantity ω] in
theorem Run.cons {first middle last : Session} {calls : List (Consultation ω)}
    {steps : List (Consulted ω)} {step : Consulted ω} (lawful : step.Lawful scope)
    (before : step.before = first) (after : step.after = middle)
    (rest : Run scope middle calls steps last) :
    Run scope first (step.asked :: calls) (step :: steps) last where
  asked := by rw [List.map_cons, rest.asked]
  lawful := List.forall_mem_cons.mpr ⟨lawful, rest.lawful⟩
  ordered := by
    have keeps : first.Keeps middle := before ▸ after ▸ lawful.keeps
    have further := List.pairwise_cons.mp rest.ordered
    have onward (session : Session)
        (member : session ∈ middle :: ((steps.flatMap fun step => [step.before, step.after]) ++ [last])) :
        first.Keeps session := by
      rcases List.mem_cons.mp member with rfl | later
      · exact keeps
      · exact keeps.trans (further.1 session later)
    rw [List.flatMap_cons, before, after]
    refine List.pairwise_cons.mpr ⟨fun session member => ?_, ?_⟩
    · rcases List.mem_cons.mp member with rfl | later
      · exact .refl _
      · exact onward session later
    · exact List.pairwise_cons.mpr ⟨onward, rest.ordered⟩

/-- Whatever is asked in a session, and whatever the collaborators reply. -/
theorem run_consultations (calls : List (Consultation ω)) (first : Session) :
    Ends services (fun _ => True) (· = first) (consultAll scope calls) fun steps last =>
      Run scope first calls steps last := by
  induction calls generalizing first with
  | nil =>
    refine ends_pure fun last same => ⟨rfl, List.forall_mem_nil _, ?_⟩
    rw [same]
    exact List.pairwise_pair.mpr (.refl first)
  | cons call rest ih =>
    refine (consult_ends call first).bind fun step => ?_
    intro middle journal inside held
    obtain ⟨rfl, before, after, lawful⟩ := held
    refine Ends.bind (ih middle) (fun steps => ?_) middle journal inside rfl
    exact ends_pure fun last run => run.cons lawful before after

omit [Quantity ω] in
theorem Run.keeps_last {first last : Session} {calls : List (Consultation ω)}
    {steps : List (Consulted ω)} (run : Run scope first calls steps last) {step : Consulted ω}
    (member : step ∈ steps) : step.after.Keeps last := by
  have tail := (List.pairwise_cons.mp run.ordered).2
  refine (List.pairwise_append.mp tail).2.2 _ ?_ last (List.mem_singleton_self last)
  exact List.mem_flatMap.mpr ⟨step, member, by simp⟩

omit [Quantity ω] in
/-- The winner of a group at the end of a run is any campaign of the group that has passed. -/
theorem Run.winner_of_passes {first last : Session} {calls : List (Consultation ω)}
    {steps : List (Consulted ω)} (run : Run scope first calls steps last) {step : Consulted ω}
    (member : step ∈ steps) {c : Campaign ω} (passes : step.Passes c) {group : UInt64}
    (grouped : scope.settings.groupOf? c = some group) : last.winner? group = some (.of c) := by
  have keeps := run.keeps_last member
  obtain ⟨f, before, outcome, after, rfl, passed, unforced⟩ := passes
  have settles : Settles scope c before outcome after := run.lawful _ member
  exact keeps.winner group _ (settles.winner passed unforced group grouped)

end Rules

/-- Whatever is asked about rules in one session, and however unreliably the collaborators reply:
what is settled stays settled, all campaigns of one group that pass without a forced variation are
one campaign, and one variation of it if it is a personalize campaign, and forced variations and
campaigns outside of groups settle nothing. -/
theorem session_settles_once [Quantity ω] {σ : Type} (services : Services σ) (scope : Scope ω)
    (calls : List (Consultation ω)) (journal : Journal σ) :
    let steps := (((Rules.consultAll scope calls).run {}).run services journal).1.1
    steps.map (·.asked) = calls ∧
    (steps.flatMap fun step => [step.before, step.after]).Pairwise Session.Keeps ∧
    (∀ first ∈ steps, ∀ second ∈ steps, ∀ c d group, first.Passes c → second.Passes d →
      scope.settings.groupOf? c = some group → scope.settings.groupOf? d = some group →
        c.id = d.id ∧ c.pinned? = d.pinned?) ∧
    ∀ step ∈ steps, ∀ c, step.Aside scope.settings c → step.after = step.before := by
  intro steps
  have ends : Ends services (fun _ => True) (· = {}) (Rules.consultAll scope calls) _ :=
    Rules.run_consultations calls {}
  obtain ⟨-, run⟩ := ends {} journal trivial rfl
  refine ⟨run.asked, ?_, ?_, ?_⟩
  · have tail := (List.pairwise_cons.mp run.ordered).2
    exact (List.pairwise_append.mp tail).1
  · intro first member second member' c d group passes passes' grouped grouped'
    have won := run.winner_of_passes member passes grouped
    have won' := run.winner_of_passes member' passes' grouped'
    rw [won] at won'
    exact GroupWinner.of_eq_iff.mp (Option.some.inj won')
  · intro step member c aside
    obtain ⟨f, before, outcome, after, rfl, why⟩ := aside
    have settles : Rules.Settles scope c before outcome after := run.lawful _ member
    exact settles.frame why

end FeatureFlags
