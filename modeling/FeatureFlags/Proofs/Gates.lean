import FeatureFlags.Proofs.Replies
import FeatureFlags.Rules
import Mathlib.Data.List.Nodup

namespace FeatureFlags

open Inquiry

variable {ω : Type}

/-- Under fixed replies, a computation leads from states of `pre` to results and states of
`post`. -/
def Inquiry.Leads {s α : Type} (replies : Replies) (pre : s → Prop) (x : StateT s Inquiry α)
    (post : α → s → Prop) : Prop :=
  ∀ state, pre state → post ((x.run state).answer replies).1 ((x.run state).answer replies).2

section Leads

variable {s α β : Type} {replies : Replies} {pre : s → Prop} {post : β → s → Prop}

theorem Inquiry.Leads.bind {mid : α → s → Prop} {x : StateT s Inquiry α} {f : α → StateT s Inquiry β}
    (first : Leads replies pre x mid) (rest : ∀ a, Leads replies (mid a) (f a) post) :
    Leads replies pre (x >>= f) post := by
  intro state held
  rw [StateT.run_bind, answer_bind]
  exact rest _ _ (first state held)

theorem Inquiry.Leads.through (mid : α → s → Prop) {x : StateT s Inquiry α}
    {f : α → StateT s Inquiry β} (first : Leads replies pre x mid)
    (rest : ∀ a, Leads replies (mid a) (f a) post) : Leads replies pre (x >>= f) post :=
  first.bind rest

theorem Inquiry.leads_pure {b : β} (held : ∀ state, pre state → post b state) :
    Leads replies pre (pure b) post := held

/-- A lifted inquiry has its answer and leaves the state as it is. -/
theorem Inquiry.answer_lift (x : Inquiry β) (state : s) :
    ((liftM x : StateT s Inquiry β).run state).answer replies = (x.answer replies, state) := by
  change (x >>= fun b => pure (b, state)).answer replies = _
  rw [answer_bind, answer_pure]

theorem Inquiry.leads_lift {x : Inquiry β}
    (held : ∀ state, pre state → post (x.answer replies) state) :
    Leads replies pre (liftM x : StateT s Inquiry β) post := by
  intro state start
  rw [answer_lift]
  exact held state start

theorem Inquiry.leads_answer (x : Inquiry α) :
    Leads replies pre (liftM x : StateT s Inquiry α) fun a state =>
      a = x.answer replies ∧ pre state :=
  leads_lift fun _ held => ⟨rfl, held⟩

theorem Inquiry.leads_get :
    Leads replies pre (get : StateT s Inquiry s) fun seen state => seen = state ∧ pre state :=
  fun _ held => ⟨rfl, held⟩

theorem Inquiry.leads_modify {f : s → s} {post : Unit → s → Prop}
    (held : ∀ state, pre state → post () (f state)) :
    Leads replies pre (modify f : StateT s Inquiry Unit) post := held

theorem Inquiry.Leads.mono {x : StateT s Inquiry β} {pre' : s → Prop} {post' : β → s → Prop}
    (leads : Leads replies pre x post) (before : ∀ state, pre' state → pre state)
    (after : ∀ b state, post b state → post' b state) : Leads replies pre' x post' :=
  fun state held => after _ _ (leads state (before state held))

/-- What is known before, whatever the state is, may be used. -/
theorem Inquiry.Leads.assuming {x : StateT s Inquiry β} {fact : Prop}
    (leads : fact → Leads replies pre x post) :
    Leads replies (fun state => fact ∧ pre state) x post :=
  fun state held => leads held.1 state held.2

end Leads

/-- Whether the user may enter a campaign. -/
def Scope.enters (scope : Scope ω) (replies : Replies) (c : Campaign ω) : Bool :=
  (c.mayEnter scope (scope.entryAttributes c)).answer replies

@[simp] theorem Scope.answer_mayEnter (scope : Scope ω) (replies : Replies) (c : Campaign ω) :
    (c.mayEnter scope (scope.entryAttributes c)).answer replies = scope.enters replies c := rfl

theorem Rules.answer_firstEntered? (scope : Scope ω) (replies : Replies) (cs : List (Campaign ω)) :
    (firstEntered? scope cs).answer replies = cs.find? (scope.enters replies) := by
  induction cs with
  | nil => rfl
  | cons c rest ih =>
    rw [firstEntered?, answer_bind, Scope.answer_mayEnter, List.find?_cons]
    split
    · rename_i entered
      simp [entered]
    · rename_i entered
      rw [Bool.not_eq_true] at entered
      simp only [entered]
      exact ih

variable [Quantity ω]

namespace Campaign

variable (c : Campaign ω) (account : UInt64) (user : String) (replies : Replies)

theorem answer_reportInclusion :
    (c.reportInclusion user).answer replies = c.includes user := by
  unfold reportInclusion
  rw [answer_note, answer_pure]

theorem answer_reportPick :
    (c.reportPick account user).answer replies = c.picked? account user := rfl

theorem answer_reportAllotted :
    (c.reportAllotted account user).answer replies = c.allotted? account user := by
  rw [reportAllotted, allotted?, answer_bind, answer_reportInclusion]
  cases c.includes user with
  | false => rfl
  | true =>
    rw [if_pos rfl, if_pos rfl]
    cases c.kind with
    | ab => exact answer_reportPick c account user replies
    | rollout => rfl
    | personalize => rfl

theorem answer_reportTraffic :
    (c.reportTraffic account user).answer replies = c.allotted? account user := by
  rw [reportTraffic, answer_bind, answer_reportAllotted, answer_bind, answer_pure]

end Campaign

/-- The rollout that lets a user into a feature, with its variation: only the first one that the user
may enter counts. -/
def Scope.admission? (scope : Scope ω) (replies : Replies) (f : Feature ω) :
    Option (Campaign ω × Variation ω) :=
  (f.rollouts.find? (scope.enters replies)).bind fun c =>
    (c.allotted? scope.settings.account scope.user.id).map fun v => (c, v)

/-- Whether rollouts let the user into a feature: it has none, or the first one that the user may
enter gives the user a variation. -/
def Scope.passes (scope : Scope ω) (replies : Replies) (f : Feature ω) : Bool :=
  f.rollouts.isEmpty || ((f.rollouts.find? (scope.enters replies)).bind fun c =>
    c.allotted? scope.settings.account scope.user.id).isSome

section Admission

variable {scope : Scope ω} {replies : Replies} {f : Feature ω}

theorem Scope.admission?_of_none (none : f.rollouts.find? (scope.enters replies) = none) :
    scope.admission? replies f = Option.none := by
  rw [admission?, none, Option.bind_none]

theorem Scope.admission?_of_empty (empty : f.rollouts = []) :
    scope.admission? replies f = none :=
  admission?_of_none (by rw [empty, List.find?_nil])

theorem Scope.admission?_of_first {c : Campaign ω}
    (first : f.rollouts.find? (scope.enters replies) = some c) :
    scope.admission? replies f =
      (c.allotted? scope.settings.account scope.user.id).map fun v => (c, v) := by
  rw [admission?, first, Option.bind_some]

theorem Scope.admission?_eq_some {c : Campaign ω} {v : Variation ω}
    (admission : scope.admission? replies f = some (c, v)) :
    c ∈ f.rollouts ∧ c.allotted? scope.settings.account scope.user.id = some v := by
  obtain ⟨d, first, entered⟩ := Option.bind_eq_some_iff.mp admission
  obtain ⟨w, given, same⟩ := Option.map_eq_some_iff.mp entered
  obtain ⟨rfl, rfl⟩ := Prod.mk.inj same
  exact ⟨List.mem_of_find?_eq_some first, given⟩

theorem Scope.passes_iff :
    scope.passes replies f = true ↔ f.rollouts = [] ∨ (scope.admission? replies f).isSome := by
  rw [passes, admission?, Bool.or_eq_true, List.isEmpty_iff]
  cases f.rollouts.find? (scope.enters replies) with
  | none => simp only [Option.bind_none, Option.isSome_none]
  | some c => rw [Option.bind_some, Option.bind_some, Option.isSome_map]

theorem Scope.passes_of_admission {entered : Campaign ω × Variation ω}
    (admission : scope.admission? replies f = some entered) : scope.passes replies f = true :=
  passes_iff.mpr (Or.inr (Option.isSome_of_eq_some admission))

end Admission

namespace Session

omit [Quantity ω] in
theorem rollout?_withRollout (session : Session) (key other : String) (rollout : PassedRollout) :
    (session.withRollout key rollout).rollout? other =
      if other = key then some rollout else session.rollout? other := by
  simp only [withRollout, rollout?, List.lookup_cons]
  split <;> simp_all

/-- Only features that let the user in have a remembered rollout. -/
def Sound (session : Session) (scope : Scope ω) (replies : Replies) : Prop :=
  ∀ f ∈ scope.settings.features, (session.rollout? f.key).isSome → scope.passes replies f = true

theorem sound_empty (scope : Scope ω) (replies : Replies) : Session.Sound {} scope replies :=
  fun _ _ recorded => by cases recorded

theorem Sound.withRollout {session : Session} {scope : Scope ω} {replies : Replies}
    {f : Feature ω} (sound : session.Sound scope replies)
    (distinct : (scope.settings.features.map (·.key)).Nodup) (member : f ∈ scope.settings.features)
    (passed : scope.passes replies f = true) (rollout : PassedRollout) :
    (session.withRollout f.key rollout).Sound scope replies := by
  intro g inside recorded
  rw [rollout?_withRollout] at recorded
  split at recorded
  · rename_i same
    rwa [List.inj_on_of_nodup_map distinct inside member same]
  · exact sound g inside recorded

end Session

section Gate

variable {scope : Scope ω} {replies : Replies} {f : Feature ω} {session : Session}

theorem Rules.answer_rolloutPassed_of_known (known : (session.rollout? f.key).isSome) :
    ((rolloutPassed scope f).run session).answer replies = (true, session) := by
  have seen : ((get : StateT Session Inquiry Session).run session).answer replies =
      (session, session) := rfl
  rw [rolloutPassed, StateT.run_bind, answer_bind, seen]
  dsimp only
  rw [if_pos known]
  rfl

/-- The gate of a feature of which nothing is remembered opens where there are no rollouts, or for
the rollout that lets the user in, and remembers that one. -/
theorem Rules.answer_rolloutPassed (new : session.rollout? f.key = none) :
    ((rolloutPassed scope f).run session).answer replies =
      if f.rollouts = [] then (true, session)
      else (scope.admission? replies f).elim (false, session) fun entered =>
        (true, session.withRollout f.key ⟨entered.1.id, entered.1.key, some entered.2.id⟩) := by
  have seen : ((get : StateT Session Inquiry Session).run session).answer replies =
      (session, session) := rfl
  rw [rolloutPassed, StateT.run_bind, answer_bind, seen]
  dsimp only
  rw [new, Option.isSome_none, if_neg Bool.false_ne_true]
  by_cases empty : f.rollouts = []
  · rw [if_pos empty, if_pos (List.isEmpty_iff.mpr empty)]
    rfl
  · rw [if_neg empty, if_neg (by rwa [List.isEmpty_iff]), StateT.run_bind, answer_bind, answer_lift,
      answer_firstEntered?]
    cases first : f.rollouts.find? (scope.enters replies) with
    | none =>
      rw [Scope.admission?_of_none first]
      rfl
    | some c =>
      rw [Scope.admission?_of_first first]
      dsimp only
      rw [StateT.run_bind, answer_bind, answer_lift, Campaign.answer_reportTraffic]
      cases c.allotted? scope.settings.account scope.user.id <;> rfl

/-- The gate of a feature opens if rollouts let the user in, whatever has been remembered before. -/
theorem Rules.rolloutPassed_leads {scope : Scope ω} {replies : Replies} {f : Feature ω}
    (distinct : (scope.settings.features.map (·.key)).Nodup)
    (member : f ∈ scope.settings.features) (winners : List (UInt64 × GroupWinner)) :
    Leads replies (fun session => session.Sound scope replies ∧ session.winners = winners)
      (rolloutPassed scope f)
      fun passed session => passed = scope.passes replies f ∧ session.Sound scope replies ∧
        session.winners = winners := by
  rintro session ⟨sound, same⟩
  cases remembered : session.rollout? f.key with
  | some rollout =>
    have known := Option.isSome_of_eq_some remembered
    rw [answer_rolloutPassed_of_known known]
    exact ⟨(sound f member known).symm, sound, same⟩
  | none =>
    rw [answer_rolloutPassed remembered]
    by_cases empty : f.rollouts = []
    · rw [if_pos empty]
      exact ⟨(Scope.passes_iff.mpr (Or.inl empty)).symm, sound, same⟩
    rw [if_neg empty]
    cases admission : scope.admission? replies f with
    | none =>
      have shut : ¬scope.passes replies f = true := by
        rw [Scope.passes_iff, admission]
        simp [empty]
      exact ⟨(Bool.eq_false_iff.mpr shut).symm, sound, same⟩
    | some entered =>
      have passed := Scope.passes_of_admission admission
      exact ⟨passed.symm, sound.withRollout distinct member passed _, same⟩

end Gate

end FeatureFlags
