import FeatureFlags.Proofs.Replies

namespace FeatureFlags

open Inquiry

/-- Carried out from a state of `pre` in a world of `within`, a computation ends in such a world
with a result and a state of `post`. -/
def Inquiry.Ends {s α σ : Type} (services : Services σ) (within : σ → Prop) (pre : s → Prop)
    (x : StateT s Inquiry α) (post : α → s → Prop) : Prop :=
  ∀ state (journal : Journal σ), within journal.world → pre state →
    within ((x.run state).run services journal).2.world ∧
      post ((x.run state).run services journal).1.1 ((x.run state).run services journal).1.2

section Ends

variable {s α β σ : Type} {services : Services σ} {within : σ → Prop} {pre : s → Prop}
variable {post : β → s → Prop}

theorem Inquiry.Ends.bind {mid : α → s → Prop} {x : StateT s Inquiry α}
    {f : α → StateT s Inquiry β} (first : Ends services within pre x mid)
    (rest : ∀ a, Ends services within (mid a) (f a) post) :
    Ends services within pre (x >>= f) post := by
  intro state journal inside start
  obtain ⟨stays, held⟩ := first state journal inside start
  rw [StateT.run_bind, run_bind]
  exact rest _ _ _ stays held

theorem Inquiry.Ends.through (mid : α → s → Prop) {x : StateT s Inquiry α}
    {f : α → StateT s Inquiry β} (first : Ends services within pre x mid)
    (rest : ∀ a, Ends services within (mid a) (f a) post) :
    Ends services within pre (x >>= f) post := first.bind rest

theorem Inquiry.ends_pure {b : β} (held : ∀ state, pre state → post b state) :
    Ends services within pre (pure b) post :=
  fun state _ inside start => ⟨inside, held state start⟩

theorem Inquiry.ends_lift {x : Inquiry β}
    (held : ∀ state (journal : Journal σ), within journal.world → pre state →
      within (x.run services journal).2.world ∧ post (x.run services journal).1 state) :
    Ends services within pre (liftM x : StateT s Inquiry β) post := by
  intro state journal inside start
  change within ((x >>= fun b => pure (b, state)).run services journal).2.world ∧
    post ((x >>= fun b => pure (b, state)).run services journal).1.1
      ((x >>= fun b => pure (b, state)).run services journal).1.2
  rw [run_bind, run_pure]
  exact held state journal inside start

/-- An inquiry that is lifted leaves the state as it is, and has a result that it guarantees. -/
theorem Inquiry.Guarantees.ends {asks : Call → Prop} {gives : β → Prop} {x : Inquiry β}
    (held : x.Guarantees asks gives) (stay : services.Stay asks within) :
    Ends services within pre (liftM x : StateT s Inquiry β) fun b state => gives b ∧ pre state :=
  ends_lift fun _ journal inside start =>
    ⟨held.run_within stay inside, held.run_gives journal, start⟩

theorem Inquiry.ends_report (event : Event) :
    Ends services within pre (liftM (report event) : StateT s Inquiry Unit) fun _ => pre :=
  ends_lift fun _ _ inside start => ⟨inside, start⟩

theorem Inquiry.ends_get :
    Ends services within pre (get : StateT s Inquiry s) fun seen state =>
      seen = state ∧ pre state :=
  fun _ _ inside start => ⟨inside, rfl, start⟩

/-- Where the state is known, getting it tells nothing new. -/
theorem Inquiry.Ends.get_bind {state : s} {f : s → StateT s Inquiry β}
    (rest : Ends services within (· = state) (f state) post) :
    Ends services within (· = state) (get >>= f) post := by
  intro seen journal inside same
  subst same
  exact rest seen journal inside rfl

theorem Inquiry.ends_set {next : s} {post : Unit → s → Prop}
    (held : ∀ state, pre state → post () next) :
    Ends services within pre (set next : StateT s Inquiry Unit) post :=
  fun state _ inside start => ⟨inside, held state start⟩

theorem Inquiry.ends_modify {f : s → s} {post : Unit → s → Prop}
    (held : ∀ state, pre state → post () (f state)) :
    Ends services within pre (modify f : StateT s Inquiry Unit) post :=
  fun state _ inside start => ⟨inside, held state start⟩

theorem Inquiry.Ends.mono {x : StateT s Inquiry β} {pre' : s → Prop} {post' : β → s → Prop}
    (ends : Ends services within pre x post) (before : ∀ state, pre' state → pre state)
    (after : ∀ b state, post b state → post' b state) : Ends services within pre' x post' := by
  intro state journal inside start
  obtain ⟨stays, held⟩ := ends state journal inside (before state start)
  exact ⟨stays, after _ _ held⟩

/-- What is known before, whatever the state is, may be used. -/
theorem Inquiry.Ends.assuming {x : StateT s Inquiry β} {fact : Prop}
    (ends : fact → Ends services within pre x post) :
    Ends services within (fun state => fact ∧ pre state) x post :=
  fun state journal inside start => ends start.1 state journal inside start.2

end Ends

namespace Services

theorem stay_anywhere {σ : Type} (services : Services σ) (asks : Call → Prop) :
    services.Stay asks fun _ => True where
  read _ _ _ _ _ := trivial
  write _ _ _ _ := trivial
  list _ _ _ _ := trivial
  gateway _ _ _ _ := trivial

end Services

/-- Wherever it is carried out, an inquiry that is lifted leaves the state as it is. -/
theorem Inquiry.ends_asked {s β σ : Type} {services : Services σ} {pre : s → Prop}
    (x : Inquiry β) :
    Ends services (fun _ => True) pre (liftM x : StateT s Inquiry β) fun _ state => pre state :=
  ((guarantees_trivial x).ends (services.stay_anywhere _)).mono (fun _ start => start)
    fun _ _ held => held.2

end FeatureFlags
