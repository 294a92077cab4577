import FeatureFlags.Inquiry

namespace FeatureFlags

/-- What collaborators answer whose answers depend on what they are asked alone. -/
structure Replies where
  record : String → String → Option Record
  member : ListQuery → Bool
  classified : GatewayQuery → Option GatewayData

/-- The replies of lookups when the records of a store are kept. -/
def Replies.ofStore (store : Store) (list : ListQuery → Except ServiceError (Option String))
    (gateway : GatewayQuery → Except ServiceError (Option String)) : Replies where
  record := store.get?
  member query := Services.affirms (list query)
  classified query := (Services.classification (gateway query)).1

/-- Collaborators without a world: each reply is a function of the question, and nothing that is
written is kept. -/
def Services.fixed (read : String → String → Except ServiceError (Option Record))
    (list : ListQuery → Except ServiceError (Option String))
    (gateway : GatewayQuery → Except ServiceError (Option String)) : Services Unit where
  read key user world := (read key user, world)
  write _ world := (.ok (), world)
  list query world := (list query, world)
  gateway query world := (gateway query, world)

/-- What fixed collaborators answer; a failed reading is no record. -/
def Replies.ofFixed (read : String → String → Except ServiceError (Option Record))
    (list : ListQuery → Except ServiceError (Option String))
    (gateway : GatewayQuery → Except ServiceError (Option String)) : Replies where
  record key user := (read key user).toOption.join
  member query := Services.affirms (list query)
  classified query := (Services.classification (gateway query)).1

/-- Two collections of replies agree on the calls of `asks`. -/
structure Replies.Agree (asks : Call → Prop) (first second : Replies) : Prop where
  record : ∀ key user, asks (.read key user) → first.record key user = second.record key user
  member : ∀ query, asks (.list query) → first.member query = second.member query
  classified : ∀ query, asks (.gateway query) → first.classified query = second.classified query

section Worlds

variable {σ : Type}

/-- Calls of `asks` do not lead out of the worlds of `within`. -/
structure Services.Stay (services : Services σ) (asks : Call → Prop) (within : σ → Prop) :
    Prop where
  read : ∀ key user world, asks (.read key user) → within world →
    within (services.read key user world).2
  write : ∀ record world, asks (.write record) → within world →
    within (services.write record world).2
  list : ∀ query world, asks (.list query) → within world → within (services.list query world).2
  gateway : ∀ query world, asks (.gateway query) → within world →
    within (services.gateway query world).2

/-- In the worlds of `within` the services answer `replies`. -/
structure Services.Answer (services : Services σ) (within : σ → Prop) (replies : Replies) :
    Prop where
  read : ∀ key user world, within world →
    (services.read key user world).1.toOption.join = replies.record key user
  list : ∀ query world, within world →
    Services.affirms (services.list query world).1 = replies.member query
  gateway : ∀ query world, within world →
    (Services.classification (services.gateway query world).1).1 = replies.classified query

/-- In the worlds of `within` the services answer `replies` to the calls of `asks`. -/
structure Services.AnswerTo (services : Services σ) (asks : Call → Prop) (within : σ → Prop)
    (replies : Replies) : Prop where
  read : ∀ key user world, asks (.read key user) → within world →
    (services.read key user world).1.toOption.join = replies.record key user
  list : ∀ query world, asks (.list query) → within world →
    Services.affirms (services.list query world).1 = replies.member query
  gateway : ∀ query world, asks (.gateway query) → within world →
    (Services.classification (services.gateway query world).1).1 = replies.classified query

theorem Services.Answer.to {services : Services σ} {within : σ → Prop} {replies : Replies}
    (answers : services.Answer within replies) (asks : Call → Prop) :
    services.AnswerTo asks within replies where
  read key user world _ := answers.read key user world
  list query world _ := answers.list query world
  gateway query world _ := answers.gateway query world

end Worlds

/-- Every call but that of writing a record. -/
def Call.isQuestion : Call → Prop
  | .write _ => False
  | _ => True

/-- Calls that read records or ask about lists. -/
def Call.isLookup : Call → Prop
  | .read _ _ | .list _ => True
  | _ => False

/-- Calls that ask about lists. -/
def Call.isList : Call → Prop
  | .list _ => True
  | _ => False

theorem Replies.ofStore_agree {list : ListQuery → Except ServiceError (Option String)}
    {gateway : GatewayQuery → Except ServiceError (Option String)} (first second : Store) :
    Replies.Agree Call.isList (.ofStore first list gateway) (.ofStore second list gateway) where
  record _ _ asked := asked.elim
  member _ _ := rfl
  classified _ asked := asked.elim

namespace Inquiry

variable {α β : Type}

/-- The result of an inquiry under fixed replies. -/
def answer (replies : Replies) : Inquiry α → α
  | .done a => a
  | .read _ key user next => (next (replies.record key user)).answer replies
  | .isMember query next => (next (replies.member query)).answer replies
  | .classify query next => (next (replies.classified query)).answer replies
  | .write _ next => next.answer replies
  | .note _ next => next.answer replies

/-- Whatever the replies are, an inquiry makes only the calls of `asks` and has a result of
`gives`. -/
def Guarantees (asks : Call → Prop) (gives : α → Prop) : Inquiry α → Prop
  | .done a => gives a
  | .read _ key user next =>
    asks (.read key user) ∧ ∀ record, (next record).Guarantees asks gives
  | .isMember query next => asks (.list query) ∧ ∀ member, (next member).Guarantees asks gives
  | .classify query next => asks (.gateway query) ∧ ∀ data, (next data).Guarantees asks gives
  | .write record next => asks (.write record) ∧ next.Guarantees asks gives
  | .note _ next => next.Guarantees asks gives

@[simp] theorem answer_pure (replies : Replies) (a : α) :
    (pure a : Inquiry α).answer replies = a := rfl

@[simp] theorem answer_note (replies : Replies) (event : Event) (next : Inquiry α) :
    (Inquiry.note event next).answer replies = next.answer replies := rfl

@[simp] theorem answer_report (replies : Replies) (event : Event) :
    (report event).answer replies = () := rfl

@[simp] theorem answer_recordOf (replies : Replies) (key user : String) :
    (recordOf key user).answer replies = replies.record key user := rfl

@[simp] theorem answer_bind (replies : Replies) (x : Inquiry α) (f : α → Inquiry β) :
    (x >>= f).answer replies = (f (x.answer replies)).answer replies := by
  change (x.bind f).answer replies = _
  induction x with
  | done a => rfl
  | read purpose key user next ih => exact ih _
  | isMember query next ih => exact ih _
  | classify query next ih => exact ih _
  | write record next ih => exact ih
  | note event next ih => exact ih

theorem bind_done (x : Inquiry α) : x.bind .done = x := by
  induction x with
  | done a => rfl
  | read purpose key user next ih => exact congrArg (Inquiry.read purpose key user) (funext ih)
  | isMember query next ih => exact congrArg (Inquiry.isMember query) (funext ih)
  | classify query next ih => exact congrArg (Inquiry.classify query) (funext ih)
  | write record next ih => exact congrArg (Inquiry.write record) ih
  | note event next ih => exact congrArg (Inquiry.note event) ih

theorem bind_bind {γ : Type} (x : Inquiry α) (f : α → Inquiry β) (g : β → Inquiry γ) :
    (x.bind f).bind g = x.bind fun a => (f a).bind g := by
  induction x with
  | done a => rfl
  | read purpose key user next ih => exact congrArg (Inquiry.read purpose key user) (funext ih)
  | isMember query next ih => exact congrArg (Inquiry.isMember query) (funext ih)
  | classify query next ih => exact congrArg (Inquiry.classify query) (funext ih)
  | write record next ih => exact congrArg (Inquiry.write record) ih
  | note event next ih => exact congrArg (Inquiry.note event) ih

instance : LawfulMonad Inquiry := .mk' Inquiry bind_done (fun _ _ => rfl) bind_bind

@[simp] theorem answer_map (replies : Replies) (f : α → β) (x : Inquiry α) :
    (f <$> x).answer replies = f (x.answer replies) := answer_bind replies x (pure ∘ f)

@[simp] theorem guarantees_pure {asks : Call → Prop} {gives : α → Prop} {a : α} :
    (pure a : Inquiry α).Guarantees asks gives ↔ gives a := Iff.rfl

@[simp] theorem guarantees_note {asks : Call → Prop} {gives : α → Prop} {event : Event}
    {next : Inquiry α} :
    (Inquiry.note event next).Guarantees asks gives ↔ next.Guarantees asks gives := Iff.rfl

@[simp] theorem guarantees_report {asks : Call → Prop} {gives : Unit → Prop} {event : Event} :
    (report event).Guarantees asks gives ↔ gives () := Iff.rfl

@[simp] theorem guarantees_recordOf {asks : Call → Prop} {gives : Option Record → Prop}
    {key user : String} :
    (recordOf key user).Guarantees asks gives ↔
      asks (.read key user) ∧ ∀ record, gives record := Iff.rfl

/-- An inquiry guarantees what its second part does after every result of the first. -/
@[simp] theorem guarantees_bind {asks : Call → Prop} {gives : β → Prop} {x : Inquiry α}
    {f : α → Inquiry β} :
    (x >>= f).Guarantees asks gives ↔ x.Guarantees asks fun a => (f a).Guarantees asks gives := by
  change (x.bind f).Guarantees asks gives ↔ _
  induction x with
  | done a => rfl
  | read purpose key user next ih => exact and_congr_right fun _ => forall_congr' ih
  | isMember query next ih => exact and_congr_right fun _ => forall_congr' ih
  | classify query next ih => exact and_congr_right fun _ => forall_congr' ih
  | write record next ih => exact and_congr_right fun _ => ih
  | note event next ih => exact ih

theorem Guarantees.mono {asks asks' : Call → Prop} {gives gives' : α → Prop} {x : Inquiry α}
    (held : x.Guarantees asks gives) (calls : ∀ call, asks call → asks' call)
    (results : ∀ a, gives a → gives' a) : x.Guarantees asks' gives' := by
  induction x with
  | done a => exact results a held
  | read purpose key user next ih => exact ⟨calls _ held.1, fun r => ih r (held.2 r)⟩
  | isMember query next ih => exact ⟨calls _ held.1, fun b => ih b (held.2 b)⟩
  | classify query next ih => exact ⟨calls _ held.1, fun d => ih d (held.2 d)⟩
  | write record next ih => exact ⟨calls _ held.1, ih held.2⟩
  | note event next ih => exact ih held

/-- What is guaranteed of all results holds of the one under given replies. -/
theorem Guarantees.answer {asks : Call → Prop} {gives : α → Prop} {x : Inquiry α}
    (held : x.Guarantees asks gives) (replies : Replies) : gives (x.answer replies) := by
  induction x with
  | done a => exact held
  | read purpose key user next ih => exact ih _ (held.2 _)
  | isMember query next ih => exact ih _ (held.2 _)
  | classify query next ih => exact ih _ (held.2 _)
  | write record next ih => exact ih held.2
  | note event next ih => exact ih held

/-- An inquiry has the same result under replies that agree on all it may ask. -/
theorem Guarantees.answer_congr {asks : Call → Prop} {gives : α → Prop} {x : Inquiry α}
    {first second : Replies} (held : x.Guarantees asks gives) (agree : Replies.Agree asks first second) :
    x.answer first = x.answer second := by
  induction x with
  | done a => rfl
  | read purpose key user next ih =>
    simp only [Inquiry.answer, agree.record key user held.1]
    exact ih _ (held.2 _)
  | isMember query next ih =>
    simp only [Inquiry.answer, agree.member query held.1]
    exact ih _ (held.2 _)
  | classify query next ih =>
    simp only [Inquiry.answer, agree.classified query held.1]
    exact ih _ (held.2 _)
  | write record next ih => exact ih held.2
  | note event next ih => exact ih held

section Run

variable {σ : Type} (services : Services σ)

@[simp] theorem run_pure (a : α) (journal : Journal σ) :
    (pure a : Inquiry α).run services journal = (a, journal) := rfl

@[simp] theorem run_note (event : Event) (next : Inquiry α) (journal : Journal σ) :
    (Inquiry.note event next).run services journal = next.run services (journal.noted event) := rfl

@[simp] theorem run_report (event : Event) (journal : Journal σ) :
    (report event).run services journal = ((), journal.noted event) := rfl

@[simp] theorem run_bind (x : Inquiry α) (f : α → Inquiry β) (journal : Journal σ) :
    (x >>= f).run services journal =
      (f (x.run services journal).1).run services (x.run services journal).2 := by
  change (x.bind f).run services journal = _
  induction x generalizing journal with
  | done a => rfl
  | read purpose key user next ih =>
    simp only [Inquiry.bind, Inquiry.run]
    split <;> exact ih _ _
  | isMember query next ih => exact ih _ _
  | classify query next ih => exact ih _ _
  | write record next ih => exact ih _
  | note event next ih => exact ih _

@[simp] theorem run_map (f : α → β) (x : Inquiry α) (journal : Journal σ) :
    (f <$> x).run services journal =
      (f (x.run services journal).1, (x.run services journal).2) :=
  run_bind services x (pure ∘ f) journal

@[simp] theorem noted_world (journal : Journal σ) (event : Event) :
    (journal.noted event).world = journal.world := rfl

@[simp] theorem notedAny_world (journal : Journal σ) (event : Option Event) :
    (journal.notedAny event).world = journal.world := by
  cases event <;> rfl

@[simp] theorem called_world (journal : Journal σ) (call : Call) (world : σ) :
    (journal.called call world).world = world := rfl

variable {services}

/-- What is guaranteed of all results holds of the one that carrying out gives. -/
theorem Guarantees.run_gives {asks : Call → Prop} {gives : α → Prop} {x : Inquiry α}
    (held : x.Guarantees asks gives) (journal : Journal σ) : gives (x.run services journal).1 := by
  induction x generalizing journal with
  | done a => exact held
  | read purpose key user next ih =>
    simp only [Inquiry.run]
    split <;> exact ih _ (held.2 _) _
  | isMember query next ih => exact ih _ (held.2 _) _
  | classify query next ih => exact ih _ (held.2 _) _
  | write record next ih => exact ih held.2 _
  | note event next ih => exact ih held _

theorem Guarantees.run_within {asks : Call → Prop} {gives : α → Prop} {within : σ → Prop}
    {x : Inquiry α} (held : x.Guarantees asks gives) (stay : services.Stay asks within)
    {journal : Journal σ} (start : within journal.world) :
    within (x.run services journal).2.world := by
  induction x generalizing journal with
  | done a => exact start
  | read purpose key user next ih =>
    have after := stay.read key user journal.world held.1 start
    simp only [Inquiry.run]
    split <;> exact ih _ (held.2 _) after
  | isMember query next ih =>
    exact ih _ (held.2 _) (by simpa using stay.list query journal.world held.1 start)
  | classify query next ih =>
    exact ih _ (held.2 _) (by simpa using stay.gateway query journal.world held.1 start)
  | write record next ih =>
    exact ih held.2 (by simpa using stay.write record journal.world held.1 start)
  | note event next ih => exact ih held start

/-- Carried out where services answer all that it asks as given replies do, an inquiry has its
result under these. -/
theorem Guarantees.run_answerTo {asks : Call → Prop} {gives : α → Prop} {within : σ → Prop}
    {replies : Replies} {x : Inquiry α} (held : x.Guarantees asks gives)
    (stay : services.Stay asks within) (answers : services.AnswerTo asks within replies)
    {journal : Journal σ} (start : within journal.world) :
    (x.run services journal).1 = x.answer replies := by
  induction x generalizing journal with
  | done a => rfl
  | read purpose key user next ih =>
    have after := stay.read key user journal.world held.1 start
    have reply := answers.read key user journal.world held.1 start
    simp only [Inquiry.run, Inquiry.answer, ← reply]
    split <;> rename_i found <;> rw [ih _ (held.2 _) after, found] <;> rfl
  | isMember query next ih =>
    simp only [Inquiry.answer, ← answers.list query journal.world held.1 start]
    exact ih _ (held.2 _) (by simpa using stay.list query journal.world held.1 start)
  | classify query next ih =>
    simp only [Inquiry.answer, ← answers.gateway query journal.world held.1 start]
    exact ih _ (held.2 _) (by simpa using stay.gateway query journal.world held.1 start)
  | write record next ih =>
    exact ih held.2 (by simpa using stay.write record journal.world held.1 start)
  | note event next ih => exact ih held start

/-- Carried out where services answer fixed replies, an inquiry has its result under these. -/
theorem Guarantees.run_answer {asks : Call → Prop} {gives : α → Prop} {within : σ → Prop}
    {replies : Replies} {x : Inquiry α} (held : x.Guarantees asks gives)
    (stay : services.Stay asks within) (answers : services.Answer within replies)
    {journal : Journal σ} (start : within journal.world) :
    (x.run services journal).1 = x.answer replies :=
  held.run_answerTo stay (answers.to asks) start

end Run

section Calls

variable {σ : Type} (services : Services σ) (journal : Journal σ)

theorem calls_notedAny (event : Option Event) :
    (journal.notedAny event).calls = journal.calls := by
  cases event <;> rfl

/-- After a call the journal has one more call and the world that the call leads to, and the inquiry
goes on with what the reply means. -/
theorem run_read (purpose : ReadPurpose) (key user : String) (next : Option Record → Inquiry α) :
    ∃ later : Journal σ, later.world = (services.read key user journal.world).2 ∧
      later.calls = journal.calls ++ [.read key user] ∧
      (Inquiry.read purpose key user next).run services journal =
        (next (services.read key user journal.world).1.toOption.join).run services later := by
  simp only [Inquiry.run]
  split <;> rename_i found <;> rw [found] <;> exact ⟨_, rfl, rfl, rfl⟩

theorem run_isMember (query : ListQuery) (next : Bool → Inquiry α) :
    ∃ later : Journal σ, later.world = (services.list query journal.world).2 ∧
      later.calls = journal.calls ++ [.list query] ∧
      (Inquiry.isMember query next).run services journal =
        (next (Services.affirms (services.list query journal.world).1)).run services later :=
  ⟨_, notedAny_world _ _, calls_notedAny _ _, rfl⟩

theorem run_classify (query : GatewayQuery) (next : Option GatewayData → Inquiry α) :
    ∃ later : Journal σ, later.world = (services.gateway query journal.world).2 ∧
      later.calls = journal.calls ++ [.gateway query] ∧
      (Inquiry.classify query next).run services journal =
        (next (Services.classification (services.gateway query journal.world).1).1).run services
          later :=
  ⟨_, notedAny_world _ _, calls_notedAny _ _, rfl⟩

theorem run_write (record : Record) (next : Inquiry α) :
    ∃ later : Journal σ, later.world = (services.write record journal.world).2 ∧
      later.calls = journal.calls ++ [.write record] ∧
      (Inquiry.write record next).run services journal = next.run services later :=
  ⟨_, notedAny_world _ _, calls_notedAny _ _, rfl⟩

theorem run_recordOf (key user : String) :
    ∃ later : Journal σ, later.world = (services.read key user journal.world).2 ∧
      later.calls = journal.calls ++ [.read key user] ∧
      (recordOf key user).run services journal =
        ((services.read key user journal.world).1.toOption.join, later) :=
  run_read services journal .decision key user .done

/-- What a run gives, and the world it leads to, depend on the world it starts from alone. -/
theorem run_of_world (x : Inquiry α) {journal other : Journal σ}
    (same : journal.world = other.world) :
    (x.run services journal).1 = (x.run services other).1 ∧
      (x.run services journal).2.world = (x.run services other).2.world := by
  induction x generalizing journal other with
  | done a => exact ⟨rfl, same⟩
  | read purpose key user next ih =>
    obtain ⟨later, moved, -, run⟩ := run_read services journal purpose key user next
    obtain ⟨later', moved', -, run'⟩ := run_read services other purpose key user next
    rw [run, run', same]
    exact ih _ (by rw [moved, moved', same])
  | isMember query next ih =>
    obtain ⟨later, moved, -, run⟩ := run_isMember services journal query next
    obtain ⟨later', moved', -, run'⟩ := run_isMember services other query next
    rw [run, run', same]
    exact ih _ (by rw [moved, moved', same])
  | classify query next ih =>
    obtain ⟨later, moved, -, run⟩ := run_classify services journal query next
    obtain ⟨later', moved', -, run'⟩ := run_classify services other query next
    rw [run, run', same]
    exact ih _ (by rw [moved, moved', same])
  | write record next ih =>
    obtain ⟨later, moved, -, run⟩ := run_write services journal record next
    obtain ⟨later', moved', -, run'⟩ := run_write services other record next
    rw [run, run']
    exact ih (by rw [moved, moved', same])
  | note event next ih => exact ih same

end Calls

theorem guarantees_trivial (x : Inquiry α) : x.Guarantees (fun _ => True) (fun _ => True) := by
  induction x with
  | done a => trivial
  | read purpose key user next ih => exact ⟨trivial, ih⟩
  | isMember query next ih => exact ⟨trivial, ih⟩
  | classify query next ih => exact ⟨trivial, ih⟩
  | write record next ih => exact ⟨trivial, ih⟩
  | note event next ih => exact ih

end Inquiry

namespace Services

variable {read : String → String → Except ServiceError (Option Record)}
variable {list : ListQuery → Except ServiceError (Option String)}
variable {gateway : GatewayQuery → Except ServiceError (Option String)}

theorem fixed_stay (asks : Call → Prop) :
    (Services.fixed read list gateway).Stay asks fun _ => True where
  read _ _ _ _ _ := trivial
  write _ _ _ _ := trivial
  list _ _ _ _ := trivial
  gateway _ _ _ _ := trivial

theorem fixed_answer :
    (Services.fixed read list gateway).Answer (fun _ => True) (.ofFixed read list gateway) where
  read _ _ _ _ := rfl
  list _ _ _ := rfl
  gateway _ _ _ := rfl

/-- As long as nothing is written, a store stays as it is. -/
theorem inMemory_stay (store : Store) :
    (Services.inMemory list gateway).Stay Call.isQuestion (· = store) where
  read _ _ _ _ same := same
  write _ _ asked _ := asked.elim
  list _ _ _ same := same
  gateway _ _ _ same := same

theorem inMemory_answer (store : Store) :
    (Services.inMemory list gateway).Answer (· = store) (.ofStore store list gateway) where
  read key user world same := by subst same; rfl
  list _ _ _ := rfl
  gateway _ _ _ := rfl

end Services

theorem Inquiry.run_fixed {α : Type}
    (read : String → String → Except ServiceError (Option Record))
    (list : ListQuery → Except ServiceError (Option String))
    (gateway : GatewayQuery → Except ServiceError (Option String))
    (x : Inquiry α) (journal : Journal Unit) :
    (x.run (Services.fixed read list gateway) journal).1 =
      x.answer (.ofFixed read list gateway) :=
  (guarantees_trivial x).run_answer (Services.fixed_stay _) Services.fixed_answer trivial

end FeatureFlags
