import FeatureFlags.Proofs.Keeping

namespace FeatureFlags

open Inquiry

variable {ω : Type}

namespace Services

/-- A failed reading becomes no record. -/
def readable : Except ServiceError (Option Record) → Except ServiceError (Option Record)
  | .ok record => .ok record
  | .error _ => .ok .none

/-- Whatever a list service replies becomes no reply, unless it is the word `true`, in any letter
case and with blanks around it. -/
def affirmed : Except ServiceError (Option String) → Except ServiceError (Option String)
  | .ok (some text) =>
    if (Text.trimChars text.toList).map Char.toLower = "true".toList then .ok (some text)
    else .ok .none
  | .ok .none | .error _ => .ok .none

/-- Whatever the gateway replies becomes no reply, unless it can be read. -/
def legible : Except ServiceError (Option String) → Except ServiceError (Option String)
  | .ok (some text) => if (GatewayData.ofText? text).isSome then .ok (some text) else .ok .none
  | .ok .none | .error _ => .ok .none

/-- The same collaborators when each failure and each unclear reply is silence instead, and when
writing does and replies something else. -/
def silenced {σ : Type} (services : Services σ)
    (write : Record → σ → Except ServiceError Unit × σ) : Services σ where
  read key user world :=
    (readable (services.read key user world).1, (services.read key user world).2)
  write := write
  list query world := (affirmed (services.list query world).1, (services.list query world).2)
  gateway query world :=
    (legible (services.gateway query world).1, (services.gateway query world).2)

/-- Two collections of collaborators whose replies mean the same, and that change in the same way
with every question. Writing may differ. -/
structure Alike {σ : Type} (first second : Services σ) : Prop where
  read : ∀ key user world,
    (first.read key user world).1.toOption.join = (second.read key user world).1.toOption.join ∧
      (first.read key user world).2 = (second.read key user world).2
  list : ∀ query world,
    affirms (first.list query world).1 = affirms (second.list query world).1 ∧
      (first.list query world).2 = (second.list query world).2
  gateway : ∀ query world,
    (classification (first.gateway query world).1).1 =
        (classification (second.gateway query world).1).1 ∧
      (first.gateway query world).2 = (second.gateway query world).2

theorem toOption_readable (reply : Except ServiceError (Option Record)) :
    (readable reply).toOption.join = reply.toOption.join := by
  cases reply <;> rfl

theorem affirms_affirmed (reply : Except ServiceError (Option String)) :
    affirms (affirmed reply) = affirms reply := by
  match reply with
  | .error _ | .ok .none => rfl
  | .ok (some text) =>
    by_cases word : (Text.trimChars text.toList).map Char.toLower = "true".toList
    · rw [affirmed, if_pos word]
    · rw [affirmed, if_neg word]
      exact (decide_eq_false word).symm

theorem classification_legible (reply : Except ServiceError (Option String)) :
    (classification (legible reply)).1 = (classification reply).1 := by
  match reply with
  | .error _ | .ok .none => rfl
  | .ok (some text) =>
    cases read : GatewayData.ofText? text with
    | none => simp [legible, classification, read]
    | some data => simp [legible, classification, read]

theorem alike_silenced {σ : Type} (services : Services σ)
    (write : Record → σ → Except ServiceError Unit × σ) :
    services.Alike (services.silenced write) where
  read _ _ _ := ⟨(toOption_readable _).symm, rfl⟩
  list _ _ := ⟨(affirms_affirmed _).symm, rfl⟩
  gateway _ _ := ⟨(classification_legible _).symm, rfl⟩

end Services

namespace Inquiry

variable {α β : Type}

/-- Carried out with either collaborators, an inquiry has the same result and makes the same
calls. -/
def RunsAlike {σ : Type} (x : Inquiry α) (first second : Services σ) (journal : Journal σ) : Prop :=
  (x.run first journal).1 = (x.run second journal).1 ∧
    (x.run first journal).2.calls = (x.run second journal).2.calls

/-- What an inquiry writes it writes at the end, with no further call. -/
def WritesLast : Inquiry α → Prop
  | .done _ => True
  | .read _ _ _ next => ∀ record, (next record).WritesLast
  | .isMember _ next => ∀ member, (next member).WritesLast
  | .classify _ next => ∀ data, (next data).WritesLast
  | .write _ next => next.Guarantees (fun _ => False) fun _ => True
  | .note _ next => next.WritesLast

theorem Guarantees.writesLast {x : Inquiry α} {gives : α → Prop}
    (asks : x.Guarantees Call.isQuestion gives) : x.WritesLast := by
  induction x with
  | done a => trivial
  | read purpose key user next ih => exact fun record => ih record (asks.2 record)
  | isMember query next ih => exact fun member => ih member (asks.2 member)
  | classify query next ih => exact fun data => ih data (asks.2 data)
  | write record next ih => exact asks.1.elim
  | note event next ih => exact ih asks

theorem WritesLast.after {x : Inquiry α} {f : α → Inquiry β} {gives : α → Prop}
    (asks : x.Guarantees Call.isQuestion gives) (last : ∀ a, (f a).WritesLast) :
    (x >>= f).WritesLast := by
  change (x.bind f).WritesLast
  induction x with
  | done a => exact last a
  | read purpose key user next ih => exact fun record => ih record (asks.2 record)
  | isMember query next ih => exact fun member => ih member (asks.2 member)
  | classify query next ih => exact fun data => ih data (asks.2 data)
  | write record next ih => exact asks.1.elim
  | note event next ih => exact ih asks

theorem WritesLast.before {x : Inquiry α} {f : α → Inquiry β} (last : x.WritesLast)
    (calm : ∀ a, (f a).Guarantees (fun _ => False) fun _ => True) : (x >>= f).WritesLast := by
  change (x.bind f).WritesLast
  induction x with
  | done a => exact ((calm a).mono (fun _ impossible => impossible.elim) fun _ held => held).writesLast
  | read purpose key user next ih => exact fun record => ih record (last record)
  | isMember query next ih => exact fun member => ih member (last member)
  | classify query next ih => exact fun data => ih data (last data)
  | write record next ih => exact Guarantees.bind last fun a _ => calm a
  | note event next ih => exact ih last

section Alike

variable {σ : Type} {first second : Services σ}

/-- What makes no call has the same result everywhere. -/
theorem Guarantees.run_calm {x : Inquiry α} {gives : α → Prop}
    (calm : x.Guarantees (fun _ => False) gives) (journal other : Journal σ) :
    (x.run first journal).1 = (x.run second other).1 ∧
      (x.run first journal).2.calls = journal.calls := by
  induction x generalizing journal other with
  | done a => exact ⟨rfl, rfl⟩
  | note event next ih => exact ih calm (journal.noted event) (other.noted event)
  | _ => exact calm.1.elim

/-- Only what replies mean matters for the result and for the calls on the way to it. -/
theorem WritesLast.run_alike (alike : first.Alike second) {x : Inquiry α} (last : x.WritesLast)
    {journal other : Journal σ} (world : journal.world = other.world)
    (calls : journal.calls = other.calls) :
    (x.run first journal).1 = (x.run second other).1 ∧
      (x.run first journal).2.calls = (x.run second other).2.calls := by
  induction x generalizing journal other with
  | done a => exact ⟨rfl, calls⟩
  | read purpose key user next ih =>
    obtain ⟨later, moved, called, run⟩ := run_read first journal purpose key user next
    obtain ⟨later', moved', called', run'⟩ := run_read second other purpose key user next
    obtain ⟨reply, same⟩ := alike.read key user other.world
    rw [run, run', world, reply]
    exact ih _ (last _) (by rw [moved, moved', world, same]) (by rw [called, called', calls])
  | isMember query next ih =>
    obtain ⟨later, moved, called, run⟩ := run_isMember first journal query next
    obtain ⟨later', moved', called', run'⟩ := run_isMember second other query next
    obtain ⟨reply, same⟩ := alike.list query other.world
    rw [run, run', world, reply]
    exact ih _ (last _) (by rw [moved, moved', world, same]) (by rw [called, called', calls])
  | classify query next ih =>
    obtain ⟨later, moved, called, run⟩ := run_classify first journal query next
    obtain ⟨later', moved', called', run'⟩ := run_classify second other query next
    obtain ⟨reply, same⟩ := alike.gateway query other.world
    rw [run, run', world, reply]
    exact ih _ (last _) (by rw [moved, moved', world, same]) (by rw [called, called', calls])
  | write record next ih =>
    -- Writing may lead to different worlds, but after it nobody is called.
    obtain ⟨later, -, called, run⟩ := run_write first journal record next
    obtain ⟨later', -, called', run'⟩ := run_write second other record next
    obtain ⟨result, still⟩ : (next.run first later).1 = (next.run second later').1 ∧
        (next.run first later).2.calls = later.calls := Guarantees.run_calm last later later'
    obtain ⟨-, still'⟩ : (next.run second later').1 = (next.run first later).1 ∧
        (next.run second later').2.calls = later'.calls := Guarantees.run_calm last later' later
    rw [run, run']
    exact ⟨result, by rw [still, still', called, called', calls]⟩
  | note event next ih => exact ih last world calls

end Alike

end Inquiry

theorem Evaluation.conclude_writesLast (featureKey user : String) (decision : Decision) :
    (conclude featureKey user decision).WritesLast := by
  unfold conclude
  split <;> trivial

section Last

variable [Quantity ω] (settings : Settings ω) (user : User)

theorem Evaluation.ofFeature_writesLast (f : Feature ω) (begun : Decision) (session : Session) :
    (ofFeature settings user f begun session).WritesLast := by
  rw [ofFeature_eq]
  refine .after (fetched_guarantees settings user f) fun data => ?_
  refine .after (byRules_guarantees (Scope.asks_isQuestion _) f begun session) fun ruled => ?_
  exact conclude_writesLast ..

theorem Evaluation.decide_writesLast (featureKey : String) :
    (decide settings featureKey user).WritesLast := by
  refine .after (guarantees_recordOf.mpr ⟨trivial, fun _ => trivial⟩ :
    (recordOf featureKey user.id).Guarantees Call.isQuestion fun _ => True) fun record => ?_
  dsimp only
  split
  · trivial
  · refine .after (guarantees_report.mpr trivial :
      (report _).Guarantees Call.isQuestion fun _ => True) fun _ => ?_
    split
    · exact ofFeature_writesLast settings user _ _ _
    · trivial
  · split
    · exact ofFeature_writesLast settings user _ _ _
    · trivial

theorem Evaluation.evaluate_writesLast (featureKey : String) :
    (evaluate settings featureKey user).WritesLast := by
  refine .before ?_ fun ended => ?_
  · unfold tryEvaluate
    split
    · trivial
    · exact .before (decide_writesLast settings user featureKey) fun _ => trivial
  · split <;> trivial

omit [Quantity ω] in
theorem Evaluation.meets_guarantees (dsl : Json) :
    (meets settings dsl user).Guarantees Call.isQuestion fun _ => True :=
  meets_asks (Scope.asks_isQuestion _) dsl

theorem Evaluation.groupWinner?_guarantees (group : UInt64) (featureKey : String) :
    (groupWinner? settings group featureKey user).Guarantees Call.isQuestion fun _ => True := by
  unfold groupWinner?
  split
  · trivial
  · have allowed := Scope.asks_isQuestion (⟨settings, user, none⟩ : Scope ω)
    exact (Contest.winner?_guarantees allowed (Rules.rolloutPassed_guarantees allowed) group _
      {}).bind fun _ _ => trivial

end Last

/-- Collaborators that fail, or reply what cannot be understood, do as good as keep silent: decisions,
conditions and winners of groups come out the same, after the same calls. Nor does it matter what
becomes of a decision that is written. -/
theorem silence_runs_alike [Quantity ω] {σ : Type} (services : Services σ)
    (write : Record → σ → Except ServiceError Unit × σ) (settings : Settings ω) (user : User)
    (journal : Journal σ) :
    (∀ featureKey, (Evaluation.evaluate settings featureKey user).RunsAlike services
      (services.silenced write) journal) ∧
    (∀ dsl, (Evaluation.meets settings dsl user).RunsAlike services (services.silenced write)
      journal) ∧
    ∀ group featureKey, (Evaluation.groupWinner? settings group featureKey user).RunsAlike services
      (services.silenced write) journal := by
  have alike := services.alike_silenced write
  refine ⟨fun featureKey => ?_, fun dsl => ?_, fun group featureKey => ?_⟩
  · exact (Evaluation.evaluate_writesLast settings user featureKey).run_alike alike rfl rfl
  · exact (Evaluation.meets_guarantees settings user dsl).writesLast.run_alike alike rfl rfl
  · exact (Evaluation.groupWinner?_guarantees settings user group featureKey).writesLast.run_alike
      alike rfl rfl

end FeatureFlags
