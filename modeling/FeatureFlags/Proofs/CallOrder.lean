import FeatureFlags.Proofs.Granting

namespace FeatureFlags

open Inquiry

variable {ω : Type}

/-- The record that a call writes, if it writes one. -/
def Call.written? : Call → Option Record
  | .write record => some record
  | .read _ _ | .list _ | .gateway _ => none

/-- The records that have been written so far, in order. -/
def Journal.written {σ : Type} (journal : Journal σ) : List Record :=
  journal.calls.filterMap Call.written?

/-- Carried out from a journal, an inquiry makes exactly these calls. -/
def Inquiry.Makes {α σ : Type} (services : Services σ) (x : Inquiry α) (journal : Journal σ)
    (made : List Call) : Prop :=
  (x.run services journal).2.calls = journal.calls ++ made

section Makes

variable {α β σ : Type} {services : Services σ} {journal : Journal σ}

theorem Inquiry.makes_pure (a : α) : Makes services (pure a) journal [] :=
  (List.append_nil _).symm

theorem Inquiry.Makes.bind {x : Inquiry α} {f : α → Inquiry β} {first second : List Call}
    (before : Makes services x journal first)
    (after : Makes services (f (x.run services journal).1) (x.run services journal).2 second) :
    Makes services (x >>= f) journal (first ++ second) := by
  unfold Makes at before after ⊢
  rw [run_bind, after, before, List.append_assoc]

theorem Inquiry.Makes.unique {x : Inquiry α} {made other : List Call}
    (first : Makes services x journal made) (second : Makes services x journal other) :
    made = other :=
  List.append_cancel_left (first.symm.trans second)

/-- After a first call, an inquiry makes the calls that its rest makes. -/
theorem Inquiry.Makes.after {x : Inquiry α} {rest : α × Journal σ} {later : Journal σ}
    {call : Call} {made : List Call} (called : later.calls = journal.calls ++ [call])
    (run : x.run services journal = rest) (makes : rest.2.calls = later.calls ++ made) :
    Makes services x journal (call :: made) := by
  unfold Makes
  rw [run, makes, called, List.append_assoc, List.singleton_append]

theorem Inquiry.makes_recordOf (key user : String) :
    Makes services (recordOf key user) journal [.read key user] := by
  obtain ⟨later, -, called, run⟩ := run_recordOf services journal key user
  exact .after called run (List.append_nil _).symm

theorem Inquiry.result_recordOf (key user : String) :
    ((recordOf key user).run services journal).1 =
      (services.read key user journal.world).1.toOption.join := by
  obtain ⟨later, -, -, run⟩ := run_recordOf services journal key user
  rw [run]

/-- Each call that is made is one that may be made. -/
theorem Inquiry.Guarantees.makes {asks : Call → Prop} {gives : α → Prop} {x : Inquiry α}
    (held : x.Guarantees asks gives) (services : Services σ) (journal : Journal σ) :
    ∃ made, Makes services x journal made ∧ ∀ call ∈ made, asks call := by
  induction x generalizing journal with
  | done a => exact ⟨[], makes_pure a, List.forall_mem_nil _⟩
  | read purpose key user next ih =>
    obtain ⟨later, -, called, run⟩ := run_read services journal purpose key user next
    obtain ⟨made, makes, within⟩ := ih _ (held.2 _) later
    exact ⟨_, .after called run makes, List.forall_mem_cons.mpr ⟨held.1, within⟩⟩
  | isMember query next ih =>
    obtain ⟨later, -, called, run⟩ := run_isMember services journal query next
    obtain ⟨made, makes, within⟩ := ih _ (held.2 _) later
    exact ⟨_, .after called run makes, List.forall_mem_cons.mpr ⟨held.1, within⟩⟩
  | classify query next ih =>
    obtain ⟨later, -, called, run⟩ := run_classify services journal query next
    obtain ⟨made, makes, within⟩ := ih _ (held.2 _) later
    exact ⟨_, .after called run makes, List.forall_mem_cons.mpr ⟨held.1, within⟩⟩
  | write record next ih =>
    obtain ⟨later, -, called, run⟩ := run_write services journal record next
    obtain ⟨made, makes, within⟩ := ih held.2 later
    exact ⟨_, .after called run makes, List.forall_mem_cons.mpr ⟨held.1, within⟩⟩
  | note event next ih => exact ih held (journal.noted event)

end Makes

namespace Services.KeepsRecords

variable {σ : Type} {services : Services σ} {store : σ → Store}

/-- What a run leaves in the store is what its writes put there. -/
theorem run_written {α : Type} (keeps : services.KeepsRecords store) {x : Inquiry α}
    {journal : Journal σ} {made : List Call} (makes : x.Makes services journal made) :
    store (x.run services journal).2.world =
      (made.filterMap Call.written?).foldl Store.insert (store journal.world) := by
  induction x generalizing journal made with
  | done a =>
    have none : made = [] := makes.unique (makes_pure a)
    rw [none]
    rfl
  | read purpose key user next ih =>
    obtain ⟨later, moved, called, run⟩ := run_read services journal purpose key user next
    obtain ⟨rest, further, -⟩ := (guarantees_trivial (next _)).makes services later
    obtain rfl := makes.unique (.after called run further)
    rw [run, ih _ further, moved, keeps.read_store]
    rfl
  | isMember query next ih =>
    obtain ⟨later, moved, called, run⟩ := run_isMember services journal query next
    obtain ⟨rest, further, -⟩ := (guarantees_trivial (next _)).makes services later
    obtain rfl := makes.unique (.after called run further)
    rw [run, ih _ further, moved, keeps.list_store]
    rfl
  | classify query next ih =>
    obtain ⟨later, moved, called, run⟩ := run_classify services journal query next
    obtain ⟨rest, further, -⟩ := (guarantees_trivial (next _)).makes services later
    obtain rfl := makes.unique (.after called run further)
    rw [run, ih _ further, moved, keeps.gateway_store]
    rfl
  | write record next ih =>
    obtain ⟨later, moved, called, run⟩ := run_write services journal record next
    obtain ⟨rest, further, -⟩ := (guarantees_trivial next).makes services later
    obtain rfl := makes.unique (.after called run further)
    rw [run, ih further, moved, keeps.write_store]
    rfl
  | note event next ih => exact ih makes

theorem run_of_written {α : Type} (keeps : services.KeepsRecords store) {x : Inquiry α}
    {journal : Journal σ} {records : List Record}
    (written : (x.run services journal).2.written = journal.written ++ records) :
    store (x.run services journal).2.world = records.foldl Store.insert (store journal.world) := by
  obtain ⟨made, makes, -⟩ := (guarantees_trivial x).makes services journal
  unfold Journal.written at written
  rw [makes, List.filterMap_append] at written
  rw [keeps.run_written makes, List.append_cancel_left written]

end Services.KeepsRecords

/-- Whether a record keeps an experiment that the settings still have. -/
def Settings.restores (settings : Settings ω) (record : Option Record) : Bool :=
  record.any fun r => r.experiment?.any fun (key, variation) =>
    (settings.variationByKey? key variation).isSome

theorem Settings.restores_iff {settings : Settings ω} {record : Option Record} :
    settings.restores record = true ↔
      ∃ c v, Evaluation.keptBy settings record = .experiment c v := by
  cases record with
  | none => simp [restores, Evaluation.keptBy]
  | some r =>
    simp only [restores, Option.any_some, Evaluation.keptBy, Option.elim_some]
    constructor
    · intro available
      obtain ⟨⟨key, variation⟩, names, found⟩ := (Option.any_eq_true _ _).mp available
      obtain ⟨⟨c, v⟩, found⟩ := Option.isSome_iff_exists.mp found
      exact ⟨c, v, Evaluation.kept_of_experiment? names found⟩
    · rintro ⟨c, v, settled⟩
      obtain ⟨names, available⟩ := Evaluation.experiment?_of_kept settled
      rw [names, Option.any_some, available]
      rfl

theorem Settings.restores_eq_false {settings : Settings ω} {record : Option Record}
    (unsettled : ∀ c v, Evaluation.keptBy settings record ≠ .experiment c v) :
    settings.restores record = false :=
  Bool.eq_false_iff.mpr fun restores =>
    let ⟨c, v, settled⟩ := settings.restores_iff.mp restores
    unsettled c v settled

/-- Whether the gateway is asked about a user before a feature is decided. -/
def Feature.asksGateway (f : Feature ω) (user : User) : Bool :=
  f.requiresGateway && user.gateway.isNone && (user.agent?.isSome || user.ip?.isSome)

/-- Calls on the way to a decision: records of the user are read, and the account's lists are asked
for by name. -/
def Settings.Consults (settings : Settings ω) (user : User) (call : Call) : Prop :=
  (∃ key, call = .read key user.id) ∨
    ∃ tag list, list ≠ "" ∧ call = .list ⟨tag, list, settings.account⟩

theorem Scope.asks_consults (scope : Scope ω) :
    scope.Asks (scope.settings.Consults scope.user) where
  read key := Or.inl ⟨key, rfl⟩
  list tag list named := Or.inr ⟨tag, list, named, rfl⟩

namespace Evaluation

section Order

variable [Quantity ω] {σ : Type} (services : Services σ) (settings : Settings ω) (user : User)

omit [Quantity ω] in
theorem fetched_makes (f : Feature ω) (journal : Journal σ) :
    (fetched settings user f).Makes services journal
      (if f.asksGateway user then [.gateway ⟨user.agent?, user.ip?, settings.account⟩] else []) := by
  have asking (query : GatewayQuery) :
      (Inquiry.classify query pure).Makes services journal [.gateway query] := by
    obtain ⟨later, -, called, run⟩ := run_classify services journal query pure
    exact .after called run (List.append_nil _).symm
  unfold fetched fetchGateway Feature.asksGateway
  cases f.requiresGateway && user.gateway.isNone with
  | false => exact makes_pure none
  | true =>
    cases user.agent? with
    | some agent => exact asking _
    | none =>
      cases user.ip? with
      | some ip => exact asking _
      | none => exact makes_pure none

omit [Quantity ω] in
theorem conclude_makes (featureKey : String) (decision : Decision) (journal : Journal σ) :
    let ended := (conclude featureKey user.id decision).run services journal
    (conclude featureKey user.id decision).Makes services journal
      (if ended.1.enabled then [.write (ended.1.record user.id)] else []) := by
  unfold conclude
  cases enabled : decision.enabled with
  | false => exact makes_pure _
  | true =>
    obtain ⟨later, -, called, run⟩ := run_write services journal (decision.record user.id)
      (pure decision)
    rw [if_pos rfl, run]
    simp only [run_pure, enabled, if_true]
    exact .after called run (List.append_nil _).symm

/-- Deciding a feature asks the gateway first, if at all, and writes at the end, if at all. -/
theorem ofFeature_makes (f : Feature ω) (begun : Decision) (session : Session)
    (journal : Journal σ) :
    let ended := (ofFeature settings user f begun session).run services journal
    ∃ further, (ofFeature settings user f begun session).Makes services journal
        ((if f.asksGateway user then [.gateway ⟨user.agent?, user.ip?, settings.account⟩] else []) ++
          (further ++ if ended.1.enabled then [.write (ended.1.record user.id)] else [])) ∧
      ∀ call ∈ further, settings.Consults user call := by
  rw [ofFeature_eq]
  let afterFetch := (fetched settings user f).run services journal
  let scope : Scope ω := ⟨settings, user, afterFetch.1⟩
  obtain ⟨further, makes, consults⟩ :=
    (byRules_guarantees scope.asks_consults f begun session).makes services afterFetch.2
  refine ⟨further, (fetched_makes services settings user f journal).bind (makes.bind ?_), consults⟩
  rw [run_bind, run_bind]
  exact conclude_makes ..

/-- The calls that a decision makes, in order: its record is read, the gateway is asked unless a
kept experiment is restored, more is read and asked, and what has been decided is written. -/
theorem decide_makes (featureKey : String) (journal : Journal σ) :
    let restored := settings.restores (services.read featureKey user.id journal.world).1.toOption.join
    let ended := (decide settings featureKey user).run services journal
    ∃ further, (decide settings featureKey user).Makes services journal
        (.read featureKey user.id ::
          ((if !restored && (settings.feature? featureKey).any (·.asksGateway user) then
              [.gateway ⟨user.agent?, user.ip?, settings.account⟩] else []) ++
            (further ++ if ended.1.enabled && !restored then
              [.write (ended.1.record user.id)] else []))) ∧
      (∀ call ∈ further, settings.Consults user call) ∧ (restored = true → further = []) := by
  intro restored ended
  let read := (recordOf featureKey user.id).run services journal
  have readCalls : read.2.calls = journal.calls ++ [.read featureKey user.id] :=
    makes_recordOf featureKey user.id
  have resumed : Resumed services settings featureKey user (keptBy settings read.1) read.2 ended :=
    decide_resumed services settings featureKey user journal
  have known : restored = settings.restores read.1 := by
    rw [result_recordOf]
  change ∃ further, ended.2.calls = journal.calls ++ _ ∧ _ ∧ _
  clear_value restored ended
  cases resumed with
  | restored settled reported =>
    have again : restored = true := known.trans (settings.restores_iff.mpr ⟨_, _, settled⟩)
    exact ⟨[], by simp [again, reported.2, readCalls], List.forall_mem_nil _, fun _ => rfl⟩
  | missing unsettled missing reported =>
    have new : restored = false := known.trans (settings.restores_eq_false unsettled)
    exact ⟨[], by simp [new, missing, reported.2, readCalls], List.forall_mem_nil _, fun _ => rfl⟩
  | @decided f asking unsettled found reported =>
    have new : restored = false := known.trans (settings.restores_eq_false unsettled)
    obtain ⟨further, makes, consults⟩ := ofFeature_makes services settings user f
      (start featureKey (keptBy settings read.1)).1 (start featureKey (keptBy settings read.1)).2
      asking
    refine ⟨further, ?_, consults, by simp [new]⟩
    rw [makes, reported.2, readCalls, new, found, Option.any_some, Bool.not_false, Bool.true_and,
      Bool.and_true, List.append_assoc, List.singleton_append]

/-- A decision is written if it enables its feature and has not been restored. -/
theorem decide_written (featureKey : String) (journal : Journal σ) :
    let restored := settings.restores (services.read featureKey user.id journal.world).1.toOption.join
    let ended := (decide settings featureKey user).run services journal
    ended.2.written = journal.written ++
      if ended.1.enabled && !restored then [ended.1.record user.id] else [] := by
  intro restored ended
  obtain ⟨further, makes, consults, -⟩ := decide_makes services settings user featureKey journal
  have asked : further.filterMap Call.written? = [] := by
    refine List.filterMap_eq_nil_iff.mpr fun call member => ?_
    rcases consults call member with ⟨key, rfl⟩ | ⟨tag, list, -, rfl⟩ <;> rfl
  change ended.2.calls = _ at makes
  unfold Journal.written
  rw [makes, List.filterMap_append, List.filterMap_cons_none rfl, List.filterMap_append,
    List.filterMap_append, asked]
  split <;> split <;> rfl

/-- What a decision leaves in the store is what it writes. -/
theorem decide_keeps {store : σ → Store} (keeps : services.KeepsRecords store)
    (featureKey : String) (journal : Journal σ) :
    let restored := settings.restores ((store journal.world).get? featureKey user.id)
    let ended := (decide settings featureKey user).run services journal
    ended.2.written = journal.written ++
        (if ended.1.enabled && !restored then [ended.1.record user.id] else []) ∧
      store ended.2.world = if ended.1.enabled && !restored then
        (store journal.world).insert (ended.1.record user.id) else store journal.world := by
  intro restored ended
  have written : ended.2.written = journal.written ++
      if ended.1.enabled && !restored then [ended.1.record user.id] else [] := by
    have known : (services.read featureKey user.id journal.world).1.toOption.join =
        (store journal.world).get? featureKey user.id := by rw [keeps.read]; rfl
    have written := decide_written services settings user featureKey journal
    dsimp only at written
    rwa [known] at written
  refine ⟨written, ?_⟩
  rw [keeps.run_of_written written]
  split <;> rfl

end Order

theorem refusal?_eq_none_iff {featureKey : String} {user : User} :
    refusal? featureKey user = none ↔ user.id ≠ "" ∧ featureKey ≠ "" := by
  unfold refusal?
  split
  · simp_all
  · split <;> simp_all

end Evaluation

/-- The calls of an evaluation, in order. A request that is refused makes none. Another one reads its
record; asks the gateway if the feature needs it, the user does not bring the data, and there is
something to ask for; consults records and lists; and writes the decision if it enables the feature.
When a kept experiment is restored nothing follows the reading. -/
theorem calls_in_order [Quantity ω] {σ : Type} (services : Services σ) (settings : Settings ω)
    (featureKey : String) (user : User) (journal : Journal σ) :
    let restored := settings.restores (services.read featureKey user.id journal.world).1.toOption.join
    let ended := (Evaluation.tryEvaluate settings featureKey user).run services journal
    (user.id = "" ∨ featureKey = "" →
      (∃ error, ended.1 = .error error) ∧ ended.2.calls = journal.calls) ∧
    (user.id ≠ "" → featureKey ≠ "" → ∃ decision asked further written,
      ended.1 = .ok decision ∧
      ended.2.calls = journal.calls ++ .read featureKey user.id :: (asked ++ further ++ written) ∧
      asked = (if !restored && (settings.feature? featureKey).any (·.asksGateway user) then
        [.gateway ⟨user.agent?, user.ip?, settings.account⟩] else []) ∧
      (∀ call ∈ further, settings.Consults user call) ∧
      (restored = true → further = []) ∧
      written = if decision.enabled && !restored then [.write (decision.record user.id)] else []) := by
  intro restored ended
  unfold ended Evaluation.tryEvaluate
  constructor
  · intro empty
    cases refused : Evaluation.refusal? featureKey user with
    | some error => exact ⟨⟨error, rfl⟩, rfl⟩
    | none =>
      obtain ⟨named, keyed⟩ := Evaluation.refusal?_eq_none_iff.mp refused
      exact (empty.elim named keyed).elim
  · intro named keyed
    obtain ⟨further, makes, consults, short⟩ :=
      Evaluation.decide_makes services settings user featureKey journal
    rw [Evaluation.refusal?_eq_none_iff.mpr ⟨named, keyed⟩]
    simp only [run_bind, run_pure]
    refine ⟨_, _, further, _, rfl, ?_, rfl, consults, short, rfl⟩
    rw [makes, List.append_assoc]

/-- An evaluation with records in memory changes at most the record of its feature and user. It
writes once, when its decision enables the feature and is not a kept experiment, and then the record
names what has been granted; else the store stays as it is. -/
theorem evaluation_writes_its_decision [Quantity ω] {τ : Type}
    (list : ListQuery → τ → Except ServiceError (Option String) × τ)
    (gateway : GatewayQuery → τ → Except ServiceError (Option String) × τ) (settings : Settings ω)
    (featureKey : String) (user : User) (journal : Journal (Store × τ)) :
    let before := journal.world.1
    let ended := (Evaluation.tryEvaluate settings featureKey user).run
      (Services.recorded list gateway) journal
    let after := ended.2.world.1
    let restored := settings.restores (before.get? featureKey user.id)
    (∀ key id, ¬(key = featureKey ∧ id = user.id) → after.get? key id = before.get? key id) ∧
    (∀ decision, ended.1 = .ok decision → decision.enabled = true → restored = false →
      let record : Record := {
        featureKey := featureKey
        user := user.id
        rolloutId := decision.rollout.map (·.campaign)
        rolloutKey := decision.rollout.map (·.campaignKey)
        rolloutVariation := decision.rollout.map (·.variation)
        experimentId := decision.experiment.map (·.campaign)
        experimentKey := decision.experiment.map (·.campaignKey)
        experimentVariation := decision.experiment.map (·.variation) }
      ended.2.written = journal.written ++ [record] ∧ after = before.insert record ∧
        after.get? featureKey user.id = some record) ∧
    ((∀ decision, ended.1 = .ok decision → decision.enabled = true → restored = true) →
      ended.2.written = journal.written ∧ after = before) := by
  intro before ended after restored
  unfold after ended Evaluation.tryEvaluate
  cases Evaluation.refusal? featureKey user with
  | some error => exact ⟨fun _ _ _ => rfl, nofun, fun _ => ⟨rfl, rfl⟩⟩
  | none =>
    simp only [run_bind, run_pure]
    let decided := (Evaluation.decide settings featureKey user).run
      (Services.recorded list gateway) journal
    obtain ⟨written, stored⟩ : decided.2.written = journal.written ++
          (if decided.1.enabled && !restored then [decided.1.record user.id] else []) ∧
        decided.2.world.1 = if decided.1.enabled && !restored then
          before.insert (decided.1.record user.id) else before :=
      Evaluation.decide_keeps _ settings user (Services.recorded_keepsRecords list gateway)
        featureKey journal
    have about : decided.1.featureKey = featureKey :=
      (Evaluation.decide_wellFormed _ settings featureKey user journal).about
    have inserted := Store.get?_insert_self before (decided.1.record user.id)
    change _ ∧ (∀ decision, Except.ok decided.1 = .ok decision → _) ∧ _
    cases writes : decided.1.enabled && !restored with
    | false =>
      rw [writes, if_neg Bool.false_ne_true] at written stored
      rw [List.append_nil] at written
      refine ⟨fun _ _ _ => by rw [stored], fun decision same enabled new => ?_,
        fun _ => ⟨written, stored⟩⟩
      obtain rfl := Except.ok.inj same
      rw [enabled, new] at writes
      cases writes
    | true =>
      rw [writes, if_pos rfl] at written stored
      obtain ⟨enabled, new⟩ := Bool.and_eq_true_iff.mp writes
      refine ⟨fun key id other => ?_, fun decision same _ _ => ?_, fun kept => ?_⟩
      · rw [stored]
        exact Store.get?_insert_other _ _ (by rwa [← about] at other)
      · obtain rfl := Except.ok.inj same
        rw [Decision.record, about] at written stored inserted
        exact ⟨written, stored, by rw [stored]; exact inserted⟩
      · rw [kept _ rfl enabled] at new
        cases new

end FeatureFlags
