import FeatureFlags.Proofs.Candidates
import FeatureFlags.Proofs.Granting
import FeatureFlags.Proofs.LastingExclusivity

namespace FeatureFlags

open Inquiry

variable {ω : Type}

/-- Whatever its state, a computation has the same result and leaves the same state under either
replies. -/
def Inquiry.Indifferent {s α : Type} (first second : Replies) (x : StateT s Inquiry α) : Prop :=
  ∀ state, (x.run state).answer first = (x.run state).answer second

section Indifferent

variable {s α β : Type} {first second : Replies}

/-- The second part may rely on what the first one gives. -/
theorem Inquiry.Indifferent.after {asks : Call → Prop} {gives : α → Prop} {x : StateT s Inquiry α}
    {f : α → StateT s Inquiry β} (before : Indifferent first second x) (held : Always asks gives x)
    (rest : ∀ a, gives a → Indifferent first second (f a)) :
    Indifferent first second (x >>= f) := by
  intro state
  rw [StateT.run_bind, answer_bind, answer_bind, ← before state]
  exact rest _ ((held state).answer first) _

theorem Inquiry.Indifferent.bind {x : StateT s Inquiry α} {f : α → StateT s Inquiry β}
    (before : Indifferent first second x) (rest : ∀ a, Indifferent first second (f a)) :
    Indifferent first second (x >>= f) := before.after (always_trivial x) fun a _ => rest a

theorem Inquiry.indifferent_pure (b : β) :
    Indifferent first second (pure b : StateT s Inquiry β) := fun _ => rfl

theorem Inquiry.indifferent_lift {x : Inquiry β} (same : x.answer first = x.answer second) :
    Indifferent first second (liftM x : StateT s Inquiry β) := by
  intro state
  rw [answer_lift, answer_lift, same]

theorem Inquiry.indifferent_report (event : Event) :
    Indifferent first second (liftM (report event) : StateT s Inquiry Unit) := fun _ => rfl

theorem Inquiry.indifferent_get : Indifferent first second (get : StateT s Inquiry s) :=
  fun _ => rfl

theorem Inquiry.indifferent_set (state : s) :
    Indifferent first second (set state : StateT s Inquiry Unit) := fun _ => rfl

theorem Inquiry.indifferent_modify (f : s → s) :
    Indifferent first second (modify f : StateT s Inquiry Unit) := fun _ => rfl

end Indifferent

/-- What is kept about an experiment when the record is this one: its campaign, its key and its
variation. -/
def Record.keptExperiment (record : Option Record) :
    Option UInt64 × Option String × Option UInt64 :=
  (record.bind (·.experimentId), record.bind (·.experimentKey), record.bind (·.experimentVariation))

/-- Replies that differ at most in what they keep about a user's rollouts. -/
structure Replies.KeepAlike (user : String) (first second : Replies) : Prop where
  lists : Replies.Agree Call.isList first second
  experiments : ∀ key, Record.keptExperiment (first.record key user) =
    Record.keptExperiment (second.record key user)

theorem Record.experiment?_congr {a b : Option Record}
    (same : keptExperiment a = keptExperiment b) : a.bind experiment? = b.bind experiment? := by
  have shown (record : Option Record) : record.bind experiment? =
      (nonEmpty? (keptExperiment record).2.1).bind fun key =>
        (keptExperiment record).2.2.bind fun variation => some (key, variation) := by
    cases record <;> rfl
  rw [shown, shown, same]

theorem Settings.ToggleFree.variations [Quantity ω] {settings : Settings ω}
    (free : settings.ToggleFree) (processed : settings.Processed) {f : Feature ω} {c : Campaign ω}
    (member : f ∈ settings.features) (linked : c ∈ f.linked) :
    ∀ v ∈ c.variations, ∀ t ∈ v.segment, ¬t.hasToggle := by
  obtain ⟨source, among, rule, rfl⟩ := processed.source member linked
  exact fun v inside => (free source among).2 v (Campaign.narrowed_variations_subset inside)

section Keeping

variable {scope : Scope ω} {first second : Replies}

/-- Whether a record names a campaign as an experiment is seen from what it keeps about one. -/
theorem Contest.isNamedBy_congr {a b : Option Record} (settings : Settings ω) (c : Campaign ω)
    (same : Record.keptExperiment a = Record.keptExperiment b) :
    (a.any fun r => isNamedBy settings r c) = b.any fun r => isNamedBy settings r c := by
  have names : a.bind (·.experiment?) = b.bind (·.experiment?) := Record.experiment?_congr same
  have unnamed {r : Record} (none : r.experiment? = none) : isNamedBy settings r c = false := by
    rw [isNamedBy, none]
  cases a with
  | none =>
    cases b with
    | none => rfl
    | some r => exact (unnamed names.symm).symm
  | some q =>
    cases b with
    | none => exact unnamed names
    | some r =>
      change q.experiment? = r.experiment? at names
      rw [Option.any_some, Option.any_some, isNamedBy, isNamedBy, names]

theorem Rules.storedWinner?_congr (alike : Replies.KeepAlike scope.user.id first second)
    (group : UInt64) :
    (storedWinner? scope group).answer first = (storedWinner? scope group).answer second := by
  have shown (replies : Replies) : (storedWinner? scope group).answer replies =
      let kept := Record.keptExperiment (replies.record (groupKey group) scope.user.id)
      kept.1.bind fun campaign => kept.2.1.map fun _ =>
        .ofStored scope.settings campaign kept.2.2 := by
    rw [storedWinner?, answer_bind, answer_recordOf]
    cases replies.record (groupKey group) scope.user.id with
    | none => rfl
    | some r =>
      cases id : r.experimentId <;> cases key : r.experimentKey <;>
        simp [Record.keptExperiment, id, key]
  rw [shown, shown, alike.experiments]

variable [Quantity ω] (processed : scope.settings.Processed) (free : scope.settings.ToggleFree)
variable (alike : Replies.KeepAlike scope.user.id first second)
include processed free alike

theorem Scope.enters_alike {f : Feature ω} {c : Campaign ω} (member : f ∈ scope.settings.features)
    (linked : c ∈ f.linked) : scope.enters first c = scope.enters second c :=
  scope.enters_congr processed free alike.lists member linked

theorem Rules.rolloutPassed_indifferent {f : Feature ω} (member : f ∈ scope.settings.features) :
    Indifferent first second (rolloutPassed scope f) := by
  have entered : (firstEntered? scope f.rollouts).answer first =
      (firstEntered? scope f.rollouts).answer second := by
    rw [answer_firstEntered?, answer_firstEntered?]
    refine List.find?_congr fun c inside => ?_
    exact Scope.enters_alike processed free alike member (Feature.mem_rollouts.mp inside).1
  refine indifferent_get.bind fun session => ?_
  split
  · exact indifferent_pure _
  split
  · exact (indifferent_report _).bind fun _ => indifferent_pure _
  refine (indifferent_lift entered).bind fun entered => ?_
  split
  · exact indifferent_pure _
  refine (indifferent_lift ?_).bind fun given => ?_
  · rw [Campaign.answer_reportTraffic, Campaign.answer_reportTraffic]
  split
  · exact indifferent_pure _
  · exact (indifferent_set _).bind fun _ => indifferent_pure _

omit processed free alike [Quantity ω] in
theorem Contest.candidates_indifferent {s : Type} {gate : Feature ω → StateT s Inquiry Bool}
    (members seen : List String) {fs : List (Feature ω)}
    (gated : ∀ f ∈ fs, Indifferent first second (gate f)) :
    Indifferent first second (candidates gate members seen fs) := by
  induction fs generalizing seen with
  | nil => exact indifferent_pure _
  | cons f rest ih =>
    have later (seen : List String) := ih seen fun g inside => gated g (List.mem_cons_of_mem _ inside)
    refine (gated f (List.mem_cons_self ..)).bind fun passed => ?_
    split
    · exact (later _).bind fun _ => indifferent_pure _
    · exact later _

theorem Contest.sorted_congr {found : List (Feature ω × Campaign ω)}
    (linked : ∀ candidate ∈ found,
      candidate.1 ∈ scope.settings.features ∧ candidate.2 ∈ candidate.1.linked) :
    (sorted scope found).answer first = (sorted scope found).answer second := by
  have kept : scope.keepsCandidate first = scope.keepsCandidate second :=
    funext fun candidate => isNamedBy_congr scope.settings candidate.2 (alike.experiments _)
  rw [answer_sorted, answer_sorted, kept]
  congr 2
  refine List.filter_congr fun candidate inside => ?_
  obtain ⟨member, among⟩ := linked candidate inside
  rw [Scope.joins, Scope.joins, Scope.enters_alike processed free alike member among]

theorem Contest.winner?_indifferent (id : UInt64) (f : Feature ω) :
    Indifferent first second (winner? scope (Rules.rolloutPassed scope) id f) := by
  unfold winner?
  split
  · exact (indifferent_report _).bind fun _ => indifferent_pure _
  rename_i group found
  have gated : ∀ g ∈ features scope.settings.features [] group.members,
      Indifferent first second (Rules.rolloutPassed scope g) := fun g inside =>
    Rules.rolloutPassed_indifferent processed free alike (features_subset inside)
  refine (candidates_indifferent group.members [] gated).after (candidates_linked _ _ _ _)
    fun found linked => ?_
  refine (indifferent_lift (sorted_congr processed free alike fun candidate inside => ?_)).bind
    fun parts => ?_
  · obtain ⟨member, among, -⟩ := linked candidate inside
    exact ⟨features_subset member, among⟩
  split
  split
  · exact (indifferent_report _).bind fun _ => indifferent_pure _
  · exact (indifferent_report _).bind fun _ => indifferent_pure _

omit processed free [Quantity ω] in
theorem Campaign.targetedVariations_congr (c : Campaign ω) (attributes : Attributes)
    {vs : List (Variation ω)} (plain : ∀ v ∈ vs, ∀ t ∈ v.segment, ¬t.hasToggle) :
    (c.targetedVariations scope attributes vs).answer first =
      (c.targetedVariations scope attributes vs).answer second := by
  induction vs with
  | nil => rfl
  | cons v rest ih =>
    have later := ih fun w inside => plain w (List.mem_cons_of_mem _ inside)
    unfold targetedVariations
    split
    · exact later
    · rename_i t own
      have held : (t.holds scope attributes).Guarantees Call.isList fun _ => True :=
        Segment.holds_guarantees (fun _ _ _ => trivial) _ t fun toggle =>
          absurd toggle (plain v (List.mem_cons_self ..) t own)
      simp only [answer_bind, answer_pure, held.answer_congr alike.lists, later]

variable {f : Feature ω} (member : f ∈ scope.settings.features)
include member

theorem Rules.forced?_congr {c : Campaign ω} (linked : c ∈ f.linked) :
    (forced? scope c).answer first = (forced? scope c).answer second := by
  unfold forced?
  split
  · split
    · have targeted := c.targetedVariations_congr alike (scope.forcingAttributes c)
        (free.variations processed member linked)
      simp only [Campaign.forced?, answer_bind, targeted]
      rfl
    · rfl
  all_goals rfl

theorem Rules.outcome_indifferent {c : Campaign ω} (linked : c ∈ f.linked) :
    Indifferent first second (outcome scope f c) := by
  have entered : (c.mayEnter scope (scope.entryAttributes c)).answer first =
      (c.mayEnter scope (scope.entryAttributes c)).answer second :=
    Scope.enters_alike processed free alike member linked
  have settles (group : UInt64) (winner : GroupWinner) :
      Indifferent first second (settle group c winner) :=
    (indifferent_modify _).bind fun _ => indifferent_pure _
  refine (indifferent_lift (forced?_congr processed free alike member linked)).bind fun forced => ?_
  split
  · exact indifferent_pure _
  split
  · exact (indifferent_lift entered).bind fun _ => indifferent_pure _
  refine indifferent_get.bind fun session => ?_
  split
  · exact indifferent_pure _
  refine (indifferent_lift (storedWinner?_congr alike _)).bind fun stored => ?_
  split
  · exact settles _ _
  refine (indifferent_lift entered).bind fun entered => ?_
  split
  · exact (Contest.winner?_indifferent processed free alike _ f).bind fun winner => settles _ _
  · exact indifferent_pure _

omit processed free alike member in
theorem Rules.chosen_indifferent (c : Campaign ω) (outcome : Outcome ω) :
    Indifferent first second (chosen scope c outcome) := by
  unfold chosen
  split
  · exact indifferent_pure _
  · refine (indifferent_lift ?_).bind fun _ => indifferent_pure _
    rw [Campaign.answer_reportTraffic, Campaign.answer_reportTraffic]

/-- An experiment is granted whatever is kept about rollouts. -/
theorem Evaluation.grantExperiment_indifferent (entered : Decision) {cs : List (Campaign ω)}
    (linked : ∀ c ∈ cs, c ∈ f.linked) :
    Indifferent first second (grantExperiment scope f entered cs) := by
  induction cs with
  | nil => exact indifferent_pure _
  | cons c rest ih =>
    rw [grantExperiment_cons]
    refine (Rules.outcome_indifferent processed free alike member
      (linked c (List.mem_cons_self ..))).bind fun outcome => ?_
    split
    · exact (Rules.chosen_indifferent c outcome).bind fun _ => indifferent_pure _
    · exact ih fun d later => linked d (List.mem_cons_of_mem _ later)

end Keeping

end FeatureFlags
