import FeatureFlags.Proofs.Candidates
import FeatureFlags.Proofs.Endings
import FeatureFlags.Proofs.Keeping
import FeatureFlags.Proofs.SegmentMeaning

namespace FeatureFlags

open Inquiry

variable {ω : Type}

/-- A decision for this campaign is kept: under its key, for a variation that settings still have,
and for a personalize campaign for the one that it is about. -/
def Record.Names (record : Record) (settings : Settings ω) (c : Campaign ω) : Prop :=
  ∃ variation, record.experiment? = some (c.key, variation) ∧
    (settings.variationByKey? c.key variation).isSome ∧
    (c.kind = .personalize → c.variations.head?.map (·.id) = some variation)

theorem Contest.isNamedBy_iff {settings : Settings ω} {record : Record} {c : Campaign ω} :
    isNamedBy settings record c = true ↔ record.Names settings c := by
  unfold isNamedBy Record.Names
  cases record.experiment? with
  | none => simp
  | some kept =>
    obtain ⟨key, variation⟩ := kept
    by_cases same : key = c.key
    · subst same
      cases kind : c.kind with
      | personalize => cases c.variations.head? <;> simp
      | ab => simp
      | rollout => simp
    · simp [same]

instance Record.decidableNames (record : Record) (settings : Settings ω) (c : Campaign ω) :
    Decidable (record.Names settings c) :=
  decidable_of_iff _ Contest.isNamedBy_iff

namespace Scope

/-- The condition for entry into a campaign, if there is one, holds of the user's own variables and
identity. -/
def MayEnter (scope : Scope ω) (replies : Replies) (c : Campaign ω) : Prop :=
  ∀ segment, c.entrySegment? = some segment →
    segment.Means scope replies (scope.entryAttributes c)

theorem enters_iff {scope : Scope ω} {replies : Replies} {c : Campaign ω} :
    scope.enters replies c = true ↔ scope.MayEnter replies c := by
  unfold enters Campaign.mayEnter MayEnter
  cases c.entrySegment? with
  | none => simp
  | some segment => simp [Segment.answer_holds_iff]

/-- A decision about a campaign is kept with a feature. -/
def Keeps (scope : Scope ω) (replies : Replies) (f : Feature ω) (c : Campaign ω) : Prop :=
  ∃ record, replies.record f.key scope.user.id = some record ∧ record.Names scope.settings c

theorem keepsCandidate_iff {scope : Scope ω} {replies : Replies} {f : Feature ω}
    {c : Campaign ω} : scope.keepsCandidate replies (f, c) = true ↔ scope.Keeps replies f c := by
  simp [keepsCandidate, Keeps, Option.any_eq_true, Contest.isNamedBy_iff]

instance (scope : Scope ω) (replies : Replies) (f : Feature ω) (c : Campaign ω) :
    Decidable (scope.Keeps replies f c) :=
  decidable_of_iff _ keepsCandidate_iff

section Field

variable (scope : Scope ω) (opens : Feature ω → Bool) (group : Group ω)

/-- The first open feature that links a member. -/
def sponsor? (identity : String) : Option (Feature ω) :=
  ((Contest.features scope.settings.features [] group.members).filter opens).find?
    fun f => Contest.links f identity

/-- All candidates of a group, each with its sponsor. -/
def field : List (Feature ω × Campaign ω) :=
  Contest.brought group.members []
    ((Contest.features scope.settings.features [] group.members).filter opens)

variable {scope opens group}

theorem mem_field_iff {f : Feature ω} {c : Campaign ω} :
    (f, c) ∈ scope.field opens group ↔ c.identity ∈ group.members ∧
      scope.sponsor? opens group c.identity = some f ∧ f.linkedAs? c.identity = some c := by
  simp [field, sponsor?, Contest.mem_brought_iff]

theorem field_identities : ((scope.field opens group).map (·.2.identity)).Nodup :=
  Contest.brought_identities

theorem sponsor_of_sponsor? {identity : String} {f : Feature ω}
    (first : scope.sponsor? opens group identity = some f) :
    f ∈ scope.settings.features ∧ opens f = true := by
  have inside := List.mem_of_find?_eq_some first
  obtain ⟨among, opened⟩ := List.mem_filter.mp inside
  exact ⟨Contest.features_subset among, opened⟩

end Field

variable [Quantity ω]

section Pool

variable (scope : Scope ω) (replies : Replies) (opens : Feature ω → Bool) (group : Group ω)

/-- The candidates about whom a decision is kept. -/
def kept : List (Campaign ω) :=
  ((scope.field opens group).filter (scope.keepsCandidate replies)).map (·.2)

/-- The other candidates that the user may enter and takes part in. -/
def eligible : List (Campaign ω) :=
  ((scope.field opens group).filter fun candidate =>
    !scope.keepsCandidate replies candidate && scope.joins replies candidate.2).map (·.2)

/-- Those among whom the winner is found. -/
def pool : List (Campaign ω) :=
  if (scope.kept replies opens group).isEmpty then scope.eligible replies opens group
  else scope.kept replies opens group

variable {scope replies opens group}

omit [Quantity ω] in
theorem mem_kept_iff {c : Campaign ω} : c ∈ scope.kept replies opens group ↔
    ∃ f, (f, c) ∈ scope.field opens group ∧ scope.Keeps replies f c := by
  simp [kept, keepsCandidate_iff]

theorem mem_eligible {c : Campaign ω} (member : c ∈ scope.eligible replies opens group) :
    ∃ f, (f, c) ∈ scope.field opens group ∧ scope.MayEnter replies c ∧
      c.includes scope.user.id = true := by
  obtain ⟨⟨f, d⟩, among, rfl⟩ := List.mem_map.mp member
  obtain ⟨inside, parts⟩ := List.mem_filter.mp among
  obtain ⟨-, joins⟩ := Bool.and_eq_true_iff.mp parts
  obtain ⟨enters, part⟩ := Bool.and_eq_true_iff.mp joins
  exact ⟨f, inside, enters_iff.mp enters, part⟩

/-- Whoever is in the pool is a candidate with a decision kept, or one that may enter and takes part
while nobody has a decision kept. -/
theorem mem_pool {c : Campaign ω} (member : c ∈ scope.pool replies opens group) :
    ∃ f, (f, c) ∈ scope.field opens group ∧ (scope.Keeps replies f c ∨
      (∀ g d, (g, d) ∈ scope.field opens group → ¬ scope.Keeps replies g d) ∧
        scope.MayEnter replies c ∧ c.includes scope.user.id = true) := by
  unfold pool at member
  split at member
  · rename_i empty
    obtain ⟨f, inside, joins⟩ := mem_eligible member
    refine ⟨f, inside, Or.inr ⟨fun g d among keeps => ?_, joins⟩⟩
    have kept : d ∈ scope.kept replies opens group := mem_kept_iff.mpr ⟨g, among, keeps⟩
    rw [List.isEmpty_iff.mp empty] at kept
    cases kept
  · obtain ⟨f, inside, keeps⟩ := mem_kept_iff.mp member
    exact ⟨f, inside, Or.inl keeps⟩

end Pool

/-- The campaign that wins a group, whichever feature asks. -/
def victor? (scope : Scope ω) (replies : Replies) (opens : Feature ω → Bool) (id : UInt64) :
    Option (Campaign ω) :=
  (scope.settings.group? id).bind fun group =>
    Contest.poolWinner id group scope.user.id (scope.pool replies opens group)

end Scope

/-- Where services answer fixed replies, a computation ends as it does under these. -/
theorem Inquiry.Leads.ends {s α σ : Type} {services : Services σ} {within : σ → Prop}
    {replies : Replies} {asks : Call → Prop} {pre : s → Prop} {post : α → s → Prop}
    {gives : α → Prop} {x : StateT s Inquiry α} (leads : Leads replies pre x post)
    (calls : Always asks gives x) (stay : services.Stay asks within)
    (answers : services.Answer within replies) : Ends services within pre x post := by
  intro state journal inside start
  refine ⟨(calls state).run_within stay inside, ?_⟩
  rw [(calls state).run_answer stay answers inside]
  exact leads state start

namespace Contest

/-- What a feature sees of the winner among those about whom a decision is stored or, when there are
none, among the fresh ones. -/
def seenWinner? [Quantity ω] (id : UInt64) (group : Group ω) (user : String) (asking : Feature ω)
    (stored fresh : List (Campaign ω)) : Option (Campaign ω) :=
  (poolWinner id group user (if stored.isEmpty then fresh else stored)).filter fun c =>
    links asking c.identity

/-- What a contest takes place in: services that, in the worlds of `within`, find the records of
`replies`, and a gate that shows which features are open. Worlds and states may change meanwhile, but
questions and the gate lead to no others than these. -/
structure Arena (ω s σ : Type) where
  scope : Scope ω
  services : Services σ
  within : σ → Prop
  replies : Replies
  stay : services.Stay Call.isQuestion within
  remembers : ∀ key user world, within world →
    (services.read key user world).1.toOption.join = replies.record key user
  gate : Feature ω → StateT s Inquiry Bool
  opens : Feature ω → Bool
  inv : s → Prop
  shows : ∀ f ∈ scope.settings.features, Ends services within inv (gate f) fun passed state =>
    passed = opens f ∧ inv state

namespace Arena

variable {s σ : Type}

/-- Where a contest may begin. -/
structure Start (arena : Arena ω s σ) where
  state : s
  journal : Journal σ
  inside : arena.within journal.world
  held : arena.inv state

/-- The winner of a group as a feature sees it. -/
def winner? [Quantity ω] (arena : Arena ω s σ) (start : arena.Start) (id : UInt64)
    (asking : Feature ω) : Option (Campaign ω) :=
  (((Contest.winner? arena.scope arena.gate id asking).run start.state).run arena.services
    start.journal).1.1

/-- The gate that rules make is one where keys tell features apart and all replies depend on what is
asked alone. -/
def ofRules [Quantity ω] (scope : Scope ω) (services : Services σ) (within : σ → Prop)
    (replies : Replies) (stay : services.Stay Call.isQuestion within)
    (answers : services.Answer within replies)
    (distinct : (scope.settings.features.map (·.key)).Nodup) : Arena ω Session σ where
  scope := scope
  services := services
  within := within
  replies := replies
  stay := stay
  remembers := answers.read
  gate := Rules.rolloutPassed scope
  opens := scope.passes replies
  inv := (·.Sound scope replies)
  shows f member := by
    have leads : Leads replies (·.Sound scope replies) (Rules.rolloutPassed scope f)
        fun passed session => passed = scope.passes replies f ∧ session.Sound scope replies := by
      intro session sound
      obtain ⟨passed, sound, -⟩ := Rules.rolloutPassed_leads distinct member session.winners session
        ⟨sound, rfl⟩
      exact ⟨passed, sound⟩
    exact leads.ends (Rules.rolloutPassed_guarantees scope.asks_isQuestion f) stay answers

variable {arena : Arena ω s σ}

theorem candidates_ends (members seen : List String) {fs : List (Feature ω)}
    (known : ∀ f ∈ fs, f ∈ arena.scope.settings.features) :
    Ends arena.services arena.within arena.inv (candidates arena.gate members seen fs)
      fun found state => found = brought members seen (fs.filter arena.opens) ∧ arena.inv state := by
  induction fs generalizing seen with
  | nil => exact ends_pure fun state held => ⟨rfl, held⟩
  | cons f rest ih =>
    have later (seen : List String) := ih seen fun g inside => known g (List.mem_cons_of_mem _ inside)
    refine (arena.shows f (known f (List.mem_cons_self ..))).bind fun passed => Ends.assuming ?_
    rintro rfl
    split
    · rename_i opened
      rw [List.filter_cons_of_pos opened]
      refine (later _).bind fun others => Ends.assuming ?_
      rintro rfl
      exact ends_pure fun state held => ⟨rfl, held⟩
    · rename_i closed
      rw [List.filter_cons_of_neg closed]
      exact later seen

/-- The winner is found among what sorting the candidates gives somewhere in the arena. -/
theorem winner?_sorted [Quantity ω] {id : UInt64} {group : Group ω}
    (found : arena.scope.settings.group? id = some group)
    (parts : List (Campaign ω) × List (Campaign ω) → Prop)
    (sorts : ∀ journal : Journal σ, arena.within journal.world →
      parts ((sorted arena.scope (arena.scope.field arena.opens group)).run arena.services journal).1)
    (start : arena.Start) (asking : Feature ω) :
    ∃ stored fresh, parts (stored, fresh) ∧ arena.winner? start id asking =
      seenWinner? id group arena.scope.user.id asking stored fresh := by
  have known : ∀ f ∈ features arena.scope.settings.features [] group.members,
      f ∈ arena.scope.settings.features := fun f inside => features_subset inside
  have ends : Ends arena.services arena.within arena.inv
      (Contest.winner? arena.scope arena.gate id asking) fun winner _ =>
        ∃ stored fresh, parts (stored, fresh) ∧ winner =
          seenWinner? id group arena.scope.user.id asking stored fresh := by
    unfold Contest.winner?
    rw [found]
    dsimp only
    refine (candidates_ends group.members [] known).bind fun candidates => Ends.assuming ?_
    rintro rfl
    have sorting : Ends arena.services arena.within arena.inv
        (liftM (sorted arena.scope (arena.scope.field arena.opens group)) :
          StateT s Inquiry (List (Campaign ω) × List (Campaign ω)))
        fun sorted state => parts sorted ∧ arena.inv state := by
      refine ends_lift fun state journal inside held => ⟨?_, sorts journal inside, held⟩
      exact (sorted_guarantees arena.scope.asks_isQuestion _).run_within arena.stay inside
    refine sorting.bind fun sorted => Ends.assuming fun given => ?_
    obtain ⟨stored, fresh⟩ := sorted
    dsimp only
    split
    · rename_i nobody
      refine (ends_report _).bind fun _ => ends_pure fun _ _ => ⟨stored, fresh, given, ?_⟩
      rw [seenWinner?, nobody, Option.filter_none]
    · rename_i c won
      refine (ends_report _).bind fun _ => ends_pure fun _ _ => ⟨stored, fresh, given, ?_⟩
      rw [seenWinner?, won, Option.filter_some]
  exact (ends start.state start.journal start.inside start.held).2

theorem run_recordOf {journal : Journal σ} (inside : arena.within journal.world)
    (key user : String) : ∃ next, arena.within next.world ∧
      (recordOf key user).run arena.services journal = (arena.replies.record key user, next) := by
  have asks : (recordOf key user).Guarantees Call.isQuestion fun _ => True := ⟨trivial, fun _ => trivial⟩
  have found : ((recordOf key user).run arena.services journal).1 = arena.replies.record key user := by
    rw [← arena.remembers key user journal.world inside]
    simp only [recordOf, Inquiry.run]
    split <;> rename_i reply <;> rw [reply] <;> rfl
  exact ⟨_, asks.run_within arena.stay inside, Prod.ext found rfl⟩

theorem run_mayEnter {journal : Journal σ} (inside : arena.within journal.world)
    (c : Campaign ω) : ∃ enters next, arena.within next.world ∧
      (c.mayEnter arena.scope (arena.scope.entryAttributes c)).run arena.services journal =
        (enters, next) := by
  have asks := c.mayEnter_guarantees arena.scope.asks_isQuestion (arena.scope.entryAttributes c)
  exact ⟨_, _, asks.run_within arena.stay inside, rfl⟩

/-- What sorting calls stored does not depend on what lists and the gateway reply. -/
theorem sorted_stored [Quantity ω] (found : List (Feature ω × Campaign ω)) {journal : Journal σ}
    (inside : arena.within journal.world) :
    ((sorted arena.scope found).run arena.services journal).1.1 =
      (found.filter (arena.scope.keepsCandidate arena.replies)).map (·.2) := by
  induction found generalizing journal with
  | nil => rfl
  | cons candidate rest ih =>
    obtain ⟨f, c⟩ := candidate
    obtain ⟨next, after, read⟩ := run_recordOf inside f.key arena.scope.user.id
    rw [sorted, run_bind, read]
    by_cases named : ((arena.replies.record f.key arena.scope.user.id).any fun r =>
        isNamedBy arena.scope.settings r c) = true
    · have kept : arena.scope.keepsCandidate arena.replies (f, c) = true := named
      rw [if_pos named, List.filter_cons_of_pos kept, run_bind, run_bind, List.map_cons,
        ← @ih (next.noted (.storedCandidate arena.scope.user.id c)) after]
      rfl
    · have unkept : ¬arena.scope.keepsCandidate arena.replies (f, c) = true := named
      obtain ⟨enters, later, entry, entered⟩ := run_mayEnter after c
      rw [if_neg named, List.filter_cons_of_neg unkept, run_bind, entered]
      cases enters with
      | false =>
        simp only [Bool.false_eq_true, if_false, run_bind, run_pure]
        exact ih entry
      | true =>
        simp only [if_true, Campaign.reportInclusion, run_bind, run_pure, run_note]
        generalize c.includes arena.scope.user.id = part
        cases part with
        | true =>
          simp only [if_true, run_bind, run_pure, run_report]
          exact ih entry
        | false =>
          simp only [Bool.false_eq_true, if_false, run_bind, run_pure]
          exact ih entry

theorem winner?_of_missing [Quantity ω] {id : UInt64}
    (missing : arena.scope.settings.group? id = none) (start : arena.Start)
    (asking : Feature ω) : arena.winner? start id asking = none := by
  unfold winner? Contest.winner?
  rw [missing]
  rfl

/-- Where a decision is kept about one candidate alone, this one wins. -/
theorem winner?_of_kept [Quantity ω] {id : UInt64} {group : Group ω} {c : Campaign ω}
    (found : arena.scope.settings.group? id = some group)
    (alone : arena.scope.kept arena.replies arena.opens group = [c]) (start : arena.Start)
    (asking : Feature ω) :
    arena.winner? start id asking = (some c).filter fun c => links asking c.identity := by
  obtain ⟨stored, fresh, same, won⟩ := winner?_sorted found
    (fun parts => parts.1 = arena.scope.kept arena.replies arena.opens group)
    (fun journal inside => sorted_stored _ inside) start asking
  have single : stored = [c] := same.trans alone
  rw [won, single]
  rfl

/-- Where all replies depend on what is asked alone, the winner is found in the pool. -/
theorem winner?_steady [Quantity ω]
    (steady : arena.services.Answer arena.within arena.replies) (start : arena.Start) (id : UInt64)
    (asking : Feature ω) :
    arena.winner? start id asking =
      (arena.scope.victor? arena.replies arena.opens id).filter fun c => links asking c.identity := by
  unfold Scope.victor?
  cases found : arena.scope.settings.group? id with
  | none => exact winner?_of_missing found start asking
  | some group =>
    have sorts (journal : Journal σ) (inside : arena.within journal.world) :
        ((sorted arena.scope (arena.scope.field arena.opens group)).run arena.services journal).1 =
          (arena.scope.kept arena.replies arena.opens group,
            arena.scope.eligible arena.replies arena.opens group) := by
      rw [(sorted_guarantees arena.scope.asks_isQuestion _).run_answer arena.stay steady inside,
        answer_sorted]
      rfl
    obtain ⟨stored, fresh, same, won⟩ := winner?_sorted found (· = _) sorts start asking
    cases same
    exact won

end Arena

end Contest

end FeatureFlags
