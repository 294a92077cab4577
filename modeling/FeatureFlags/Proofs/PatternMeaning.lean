import FeatureFlags.Pattern.Tree
import Mathlib.Data.Finset.Card
import Mathlib.Data.Nat.Bitwise

namespace FeatureFlags.Pattern

/-- `n` steps of a relation, one after the other. -/
def Rounds (R : Nat → Nat → Prop) : Nat → Nat → Nat → Prop
  | 0, i, j => j = i
  | n + 1, i, k => ∃ j, R i j ∧ Rounds R n j k

/-- The character before a place of a text. -/
def charBefore (text : List Char) : Nat → Option Char
  | 0 => none
  | i + 1 => text[i]?

namespace Tree

mutual

/-- Whether the tree matches what stands between two places of a text. -/
def Matches (text : List Char) : Tree → Nat → Nat → Prop
  | .empty, i, j | .setting, i, j => j = i
  | .set s _, i, j => (∃ c, text[i]? = some c ∧ s.contains c = true) ∧ j = i + 1
  | .look l, i, j =>
    i ≤ text.length ∧ l.holds (charBefore text i) text[i]? = true ∧ j = i
  | .cat items, i, j => MatchesInTurn text items i j
  | .alt branches, i, j => MatchesAny text branches i j
  | .group _ _ inner, i, j => Matches text inner i j
  | .repeated inner min max, i, j =>
    ∃ more, (∀ most, max = some most → more ≤ most - min) ∧
      Rounds (Matches text inner) (min + more) i j

/-- Whether the items match, one behind the other. -/
def MatchesInTurn (text : List Char) : List Tree → Nat → Nat → Prop
  | [], i, j => j = i
  | t :: rest, i, k => ∃ j, Matches text t i j ∧ MatchesInTurn text rest j k

/-- Whether some of the branches matches. -/
def MatchesAny (text : List Char) : List Tree → Nat → Nat → Prop
  | [], _, _ => False
  | t :: rest, i, j => Matches text t i j ∨ MatchesAny text rest i j

end

end Tree

section Rounds

variable {R : Nat → Nat → Prop} {i j k m n : Nat}

theorem rounds_add : Rounds R (m + n) i k ↔ ∃ j, Rounds R m i j ∧ Rounds R n j k := by
  induction m generalizing i with
  | zero => simp [Rounds]
  | succ m ih =>
    rw [Nat.succ_add]
    simp only [Rounds, ih]
    constructor
    · rintro ⟨a, first, b, rounds, last⟩
      exact ⟨b, ⟨a, first, rounds⟩, last⟩
    · rintro ⟨b, ⟨a, first, rounds⟩, last⟩
      exact ⟨a, first, b, rounds, last⟩

theorem rounds_one : Rounds R 1 i j ↔ R i j := by
  simp [Rounds]

/-- A relation that leads only to some first numbers, or nowhere else. -/
def Within (bound : Nat) (R : Nat → Nat → Prop) : Prop := ∀ i j, R i j → j = i ∨ j ≤ bound

theorem Within.rounds {bound : Nat} (within : Within bound R) : Within bound (Rounds R n) := by
  induction n with
  | zero => exact fun i j same => .inl same
  | succ n ih =>
    rintro i k ⟨j, step, rounds⟩
    rcases ih j k rounds with rfl | low
    · exact within i k step
    · exact .inr low

/-- What can be reached at all is reached in as many rounds as there are places to go to. -/
theorem Within.short {bound : Nat} (within : Within bound R) (rounds : Rounds R n i j) :
    ∃ m ≤ bound + 1, Rounds R m i j := by
  classical
  let reached (m : Nat) : Finset Nat :=
    (Finset.range (bound + 1)).filter fun j => ∃ r ≤ m, Rounds R r i j
  have grows (m : Nat) : reached m ⊆ reached (m + 1) := by
    intro j
    simp only [reached, Finset.mem_filter]
    rintro ⟨low, r, few, rounds⟩
    exact ⟨low, r, by omega, rounds⟩
  -- It cannot grow in every round, for there are not so many places.
  obtain ⟨m, few, stable⟩ : ∃ m ≤ bound + 1, reached (m + 1) = reached m := by
    by_contra growing
    push Not at growing
    have large (m : Nat) (few : m ≤ bound + 2) : m ≤ (reached m).card := by
      induction m with
      | zero => exact Nat.zero_le _
      | succ m ih =>
        have more := Finset.card_lt_card
          ((grows m).ssubset_of_ne (growing m (by omega)).symm)
        have := ih (by omega)
        omega
    have small : (reached (bound + 2)).card ≤ bound + 1 :=
      (Finset.card_filter_le _ _).trans_eq (Finset.card_range _)
    have := large (bound + 2) le_rfl
    omega
  have soon (r j : Nat) (rounds : Rounds R r i j) : ∃ r' ≤ m, Rounds R r' i j := by
    induction r generalizing j with
    | zero => exact ⟨0, Nat.zero_le m, rounds⟩
    | succ r ih =>
      obtain ⟨a, before, last⟩ := rounds_add.mp rounds
      rw [rounds_one] at last
      obtain ⟨r', few', rounds'⟩ := ih a before
      rcases within a j last with rfl | low
      · exact ⟨r', few', rounds'⟩
      · have here : j ∈ reached (m + 1) := by
          simp only [reached, Finset.mem_filter, Finset.mem_range]
          exact ⟨by omega, r' + 1, by omega, rounds_add.mpr ⟨a, rounds', rounds_one.mpr last⟩⟩
        rw [stable] at here
        exact (Finset.mem_filter.mp here).2
  obtain ⟨r', few', rounds'⟩ := soon n j rounds
  exact ⟨r', by omega, rounds'⟩

end Rounds

namespace Places

variable {step : Places → Places} {R : Nat → Nat → Prop}

/-- A step of sets of places that goes along a relation. -/
def Follows (step : Places → Places) (R : Nat → Nat → Prop) : Prop :=
  ∀ (places : Places) (j : Nat), (step places).testBit j = true ↔ ∃ i, places.testBit i = true ∧ R i j

theorem testBit_first (b : Bool) (x : Nat) : (b.toNat + 2 * x).testBit 0 = b := by
  have bit : (b.toNat + 2 * x) % 2 = b.toNat := by
    have := b.toNat_lt
    omega
  rw [Nat.testBit_zero, bit]
  cases b <;> rfl

theorem testBit_further (b : Bool) (x i : Nat) : (b.toNat + 2 * x).testBit (i + 1) = x.testBit i := by
  have half : (b.toNat + 2 * x) / 2 = x := by
    have := b.toNat_lt
    omega
  rw [Nat.testBit_succ, half]

theorem testBit_keep (holds : Option Char → Option Char → Bool) (before : Option Char)
    (text : List Char) (places : Places) (i : Nat) :
    (keep holds before text places).testBit i = true ↔
      places.testBit i = true ∧ i ≤ text.length ∧
        holds (if i = 0 then before else charBefore text i) text[i]? = true := by
  induction text generalizing before places i with
  | nil =>
    rw [keep, ← Nat.add_zero (Bool.toNat _), ← Nat.mul_zero 2]
    cases i with
    | zero =>
      rw [testBit_first]
      simp
    | succ i =>
      rw [testBit_further]
      simp
  | cons c rest ih =>
    rw [keep]
    cases i with
    | zero =>
      rw [testBit_first]
      simp
    | succ i =>
      rw [testBit_further, ih, Nat.testBit_succ]
      cases i <;> simp [charBefore]

theorem testBit_next (places : Places) (j : Nat) :
    places.next.testBit j = true ↔ ∃ i, places.testBit i = true ∧ j = i + 1 := by
  cases j with
  | zero => simp [next, Nat.testBit_zero]
  | succ j => simp [next, Nat.testBit_succ]

theorem times_fixed {places : Places} (stays : step places = places) (n : Nat) :
    times step n places = places := by
  cases n with
  | zero => rfl
  | succ n => rw [times, if_pos stays]

theorem follows_times (follows : Follows step R) (n : Nat) : Follows (times step n) (Rounds R n) := by
  induction n with
  | zero => exact fun places j => by simp [times, Rounds]
  | succ n ih =>
    intro places j
    have onwards : (∃ i, places.testBit i = true ∧ Rounds R (n + 1) i j) ↔
        (times step n (step places)).testBit j = true := by
      rw [ih]
      simp only [Rounds, follows places]
      constructor
      · rintro ⟨i, here, m, first, rounds⟩
        exact ⟨m, ⟨i, here, first⟩, rounds⟩
      · rintro ⟨m, ⟨i, here, first⟩, rounds⟩
        exact ⟨i, here, m, first, rounds⟩
    rw [onwards, times]
    by_cases stays : step places = places
    · rw [if_pos stays, stays, times_fixed stays]
    · rw [if_neg stays]

/-- Places from which every step stays among them, but for the fresh ones. -/
structure Explored (R : Nat → Nat → Prop) (reached fresh : Places) : Prop where
  fresh_reached : ∀ i, fresh.testBit i = true → reached.testBit i = true
  closed : ∀ i j, reached.testBit i = true → fresh.testBit i = false → R i j →
    reached.testBit j = true

section Growth

variable {reached fresh : Places} (follows : Follows step R) (explored : Explored R reached fresh)
include follows explored

/-- A step from the new places reaches what one from all places does. -/
theorem testBit_grown (j : Nat) : (reached ||| step fresh).testBit j = true ↔
    reached.testBit j = true ∨ ∃ i, reached.testBit i = true ∧ R i j := by
  rw [Nat.testBit_or, Bool.or_eq_true, follows]
  constructor
  · rintro (here | ⟨i, first, leads⟩)
    · exact .inl here
    · exact .inr ⟨i, explored.fresh_reached i first, leads⟩
  · rintro (here | ⟨i, here, leads⟩)
    · exact .inl here
    · cases first : fresh.testBit i with
      | true => exact .inr ⟨i, first, leads⟩
      | false => exact .inl (explored.closed i j here first leads)

theorem Explored.grown :
    Explored R (reached ||| step fresh) ((reached ||| step fresh) ^^^ reached) := by
  constructor
  · intro i new
    cases old : reached.testBit i with
    | true => exact (testBit_grown follows explored i).mpr (.inl old)
    | false => simpa [Nat.testBit_xor, old] using new
  · intro i j here new leads
    have old : reached.testBit i = true := by
      simpa [Nat.testBit_xor, here] using new
    exact (testBit_grown follows explored j).mpr (.inr ⟨i, old, leads⟩)

/-- Where a step reaches nothing new, no number of steps does. -/
theorem testBit_of_rounds (stays : reached ||| step fresh = reached) {m i j : Nat}
    (here : reached.testBit i = true) (rounds : Rounds R m i j) : reached.testBit j = true := by
  induction m generalizing i with
  | zero => exact (rounds : j = i) ▸ here
  | succ m ih =>
    obtain ⟨k, leads, rounds⟩ := rounds
    have grown := (testBit_grown follows explored k).mpr (.inr ⟨i, here, leads⟩)
    exact ih (stays ▸ grown) rounds

end Growth

theorem testBit_upTo (follows : Follows step R) {reached fresh : Places}
    (explored : Explored R reached fresh) (n j : Nat) :
    (upTo step n reached fresh).testBit j = true ↔
      ∃ i, reached.testBit i = true ∧ ∃ m ≤ n, Rounds R m i j := by
  induction n generalizing reached fresh with
  | zero => simp [upTo, Rounds]
  | succ n ih =>
    have grown := testBit_grown follows explored
    rw [upTo]
    by_cases stays : reached ||| step fresh = reached
    · rw [if_pos stays]
      constructor
      · exact fun here => ⟨j, here, 0, Nat.zero_le _, rfl⟩
      · rintro ⟨i, here, m, -, rounds⟩
        exact testBit_of_rounds follows explored stays here rounds
    · rw [if_neg stays, ih (explored.grown follows)]
      constructor
      · rintro ⟨i, here, m, few, rounds⟩
        rcases (grown i).mp here with old | ⟨k, old, leads⟩
        · exact ⟨i, old, m, by omega, rounds⟩
        · exact ⟨k, old, m + 1, by omega, i, leads, rounds⟩
      · rintro ⟨i, here, m, few, rounds⟩
        cases m with
        | zero => exact ⟨i, (grown i).mpr (.inl here), 0, Nat.zero_le _, rounds⟩
        | succ m =>
          obtain ⟨k, leads, rounds⟩ := rounds
          exact ⟨k, (grown k).mpr (.inr ⟨i, here, leads⟩), m, by omega, rounds⟩

end Places

namespace Tree

mutual

theorem matches_within (text : List Char) : (t : Tree) → Within text.length (Matches text t)
  | .empty | .setting => fun i j same => .inl (by simpa [Matches] using same)
  | .set s _ => fun i j here => by
    simp only [Matches] at here
    obtain ⟨⟨c, at_, -⟩, rfl⟩ := here
    exact .inr (List.getElem?_eq_some_iff.mp at_).1
  | .look l => fun i j here => by
    simp only [Matches] at here
    exact .inl here.2.2
  | .cat items => fun i j here => by
    simp only [Matches] at here
    exact matchesInTurn_within text items i j here
  | .alt branches => fun i j here => by
    simp only [Matches] at here
    exact matchesAny_within text branches i j here
  | .group _ _ inner => fun i j here => by
    simp only [Matches] at here
    exact matches_within text inner i j here
  | .repeated inner min max => fun i j here => by
    simp only [Matches] at here
    obtain ⟨more, -, rounds⟩ := here
    exact (matches_within text inner).rounds i j rounds

theorem matchesInTurn_within (text : List Char) :
    (ts : List Tree) → Within text.length (MatchesInTurn text ts)
  | [] => fun i j same => .inl (by simpa [MatchesInTurn] using same)
  | t :: rest => fun i k here => by
    simp only [MatchesInTurn] at here
    obtain ⟨j, first, others⟩ := here
    rcases matchesInTurn_within text rest j k others with rfl | low
    · exact matches_within text t i k first
    · exact .inr low

theorem matchesAny_within (text : List Char) :
    (ts : List Tree) → Within text.length (MatchesAny text ts)
  | [] => fun i j here => by simp [MatchesAny] at here
  | t :: rest => fun i j here => by
    simp only [MatchesAny] at here
    rcases here with here | here
    · exact matches_within text t i j here
    · exact matchesAny_within text rest i j here

end

mutual

theorem ends_follows (text : List Char) : (t : Tree) → Places.Follows (ends text t) (Matches text t)
  | .empty | .setting => fun places j => by simp [ends, Matches]
  | .set s _ => fun places j => by
    simp only [ends, Matches]
    rw [Places.testBit_next]
    simp only [Places.testBit_keep, Option.any_eq_true]
    constructor
    · rintro ⟨i, ⟨here, -, member⟩, rfl⟩
      exact ⟨i, here, member, rfl⟩
    · rintro ⟨i, here, ⟨c, at_, member⟩, rfl⟩
      have low := (List.getElem?_eq_some_iff.mp at_).1
      exact ⟨i, ⟨here, low.le, c, at_, member⟩, rfl⟩
  | .look l => fun places j => by
    simp only [ends, Matches]
    rw [Places.testBit_keep]
    have before (i : Nat) : (if i = 0 then none else charBefore text i) = charBefore text i := by
      cases i <;> rfl
    rw [before]
    constructor
    · rintro ⟨here, within, holds⟩
      exact ⟨j, here, within, holds, rfl⟩
    · rintro ⟨i, here, within, holds, rfl⟩
      exact ⟨here, within, holds⟩
  | .cat items => fun places j => by
    simp only [ends, Matches]
    exact endsInTurn_follows text items places j
  | .alt branches => fun places j => by
    simp only [ends, Matches]
    exact endsOfAny_follows text branches places j
  | .group _ _ inner => fun places j => by
    simp only [ends, Matches]
    exact ends_follows text inner places j
  | .repeated inner min max => fun places k => by
    have follows := ends_follows text inner
    have within := matches_within text inner
    simp only [ends, Matches]
    have explored (reached : Places) : Places.Explored (Matches text inner) reached reached :=
      ⟨fun _ here => here, fun _ _ here new => by simp [here] at new⟩
    rw [Places.testBit_upTo follows (explored _)]
    simp only [Places.follows_times follows min places]
    constructor
    · rintro ⟨j, ⟨i, here, first⟩, more, few, others⟩
      refine ⟨i, here, more, fun most same => ?_, rounds_add.mpr ⟨j, first, others⟩⟩
      rwa [same] at few
    · rintro ⟨i, here, more, few, rounds⟩
      obtain ⟨j, first, others⟩ := rounds_add.mp rounds
      cases max with
      | none =>
        obtain ⟨fewer, short, others⟩ := within.short others
        exact ⟨j, ⟨i, here, first⟩, fewer, short, others⟩
      | some most => exact ⟨j, ⟨i, here, first⟩, more, few most rfl, others⟩

theorem endsInTurn_follows (text : List Char) :
    (ts : List Tree) → Places.Follows (endsInTurn text ts) (MatchesInTurn text ts)
  | [] => fun places j => by simp [endsInTurn, MatchesInTurn]
  | t :: rest => fun places k => by
    simp only [endsInTurn, MatchesInTurn]
    rw [endsInTurn_follows text rest]
    simp only [ends_follows text t places]
    constructor
    · rintro ⟨j, ⟨i, here, first⟩, others⟩
      exact ⟨i, here, j, first, others⟩
    · rintro ⟨i, here, j, first, others⟩
      exact ⟨j, ⟨i, here, first⟩, others⟩

theorem endsOfAny_follows (text : List Char) :
    (ts : List Tree) → Places.Follows (endsOfAny text ts) (MatchesAny text ts)
  | [] => fun places j => by simp [endsOfAny, MatchesAny]
  | t :: rest => fun places j => by
    simp only [endsOfAny, MatchesAny]
    rw [Nat.testBit_or, Bool.or_eq_true, ends_follows text t, endsOfAny_follows text rest]
    simp only [and_or_left, exists_or]

end

/-- A text holds a match if the tree matches between two of its places. -/
theorem matchesIn_iff {t : Tree} {text : List Char} :
    t.matchesIn text = true ↔ ∃ i ≤ text.length, ∃ j, Matches text t i j := by
  have place (i : Nat) : (Places.all text).testBit i = true ↔ i ≤ text.length := by
    rw [Places.all, Nat.one_shiftLeft, Nat.testBit_two_pow_sub_one, decide_eq_true_iff,
      Nat.lt_succ_iff]
  rw [matchesIn, decide_eq_true_iff]
  constructor
  · intro some_
    obtain ⟨j, here⟩ := Nat.exists_testBit_of_ne_zero some_
    obtain ⟨i, start, leads⟩ := (ends_follows text t _ j).mp here
    exact ⟨i, (place i).mp start, j, leads⟩
  · rintro ⟨i, start, j, leads⟩ none_
    have here := (ends_follows text t _ j).mpr ⟨i, (place i).mpr start, leads⟩
    rw [none_, Nat.zero_testBit] at here
    cases here

end Tree

end FeatureFlags.Pattern
