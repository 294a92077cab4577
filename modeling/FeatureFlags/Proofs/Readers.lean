import FeatureFlags.Text.Blank
import FeatureFlags.Text.Reader
import Mathlib.Data.List.TakeWhile

namespace FeatureFlags.Text

/-- What follows the beginning of a text is the rest of it. -/
theorem after?_eq_some_iff {start cs left : List Char} :
    after? start cs = some left ↔ cs = start ++ left := by
  induction start generalizing cs with
  | nil => simp [after?]
  | cons s start ih =>
    cases cs with
    | nil => simp [after?]
    | cons c cs =>
      by_cases same : s = c
      · simp [after?, same, ih]
      · simp [after?, same, Ne.symm same]

theorem before?_eq_some_iff {finish cs front : List Char} :
    before? finish cs = some front ↔ cs = front ++ finish := by
  rw [before?, Option.map_eq_some_iff]
  constructor
  · rintro ⟨left, behind, rfl⟩
    rw [← cs.reverse_reverse, after?_eq_some_iff.mp behind, List.reverse_append,
      List.reverse_reverse]
  · rintro rfl
    exact ⟨front.reverse, after?_eq_some_iff.mpr (List.reverse_append ..), front.reverse_reverse⟩

/-- A text parts at a mark if the mark is not in what precedes it. -/
theorem parts_at_mark_iff {mark c : Char} {cs front left : List Char} :
    cs.takeWhile (· ≠ mark) = front ∧ cs.dropWhile (· ≠ mark) = c :: left ↔
      c = mark ∧ cs = front ++ mark :: left ∧ mark ∉ front := by
  constructor
  · rintro ⟨rfl, behind⟩
    have stopped := List.head?_dropWhile_not (· ≠ mark) cs
    simp only [behind, List.head?_cons, decide_eq_false_iff_not, not_not] at stopped
    refine ⟨stopped, ?_, fun within => ?_⟩
    · rw [stopped] at behind
      rw [← behind, List.takeWhile_append_dropWhile]
    · have apart := List.mem_takeWhile_imp within
      simp at apart
  · rintro ⟨rfl, rfl, free⟩
    have passes : ∀ x ∈ front, decide (x ≠ c) = true := fun x within => by
      have apart : x ≠ c := fun same => free (same ▸ within)
      simpa using apart
    rw [List.takeWhile_append_of_pos passes, List.dropWhile_append_of_pos passes]
    simp

/-- What precedes the last mark is followed by it and by a text without it. -/
theorem beforeLast?_eq_some_iff {mark : Char} {cs front : List Char} :
    beforeLast? mark cs = some front ↔ ∃ tail, cs = front ++ mark :: tail ∧ mark ∉ tail := by
  constructor
  · intro found
    rw [beforeLast?] at found
    cases kept : cs.reverse.dropWhile (· ≠ mark) with
    | nil => rw [kept] at found; cases found
    | cons c front' =>
      rw [kept] at found
      obtain rfl := Option.some.inj found
      obtain ⟨-, parts, free⟩ := parts_at_mark_iff.mp ⟨rfl, kept⟩
      refine ⟨(cs.reverse.takeWhile (· ≠ mark)).reverse, ?_, by rwa [List.mem_reverse]⟩
      simpa using congrArg List.reverse parts
  · rintro ⟨tail, rfl, free⟩
    have parts : (front ++ mark :: tail).reverse = tail.reverse ++ mark :: front.reverse := by simp
    obtain ⟨-, kept⟩ := parts_at_mark_iff.mpr ⟨rfl, parts, by rwa [List.mem_reverse]⟩
    simp only [beforeLast?, kept, List.reverse_reverse]

theorem exists_beforeLast? {mark : Char} {cs : List Char} (within : mark ∈ cs) :
    ∃ front, beforeLast? mark cs = some front := by
  rw [beforeLast?]
  split
  · rename_i passed
    have apart := List.dropWhile_eq_nil_iff.mp passed mark (List.mem_reverse.mpr within)
    simp at apart
  · exact ⟨_, rfl⟩

theorem dropWhile_isBlank {cs : List Char} (start : ∀ c ∈ cs.head?, isBlank c = false) :
    cs.dropWhile isBlank = cs := by
  cases cs with
  | nil => rfl
  | cons c rest => rw [List.dropWhile_cons, start c rfl, if_neg Bool.false_ne_true]

/-- Trimming leaves what stands between blanks. -/
theorem trimChars_between {before cs behind : List Char} (first : ∀ c ∈ before, isBlank c = true)
    (start : ∀ c ∈ cs.head?, isBlank c = false) (finish : ∀ c ∈ cs.getLast?, isBlank c = false)
    (last : ∀ c ∈ behind, isBlank c = true) : trimChars (before ++ (cs ++ behind)) = cs := by
  rw [trimChars, List.dropWhile_append_of_pos first]
  cases cs with
  | nil => rw [List.nil_append, List.dropWhile_eq_nil_iff.mpr last]; rfl
  | cons c rest =>
    have last' : ∀ c ∈ behind.reverse, isBlank c = true := by simpa using last
    have start' : ∀ d ∈ (c :: rest ++ behind).head?, isBlank d = false := start
    have finish' : ∀ d ∈ (c :: rest).reverse.head?, isBlank d = false := by
      rwa [List.head?_reverse]
    rw [dropWhile_isBlank start', List.reverse_append, List.dropWhile_append_of_pos last',
      dropWhile_isBlank finish', List.reverse_reverse]

namespace Reader

variable {α β : Type} {cs left : List Char}

theorem word_eq_some_iff {text read : List Char} :
    word text cs = some (read, left) ↔ read = text ∧ cs = text ++ left := by
  simp only [word, Option.map_eq_some_iff, after?_eq_some_iff, Prod.mk.injEq]
  constructor
  · rintro ⟨_, rfl, rfl, rfl⟩
    exact ⟨rfl, rfl⟩
  · rintro ⟨rfl, rfl⟩
    exact ⟨_, rfl, rfl, rfl⟩

theorem verifyMap_eq_some_iff {reader : Reader α} {f : α → Option β} {b : β} :
    verifyMap reader f cs = some (b, left) ↔ ∃ a, reader cs = some (a, left) ∧ f a = some b := by
  simp only [verifyMap, Option.bind_eq_bind, Option.bind_eq_some_iff, Option.some.injEq,
    Prod.mk.injEq]
  constructor
  · rintro ⟨⟨a, _⟩, read, _, made, rfl, rfl⟩
    exact ⟨a, read, made⟩
  · rintro ⟨a, read, made⟩
    exact ⟨(a, left), read, b, made, rfl, rfl⟩

theorem map_eq_some_iff {reader : Reader α} {f : α → β} {b : β} :
    map reader f cs = some (b, left) ↔ ∃ a, reader cs = some (a, left) ∧ f a = b := by
  simp [map, verifyMap_eq_some_iff]

theorem terminated_eq_some_iff {first : Reader α} {second : Reader β} {a : α} :
    terminated first second cs = some (a, left) ↔
      ∃ middle b, first cs = some (a, middle) ∧ second middle = some (b, left) := by
  simp only [terminated, Option.bind_eq_bind, Option.bind_eq_some_iff, Option.some.injEq,
    Prod.mk.injEq]
  constructor
  · rintro ⟨⟨_, middle⟩, read, ⟨b, _⟩, more, rfl, rfl⟩
    exact ⟨middle, b, read, more⟩
  · rintro ⟨middle, b, read, more⟩
    exact ⟨(a, middle), read, (b, left), more, rfl, rfl⟩

theorem whole?_eq_some_iff {reader : Reader α} {a : α} :
    whole? reader cs = some a ↔ reader cs = some (a, []) := by
  rw [whole?]
  split
  · simp_all
  · simp_all

end Reader

end FeatureFlags.Text
