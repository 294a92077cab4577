import FeatureFlags.Text.Pieces
import Mathlib.Data.List.Basic

namespace FeatureFlags.Text

theorem joined_cons_cons (separator text other : List Char) (rest : List (List Char)) :
    joined separator (text :: other :: rest) =
      text ++ separator ++ joined separator (other :: rest) := rfl

theorem joined_cons (separator : Char) (text : List Char) (rest : List (List Char)) :
    ∃ behind, joined [separator] (text :: rest) = text ++ behind ∧
      ∀ c ∈ behind.head?, c = separator := by
  cases rest with
  | nil => exact ⟨[], (List.append_nil text).symm, nofun⟩
  | cons other rest =>
    refine ⟨separator :: joined [separator] (other :: rest), ?_, ?_⟩
    · rw [joined_cons_cons, List.append_assoc, List.singleton_append]
    · intro c first
      exact (Option.some.inj first).symm

theorem mem_joined {separator c : Char} (apart : c ≠ separator) {texts : List (List Char)} :
    c ∈ joined [separator] texts ↔ ∃ text ∈ texts, c ∈ text := by
  induction texts with
  | nil => simp [joined]
  | cons text rest ih =>
    cases rest with
    | nil => simp [joined]
    | cons other rest =>
      rw [joined_cons_cons, List.mem_append, List.mem_append, ih, List.mem_singleton,
        or_iff_left apart]
      exact (List.exists_mem_cons_iff (c ∈ ·) text (other :: rest)).symm

theorem joined_eq_intercalate (separator : List Char) (texts : List (List Char)) :
    joined separator texts = separator.intercalate texts := by
  induction texts with
  | nil => rfl
  | cons text rest ih =>
    cases rest with
    | nil => simp [joined, List.intercalate]
    | cons other rest => rw [joined_cons_cons, ih, List.intercalate_cons_cons]

theorem ofList_joined (texts : List String) :
    String.ofList (joined [','] (texts.map String.toList)) = ",".intercalate texts := by
  rw [joined_eq_intercalate, ← String.toList_inj, String.toList_ofList, String.toList_intercalate]
  rfl

section Pieces

variable {separator : Char} {text : List Char} (free : separator ∉ text)
include free

theorem pieces_of_free : pieces separator text = [text] := by
  induction text with
  | nil => rfl
  | cons c rest ih =>
    rw [List.mem_cons, not_or] at free
    rw [pieces, if_neg (Ne.symm free.1), ih free.2]

theorem pieces_append (rest : List Char) :
    pieces separator (text ++ separator :: rest) = text :: pieces separator rest := by
  induction text with
  | nil => rw [List.nil_append, pieces, if_pos rfl]
  | cons c others ih =>
    rw [List.mem_cons, not_or] at free
    rw [List.cons_append, pieces, if_neg (Ne.symm free.1), ih free.2]

end Pieces

/-- Texts without the separator come apart as they were joined. -/
theorem pieces_joined {separator : Char} {texts : List (List Char)} (some : texts ≠ [])
    (free : ∀ text ∈ texts, separator ∉ text) :
    pieces separator (joined [separator] texts) = texts := by
  induction texts with
  | nil => exact absurd rfl some
  | cons text rest ih =>
    obtain ⟨first, later⟩ := List.forall_mem_cons.mp free
    cases rest with
    | nil => exact pieces_of_free first
    | cons other rest =>
      rw [joined_cons_cons, List.append_assoc, List.singleton_append, pieces_append first,
        ih (List.cons_ne_nil _ _) later]

theorem pieces_cons_separator (separator : Char) (cs : List Char) :
    pieces separator (separator :: cs) = [] :: pieces separator cs := if_pos rfl

theorem exists_pieces_cons (separator : Char) (cs : List Char) :
    ∃ piece others, pieces separator cs = piece :: others ∧
      ∀ c ≠ separator, pieces separator (c :: cs) = (c :: piece) :: others := by
  cases parts : pieces separator cs with
  | nil =>
    cases cs with
    | nil => cases parts
    | cons d rest =>
      unfold pieces at parts
      split at parts
      · cases parts
      · split at parts <;> cases parts
  | cons piece others =>
    refine ⟨piece, others, rfl, fun c apart => ?_⟩
    rw [pieces, if_neg apart, parts]

/-- Joining what becomes of the pieces puts a text in the place of each separator. -/
theorem joined_map_pieces (separator : Char) (text : List Char) (f : Char → List Char)
    (cs : List Char) : joined text ((pieces separator cs).map (·.flatMap f)) =
      cs.flatMap fun c => if c = separator then text else f c := by
  induction cs with
  | nil => rfl
  | cons c rest ih =>
    obtain ⟨piece, others, parts, further⟩ := exists_pieces_cons separator rest
    rw [List.flatMap_cons, ← ih]
    by_cases marked : c = separator
    · rw [marked, pieces_cons_separator, if_pos rfl, parts]
      rfl
    · rw [further c marked, if_neg marked, parts, List.map_cons, List.map_cons, List.flatMap_cons]
      cases others with
      | nil => rfl
      | cons other others =>
        rw [List.map_cons, joined_cons_cons, joined_cons_cons, List.append_assoc, List.append_assoc,
          List.append_assoc]

end FeatureFlags.Text
