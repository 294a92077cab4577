import FeatureFlags.Proofs.OperandGrammar
import FeatureFlags.Proofs.Pieces
import FeatureFlags.Proofs.Processing
import FeatureFlags.Targeting
import Mathlib.Data.List.Forall2

namespace FeatureFlags

namespace Text

/-- A beginning of a text that none of the characters behind it continues ends before them. -/
theorem prefix_of_prefix_append {start text behind : List Char} (begins : start <+: text ++ behind)
    (apart : ∀ c ∈ behind.head?, c ∉ start) : start <+: text := by
  have front := List.prefix_append text behind
  rcases List.prefix_or_prefix_of_prefix begins front with inside | beyond
  · exact inside
  · obtain ⟨more, rfl⟩ := beyond
    have continued : more <+: behind := (List.prefix_append_right_inj text).mp begins
    cases more with
    | nil => exact (List.append_nil text).symm ▸ List.prefix_rfl
    | cons c more =>
      obtain ⟨left, rfl⟩ := continued
      exact absurd (by simp) (apart c rfl)

end Text

/-- Blanks and double quotes, which do not count around an id. -/
def IsPadding (c : Char) : Prop := Text.isBlank c = true ∨ c = '"'

instance : DecidablePred IsPadding := fun _ => inferInstanceAs (Decidable (_ ∨ _))

/-- An id that a text between commas can name. -/
structure PlainId (id : List Char) : Prop where
  commaless : ',' ∉ id
  unquoted : '"' ∉ id
  start : ∀ c ∈ id.head?, Text.isBlank c = false
  finish : ∀ c ∈ id.getLast?, Text.isBlank c = false

/-- The id with blanks or double quotes around it. -/
def Padded (id text : List Char) : Prop :=
  ∃ before behind, text = before ++ id ++ behind ∧ (∀ c ∈ before, IsPadding c) ∧
    ∀ c ∈ behind, IsPadding c

namespace Padded

variable {id text : List Char} (padded : Padded id text)
include padded

theorem mem {c : Char} (solid : ¬ IsPadding c) : c ∈ text ↔ c ∈ id := by
  obtain ⟨before, behind, rfl, first, last⟩ := padded
  simp only [List.mem_append]
  constructor
  · rintro ((inside | inside) | inside)
    · exact absurd (first c inside) solid
    · exact inside
    · exact absurd (last c inside) solid
  · exact fun inside => Or.inl (Or.inr inside)

theorem trim_unquoted (plain : PlainId id) : Text.trimChars (Text.unquotedChars text) = id := by
  obtain ⟨before, behind, rfl, first, last⟩ := padded
  have blanks {pad : List Char} (padding : ∀ c ∈ pad, IsPadding c) :
      ∀ c ∈ Text.unquotedChars pad, Text.isBlank c = true := by
    intro c inside
    obtain ⟨inside, unquoted⟩ := List.mem_filter.mp inside
    exact (padding c inside).resolve_right (of_decide_eq_true unquoted)
  have kept : Text.unquotedChars id = id := by
    refine List.filter_eq_self.mpr fun c inside => decide_eq_true fun quote => ?_
    exact plain.unquoted (quote ▸ inside)
  have parts : Text.unquotedChars (before ++ id ++ behind) =
      Text.unquotedChars before ++ (id ++ Text.unquotedChars behind) := by
    rw [Text.unquotedChars, List.filter_append, List.filter_append, List.append_assoc]
    rw [← Text.unquotedChars, ← Text.unquotedChars, ← Text.unquotedChars, kept]
  rw [parts]
  exact Text.trimChars_between (blanks first) plain.start plain.finish (blanks last)

/-- A beginning without padding begins the id itself. -/
theorem prefix_of_prefix {start : List Char} (begins : start <+: text)
    (solid : ∀ c ∈ start, ¬ IsPadding c) : start <+: id := by
  obtain ⟨before, behind, rfl, first, last⟩ := padded
  have apart : ∀ c ∈ behind.head?, c ∉ start := fun c next inside =>
    solid c inside (last c (List.mem_of_mem_head? next))
  have early := Text.prefix_of_prefix_append begins apart
  cases before with
  | nil => exact early
  | cons c before =>
    cases start with
    | nil => exact List.nil_prefix
    | cons d start =>
      obtain ⟨rfl, -⟩ := List.cons_prefix_cons.mp early
      exact absurd (first d (List.mem_cons_self ..)) (solid d (List.mem_cons_self ..))

end Padded

namespace Segment

section Joined

variable {ids texts : List (List Char)}

theorem isInList_iff {cs : List Char} : (∃ body tail, Operand.IsMarked .inList body tail cs) ↔
    "inlist(".toList <+: cs ∧ ')' ∈ cs := by
  rw [Operand.isMarked_iff]
  constructor
  · rintro ⟨left, rfl, closed⟩
    exact ⟨⟨left, rfl⟩, by simp [closed]⟩
  · rintro ⟨⟨left, rfl⟩, closed⟩
    refine ⟨left, rfl, ?_⟩
    simpa using closed

/-- Padding makes no list of ids the name of a list. -/
theorem not_isInList_of_padded (padded : List.Forall₂ Padded ids texts)
    (unlisted : ∀ body tail, ¬ Operand.IsMarked .inList body tail (Text.joined [','] ids)) :
    ∀ body tail, ¬ Operand.IsMarked .inList body tail (Text.joined [','] texts) := by
  intro body tail is
  obtain ⟨begins, closed⟩ := isInList_iff.mp ⟨body, tail, is⟩
  obtain ⟨text, among, inside⟩ := (Text.mem_joined (by decide)).mp closed
  obtain ⟨id, present, own⟩ := exists_of_forall₂_of_mem padded among
  have closed' : ')' ∈ Text.joined [','] ids :=
    (Text.mem_joined (by decide)).mpr ⟨id, present, (own.mem (by decide)).mp inside⟩
  -- The word has neither padding nor a comma, so it ends within the first id.
  have begins' : "inlist(".toList <+: Text.joined [','] ids := by
    cases padded with
    | nil => cases present
    | @cons first firstText rest restTexts own _ =>
      obtain ⟨behind, split, next⟩ := Text.joined_cons ',' firstText restTexts
      obtain ⟨behind', split', -⟩ := Text.joined_cons ',' first rest
      have early : "inlist(".toList <+: firstText := by
        refine Text.prefix_of_prefix_append (split ▸ begins) fun c comma => ?_
        rw [next c comma]
        decide
      have solid : ∀ c ∈ "inlist(".toList, ¬ IsPadding c := by simp [IsPadding, Text.isBlank]
      rw [split']
      exact (own.prefix_of_prefix early solid).trans (List.prefix_append first behind')
  obtain ⟨body', tail', is'⟩ := isInList_iff.mpr ⟨begins', closed'⟩
  exact unlisted body' tail' is'

/-- Ids between commas are read as they are, with or without padding. -/
theorem ofUserText_joined (some : ids ≠ []) (plain : ∀ id ∈ ids, PlainId id)
    (padded : List.Forall₂ Padded ids texts)
    (unlisted : ∀ body tail, ¬ Operand.IsMarked .inList body tail (Text.joined [','] ids)) :
    ofUserText (String.ofList (Text.joined [','] texts)) = .userIds (ids.map String.ofList) := by
  have unlisted' := not_isInList_of_padded padded unlisted
  have free : ∀ text ∈ texts, ',' ∉ text := by
    intro text among inside
    obtain ⟨id, present, own⟩ := exists_of_forall₂_of_mem padded among
    exact (plain id present).commaless ((own.mem (by decide)).mp inside)
  have some' : texts ≠ [] := by
    rintro rfl
    exact some (List.forall₂_nil_right_iff.mp padded)
  have trimmed : ids = texts.map fun text => Text.trimChars (Text.unquotedChars text) := by
    have each := (List.forall₂_and_left ids texts).mpr ⟨plain, padded⟩
    rw [← List.forall₂_eq_eq_eq, List.forall₂_map_right_iff]
    exact each.imp fun id text ⟨plain, own⟩ => (own.trim_unquoted plain).symm
  unfold ofUserText
  split
  · rename_i list listed
    exact absurd listed (Operand.ofText_ne_inList (by rwa [String.toList_ofList]) list)
  · rw [String.toList_ofList, Text.pieces_joined some' free, trimmed, List.map_map]
    rfl

end Joined

theorem compile?_user (value : Json) : compile? (.object [("user", value)]) =
    some (((userText? value).map ofUserText).getD (.unknown "user")) := rfl

/-- A user is in a leaf of ids exactly if the identity is one of them, character for character,
whether the ids are an array or stand between commas, with or without padding. -/
theorem user_leaf_is_membership {ids texts : List String} (some : ids ≠ [])
    (plain : ∀ id ∈ ids, PlainId id.toList)
    (padded : List.Forall₂ (fun id text => Padded id.toList text.toList) ids texts)
    (unlisted : ∀ body tail, ",".intercalate ids ≠ "inlist(" ++ body ++ ")" ++ tail) :
    compile? (.object [("user", .string (",".intercalate texts))]) = .some (.userIds ids) ∧
    compile? (.object [("user", .array (ids.map .string))]) = .some (.userIds ids) ∧
    ∀ {ω : Type} (scope : Scope ω) values identity,
      holds scope { values := values, identity := .some identity } (.userIds ids) =
        pure (decide (identity ∈ ids)) := by
  have unlisted' : ∀ body tail,
      ¬ Operand.IsMarked .inList body tail (Text.joined [','] (ids.map String.toList)) := by
    intro body tail is
    refine unlisted (String.ofList body) (String.ofList tail) ?_
    rw [← Text.ofList_joined, is.written, ← String.toList_inj]
    simp [Operand.Marker.name]
  have some' : ids.map String.toList ≠ [] := by simpa using some
  have plain' : ∀ id ∈ ids.map String.toList, PlainId id := by simpa using plain
  have back : (ids.map String.toList).map String.ofList = ids := by simp
  refine ⟨?_, ?_, fun scope values identity => ?_⟩
  · have padded' : List.Forall₂ Padded (ids.map String.toList) (texts.map String.toList) :=
      List.forall₂_map_left_iff.mpr (List.forall₂_map_right_iff.mpr padded)
    have read := ofUserText_joined some' plain' padded' unlisted'
    rw [Text.ofList_joined, back] at read
    rw [compile?_user, ← read]
    rfl
  · have unpadded : List.Forall₂ Padded (ids.map String.toList) (ids.map String.toList) :=
      List.forall₂_same.mpr fun id _ => ⟨[], [], (List.append_nil id).symm,
        List.forall_mem_nil _, List.forall_mem_nil _⟩
    have read := ofUserText_joined some' plain' unpadded unlisted'
    rw [back] at read
    have listed : (ids.map Json.string).filterMap scalarText? = ids := by
      rw [List.filterMap_map]
      exact List.filterMap_some
    rw [compile?_user, userText?, listed, ← read]
    rfl
  · have own : Attributes.tag? { values := values, identity := .some identity } identityName =
        .some identity := rfl
    rw [holds, userIdsHold, own, Option.any_some, List.contains_eq_mem]

/-- Ids that look like a number, a marker or nothing at all are ids like others. -/
theorem odd_ids_are_ids :
    compile? (.object [("user", .string " \"007\",gt(5) ,,\"wildcard(*)\"")]) =
      .some (.userIds ["007", "gt(5)", "", "wildcard(*)"]) ∧
    compile? (.object [("user", .array (["007", "gt(5)", "", "wildcard(*)"].map .string))]) =
      .some (.userIds ["007", "gt(5)", "", "wildcard(*)"]) ∧
    ∀ (scope : Scope Binary64), holds scope { values := [], identity := .some "7" }
      (.userIds ["007", "gt(5)", "", "wildcard(*)"]) = pure false := by
  have plain : ∀ id ∈ ["007", "gt(5)", "", "wildcard(*)"], PlainId id.toList := by
    intro id among
    simp only [List.mem_cons, List.not_mem_nil, or_false] at among
    rcases among with rfl | rfl | rfl | rfl <;>
      exact ⟨by decide, by decide, by simp [Text.isBlank], by simp [Text.isBlank]⟩
  have padded : List.Forall₂ (fun id text => Padded id.toList text.toList)
      ["007", "gt(5)", "", "wildcard(*)"] [" \"007\"", "gt(5) ", "", "\"wildcard(*)\""] :=
    .cons ⟨[' ', '"'], ['"'], rfl, by simp [IsPadding, Text.isBlank], by simp [IsPadding]⟩
      (.cons ⟨[], [' '], rfl, List.forall_mem_nil _, by simp [IsPadding, Text.isBlank]⟩
        (.cons ⟨[], [], rfl, List.forall_mem_nil _, List.forall_mem_nil _⟩
          (.cons ⟨['"'], ['"'], rfl, by simp [IsPadding], by simp [IsPadding]⟩ .nil)))
  have unlisted : ∀ body tail, ",".intercalate ["007", "gt(5)", "", "wildcard(*)"] ≠
      "inlist(" ++ body ++ ")" ++ tail := by
    intro body tail same
    have first := congrArg (fun text => text.toList.head?) same
    simp at first
  obtain ⟨written, listed, member⟩ :=
    user_leaf_is_membership (List.cons_ne_nil _ _) plain padded unlisted
  exact ⟨written, listed, fun scope => member scope [] "7"⟩

end Segment

end FeatureFlags
