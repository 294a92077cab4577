import FeatureFlags.Operand
import FeatureFlags.Proofs.PatternMeaning
import FeatureFlags.Proofs.PatternReading.Alternatives

namespace FeatureFlags

namespace Pattern

variable {source : List Char} {whole : Tree}

/-- Whether a source closes a parenthesis that it has not opened: reading it stops there. -/
def closesTooMuch (source : List Char) : Bool :=
  match alternatives? (source.length + 1) {} [] [] source with
  | some (_, ')' :: _) => true
  | _ => false

/-- The tree of a source between anchors. -/
def Tree.anchored (t : Tree) : Tree := .cat [.look .textStart, .group false none t, .look .textEnd]

theorem nodup_names_of_anchored {t : Tree} (distinct : t.anchored.names.Nodup) : t.names.Nodup := by
  simpa [Tree.anchored, Tree.names, Tree.namesOfAll] using distinct

theorem nesting_le_anchored (t : Tree) : t.nesting ≤ t.anchored.nesting := by
  simp only [Tree.anchored, Tree.nesting, Tree.nestingOfAll]
  omega

theorem room_le_anchored (t : Tree) : t.room ≤ t.anchored.room := by
  simp only [Tree.anchored, Tree.room, Tree.roomOfAll]
  omega

theorem alternatives?_textStart (fuel : Nat) (branches items : List Tree) (rest : List Char) :
    alternatives? (fuel + 1) {} branches items ('^' :: rest) =
      alternatives? fuel {} branches (.look .textStart :: items) rest := rfl

theorem alternatives?_group {fuel : Nat} {branches items : List Tree} {rest left : List Char}
    (read : alternatives? (fuel + 1) {} branches items ('(' :: '?' :: ':' :: rest) =
      some (whole, left)) :
    ∃ t rest', alternatives? fuel {} [] [] rest = some (t, ')' :: rest') ∧
      alternatives? fuel {} branches (.group false none t :: items) rest' = some (whole, left) := by
  have opened : opening? {} ('?' :: ':' :: rest) = some (.group false none {}, rest) := rfl
  simp only [alternatives?, Flags.skip, Bool.false_eq_true, if_false, opened] at read
  split at read
  · rename_i t rest' inner
    exact ⟨t, rest', inner, read⟩
  · cases read

/-- Only a whole text is a pattern, and only within the limits. -/
theorem Tree.ofChars?_eq_some_iff {t : Tree} :
    Tree.ofChars? source = some t ↔
      alternatives? (source.length + 1) {} [] [] source = some (t, []) ∧
        t.names.Nodup ∧ t.nesting ≤ maxNesting ∧ t.room ≤ maxRoom := by
  unfold Tree.ofChars?
  split
  · rename_i t' read
    rw [read, Option.ite_none_right_eq_some]
    constructor
    · rintro ⟨limits, same⟩
      cases same
      exact ⟨rfl, limits⟩
    · rintro ⟨same, limits⟩
      cases same
      exact ⟨limits, rfl⟩
  · rename_i unfinished
    constructor
    · intro read
      cases read
    · rintro ⟨read, -⟩
      exact absurd read (unfinished t)

/-- A source that does not close too much is read between anchors as it is alone, up to the
parenthesis of the anchors. -/
theorem alone_of_closed {fuel : Nat} {t : Tree} {rest : List Char}
    (balanced : closesTooMuch source = false)
    (read : alternatives? fuel {} [] [] (source ++ closing) = some (t, ')' :: rest)) :
    alternatives? (source.length + 1) {} [] [] source = some (t, []) ∧ rest = ['$'] := by
  obtain ⟨within, alone⟩ := alternatives?_confined fuel _ _ _ _ _ _ read
  have closed : closing <:+ ')' :: rest := by
    rcases List.suffix_or_suffix_of_suffix within (List.suffix_append source closing) with
      inside | closed
    · rcases List.suffix_cons_iff.mp inside with same | inside
      · rw [same]
        exact List.suffix_refl _
      · simp [List.suffix_cons_iff] at inside
    · exact closed
  have behind := closed.length_le
  have read := alone closed (source.length + 1) (by
    simp only [closing, List.length_append, List.length_cons, List.length_nil] at behind ⊢
    omega)
  rw [unclosed_append] at read
  have parts := unclosed_append_closing closed
  cases left : unclosed (')' :: rest) with
  | nil =>
    rw [left] at read parts
    exact ⟨read, (List.cons.inj parts).2.symm⟩
  | cons c more =>
    obtain ⟨rfl, -⟩ := List.cons.inj (eq_cons_of_unclosed closed left)
    rw [left] at read
    simp [closesTooMuch, read] at balanced

/-- What is read of a source between anchors is read of the source alone, unless it closes too
much. -/
theorem tree?_eq_some {pattern : Pattern} (balanced : closesTooMuch pattern.source.toList = false)
    (read : pattern.tree? = some whole) :
    ∃ t, Tree.ofChars? pattern.source.toList = some t ∧ whole = t.anchored := by
  have text : pattern.anchored =
      '^' :: '(' :: '?' :: ':' :: (pattern.source.toList ++ closing) := by
    have front : "^(?:".toList = ['^', '(', '?', ':'] := by decide
    have back : ")$".toList = closing := by decide
    rw [Pattern.anchored, front, back]
    rfl
  rw [Pattern.tree?, Tree.ofChars?_eq_some_iff, text] at read
  obtain ⟨read, distinct, nested, fits⟩ := read
  rw [List.length_cons, alternatives?_textStart] at read
  obtain ⟨t, rest, inner, read⟩ := alternatives?_group read
  obtain ⟨alone, rfl⟩ := alone_of_closed balanced inner
  have same : whole = t.anchored := by
    have last : alternatives? ((pattern.source.toList ++ closing).length + 3) {} []
        [.group false none t, .look .textStart] ['$'] = some (t.anchored, []) := rfl
    have both := last.symm.trans read
    cases both
    rfl
  subst same
  exact ⟨t, Tree.ofChars?_eq_some_iff.mpr ⟨alone, nodup_names_of_anchored distinct,
    (nesting_le_anchored t).trans nested, (room_le_anchored t).trans fits⟩, rfl⟩

/-- What is between anchors matches somewhere if what they enclose matches the whole text. -/
theorem matchesIn_anchored {t : Tree} {text : List Char} :
    t.anchored.matchesIn text = true ↔ t.Matches text 0 text.length := by
  rw [Tree.matchesIn_iff]
  simp only [Tree.anchored, Tree.Matches, Tree.MatchesInTurn, Look.holds, Option.isNone_iff_eq_none]
  constructor
  · rintro ⟨i, -, j, k, ⟨within, start, rfl⟩, l, found, m, ⟨inside, finish, rfl⟩, rfl⟩
    have last : j = text.length := inside.antisymm (List.getElem?_eq_none_iff.mp finish)
    cases k with
    | zero => exact last ▸ found
    | succ i =>
      have behind := List.getElem?_eq_none_iff.mp (start : text[i]? = none)
      omega
  · intro found
    exact ⟨0, Nat.zero_le _, text.length, 0, ⟨Nat.zero_le _, rfl, rfl⟩, text.length, found,
      text.length, ⟨le_rfl, List.getElem?_eq_none le_rfl, rfl⟩, rfl⟩

end Pattern

namespace Operand

open Pattern

/-- An operand with a pattern accepts a text if and only if the pattern is valid, is one by itself and
matches the whole text, unless its source closes parentheses that it has not opened. What is no
pattern by itself matches nothing. -/
theorem full_match_or_nothing {pattern : Pattern}
    (balanced : closesTooMuch pattern.source.toList = false) (candidate : String) :
    ((regex pattern).accepts candidate = true ↔ pattern.isValid = true ∧
      ∃ t, Tree.ofChars? pattern.source.toList = some t ∧
        t.Matches candidate.toList 0 candidate.toList.length) ∧
      (Tree.ofChars? pattern.source.toList = none →
        (regex pattern).accepts candidate = false) := by
  have whole : (regex pattern).accepts candidate = true ↔ pattern.isValid = true ∧
      ∃ t, Tree.ofChars? pattern.source.toList = some t ∧
        t.Matches candidate.toList 0 candidate.toList.length := by
    constructor
    · intro accepted
      obtain ⟨tree, read, found⟩ := (Option.any_eq_true ..).mp accepted
      obtain ⟨t, alone, rfl⟩ := tree?_eq_some balanced read
      exact ⟨Option.isSome_of_eq_some read, t, alone, matchesIn_anchored.mp found⟩
    · rintro ⟨valid, t, alone, found⟩
      obtain ⟨tree, read⟩ := Option.isSome_iff_exists.mp valid
      obtain ⟨t', alone', rfl⟩ := tree?_eq_some balanced read
      obtain rfl := Option.some.inj (alone.symm.trans alone')
      exact (Option.any_eq_true ..).mpr ⟨_, read, matchesIn_anchored.mpr found⟩
  refine ⟨whole, fun malformed => ?_⟩
  rw [← Bool.not_eq_true, whole, malformed]
  rintro ⟨-, t, alone, -⟩
  cases alone

/-- One of two words is matched from end to end, and an open parenthesis matches nothing. -/
theorem either_word_matches_whole :
    closesTooMuch "a|b(?i)c".toList = false ∧ (regex ⟨"a|b(?i)c"⟩).accepts "bC" = true ∧
      (∃ t, Tree.ofChars? "a|b(?i)c".toList = some t ∧ t.Matches "bC".toList 0 "bC".toList.length) ∧
      closesTooMuch "a(".toList = false ∧ (regex ⟨"a("⟩).accepts "a(" = false := by
  have balanced : closesTooMuch "a|b(?i)c".toList = false := by decide +kernel
  have balanced' : closesTooMuch "a(".toList = false := by decide +kernel
  have accepted : (regex ⟨"a|b(?i)c"⟩).accepts "bC" = true := by decide +kernel
  have malformed : Tree.ofChars? "a(".toList = none := by decide +kernel
  exact ⟨balanced, accepted, ((@full_match_or_nothing ⟨"a|b(?i)c"⟩ balanced "bC").1.mp accepted).2,
    balanced', (@full_match_or_nothing ⟨"a("⟩ balanced' "a(").2 malformed⟩

/-- Parentheses that pair with those of the anchors make malformed sources match, also within a
text. -/
theorem stray_parentheses_match :
    ofText "regex(a)(b)" = regex ⟨"a)(b"⟩ ∧ Tree.ofChars? "a)(b".toList = none ∧
      (regex ⟨"a)(b"⟩).accepts "ab" = true ∧
      Tree.ofChars? "a)|b|(?:c".toList = none ∧ (regex ⟨"a)|b|(?:c"⟩).accepts "xbx" = true := by
  decide +kernel

end Operand

end FeatureFlags
