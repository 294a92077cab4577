import FeatureFlags.Proofs.PatternReading.Skipping
import FeatureFlags.Proofs.Readers

namespace FeatureFlags.Pattern

open Text

variable {flags : Flags} {cs left : List Char}

theorem groupFlags?_confined {seen : List Char} {negated dangling any : Bool} {inner : Flags}
    {c : Char} (read : groupFlags? flags seen negated dangling cs = some (inner, any, c, left)) :
    left <:+ cs ∧ (closing <:+ left →
      groupFlags? flags seen negated dangling (unclosed cs) = some (inner, any, c, unclosed left)) := by
  induction cs generalizing flags seen negated dangling with
  | nil => cases read
  | cons d rest ih =>
    rw [groupFlags?] at read
    split_ifs at read with last open_ dash twice seen_
    · cases read
      exact ⟨List.suffix_cons _ _, fun closed => by
        rw [unclosed_cons _ closed, groupFlags?, if_pos last, if_neg open_]⟩
    · obtain ⟨within, alone⟩ := ih read
      refine ⟨within.trans (List.suffix_cons _ _), fun closed => ?_⟩
      rw [unclosed_cons _ (closed.trans within), groupFlags?, if_neg last, if_pos dash, if_neg twice,
        alone closed]
    · split at read
      · rename_i flags' set
        obtain ⟨within, alone⟩ := ih read
        refine ⟨within.trans (List.suffix_cons _ _), fun closed => ?_⟩
        rw [unclosed_cons _ (closed.trans within), groupFlags?, if_neg last, if_neg dash,
          if_neg seen_, set]
        exact alone closed
      · cases read

theorem groupName?_eq_some_iff {name : String} :
    groupName? cs = some (name, left) ↔ ∃ c chars,
      cs = c :: chars ++ '>' :: left ∧ '>' ∉ c :: chars ∧ isNameChar true c = true ∧
        chars.all (isNameChar false) = true ∧ name = String.ofList (c :: chars) := by
  constructor
  · intro read
    unfold groupName? at read
    split at read
    · cases read
    · rename_i rest c chars before
      rw [Option.ite_none_right_eq_some, Bool.and_eq_true, Bool.and_eq_true] at read
      obtain ⟨⟨⟨within, first⟩, others⟩, same⟩ := read
      cases same
      cases last : cs.dropWhile (· ≠ '>') with
      | nil =>
        have apart := List.dropWhile_eq_nil_iff.mp last '>' (by simpa using within)
        simp at apart
      | cons d rest =>
        obtain ⟨rfl, written, free⟩ := parts_at_mark_iff.mp ⟨before, last⟩
        exact ⟨c, chars, written, free, first, others, rfl⟩
  · rintro ⟨c, chars, rfl, free, first, others, rfl⟩
    obtain ⟨before, behind⟩ :=
      parts_at_mark_iff.mpr ⟨rfl, (rfl : c :: chars ++ '>' :: left = _), free⟩
    simp only [groupName?, before, behind, List.drop_one, List.tail_cons]
    rw [if_pos (by simp only [first, others, Bool.and_true]; simp)]

theorem groupName?_confined : Confined groupName? := by
  intro cs name left read
  obtain ⟨c, chars, rfl, free, first, others, rfl⟩ := groupName?_eq_some_iff.mp read
  refine ⟨(List.suffix_cons _ _).trans (List.suffix_append _ _), fun closed => ?_⟩
  have alone := unclosed_append_suffix (c :: chars ++ ['>']) closed
  rw [List.append_assoc, List.append_assoc, List.singleton_append] at alone
  rw [alone]
  exact groupName?_eq_some_iff.mpr ⟨c, chars, rfl, free, first, others, rfl⟩

/-- A name in angle brackets, with either mark before it. -/
theorem opening?_named {front rest : List Char} {name : String}
    (marks : front = ['?', 'P', '<'] ∨ front = ['?', '<'])
    (skipped : flags.skip cs = front ++ rest) (named : groupName? rest = some (name, left)) :
    left <:+ cs ∧ (closing <:+ left → opening? flags (unclosed cs) =
      some (.group true (some name) flags, unclosed left)) := by
  obtain ⟨within, alone⟩ := groupName?_confined named
  have behind : rest <:+ flags.skip cs := skipped ▸ List.suffix_append front rest
  refine ⟨within.trans (behind.trans (flags.skip_suffix cs)), fun closed => ?_⟩
  have closed' := closed.trans within
  have skipped' := Flags.skip_unclosed (closed'.trans behind)
  rw [skipped, unclosed_append_suffix front closed'] at skipped'
  rcases marks with rfl | rfl <;> simp [opening?, skipped', alone closed]

theorem opening?_flagged {inner : Flags} {any : Bool} {c : Char} {rest : List Char}
    (skipped : flags.skip cs = '?' :: rest) (unnamed : ∀ more, rest ≠ 'P' :: '<' :: more)
    (unnamed' : ∀ more, rest ≠ '<' :: more)
    (flagged : groupFlags? flags [] false false rest = some (inner, any, c, left))
    (closed : closing <:+ left) :
    opening? flags (unclosed cs) =
      if c = ':' then some (.group false none inner, unclosed left)
      else if any then some (.flags inner, unclosed left) else none := by
  obtain ⟨within, alone⟩ := groupFlags?_confined flagged
  have closed' := closed.trans within
  simp only [opening?, (Flags.of_skip_cons skipped).2 closed']
  split
  · rename_i same
    exact absurd (eq_cons_of_unclosed closed' (List.cons.inj same).2) (unnamed _)
  · rename_i same
    exact absurd (eq_cons_of_unclosed closed' (List.cons.inj same).2) (unnamed' _)
  · rename_i same
    rw [← (List.cons.inj same).2, alone closed]
  · rename_i plain
    exact absurd rfl (plain _)

theorem opening?_confined : Confined (opening? flags) := by
  intro cs opening left read
  unfold opening? at read
  split at read
  · rename_i rest skipped
    obtain ⟨⟨name, left'⟩, named, same⟩ := Option.map_eq_some_iff.mp read
    cases same
    exact opening?_named (Or.inl rfl) skipped named
  · rename_i rest skipped
    obtain ⟨⟨name, left'⟩, named, same⟩ := Option.map_eq_some_iff.mp read
    cases same
    exact opening?_named (Or.inr rfl) skipped named
  · rename_i rest unnamed unnamed' skipped
    split at read
    · rename_i inner any c rest' flagged
      have within := (groupFlags?_confined flagged).1.trans (Flags.of_skip_cons skipped).1
      have chosen (closed : closing <:+ rest') :=
        opening?_flagged skipped unnamed unnamed' flagged closed
      split_ifs at read with colon lettered
      · cases read
        exact ⟨within, fun closed => by rw [chosen closed, if_pos colon]⟩
      · cases read
        exact ⟨within, fun closed => by rw [chosen closed, if_neg colon, if_pos lettered]⟩
    · cases read
  · rename_i plain
    cases read
    refine ⟨flags.skip_suffix cs, fun closed => ?_⟩
    simp only [opening?, Flags.skip_unclosed closed]
    split
    · rename_i same
      exact absurd (eq_cons_of_unclosed closed same) (plain _)
    · rename_i same
      exact absurd (eq_cons_of_unclosed closed same) (plain _)
    · rename_i same
      exact absurd (eq_cons_of_unclosed closed same) (plain _)
    · rfl

end FeatureFlags.Pattern
