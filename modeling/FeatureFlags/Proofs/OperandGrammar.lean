import FeatureFlags.Proofs.Trimming

namespace FeatureFlags.Operand

open Text

/-- A marker, a body in parentheses, and a tail without a closing one. The body may have parentheses
of its own. -/
structure IsMarked (marker : Marker) (body tail cs : List Char) : Prop where
  written : cs = marker.name.toList ++ '(' :: body ++ ')' :: tail
  unclosing : ')' ∉ tail

/-- What a wildcard with this body stands for: one star is taken from each end that has one. -/
inductive WildcardMeans : List Char → Operand → Prop
  /-- A lone star stands at both ends. -/
  | lone : WildcardMeans ['*'] (.contains (clean []))
  | between (text : List Char) : WildcardMeans ('*' :: (text ++ ['*'])) (.contains (clean text))
  | behind (text : List Char) (last : Char) (plain : last ≠ '*') :
      WildcardMeans ('*' :: (text ++ [last])) (.endsWith (clean (text ++ [last])))
  | before (first : Char) (text : List Char) (plain : first ≠ '*') :
      WildcardMeans (first :: (text ++ ['*'])) (.startsWith (clean (first :: text)))
  | alone (body : List Char) (start : body.head? ≠ some '*') (finish : body.getLast? ≠ some '*') :
      WildcardMeans body (.equals (clean body))

/-- What a marker with this body stands for. -/
inductive MarkedMeans : Marker → List Char → Operand → Prop
  | lower (body : List Char) : MarkedMeans .lower body (.lower (clean body))
  | wildcard {body : List Char} {operand : Operand} (means : WildcardMeans body operand) :
      MarkedMeans .wildcard body operand
  | regex (body : List Char) : MarkedMeans .regex body (.regex ⟨clean body⟩)
  | compare (comparison : Comparison) (body : List Char) :
      MarkedMeans (.compare comparison) body (.compare comparison (clean body))
  | inList (body : List Char) :
      MarkedMeans .inList body (.inList (String.ofList (trimChars body)))

/-- What a text stands for: itself, unless it is marked. -/
inductive Means (cs : List Char) : Operand → Prop
  | marked {marker : Marker} {body tail : List Char} {operand : Operand}
      (is : IsMarked marker body tail cs) (means : MarkedMeans marker body operand) :
      Means cs operand
  | plain (unmarked : ∀ marker body tail, ¬ IsMarked marker body tail cs) :
      Means cs (.equals (clean cs))

section Wildcard

variable (first last : Char) (text : List Char)

theorem getLast?_bracketed : (first :: (text ++ [last])).getLast? = some last := by
  rw [← List.cons_append, List.getLast?_concat]

theorem ofWildcard_between : ofWildcard ('*' :: (text ++ ['*'])) = .contains (clean text) := by
  simp [ofWildcard, after?, before?, getLast?_bracketed]

variable {first last}

theorem ofWildcard_behind (plain : last ≠ '*') :
    ofWildcard ('*' :: (text ++ [last])) = .endsWith (clean (text ++ [last])) := by
  simp [ofWildcard, after?, before?, getLast?_bracketed, beq_false_of_ne plain, Ne.symm plain]

theorem ofWildcard_before (plain : first ≠ '*') :
    ofWildcard (first :: (text ++ ['*'])) = .startsWith (clean (first :: text)) := by
  simp [ofWildcard, after?, before?, getLast?_bracketed, beq_false_of_ne plain, Ne.symm plain]

end Wildcard

theorem ofWildcard_alone {body : List Char} (start : body.head? ≠ some '*')
    (finish : body.getLast? ≠ some '*') : ofWildcard body = .equals (clean body) := by
  have untouched : after? ['*'] body = none := by
    refine Option.eq_none_iff_forall_ne_some.mpr fun left stripped => ?_
    rw [after?_eq_some_iff.mp stripped] at start
    exact start rfl
  have untouched' : before? ['*'] body = none := by
    refine Option.eq_none_iff_forall_ne_some.mpr fun front stripped => ?_
    rw [before?_eq_some_iff.mp stripped] at finish
    exact finish List.getLast?_concat
  simp [ofWildcard, untouched, untouched', beq_false_of_ne start, beq_false_of_ne finish]

theorem wildcardMeans_iff {body : List Char} {operand : Operand} :
    WildcardMeans body operand ↔ ofWildcard body = operand := by
  constructor
  · intro means
    cases means with
    | lone => rfl
    | between text => exact ofWildcard_between text
    | behind text last plain => exact ofWildcard_behind text plain
    | before first text plain => exact ofWildcard_before text plain
    | alone _ start finish => exact ofWildcard_alone start finish
  · rintro rfl
    by_cases start : body.head? = some '*'
    · -- A body of one character begins and ends with the same one, so it stands apart.
      obtain ⟨rest, rfl⟩ := List.head?_eq_some_iff.mp start
      rcases rest.eq_nil_or_concat with rfl | ⟨text, last, rfl⟩
      · exact .lone
      · rw [List.concat_eq_append]
        by_cases trailing : last = '*'
        · rw [trailing, ofWildcard_between]
          exact .between text
        · rw [ofWildcard_behind text trailing]
          exact .behind text last trailing
    · by_cases finish : body.getLast? = some '*'
      · obtain ⟨front, rfl⟩ := List.getLast?_eq_some_iff.mp finish
        cases front with
        | nil => exact absurd rfl start
        | cons first text =>
          have leading : first ≠ '*' := fun starred => start (by simp [starred])
          rw [List.cons_append, ofWildcard_before text leading]
          exact .before first text leading
      · rw [ofWildcard_alone start finish]
        exact .alone body start finish

theorem markedMeans_iff {marker : Marker} {body : List Char} {operand : Operand} :
    MarkedMeans marker body operand ↔ ofMarked marker body = operand := by
  constructor
  · intro means
    cases means with
    | wildcard means => exact wildcardMeans_iff.mp means
    | _ => rfl
  · rintro rfl
    cases marker with
    | lower => exact .lower body
    | wildcard => exact .wildcard (wildcardMeans_iff.mpr rfl)
    | regex => exact .regex body
    | compare comparison => exact .compare comparison body
    | inList => exact .inList body

theorem openedMarker_eq_some_iff {marker : Marker} {cs left : List Char} :
    openedMarker cs = some (marker, left) ↔ cs = marker.name.toList ++ '(' :: left := by
  constructor
  · intro opened
    obtain ⟨middle, parenthesis, named, more⟩ := Reader.terminated_eq_some_iff.mp opened
    obtain ⟨-, rfl⟩ := Reader.word_eq_some_iff.mp more
    obtain ⟨reader, within, read⟩ := List.exists_of_findSome?_eq_some named
    obtain ⟨marker', -, rfl⟩ := List.mem_map.mp within
    obtain ⟨text, word, rfl⟩ := Reader.map_eq_some_iff.mp read
    exact (Reader.word_eq_some_iff.mp word).2
  · rintro rfl
    cases marker with
    | compare comparison => cases comparison <;> rfl
    | _ => rfl

/-- What a marked text is read as. Nothing is left of it. -/
theorem marked_eq_some_iff {marker : Marker} {body cs left : List Char} :
    marked cs = some ((marker, body), left) ↔
      left = [] ∧ ∃ tail, IsMarked marker body tail cs := by
  simp only [marked, Option.bind_eq_bind, Option.bind_eq_some_iff, Option.some.injEq,
    Prod.mk.injEq]
  constructor
  · rintro ⟨⟨_, inside⟩, opened, ⟨_, _⟩, closed, ⟨rfl, rfl⟩, rfl⟩
    obtain ⟨all, whole, before⟩ := Reader.verifyMap_eq_some_iff.mp closed
    cases whole
    obtain ⟨tail, rfl, free⟩ := beforeLast?_eq_some_iff.mp before
    refine ⟨rfl, tail, ?_, free⟩
    rw [openedMarker_eq_some_iff.mp opened, List.append_assoc, List.cons_append]
  · rintro ⟨rfl, tail, rfl, free⟩
    have opened : openedMarker (marker.name.toList ++ '(' :: body ++ ')' :: tail) =
        some (marker, body ++ ')' :: tail) :=
      openedMarker_eq_some_iff.mpr (by rw [List.append_assoc, List.cons_append])
    refine ⟨_, opened, (body, []), ?_, ⟨rfl, rfl⟩, rfl⟩
    exact Reader.verifyMap_eq_some_iff.mpr
      ⟨_, rfl, beforeLast?_eq_some_iff.mpr ⟨tail, rfl, free⟩⟩

theorem IsMarked.marked {marker : Marker} {body tail cs : List Char}
    (is : IsMarked marker body tail cs) : marked cs = some ((marker, body), []) :=
  marked_eq_some_iff.mpr ⟨rfl, tail, is⟩

/-- A text is marked in one way only. -/
theorem IsMarked.unique {marker other : Marker} {body body' tail tail' cs : List Char}
    (is : IsMarked marker body tail cs) (also : IsMarked other body' tail' cs) :
    other = marker ∧ body' = body ∧ tail' = tail := by
  have same := also.marked.symm.trans is.marked
  simp only [Option.some.injEq, Prod.mk.injEq, and_true] at same
  obtain ⟨rfl, rfl⟩ := same
  have written := also.written.symm.trans is.written
  simpa using written

/-- A text is marked if the marker and a parenthesis begin it and one is closed behind them. -/
theorem isMarked_iff {marker : Marker} {cs : List Char} :
    (∃ body tail, IsMarked marker body tail cs) ↔
      ∃ left, cs = marker.name.toList ++ '(' :: left ∧ ')' ∈ left := by
  constructor
  · rintro ⟨body, tail, is⟩
    refine ⟨body ++ ')' :: tail, ?_, by simp⟩
    rw [is.written, List.append_assoc, List.cons_append]
  · rintro ⟨left, rfl, closed⟩
    obtain ⟨body, before⟩ := exists_beforeLast? closed
    obtain ⟨tail, rfl, free⟩ := beforeLast?_eq_some_iff.mp before
    exact ⟨body, tail, by rw [List.append_assoc, List.cons_append], free⟩

theorem exists_isMarked_iff {cs : List Char} :
    (∃ marker body tail, IsMarked marker body tail cs) ↔
      ∃ (marker : Marker) (left : List Char), cs = marker.name.toList ++ '(' :: left ∧ ')' ∈ left :=
  exists_congr fun _ => isMarked_iff

theorem Means.unique {cs : List Char} {operand other : Operand} (means : Means cs operand)
    (also : Means cs other) : operand = other := by
  cases means with
  | marked is means =>
    cases also with
    | marked is' means' =>
      obtain ⟨rfl, rfl, rfl⟩ := is.unique is'
      exact (markedMeans_iff.mp means).symm.trans (markedMeans_iff.mp means')
    | plain unmarked => exact absurd is (unmarked _ _ _)
  | plain unmarked =>
    cases also with
    | marked is' means' => exact absurd is' (unmarked _ _ _)
    | plain unmarked => rfl

/-- From any text an operand is read, and of the text nothing is left. -/
theorem exists_reader_eq (cs : List Char) :
    ∃ operand, reader cs = some (operand, []) ∧ Means cs operand := by
  cases read : marked cs with
  | some found =>
    obtain ⟨⟨marker, body⟩, left⟩ := found
    obtain ⟨rfl, tail, is⟩ := marked_eq_some_iff.mp read
    refine ⟨ofMarked marker body, ?_, .marked is (markedMeans_iff.mpr rfl)⟩
    simp [reader, Reader.firstOf, Reader.map, Reader.verifyMap, read]
  | none =>
    refine ⟨.equals (clean cs), ?_, .plain fun marker body tail is => ?_⟩
    · simp [reader, Reader.firstOf, Reader.map, Reader.verifyMap, Reader.rest, read]
    · rw [is.marked] at read
      cases read

/-- A text is read whole as what it stands for. -/
theorem ofText_spec (raw : String) :
    reader.whole? raw.toList = some (ofText raw) ∧ Means raw.toList (ofText raw) := by
  obtain ⟨operand, read, means⟩ := exists_reader_eq raw.toList
  have whole : reader.whole? raw.toList = some operand := Reader.whole?_eq_some_iff.mpr read
  rw [ofText, whole, Option.getD_some]
  exact ⟨rfl, means⟩

/-- The text that an operand compares with: that of its pattern or bound, or the name of its list. -/
def text : Operand → String
  | .equals text | .lower text | .contains text | .startsWith text | .endsWith text => text
  | .regex pattern => pattern.source
  | .compare _ bound => bound
  | .inList list => list

theorem WildcardMeans.text_eq_clean {body : List Char} {operand : Operand}
    (means : WildcardMeans body operand) : ∃ cs, operand.text = clean cs := by
  cases means <;> exact ⟨_, rfl⟩

theorem Means.text_eq_clean_or {cs : List Char} {operand : Operand} (means : Means cs operand) :
    (∃ cs, operand.text = clean cs) ∨ ∃ cs, operand = .inList (String.ofList (trimChars cs)) := by
  cases means with
  | plain => exact Or.inl ⟨_, rfl⟩
  | marked _ means =>
    cases means with
    | wildcard means => exact Or.inl means.text_eq_clean
    | inList => exact Or.inr ⟨_, rfl⟩
    | _ => exact Or.inl ⟨_, rfl⟩

/-- Whatever is read, the text that is compared with has no blank at either end, and only the name of
a list may have double quotes. -/
theorem isTrimmed_text_ofText (raw : String) : IsTrimmed (ofText raw).text.toList ∧
    ('"' ∈ (ofText raw).text.toList → ∃ list, ofText raw = .inList list) := by
  rcases (ofText_spec raw).2.text_eq_clean_or with ⟨cs, same⟩ | ⟨cs, same⟩
  · rw [same]
    exact ⟨isTrimmed_clean cs, fun quote => absurd quote (quote_notMem_clean cs)⟩
  · rw [same]
    refine ⟨?_, fun _ => ⟨_, rfl⟩⟩
    rw [text, String.toList_ofList]
    exact isTrimmed_trimChars cs

theorem ofText_ne_inList {raw : String}
    (unlisted : ∀ body tail, ¬ IsMarked .inList body tail raw.toList) (list : String) :
    ofText raw ≠ .inList list := by
  intro same
  have means := (ofText_spec raw).2
  rw [same] at means
  cases means with
  | marked is means =>
    cases means with
    | wildcard means => cases means
    | inList => exact unlisted _ _ is

/-- Any text is an operand: what its marker makes of its body, if it is marked, which it is in one way
only, and else itself. Nothing is refused, so nothing is made of a refused text. -/
theorem operand_of_any_text (raw : String) :
    reader.whole? raw.toList = some (ofText raw) ∧
      (∀ operand, ofText raw = operand ↔ Means raw.toList operand) ∧
      (∀ marker body tail, IsMarked marker body tail raw.toList →
        MarkedMeans marker body (ofText raw) ∧
          ∀ other body' tail', IsMarked other body' tail' raw.toList →
            other = marker ∧ body' = body ∧ tail' = tail) ∧
      ((∀ (marker : Marker) (left : List Char),
          raw.toList = marker.name.toList ++ '(' :: left → ')' ∉ left) →
        ofText raw = .equals (clean raw.toList)) := by
  obtain ⟨whole, means⟩ := ofText_spec raw
  refine ⟨whole, fun other => ⟨fun same => same ▸ means, means.unique⟩, ?_, ?_⟩
  · intro marker body tail is
    refine ⟨markedMeans_iff.mpr ?_, fun other body' tail' => is.unique⟩
    exact (Means.marked is (markedMeans_iff.mpr rfl)).unique means
  · intro unclosed
    refine means.unique (.plain fun marker body tail is => ?_)
    obtain ⟨marker', left, written, closed⟩ := exists_isMarked_iff.mp ⟨marker, body, tail, is⟩
    exact unclosed marker' left written closed

end FeatureFlags.Operand
