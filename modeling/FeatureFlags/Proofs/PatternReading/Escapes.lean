import FeatureFlags.Proofs.PatternReading.Skipping

namespace FeatureFlags.Pattern

theorem upToBrace?_skipVerbose {flags : Flags} (verbose : flags.verbose = true) (inComment : Bool)
    (cs : List Char) :
    upToBrace? flags false (skipVerbose inComment cs) = upToBrace? flags inComment cs := by
  induction cs generalizing inComment with
  | nil => rfl
  | cons c rest ih =>
    rw [skipVerbose]
    split_ifs with comment blank opens
    · rw [ih, upToBrace?.eq_2 _ inComment, if_pos comment]
    · rw [ih, upToBrace?.eq_2 _ inComment, if_neg comment, if_pos (by simp [verbose, blank])]
    · rw [ih, upToBrace?.eq_2 _ inComment, if_neg comment, if_neg (by simp [blank]),
        if_pos (by simp [verbose, opens])]
    · rw [Bool.eq_false_iff.mpr comment]

/-- Up to a brace the same does not count as everywhere else. -/
theorem upToBrace?_skip (flags : Flags) (cs : List Char) :
    upToBrace? flags false (flags.skip cs) = upToBrace? flags false cs := by
  rw [Flags.skip]
  split_ifs with verbose
  · exact upToBrace?_skipVerbose verbose false cs
  · rfl

example : upToBrace? { verbose := true } false ['4', '#', '\x7d', '\n', '1', '\x7d', 'b'] =
    some (['4', '1'], ['b']) := by decide

/-- A closing brace takes at least a character. -/
theorem upToBrace?_suffix {flags : Flags} {inComment : Bool} {c : Char} {rest inside left : List Char}
    (found : upToBrace? flags inComment (c :: rest) = some (inside, left)) : left <:+ rest := by
  induction rest generalizing inComment c inside with
  | nil =>
    rw [upToBrace?] at found
    split_ifs at found <;> cases found
    exact List.suffix_refl _
  | cons d rest ih =>
    have behind {inComment : Bool} {inside : List Char}
        (found : upToBrace? flags inComment (d :: rest) = some (inside, left)) :
        left <:+ d :: rest := (ih found).trans (List.suffix_cons d rest)
    rw [upToBrace?] at found
    split_ifs at found with comment blank opens closes
    · exact behind found
    · exact behind found
    · exact behind found
    · cases found
      exact List.suffix_refl _
    · obtain ⟨⟨inside', left'⟩, further, same⟩ := Option.map_eq_some_iff.mp found
      cases same
      exact behind further

theorem upToBrace?_confined (flags : Flags) (inComment : Bool) :
    Confined (upToBrace? flags inComment) := by
  intro cs inside left found
  induction cs generalizing inComment inside with
  | nil => cases found
  | cons c rest ih =>
    have within := upToBrace?_suffix found
    refine ⟨within.trans (List.suffix_cons c rest), fun closed => ?_⟩
    rw [unclosed_cons c (closed.trans within)]
    rw [upToBrace?] at found ⊢
    split_ifs at found ⊢ with comment blank opens closes
    · exact (ih _ found).2 closed
    · exact (ih _ found).2 closed
    · exact (ih _ found).2 closed
    · cases found
      rfl
    · obtain ⟨⟨inside', left'⟩, further, same⟩ := Option.map_eq_some_iff.mp found
      cases same
      rw [(ih _ further).2 closed, Option.map_some]

theorem hexDigits?_confined (flags : Flags) (count : Nat) : Confined (hexDigits? flags count) := by
  induction count with
  | zero =>
    intro cs ds left read
    cases read
    exact ⟨List.suffix_refl _, fun _ => rfl⟩
  | succ count ih =>
    intro cs ds left read
    cases cs with
    | nil => cases read
    | cons c rest =>
      rw [hexDigits?, Option.ite_none_right_eq_some, Option.map_eq_some_iff] at read
      obtain ⟨digit, ⟨ds', left'⟩, more, same⟩ := read
      cases same
      obtain ⟨within, alone⟩ := ih more
      have behind := within.trans (flags.skip_suffix rest)
      refine ⟨behind.trans (List.suffix_cons c rest), fun closed => ?_⟩
      rw [unclosed_cons c (closed.trans behind), hexDigits?, if_pos digit,
        Flags.skip_unclosed (closed.trans within), alone closed, Option.map_some]

theorem hex?_confined (flags : Flags) (kind : Char) : Confined (hex? flags kind) := by
  intro cs a left read
  rw [hex?] at read
  split at read
  · rename_i rest skipped
    simp only [Option.bind_eq_bind, Option.bind_eq_some_iff, Prod.exists,
      Option.ite_none_left_eq_some, Option.some.injEq, Prod.mk.injEq] at read
    obtain ⟨digits, rest', upTo, digital, c, scalar, rfl, rfl⟩ := read
    obtain ⟨opened, alone⟩ := Flags.of_skip_cons skipped
    obtain ⟨behind, alone'⟩ := upToBrace?_confined flags false upTo
    have last := flags.skip_suffix rest'
    refine ⟨last.trans (behind.trans opened), fun closed => ?_⟩
    have closed' := closed.trans last
    rw [hex?, alone (closed'.trans behind)]
    simpa [alone' closed', scalar, Flags.skip_unclosed closed] using digital
  · rename_i other
    simp only [Option.bind_eq_bind, Option.bind_eq_some_iff, Prod.exists, Option.some.injEq,
      Prod.mk.injEq] at read
    obtain ⟨digits, rest, digital, c, scalar, rfl, rfl⟩ := read
    obtain ⟨within, alone⟩ := hexDigits?_confined flags _ digital
    refine ⟨within.trans (flags.skip_suffix cs), fun closed => ?_⟩
    have closed' := closed.trans within
    rw [hex?, Flags.skip_unclosed closed']
    split
    · rename_i rest braced
      exact absurd (eq_cons_of_unclosed closed' braced) (other _)
    · simp [alone closed, scalar]

theorem named?_confined (flags : Flags) (negated : Bool) : Confined (named? flags negated) := by
  intro cs a left read
  rw [named?] at read
  split at read
  · cases read
  · rename_i rest skipped
    simp only [Option.bind_eq_bind, Option.bind_eq_some_iff, Prod.exists, Option.some.injEq,
      Prod.mk.injEq] at read
    obtain ⟨inside, rest', upTo, primitive, named, rfl, rfl⟩ := read
    obtain ⟨opened, alone⟩ := Flags.of_skip_cons skipped
    obtain ⟨behind, alone'⟩ := upToBrace?_confined flags false upTo
    refine ⟨behind.trans opened, fun closed => ?_⟩
    rw [named?, alone (closed.trans behind)]
    simp [alone' closed, named]
  · rename_i c rest other skipped
    rw [Option.ite_none_left_eq_some, Option.map_eq_some_iff] at read
    obtain ⟨plain, s, named, same⟩ := read
    cases same
    obtain ⟨opened, alone⟩ := Flags.of_skip_cons skipped
    have last := flags.skip_suffix rest
    refine ⟨last.trans opened, fun closed => ?_⟩
    rw [named?, alone (closed.trans last)]
    simp [plain, named, Flags.skip_unclosed closed]

/-- All that is left of the source is an opening brace. -/
def BraceLeft (flags : Flags) (left : List Char) : Prop :=
  ∃ inside, left = '\x7b' :: inside ∧ flags.skip (unclosed inside) = []

section Escapes

variable {flags : Flags} {cs left : List Char} {a : Primitive}

/-- A brace behind the edge of a word may begin no name. In a source that ends with it nothing says
so. -/
theorem wordEdge?_brace {inside rest : List Char} {c : Char} (skipped : flags.skip inside = c :: rest)
    (plain : (!isEdgeChar c) = true) (closed : closing <:+ '\x7b' :: inside) :
    wordEdge? flags (unclosed ('\x7b' :: inside)) =
        some (.look (.word .boundary (!flags.unicode)), unclosed ('\x7b' :: inside)) ∨
      BraceLeft flags ('\x7b' :: inside) := by
  have behind : closing <:+ inside := (List.suffix_cons_iff.mp closed).resolve_left nofun
  have closed' : closing <:+ flags.skip inside :=
    (flags.skip_eq_nil_or behind).resolve_left (by simp [skipped])
  have itself := Flags.skip_unclosed closed'
  cases front : unclosed (flags.skip inside) with
  | nil => exact .inr ⟨inside, rfl, by rw [itself, front]⟩
  | cons c' rest' =>
    have same := eq_cons_of_unclosed closed' front
    rw [skipped] at same
    cases same
    left
    simp [unclosed_cons _ behind, wordEdge?, itself, front, plain]

theorem wordEdge?_named {inside rest name : List Char} {c : Char} {edge : WordEdge}
    (skipped : flags.skip inside = c :: rest) (named : (!isEdgeChar c) = false)
    (upTo : upToBrace? flags false (c :: rest) = some (name, left))
    (known : WordEdge.named? (String.ofList name) = some edge) :
    left <:+ inside ∧ (closing <:+ left → wordEdge? flags (unclosed ('\x7b' :: inside)) =
      some (.look (.word edge (!flags.unicode)), unclosed left)) := by
  obtain ⟨opened, alone⟩ := Flags.of_skip_cons skipped
  have within := upToBrace?_suffix upTo
  refine ⟨within.trans opened, fun closed => ?_⟩
  have closed' := closed.trans within
  have read := (upToBrace?_confined flags false upTo).2 closed
  rw [unclosed_cons c closed'] at read
  simp [unclosed_cons _ (closed'.trans opened), wordEdge?, alone closed', named, read, known]

/-- The edge of a word is read alone, unless a brace is left that nothing follows. -/
theorem wordEdge?_confined (read : wordEdge? flags cs = some (a, left)) :
    left <:+ cs ∧ (closing <:+ left →
      wordEdge? flags (unclosed cs) = some (a, unclosed left) ∨
        (∃ l, a = .look l) ∧ BraceLeft flags left) := by
  unfold wordEdge? at read
  split at read
  · rename_i inside
    split at read
    · cases read
    · rename_i c rest skipped
      split at read
      · rename_i plain
        cases read
        exact ⟨List.suffix_refl _, fun closed =>
          (wordEdge?_brace skipped plain closed).imp_right fun brace => ⟨⟨_, rfl⟩, brace⟩⟩
      · rename_i named
        simp only [Option.bind_eq_bind, Option.bind_eq_some_iff, Prod.exists, Option.some.injEq,
          Prod.mk.injEq] at read
        obtain ⟨name, rest', upTo, edge, known, rfl, rfl⟩ := read
        obtain ⟨within, alone⟩ := wordEdge?_named skipped (by simpa using named) upTo known
        exact ⟨within.trans (List.suffix_cons _ inside), fun closed => .inl (alone closed)⟩
  · rename_i other
    cases read
    refine ⟨List.suffix_refl _, fun closed => .inl ?_⟩
    unfold wordEdge?
    split
    · rename_i inside braced
      exact absurd (eq_cons_of_unclosed closed braced) (other _)
    · rfl

theorem escape?_confined (read : escape? flags cs = some (a, left)) :
    (∃ c rest, cs = c :: rest ∧ left <:+ rest) ∧ (closing <:+ left →
      escape? flags (unclosed cs) = some (a, unclosed left) ∨
        (∃ l, a = .look l) ∧ BraceLeft flags left) := by
  unfold escape? at read
  split at read
  · cases read
  · rename_i c rest
    -- What is read behind the letter does not depend on what it stands behind.
    have behind (within : left <:+ rest) (alone : closing <:+ left →
        escape? flags (c :: unclosed rest) = some (a, unclosed left) ∨
          (∃ l, a = .look l) ∧ BraceLeft flags left) :
        (∃ c' rest', c :: rest = c' :: rest' ∧ left <:+ rest') ∧ (closing <:+ left →
          escape? flags (unclosed (c :: rest)) = some (a, unclosed left) ∨
            (∃ l, a = .look l) ∧ BraceLeft flags left) :=
      ⟨⟨c, rest, rfl, within⟩, fun closed => by
        rw [unclosed_cons c (closed.trans within)]
        exact alone closed⟩
    split_ifs at read with hexadecimal named edge
    · obtain ⟨within, alone⟩ := hex?_confined flags c read
      exact behind within fun closed => .inl (by rw [escape?, if_pos hexadecimal, alone closed])
    · obtain ⟨within, alone⟩ := named?_confined flags _ read
      exact behind within fun closed => .inl (by
        rw [escape?, if_neg hexadecimal, if_pos named, alone closed])
    · obtain ⟨within, alone⟩ := wordEdge?_confined read
      refine behind within fun closed => (alone closed).imp_left fun alone => ?_
      rw [escape?, if_neg hexadecimal, if_neg named, if_pos edge, alone]
    · refine behind ?_ fun closed => .inl ?_
      · split at read
        · cases read
          exact List.suffix_refl _
        · obtain ⟨p, -, same⟩ := Option.map_eq_some_iff.mp read
          cases same
          exact List.suffix_refl _
      · rw [escape?, if_neg hexadecimal, if_neg named, if_neg edge]
        split at read
        · rename_i s ascii lettered
          cases read
          rfl
        · rename_i plain
          obtain ⟨p, primitive, same⟩ := Option.map_eq_some_iff.mp read
          cases same
          simp only [primitive, Option.map_some]

theorem bracketItem?_confined (read : bracketItem? flags cs = some (a, left)) :
    (∃ c rest, cs = c :: rest ∧ left <:+ rest) ∧ (closing <:+ left →
      bracketItem? flags (unclosed cs) = some (a, unclosed left) ∨ ∃ l, a = .look l) := by
  rw [bracketItem?.eq_def] at read
  split at read
  · cases read
  · rename_i rest
    obtain ⟨⟨c, rest', rfl, within⟩, alone⟩ := escape?_confined read
    have within' := within.trans (List.suffix_cons c rest')
    refine ⟨⟨'\\', _, rfl, within'⟩, fun closed => ?_⟩
    rw [unclosed_cons _ (closed.trans within'), bracketItem?]
    exact (alone closed).imp_right And.left
  · rename_i c rest plain
    cases read
    refine ⟨⟨c, left, rfl, List.suffix_refl _⟩, fun closed => .inl ?_⟩
    rw [unclosed_cons _ closed, bracketItem?]
    exact plain

end Escapes

end FeatureFlags.Pattern
