import FeatureFlags.Proofs.PatternReading.Skipping

namespace FeatureFlags.Pattern

open Text

variable {flags : Flags} {cs left : List Char}

theorem dropBlanks_unclosed (closed : closing <:+ cs) :
    (unclosed cs).dropWhile isBlank = unclosed (cs.dropWhile isBlank) := by
  obtain ⟨front, rfl⟩ := closed
  have kept : (front ++ closing).dropWhile isBlank = front.dropWhile isBlank ++ closing := by
    have untouched : closing.dropWhile isBlank = closing := by decide
    rw [List.dropWhile_append, untouched]
    split
    · rename_i empty
      rw [List.isEmpty_iff.mp empty, List.nil_append]
    · rfl
  rw [kept, unclosed_append, unclosed_append]

theorem digitRun_suffix (flags : Flags) (fuel : Nat) (cs : List Char) :
    (count?.digitRun flags fuel cs).2 <:+ cs := by
  induction fuel generalizing cs with
  | zero => exact List.suffix_refl _
  | succ fuel ih =>
    cases cs with
    | nil => exact List.suffix_refl _
    | cons c rest =>
      rw [count?.digitRun]
      split
      · exact (ih _).trans ((flags.skip_suffix rest).trans (List.suffix_cons c rest))
      · exact List.suffix_refl _

theorem digitRun_unclosed {fuel enough : Nat} (long : cs.length ≤ fuel)
    (long' : (unclosed cs).length ≤ enough) (closed : closing <:+ (count?.digitRun flags fuel cs).2) :
    count?.digitRun flags enough (unclosed cs) =
      ((count?.digitRun flags fuel cs).1, unclosed (count?.digitRun flags fuel cs).2) := by
  induction fuel generalizing cs enough with
  | zero =>
    rw [List.eq_nil_of_length_eq_zero (Nat.le_zero.mp long)] at closed
    cases closed.length_le
  | succ fuel ih =>
    cases cs with
    | nil => cases closed.length_le
    | cons c rest =>
      rw [count?.digitRun] at closed ⊢
      rw [List.length_cons] at long
      by_cases digit : isDigit c
      · rw [if_pos digit] at closed ⊢
        have behind := closed.trans (digitRun_suffix flags fuel (flags.skip rest))
        have closed' := behind.trans (flags.skip_suffix rest)
        have short := (flags.skip_suffix rest).length_le
        have short' := (flags.skip_suffix (unclosed rest)).length_le
        rw [Flags.skip_unclosed behind] at short'
        rw [unclosed_cons c closed', List.length_cons] at long'
        cases enough with
        | zero => omega
        | succ enough =>
          rw [unclosed_cons c closed', count?.digitRun, if_pos digit, Flags.skip_unclosed behind,
            ih (by omega) (by omega) closed]
      · rw [if_neg digit] at closed ⊢
        cases front : unclosed (c :: rest) with
        | nil => cases enough <;> rfl
        | cons d rest' =>
          obtain ⟨rfl, -⟩ := List.cons.inj (eq_cons_of_unclosed closed front)
          rw [front, List.length_cons] at long'
          cases enough with
          | zero => omega
          | succ enough => rw [count?.digitRun, if_neg digit]

theorem count?_confined : Confined (count? flags) := by
  intro cs n left read
  have run := digitRun_suffix flags (cs.dropWhile isBlank).length (cs.dropWhile isBlank)
  have alone {enough : Nat} :=
    @digitRun_unclosed flags (cs.dropWhile isBlank) _ enough le_rfl
  unfold count? at read
  dsimp only at read
  set digits := count?.digitRun flags (cs.dropWhile isBlank).length (cs.dropWhile isBlank)
  have blanks : digits.2.dropWhile isBlank <:+ digits.2 := List.dropWhile_suffix _
  have last := flags.skip_suffix (digits.2.dropWhile isBlank)
  have first : cs.dropWhile isBlank <:+ cs := List.dropWhile_suffix _
  have same : left = flags.skip (digits.2.dropWhile isBlank) := by
    split_ifs at read <;> cases read <;> rfl
  subst same
  refine ⟨last.trans (blanks.trans (run.trans first)), fun closed => ?_⟩
  have closed₁ := closed.trans last
  have closed₂ := closed₁.trans blanks
  have closed₃ := closed₂.trans (run.trans first)
  unfold count?
  dsimp only
  rw [dropBlanks_unclosed closed₃, alone (le_refl _) closed₂]
  dsimp only
  rw [dropBlanks_unclosed closed₂, Flags.skip_unclosed closed]
  split_ifs at read ⊢ <;> cases read <;> rfl

theorem dropLazy_suffix (cs : List Char) : dropLazy cs <:+ cs := by
  unfold dropLazy
  split
  · exact List.suffix_cons _ _
  · exact List.suffix_refl _

theorem dropLazy_unclosed (closed : closing <:+ dropLazy cs) :
    dropLazy (unclosed cs) = unclosed (dropLazy cs) := by
  unfold dropLazy at closed
  split at closed
  · rw [unclosed_cons _ closed]
    rfl
  · rename_i eager
    unfold dropLazy
    split
    · rename_i same
      exact absurd (eq_cons_of_unclosed closed same) (eager _)
    · rfl

theorem count?_unclosed {n : Option Nat} {rest : List Char}
    (counted : count? flags (flags.skip cs) = some (n, rest)) (closed : closing <:+ rest) :
    count? flags (flags.skip (unclosed cs)) = some (n, unclosed rest) := by
  obtain ⟨within, alone⟩ := count?_confined counted
  rw [Flags.skip_unclosed (closed.trans within), alone closed]

theorem bounds?_between {low high : Nat} {rest : List Char}
    (counted : count? flags (flags.skip cs) = some (some low, ',' :: rest))
    (further : ∀ more, flags.skip rest ≠ '\x7d' :: more)
    (again : count? flags (flags.skip rest) = some (some high, '\x7d' :: left))
    (ordered : low ≤ high) :
    left <:+ cs ∧ (closing <:+ left →
      bounds? flags (unclosed cs) = some (low, some high, unclosed left)) := by
  have behind := (count?_confined counted).1.trans (flags.skip_suffix cs)
  have behind' := (count?_confined again).1
  have last : left <:+ '\x7d' :: left := List.suffix_cons _ left
  have comma : rest <:+ ',' :: rest := List.suffix_cons ',' rest
  have within := (last.trans behind').trans (flags.skip_suffix rest)
  refine ⟨within.trans (comma.trans behind), fun closed => ?_⟩
  have closed' := closed.trans (last.trans behind')
  have closed'' := closed.trans within
  have again' := (count?_confined again).2 (closed.trans last)
  rw [unclosed_cons _ closed] at again'
  simp only [bounds?, Option.bind_eq_bind, count?_unclosed counted (closed''.trans comma),
    unclosed_cons _ closed'', Option.bind_some, Flags.skip_unclosed closed']
  split
  · rename_i same
    exact absurd (eq_cons_of_unclosed closed' same) (further _)
  · simp only [again', Option.bind_some, if_pos ordered]

theorem bounds?_confined {low : Nat} {high : Option Nat}
    (read : bounds? flags cs = some (low, high, left)) :
    left <:+ cs ∧ (closing <:+ left →
      bounds? flags (unclosed cs) = some (low, high, unclosed left)) := by
  simp only [bounds?, Option.bind_eq_bind, Option.bind_eq_some_iff, Prod.exists] at read
  obtain ⟨_, rest, counted, low', rfl, chosen⟩ := read
  have behind := (count?_confined counted).1.trans (flags.skip_suffix cs)
  split at chosen
  · rename_i rest
    cases chosen
    have last : left <:+ '\x7d' :: left := List.suffix_cons _ left
    refine ⟨last.trans behind, fun closed => ?_⟩
    simp [bounds?, count?_unclosed counted (closed.trans last), unclosed_cons _ closed]
  · rename_i rest
    have comma : rest <:+ ',' :: rest := List.suffix_cons ',' rest
    split at chosen
    · rename_i rest' skipped
      cases chosen
      obtain ⟨opened, alone⟩ := Flags.of_skip_cons skipped
      refine ⟨opened.trans (comma.trans behind), fun closed => ?_⟩
      have closed' := closed.trans opened
      simp [bounds?, count?_unclosed counted (closed'.trans comma), unclosed_cons _ closed',
        alone closed]
    · rename_i further
      simp only [Option.bind_eq_some_iff, Prod.exists] at chosen
      obtain ⟨_, rest', again, high', rfl, chosen⟩ := chosen
      split at chosen
      · rw [Option.ite_none_right_eq_some] at chosen
        obtain ⟨ordered, same⟩ := chosen
        cases same
        exact bounds?_between counted further again ordered
      · cases chosen
  · cases chosen

theorem bounds?_of_skip_nil (nothing : flags.skip cs = []) : bounds? flags cs = none := by
  simp [bounds?, nothing, count?, count?.digitRun]

end FeatureFlags.Pattern
