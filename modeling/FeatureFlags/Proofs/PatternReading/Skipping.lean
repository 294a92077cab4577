import FeatureFlags.Pattern
import Mathlib.Data.List.Infix

namespace FeatureFlags.Pattern

/-- What the anchors put behind a source. -/
def closing : List Char := [')', '$']

/-- A text without what the anchors put behind it. -/
def unclosed (cs : List Char) : List Char := cs.take (cs.length - closing.length)

section Unclosed

variable {cs left : List Char}

@[simp] theorem unclosed_append (cs : List Char) : unclosed (cs ++ closing) = cs := by
  simp [unclosed]

theorem unclosed_append_closing (closed : closing <:+ cs) : unclosed cs ++ closing = cs := by
  obtain ⟨front, rfl⟩ := closed
  rw [unclosed_append]

@[simp] theorem unclosed_closing : unclosed closing = [] := rfl

theorem eq_cons_of_unclosed {c : Char} (closed : closing <:+ cs) (front : unclosed cs = c :: left) :
    cs = c :: (left ++ closing) := by
  rw [← unclosed_append_closing closed, front, List.cons_append]

theorem unclosed_append_suffix (front : List Char) (closed : closing <:+ left) :
    unclosed (front ++ left) = front ++ unclosed left := by
  obtain ⟨left', rfl⟩ := closed
  rw [← List.append_assoc, unclosed_append, unclosed_append]

theorem unclosed_cons (c : Char) (closed : closing <:+ cs) : unclosed (c :: cs) = c :: unclosed cs :=
  unclosed_append_suffix [c] closed

end Unclosed

/-- A reader that leaves an end of what it is given. As long as it leaves what the anchors put behind
a source, it reads the source alone the same way. -/
def Confined {α : Type} (read : List Char → Option (α × List Char)) : Prop :=
  ∀ {cs a left}, read cs = some (a, left) →
    left <:+ cs ∧ (closing <:+ left → read (unclosed cs) = some (a, unclosed left))

section Skipping

theorem skipVerbose_suffix (inComment : Bool) (cs : List Char) :
    skipVerbose inComment cs <:+ cs := by
  induction cs generalizing inComment with
  | nil => exact List.suffix_refl _
  | cons c rest ih =>
    rw [skipVerbose]
    split_ifs
    · exact (ih _).trans (List.suffix_cons c rest)
    · exact (ih _).trans (List.suffix_cons c rest)
    · exact (ih _).trans (List.suffix_cons c rest)
    · exact List.suffix_refl _

theorem skipVerbose_unclosed {inComment : Bool} {cs : List Char}
    (closed : closing <:+ skipVerbose inComment cs) :
    skipVerbose inComment (unclosed cs) = unclosed (skipVerbose inComment cs) := by
  induction cs generalizing inComment with
  | nil => cases closed.length_le
  | cons c rest ih =>
    rw [skipVerbose] at closed ⊢
    by_cases behind : closing <:+ rest
    · rw [unclosed_cons c behind, skipVerbose]
      split_ifs at closed ⊢
      · exact ih closed
      · exact ih closed
      · exact ih closed
      · rw [unclosed_cons c behind]
    · -- Only a text that begins with what is behind the source leaves it.
      have (inComment : Bool) : ¬ closing <:+ skipVerbose inComment rest := fun closed =>
        behind (closed.trans (skipVerbose_suffix inComment rest))
      split_ifs at closed ⊢
      · exact absurd closed (this _)
      · exact absurd closed (this _)
      · exact absurd closed (this _)
      · rw [(List.suffix_cons_iff.mp closed).resolve_right behind |>.symm]
        rfl

/-- A comment may run over what is behind the source, but nothing else does. -/
theorem skipVerbose_eq_nil_or {inComment : Bool} {cs : List Char} (closed : closing <:+ cs) :
    skipVerbose inComment cs = [] ∨ closing <:+ skipVerbose inComment cs := by
  induction cs generalizing inComment with
  | nil => exact .inl rfl
  | cons c rest ih =>
    rcases List.suffix_cons_iff.mp closed with same | behind
    · cases same
      cases inComment with
      | true => exact .inl rfl
      | false => exact .inr (List.suffix_refl _)
    · rw [skipVerbose]
      split_ifs
      · exact ih behind
      · exact ih behind
      · exact ih behind
      · exact .inr closed

variable {flags : Flags} {cs left : List Char}

theorem Flags.skip_suffix (flags : Flags) (cs : List Char) : flags.skip cs <:+ cs := by
  rw [Flags.skip]
  split
  · exact skipVerbose_suffix false cs
  · exact List.suffix_refl _

theorem Flags.skip_unclosed (closed : closing <:+ flags.skip cs) :
    flags.skip (unclosed cs) = unclosed (flags.skip cs) := by
  by_cases verbose : flags.verbose
  · simp only [Flags.skip, verbose, if_true] at closed ⊢
    exact skipVerbose_unclosed closed
  · simp [Flags.skip, verbose]

theorem Flags.skip_eq_nil_or (flags : Flags) (closed : closing <:+ cs) :
    flags.skip cs = [] ∨ closing <:+ flags.skip cs := by
  by_cases verbose : flags.verbose
  · simp only [Flags.skip, verbose, if_true]
    exact skipVerbose_eq_nil_or closed
  · simp only [Flags.skip, verbose]
    exact .inr closed

theorem Flags.of_skip_cons {c : Char} {rest : List Char} (skipped : flags.skip cs = c :: rest) :
    rest <:+ cs ∧ (closing <:+ rest → flags.skip (unclosed cs) = c :: unclosed rest) := by
  have within := flags.skip_suffix cs
  rw [skipped] at within
  refine ⟨(List.suffix_cons c rest).trans within, fun closed => ?_⟩
  have closed' : closing <:+ flags.skip cs := skipped ▸ closed.trans (List.suffix_cons c rest)
  rw [Flags.skip_unclosed closed', skipped, unclosed_cons c closed]

theorem Flags.length_lt_of_skip_cons {c : Char} {rest : List Char}
    (skipped : flags.skip cs = c :: rest) : rest.length < cs.length := by
  have short := (flags.skip_suffix cs).length_le
  rw [skipped] at short
  exact short

theorem Flags.closed_of_skip_cons {c : Char} {rest : List Char} (closed : closing <:+ cs)
    (skipped : flags.skip cs = c :: rest) (other : c ≠ ')') : closing <:+ rest := by
  rcases skipped ▸ flags.skip_eq_nil_or closed with none | behind
  · cases none
  · exact (List.suffix_cons_iff.mp behind).resolve_left fun same => other (by cases same; rfl)

end Skipping

end FeatureFlags.Pattern
