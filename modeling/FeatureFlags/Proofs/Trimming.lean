import FeatureFlags.Operand
import FeatureFlags.Proofs.Digits
import FeatureFlags.Proofs.Readers
import FeatureFlags.Targeting

namespace FeatureFlags

namespace Text

/-- No blank stands at either end of the text. -/
structure IsTrimmed (cs : List Char) : Prop where
  start : ∀ c ∈ cs.head?, isBlank c = false
  finish : ∀ c ∈ cs.getLast?, isBlank c = false

/-- Nothing but blanks stands around the inner text. -/
def Blanked (inner cs : List Char) : Prop :=
  ∃ before behind, cs = before ++ (inner ++ behind) ∧ (∀ c ∈ before, isBlank c = true) ∧
    ∀ c ∈ behind, isBlank c = true

variable {cs text : List Char}

theorem isTrimmed_of_unblank (unblank : ∀ c ∈ cs, isBlank c = false) : IsTrimmed cs where
  start c first := unblank c (List.mem_of_mem_head? first)
  finish c last := unblank c (List.mem_of_mem_getLast? last)

theorem isTrimmed_trimChars (cs : List Char) : IsTrimmed (trimChars cs) := by
  have stopped (cs : List Char) : ∀ c ∈ (cs.dropWhile isBlank).head?, isBlank c = false := by
    intro c first
    have unblank := List.head?_dropWhile_not isBlank cs
    rwa [Option.mem_def.mp first] at unblank
  constructor
  · -- What is dropped at the end leaves the first character, if any is left.
    intro c first
    refine stopped cs c ?_
    have kept : trimChars cs <+: cs.dropWhile isBlank := by
      rw [← List.reverse_suffix, trimChars, List.reverse_reverse]
      exact List.dropWhile_suffix _
    obtain ⟨behind, parts⟩ := kept
    rw [← parts, List.head?_append, Option.mem_def.mp first]
    rfl
  · intro c last
    rw [trimChars, List.getLast?_reverse] at last
    exact stopped _ c last

theorem blanked_trimChars (cs : List Char) : Blanked (trimChars cs) cs := by
  have blanks (cs : List Char) : ∀ c ∈ cs.takeWhile isBlank, isBlank c = true :=
    fun c within => List.mem_takeWhile_imp within
  refine ⟨cs.takeWhile isBlank, ((cs.dropWhile isBlank).reverse.takeWhile isBlank).reverse, ?_,
    blanks cs, fun c within => blanks _ c (List.mem_reverse.mp within)⟩
  rw [trimChars, ← List.reverse_append, List.takeWhile_append_dropWhile, List.reverse_reverse,
    List.takeWhile_append_dropWhile]

/-- Trimming takes the blanks around a text, and no more. -/
theorem trimChars_eq_iff : trimChars cs = text ↔ IsTrimmed text ∧ Blanked text cs := by
  constructor
  · rintro rfl
    exact ⟨isTrimmed_trimChars cs, blanked_trimChars cs⟩
  · rintro ⟨trimmed, before, behind, rfl, first, last⟩
    exact trimChars_between first trimmed.start trimmed.finish last

theorem Blanked.refl (cs : List Char) : Blanked cs cs :=
  ⟨[], [], by simp, List.forall_mem_nil _, List.forall_mem_nil _⟩

theorem IsTrimmed.trimChars_eq (trimmed : IsTrimmed cs) : trimChars cs = cs :=
  trimChars_eq_iff.mpr ⟨trimmed, .refl cs⟩

theorem Blanked.trans {inner cs outer : List Char} (within : Blanked inner cs)
    (around : Blanked cs outer) : Blanked inner outer := by
  obtain ⟨before, behind, rfl, first, last⟩ := within
  obtain ⟨before', behind', rfl, first', last'⟩ := around
  refine ⟨before' ++ before, behind ++ behind', by simp, ?_, ?_⟩
  · exact List.forall_mem_append.mpr ⟨first', first⟩
  · exact List.forall_mem_append.mpr ⟨last, last'⟩

/-- More blanks around a text make no difference. -/
theorem Blanked.trimChars_eq {outer : List Char} (around : Blanked cs outer) :
    trimChars outer = trimChars cs :=
  trimChars_eq_iff.mpr ⟨isTrimmed_trimChars cs, (blanked_trimChars cs).trans around⟩

theorem isBlank_of_isDigit {c : Char} (digit : isDigit c = true) : isBlank c = false := by
  rw [isDigit_iff] at digit
  simp only [isBlank, Bool.or_eq_false_iff, Bool.and_eq_false_iff, decide_eq_false_iff_not]
  omega

end Text

namespace Binary64

open Text

/-- The characters that numbers are written with when they are not written with an exponent. -/
def IsPlain (c : Char) : Prop := isDigit c = true ∨ c = '-' ∨ c = '.'

theorem isDigit_of_mem_shortest {tie : Tie} {m : Nat} {e : Int} {c : Char}
    (within : c ∈ (shortest tie m e).digits) : isDigit c = true := by
  have kept := (List.dropWhile_suffix _).subset (List.mem_reverse.mp within)
  exact isDigit_of_mem_toDigits (List.mem_reverse.mp kept)

theorem isPlain_of_mem_positional {decimal : Decimal} {c : Char}
    (digits : ∀ d ∈ decimal.digits, isDigit d = true) (within : c ∈ positional [] decimal) :
    IsPlain c := by
  have zero {k : Nat} (within : c ∈ List.replicate k '0') : isDigit c = true := by
    rw [List.eq_of_mem_replicate within]
    rfl
  unfold positional at within
  dsimp only at within
  split at within
  · simp only [List.mem_append, List.mem_cons, List.not_mem_nil, or_false] at within
    rcases within with ((rfl | rfl) | within) | within
    · exact Or.inl rfl
    · exact Or.inr (Or.inr rfl)
    · exact Or.inl (zero within)
    · exact Or.inl (digits c within)
  split at within
  · simp only [List.mem_append, List.append_nil] at within
    exact Or.inl (within.elim (digits c) zero)
  · rcases List.mem_append.mp within with within | within
    · exact Or.inl (digits c (List.mem_of_mem_take within))
    · rcases List.mem_cons.mp within with rfl | within
      · exact Or.inr (Or.inr rfl)
      · exact Or.inl (digits c (List.mem_of_mem_drop within))

theorem isPlain_of_mem_plainText {negative : Bool} {m : Nat} {e : Int} {c : Char}
    (within : c ∈ (plainText (.finite negative m e)).toList) : IsPlain c := by
  have body (within : c ∈ if m = 0 then ['0'] else positional [] (shortest .up m e)) :
      IsPlain c := by
    split at within
    · rw [List.mem_singleton.mp within]
      exact Or.inl rfl
    · exact isPlain_of_mem_positional (fun _ => isDigit_of_mem_shortest) within
  rw [plainText, String.toList_ofList] at within
  cases negative with
  | false => exact body within
  | true =>
    rcases List.mem_cons.mp within with rfl | within
    · exact Or.inr (Or.inl rfl)
    · exact body within

/-- In canonical form a finite number has no plus and no exponent. -/
theorem isPlain_of_mem_canonicalText {negative : Bool} {m : Nat} {e : Int} {c : Char}
    (within : c ∈ (canonicalText (.finite negative m e)).toList) : IsPlain c := by
  unfold canonicalText at within
  split at within
  · split at within
    · exact ((digits_of_int _).2 c within).imp_right Or.inl
    · exact isPlain_of_mem_plainText within
  · exact isPlain_of_mem_plainText within

theorem IsPlain.solid {c : Char} (plain : IsPlain c) : isBlank c = false ∧ c ≠ '"' := by
  rcases plain with digit | rfl | rfl
  · refine ⟨isBlank_of_isDigit digit, ?_⟩
    rintro rfl
    cases digit
  · decide
  · decide

theorem solid_of_mem_canonicalText {x : Binary64} {c : Char}
    (within : c ∈ x.canonicalText.toList) : isBlank c = false ∧ c ≠ '"' := by
  have word {text : List Char} (solid : text.all fun c => !isBlank c && c != '"')
      (within : c ∈ text) : isBlank c = false ∧ c ≠ '"' := by
    simpa using List.all_eq_true.mp solid c within
  cases x with
  | finite => exact (isPlain_of_mem_canonicalText within).solid
  | infinite negative => cases negative <;> exact word (by decide) within
  | nan => exact word (by decide) within

end Binary64

open Text

section Canonical

variable {cs : List Char} {x : Binary64}

/-- The text is that of a number, and not one of the words for infinity and NaN. -/
def IsNumberText (x : Binary64) (cs : List Char) : Prop :=
  (∀ c ∈ cs, isNumberChar c = true) ∧ Binary64.ofChars? cs = some x

theorem canonicalChars_of_number (number : IsNumberText x (trimChars cs)) :
    canonicalChars cs = x.canonicalText.toList := by
  obtain ⟨numeric, read⟩ := number
  have written : (trimChars cs).isEmpty = false := by
    rw [List.isEmpty_eq_false_iff]
    intro empty
    rw [empty] at read
    cases read
  simp only [canonicalChars, written, List.all_eq_true.mpr numeric, read, Bool.not_true,
    Bool.or_self, Bool.false_eq_true, if_false]

theorem canonicalChars_of_word (word : ∀ x, ¬ IsNumberText x (trimChars cs)) :
    canonicalChars cs = trimChars cs := by
  unfold canonicalChars
  dsimp only
  split
  · rfl
  · rename_i numeric
    rw [Bool.or_eq_true, not_or, Bool.not_eq_true', Bool.not_eq_false, List.all_eq_true] at numeric
    split
    · rename_i x read
      exact absurd ⟨numeric.2, read⟩ (word x)
    · rfl

theorem isTrimmed_canonicalChars (cs : List Char) : IsTrimmed (canonicalChars cs) := by
  by_cases number : ∃ x, IsNumberText x (trimChars cs)
  · obtain ⟨x, number⟩ := number
    rw [canonicalChars_of_number number]
    exact isTrimmed_of_unblank fun c within => (Binary64.solid_of_mem_canonicalText within).1
  · rw [canonicalChars_of_word (not_exists.mp number)]
    exact isTrimmed_trimChars cs

theorem quote_notMem_canonicalChars (unquoted : '"' ∉ cs) : '"' ∉ canonicalChars cs := by
  by_cases number : ∃ x, IsNumberText x (trimChars cs)
  · obtain ⟨x, number⟩ := number
    rw [canonicalChars_of_number number]
    exact fun within => (Binary64.solid_of_mem_canonicalText within).2 rfl
  · rw [canonicalChars_of_word (not_exists.mp number)]
    obtain ⟨before, behind, parts, -, -⟩ := blanked_trimChars cs
    intro within
    rw [parts] at unquoted
    exact unquoted (by simp [within])

end Canonical

namespace Operand

variable {cs : List Char} {x : Binary64}

theorem quote_notMem_clean (cs : List Char) : '"' ∉ (clean cs).toList := by
  rw [clean, String.toList_ofList]
  refine quote_notMem_canonicalChars fun within => ?_
  simpa using List.of_mem_filter within

theorem isTrimmed_clean (cs : List Char) : IsTrimmed (clean cs).toList := by
  rw [clean, String.toList_ofList]
  exact isTrimmed_canonicalChars _

/-- However a number is written, and wherever quotes and blanks stand around it, its canonical text is
left. -/
theorem clean_of_number (number : IsNumberText x (trimChars (unquotedChars cs))) :
    clean cs = x.canonicalText := by
  rw [clean, canonicalChars_of_number number, String.ofList_toList]

/-- Of any other text all is left but its double quotes and the blanks at its ends. -/
theorem clean_of_word (word : ∀ x, ¬ IsNumberText x (trimChars (unquotedChars cs))) :
    clean cs = String.ofList (trimChars (unquotedChars cs)) := by
  rw [clean, canonicalChars_of_word word]

end Operand

section Unquote

variable {cs text inner : List Char}

/-- The text in a pair of double quotes. -/
def inQuotes (inner : List Char) : List Char := '"' :: (inner ++ ['"'])

theorem isTrimmed_inQuotes (inner : List Char) : IsTrimmed (inQuotes inner) := by
  constructor
  · rintro c first
    cases first
    decide
  · intro c last
    rw [inQuotes, ← List.cons_append, List.getLast?_concat] at last
    cases last
    decide

theorem isTrimmed_unquote (cs : List Char) : IsTrimmed (unquote cs) := isTrimmed_trimChars _

theorem unquote_of_quoted (blanked : Blanked (inQuotes inner) cs) : unquote cs = trimChars inner := by
  have trimmed : trimChars cs = inQuotes inner :=
    trimChars_eq_iff.mpr ⟨isTrimmed_inQuotes inner, blanked⟩
  have opened : after? ['"'] (inQuotes inner) = some (inner ++ ['"']) := after?_eq_some_iff.mpr rfl
  have closed : before? ['"'] (inner ++ ['"']) = some inner := before?_eq_some_iff.mpr rfl
  simp only [unquote, trimmed, opened, closed, Option.bind_some, Option.getD_some]

theorem unquote_of_unquoted (plain : ∀ inner, trimChars cs ≠ inQuotes inner) :
    unquote cs = trimChars cs := by
  have untouched : (after? ['"'] (trimChars cs)).bind (before? ['"']) = none := by
    refine Option.eq_none_iff_forall_ne_some.mpr fun inner found => ?_
    obtain ⟨front, opened, closed⟩ := Option.bind_eq_some_iff.mp found
    refine plain inner ?_
    rw [after?_eq_some_iff.mp opened, before?_eq_some_iff.mp closed]
    rfl
  simp only [unquote, untouched, Option.getD_none, (isTrimmed_trimChars cs).trimChars_eq]

/-- Of a text in quotes what stands between the blanks inside is left, of any other one what stands
between the blanks around it. -/
theorem unquote_eq_iff : unquote cs = text ↔ IsTrimmed text ∧
    ((∃ inner, Blanked (inQuotes inner) cs ∧ Blanked text inner) ∨
      (∀ inner, text ≠ inQuotes inner) ∧ Blanked text cs) := by
  by_cases pair : ∃ inner, trimChars cs = inQuotes inner
  · obtain ⟨inner, trimmed⟩ := pair
    have blanked : Blanked (inQuotes inner) cs := trimmed ▸ blanked_trimChars cs
    rw [unquote_of_quoted blanked, trimChars_eq_iff]
    refine and_congr_right fun own => ⟨fun inside => Or.inl ⟨inner, blanked, inside⟩, ?_⟩
    rintro (⟨inner', blanked', inside⟩ | ⟨plain, around⟩)
    · have same := trimmed.symm.trans (trimChars_eq_iff.mpr ⟨isTrimmed_inQuotes inner', blanked'⟩)
      have same' : inner = inner' := by simpa [inQuotes] using same
      rwa [same']
    · exact absurd ((trimChars_eq_iff.mpr ⟨own, around⟩).symm.trans trimmed) (plain inner)
  · have plain : ∀ inner, trimChars cs ≠ inQuotes inner := not_exists.mp pair
    rw [unquote_of_unquoted plain, trimChars_eq_iff]
    refine and_congr_right fun own => ⟨fun around => Or.inr ⟨fun inner same => ?_, around⟩, ?_⟩
    · exact plain inner (trimChars_eq_iff.mpr ⟨isTrimmed_inQuotes inner, same ▸ around⟩)
    · rintro (⟨inner, blanked, -⟩ | ⟨-, around⟩)
      · exact absurd (trimChars_eq_iff.mpr ⟨isTrimmed_inQuotes inner, blanked⟩) (plain inner)
      · exact around

/-- Blanks around a value do not count. -/
theorem unquote_of_blanked (around : Blanked text cs) : unquote cs = unquote text := by
  rw [unquote, unquote, around.trimChars_eq]

/-- A pair of quotes around a value that has none does not count. -/
theorem unquote_inQuotes (plain : ∀ inner, trimChars cs ≠ inQuotes inner) :
    unquote (inQuotes cs) = unquote cs := by
  rw [unquote_of_quoted (.refl _), unquote_of_unquoted plain]

end Unquote

end FeatureFlags
