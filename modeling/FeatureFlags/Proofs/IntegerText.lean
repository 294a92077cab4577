import FeatureFlags.Proofs.OperandGrammar
import FeatureFlags.Proofs.Trimming
import FeatureFlags.Proofs.WholeNumbers

namespace FeatureFlags

namespace Binary64

open Text

theorem unsigned?_toDigits (negative : Bool) (n : Nat) :
    unsigned? negative (Nat.toDigits 10 n) = some (ofQuotient negative n 1) := by
  have written : (Nat.toDigits 10 n).isEmpty = false := List.isEmpty_eq_false_iff.mpr (toDigits_ne_nil n)
  unfold unsigned?
  rw [spanDigits_toDigits]
  simp only [written, Bool.false_and, Bool.false_eq_true, if_false, exponentPart?, Option.map_some,
    List.append_nil, ofDigits_toDigits, List.length_nil]
  unfold ofDecimal
  by_cases none : n = 0
  · rw [if_pos none, none, ofQuotient, if_pos rfl]
  · rw [if_neg none, if_neg (by decide), if_neg (by omega), if_pos (by decide)]
    simp

/-- Words for infinity and NaN begin with a letter, integers do not. -/
theorem unsigned_of_digit {c : Char} {cs : List Char} (digit : isDigit c = true)
    (negative : Bool) :
    (if (c :: cs).map Char.toLower = "inf".toList ∨ (c :: cs).map Char.toLower = "infinity".toList
      then some (.infinite negative)
      else if (c :: cs).map Char.toLower = "nan".toList then some .nan
      else unsigned? negative (c :: cs)) = unsigned? negative (c :: cs) := by
  have small : c.toLower = c := by
    rw [isDigit_iff] at digit
    unfold Char.toLower
    split
    · rename_i upper
      have bounds : 65 ≤ c.val.toNat := by simpa using UInt32.le_iff_toNat_le.mp upper.1
      have same : c.toNat = c.val.toNat := rfl
      omega
    · rfl
  have letters (d : Char) (ds : List Char) (letter : isDigit d = false) :
      (c :: cs).map Char.toLower ≠ d :: ds := by
    intro same
    rw [List.map_cons, small] at same
    rw [(List.cons.inj same).1, letter] at digit
    cases digit
  have nan : (c :: cs).map Char.toLower ≠ "nan".toList := letters 'n' ['a', 'n'] rfl
  rw [if_neg, if_neg nan]
  rintro (same | same)
  · exact letters 'i' _ rfl same
  · exact letters 'i' _ rfl same

theorem ofChars?_toString (n : Int) :
    ofChars? (toString n).toList = some (ofQuotient (decide (n < 0)) n.natAbs 1) := by
  obtain ⟨c, cs, digits⟩ := List.exists_cons_of_ne_nil (toDigits_ne_nil n.natAbs)
  have digit : isDigit c = true := isDigit_of_mem_toDigits (digits ▸ List.mem_cons_self)
  rw [toList_toString_int, ← unsigned?_toDigits, digits]
  unfold ofChars?
  by_cases below : n < 0
  · rw [if_pos below, decide_eq_true below]
    exact unsigned_of_digit digit true
  · rw [if_neg below, decide_eq_false below]
    have minus : c ≠ '-' := by rintro rfl; cases digit
    have plus : c ≠ '+' := by rintro rfl; cases digit
    split
    rename_i negative body signs
    split at signs
    · rename_i same
      exact absurd (List.cons.inj same).1 minus
    · rename_i same
      exact absurd (List.cons.inj same).1 plus
    · obtain ⟨rfl, rfl⟩ := Prod.mk.inj signs
      exact unsigned_of_digit digit false

end Binary64

open Text

theorem canonicalChars_toString (n : Int) :
    canonicalChars (toString n).toList =
      (Binary64.ofQuotient (decide (n < 0)) n.natAbs 1).canonicalText.toList := by
  obtain ⟨-, digits⟩ := digits_of_int n
  have trimmed : IsTrimmed (toString n).toList := isTrimmed_of_unblank fun c within => by
    rcases digits c within with digit | rfl
    · exact isBlank_of_isDigit digit
    · decide
  refine canonicalChars_of_number ?_
  rw [trimmed.trimChars_eq]
  refine ⟨fun c within => ?_, Binary64.ofChars?_toString n⟩
  rcases digits c within with digit | rfl
  · simp [isNumberChar, digit]
  · decide

/-- Whether 53 bits are enough for an integer. -/
def IsShort (n : Int) : Prop := n.natAbs < 2 ^ 53

instance : DecidablePred IsShort := fun n => inferInstanceAs (Decidable (n.natAbs < 2 ^ 53))

/-- An integer stands for another one as doubles do: for itself, if it is short, and else for one
that is no shorter. -/
structure StandsFor (k n : Int) : Prop where
  same : IsShort n → k = n
  long : ¬IsShort n → ¬IsShort k

theorem StandsFor.refl (n : Int) : StandsFor n n := ⟨fun _ => rfl, id⟩

/-- Integers of which one is short are told from each other by what stands for them. -/
theorem StandsFor.eq_iff {n m k l : Int} (first : StandsFor k n) (second : StandsFor l m)
    (short : IsShort n ∨ IsShort m) : l = k ↔ n = m := by
  constructor
  · rintro rfl
    rcases short with short | short
    · obtain rfl := first.same short
      exact second.same (by_contra fun long => second.long long short)
    · obtain rfl := second.same short
      exact (first.same (by_contra fun long => first.long long short)).symm
  · rintro rfl
    have short' : IsShort n := short.elim id id
    rw [first.same short', second.same short']

/-- The canonical text of an integer is that of an integer. -/
theorem canonicalText_toString {n : Int} (bounded : n.natAbs < UInt64.size) :
    ∃ k : Int, canonicalText (toString n) = toString k ∧ StandsFor k n := by
  rw [canonicalText, canonicalChars_toString, String.ofList_toList]
  by_cases zero : n = 0
  · subst zero
    exact ⟨0, by decide +kernel, .refl 0⟩
  · have bounded' : (n.natAbs : Rat) < 2 ^ (1023 : Int) := by
      have word : (n.natAbs : Rat) < 2 ^ (64 : Int) := by exact_mod_cast bounded
      exact word.trans (zpow_lt_zpow_right₀ one_lt_two (by decide))
    obtain ⟨m, e, whole, rounded, full, bits, value, sizes⟩ :=
      Binary64.ofQuotient_whole (decide (n < 0)) (Int.natAbs_ne_zero.mpr zero) bounded'
    obtain ⟨near, text, same, long⟩ :=
      Binary64.canonicalText_whole (decide (n < 0)) full bits value
    refine ⟨signed (decide (n < 0)) near, rounded ▸ text, fun short => ?_, fun more => ?_⟩
    · rcases sizes with ⟨-, rfl⟩ | ⟨more, -⟩
      · rw [same short, signed_natAbs]
      · exact absurd short more.not_gt
    · rcases sizes with ⟨short, -⟩ | ⟨-, more'⟩
      · exact absurd short more
      · rw [IsShort, natAbs_signed, not_lt]
        exact long more'

/-- The text of an integer, as an operand, asks for its canonical text. -/
theorem Operand.ofText_toString (n : Int) :
    Operand.ofText (toString n) = .equals (canonicalText (toString n)) := by
  obtain ⟨-, digits⟩ := digits_of_int n
  have unquoted : unquotedChars (toString n).toList = (toString n).toList :=
    List.filter_eq_self.mpr fun c within => by
      rcases digits c within with digit | rfl
      · refine decide_eq_true ?_
        rintro rfl
        cases digit
      · decide
  have itself : Operand.clean (toString n).toList = canonicalText (toString n) := by
    rw [Operand.clean, unquoted, canonicalText]
  rw [← itself]
  refine (Operand.ofText_spec _).2.unique (.plain fun marker body tail is => ?_)
  have parenthesis : '(' ∈ (toString n).toList := by rw [is.written]; simp
  rcases digits _ parenthesis with digit | minus
  · cases digit
  · cases minus

end FeatureFlags
