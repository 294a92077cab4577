import FeatureFlags.Text.Digits
import Mathlib.Algebra.Order.Ring.Nat
import Mathlib.Data.List.TakeWhile
import Mathlib.Tactic.IntervalCases
import Mathlib.Tactic.Positivity

namespace FeatureFlags

/-- A number with a sign. -/
def signed (negative : Bool) (n : Nat) : Int := if negative then -n else n

@[simp] theorem natAbs_signed (negative : Bool) (n : Nat) : (signed negative n).natAbs = n := by
  cases negative <;> simp [signed]

theorem signed_natAbs (n : Int) : signed (decide (n < 0)) n.natAbs = n := by
  by_cases below : n < 0
  · rw [decide_eq_true below, signed, if_pos rfl]
    omega
  · rw [decide_eq_false below, signed, if_neg Bool.false_ne_true]
    omega

namespace Text

theorem isDigit_iff {c : Char} : isDigit c = true ↔ 48 ≤ c.toNat ∧ c.toNat ≤ 57 :=
  decide_eq_true_iff.trans Iff.rfl

theorem isDigit_of_mem_toDigits {n : Nat} {c : Char} (within : c ∈ Nat.toDigits 10 n) :
    isDigit c = true := by
  have digit := Nat.isDigit_of_mem_toDigits (by decide) le_rfl within
  simpa [isDigit, Char.isDigit, Char.le_def] using digit

theorem spanDigits_toDigits (n : Nat) :
    spanDigits (Nat.toDigits 10 n) = (Nat.toDigits 10 n, []) := by
  have digits : ∀ c ∈ Nat.toDigits 10 n, isDigit c = true := fun _ => isDigit_of_mem_toDigits
  rw [spanDigits, List.takeWhile_eq_self_iff.mpr digits, List.dropWhile_eq_nil_iff.mpr digits]

@[simp] theorem ofDigits_toDigits (n : Nat) : ofDigits (Nat.toDigits 10 n) = n :=
  Nat.ofDigitChars_ten_toDigits

theorem toDigits_injective {n m : Nat} (same : Nat.toDigits 10 n = Nat.toDigits 10 m) : n = m := by
  rw [← ofDigits_toDigits n, same, ofDigits_toDigits]

theorem toDigits_ne_nil (n : Nat) : Nat.toDigits 10 n ≠ [] :=
  List.ne_nil_of_length_pos Nat.length_toDigits_pos

theorem spanDigits_append {digits rest : List Char} (all : ∀ c ∈ digits, isDigit c = true)
    (breaks : ∀ c ∈ rest.head?, isDigit c = false) :
    spanDigits (digits ++ rest) = (digits, rest) := by
  rw [spanDigits, List.takeWhile_append_of_pos all, List.dropWhile_append_of_pos all]
  cases rest with
  | nil => simp
  | cons c rest =>
    have other : isDigit c = false := breaks c rfl
    simp [other]

/-- Digits come off the front of a text in one way only, where no digit goes on behind them. -/
theorem toDigits_append_inj {n m : Nat} {rest rest' : List Char}
    (breaks : ∀ c ∈ rest.head?, isDigit c = false)
    (breaks' : ∀ c ∈ rest'.head?, isDigit c = false) :
    Nat.toDigits 10 n ++ rest = Nat.toDigits 10 m ++ rest' ↔ n = m ∧ rest = rest' := by
  constructor
  · intro same
    have spans := congrArg spanDigits same
    rw [spanDigits_append (fun _ => isDigit_of_mem_toDigits) breaks,
      spanDigits_append (fun _ => isDigit_of_mem_toDigits) breaks'] at spans
    obtain ⟨digits, behind⟩ := Prod.mk.inj spans
    exact ⟨toDigits_injective digits, behind⟩
  · rintro ⟨rfl, rfl⟩
    rfl

/-- A positive number has no leading zero. -/
theorem head?_toDigits_ne {n : Nat} (positive : 0 < n) :
    (Nat.toDigits 10 n).head? ≠ some '0' := by
  induction n using Nat.strongRecOn with
  | ind n ih =>
    rw [Nat.toDigits_eq_if (by decide)]
    split
    · rename_i single
      interval_cases n <;> decide
    · rename_i more
      rw [List.head?_append_of_ne_nil _ (toDigits_ne_nil _)]
      exact ih (n / 10) (Nat.div_lt_self positive (by decide)) (by omega)

/-- A power of ten puts zeros behind a number. -/
theorem toDigits_mul_pow {n : Nat} (positive : 0 < n) (k : Nat) :
    Nat.toDigits 10 (n * 10 ^ k) = Nat.toDigits 10 n ++ List.replicate k '0' := by
  induction k with
  | zero => simp
  | succ k ih =>
    have more : 0 < n * 10 ^ k := by positivity
    have last : Nat.toDigits 10 (n * 10 ^ k) ++ ['0'] = Nat.toDigits 10 (10 * (n * 10 ^ k) + 0) :=
      Nat.toDigits_append_toDigits (b := 10) (d := 0) (by decide) more (by decide)
    rw [ih, List.append_assoc, ← List.replicate_succ'] at last
    rw [last, Nat.pow_succ, Nat.add_zero, Nat.mul_comm 10, Nat.mul_assoc]

/-- What is dropped when a text loses the zeros at its end. -/
theorem exists_zeros (cs : List Char) :
    ∃ k, cs = (cs.reverse.dropWhile (· = '0')).reverse ++ List.replicate k '0' := by
  have zeros : cs.reverse.takeWhile (· = '0') =
      List.replicate (cs.reverse.takeWhile (· = '0')).length '0' :=
    List.eq_replicate_of_mem fun c within => by simpa using List.mem_takeWhile_imp within
  refine ⟨(cs.reverse.takeWhile (· = '0')).length, ?_⟩
  rw [← List.reverse_replicate, ← zeros, ← List.reverse_append, List.takeWhile_append_dropWhile,
    List.reverse_reverse]

/-- The number of digits tells between which powers of ten a number is. -/
theorem bounds_of_length_toDigits {n p : Nat} (positive : 0 < n)
    (length : (Nat.toDigits 10 n).length = p) : 10 ^ (p - 1) ≤ n ∧ n < 10 ^ p := by
  have some : 0 < p := length ▸ Nat.length_toDigits_pos
  refine ⟨?_, (Nat.length_toDigits_le_iff (by decide) some).mp length.le⟩
  by_cases single : p = 1
  · rw [single]
    exact positive
  · by_contra small
    have shorter := (Nat.length_toDigits_le_iff (b := 10) (by decide) (by omega)).mpr
      (Nat.not_le.mp small)
    omega

/-- The text of an integer is its digits behind its sign. -/
theorem toList_toString_signed {negative : Bool} {n : Nat} (proper : negative = true → n ≠ 0) :
    (toString (signed negative n)).toList =
      if negative then '-' :: Nat.toDigits 10 n else Nat.toDigits 10 n := by
  rw [Int.toString_eq_repr, Int.repr_eq_if]
  cases negative with
  | false => simp [signed, Nat.toList_repr]
  | true =>
    have nonzero := proper rfl
    simp [signed, nonzero, Nat.toList_repr]

theorem toList_toString_int (n : Int) :
    (toString n).toList =
      if n < 0 then '-' :: Nat.toDigits 10 n.natAbs else Nat.toDigits 10 n.natAbs := by
  have proper : decide (n < 0) = true → n.natAbs ≠ 0 := fun below => by
    have below' := of_decide_eq_true below
    omega
  simpa only [signed_natAbs, decide_eq_true_eq] using toList_toString_signed proper

/-- The text of an integer begins with a digit or a minus, and has no other characters. -/
theorem digits_of_int (n : Int) : (toString n).toList ≠ [] ∧
    ∀ c ∈ (toString n).toList, isDigit c = true ∨ c = '-' := by
  rw [toList_toString_int]
  split
  · refine ⟨List.cons_ne_nil _ _, fun c within => ?_⟩
    rcases List.mem_cons.mp within with rfl | within
    · exact Or.inr rfl
    · exact Or.inl (isDigit_of_mem_toDigits within)
  · exact ⟨toDigits_ne_nil _, fun c within => Or.inl (isDigit_of_mem_toDigits within)⟩

theorem minus_notMem_toDigits (n : Nat) : '-' ∉ Nat.toDigits 10 n := fun within => by
  have digit := isDigit_of_mem_toDigits within
  revert digit
  decide

/-- The text of a number has no sign, and no zero before other digits. -/
theorem head_toDigits {n : Nat} {c : Char} {cs : List Char} (digits : Nat.toDigits 10 n = c :: cs) :
    c ≠ '-' ∧ (c = '0' → cs = []) := by
  constructor
  · rintro rfl
    exact minus_notMem_toDigits n (digits ▸ List.mem_cons_self)
  · rintro rfl
    by_cases none : n = 0
    · rw [none] at digits
      exact (List.cons.inj digits).2.symm
    · have leads := head?_toDigits_ne (Nat.pos_of_ne_zero none)
      rw [digits] at leads
      exact absurd rfl leads

theorem toString_int_injective {n m : Int} (same : toString n = toString m) : n = m := by
  have texts := congrArg String.toList same
  rw [toList_toString_int, toList_toString_int] at texts
  split at texts <;> split at texts
  · have magnitudes := toDigits_injective (List.cons.inj texts).2
    omega
  · exact absurd (texts ▸ List.mem_cons_self) (minus_notMem_toDigits _)
  · exact absurd (texts ▸ List.mem_cons_self) (minus_notMem_toDigits _)
  · have magnitudes := toDigits_injective texts
    omega

end Text

end FeatureFlags
