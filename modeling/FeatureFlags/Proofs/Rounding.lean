import FeatureFlags.Binary64.Basic
import Mathlib.Data.Rat.Floor
import Mathlib.Tactic.Linarith
import Mathlib.Tactic.Ring

namespace FeatureFlags

theorem le_ceil_toNat (q : Rat) : q ≤ q.ceil.toNat := by
  have whole : (q.ceil : Rat) ≤ (q.ceil.toNat : Rat) := by exact_mod_cast Int.self_le_toNat q.ceil
  exact Rat.le_ceil.trans whole

theorem eq_of_near {n m : Nat} (near : |(n : Rat) - m| < 1) : n = m := by
  have near' : |(n : Int) - m| < 1 := by exact_mod_cast near
  have same := Int.abs_lt_one_iff.mp near'
  omega

namespace Binary64

theorem two_zpow_pos (e : Int) : 0 < (2 : Rat) ^ e := zpow_pos two_pos e

theorem cast_natPow (k : Nat) : ((Nat.pow 2 k : Nat) : Rat) = (2 : Rat) ^ k := by
  rw [Nat.pow_eq, Nat.cast_pow, Nat.cast_ofNat]

theorem finiteValue_false (m : Nat) (e : Int) :
    finiteValue false m e = m * (2 : Rat) ^ e := by
  unfold finiteValue
  rw [cast_natPow, cast_natPow, if_neg Bool.false_ne_true]
  split
  · rename_i up
    rw [← zpow_natCast, Int.toNat_of_nonneg up]
  · rename_i down
    rw [← zpow_natCast, Int.toNat_of_nonneg (by omega), zpow_neg, div_inv_eq_mul]

theorem finiteValue_true (m : Nat) (e : Int) : finiteValue true m e = -(m * (2 : Rat) ^ e) := by
  rw [← finiteValue_false]
  rfl

theorem finiteValue_zero (negative : Bool) (e : Int) : finiteValue negative 0 e = 0 := by
  simp [finiteValue]

theorem scaled_pos {n d : Nat} (e : Int) (positive : 0 < d) : 0 < (scaled n d e).2 := by
  unfold scaled
  split
  · exact Nat.mul_pos positive (Nat.pow_pos Nat.two_pos)
  · exact positive

theorem scaled_quotient (n d : Nat) (e : Int) :
    ((scaled n d e).1 : Rat) / (scaled n d e).2 = n / d / (2 : Rat) ^ e := by
  unfold scaled
  split
  · rename_i up
    rw [Nat.cast_mul, cast_natPow, ← zpow_natCast, Int.toNat_of_nonneg up, div_div]
  · rename_i down
    rw [Nat.cast_mul, cast_natPow, ← zpow_natCast, Int.toNat_of_nonneg (by omega), zpow_neg,
      ← div_eq_mul_inv, div_right_comm]

/-- Rounding a quotient to a whole number moves it by at most a half. -/
theorem halfEven_near {a b : Nat} (positive : 0 < b) :
    |(halfEven a b : Rat) - a / b| ≤ 1 / 2 := by
  have division := Nat.div_add_mod a b
  have rest := Nat.mod_lt a positive
  have bounds : 2 * a ≤ 2 * (b * halfEven a b) + b ∧ 2 * (b * halfEven a b) ≤ 2 * a + b := by
    unfold halfEven
    dsimp only
    split
    · omega
    split
    · rw [Nat.mul_add]
      omega
    split
    · omega
    · rw [Nat.mul_add]
      omega
  have positive' : (0 : Rat) < b := by exact_mod_cast positive
  have below : (2 : Rat) * a ≤ 2 * (b * halfEven a b) + b := by exact_mod_cast bounds.1
  have above : (2 : Rat) * (b * halfEven a b) ≤ 2 * a + b := by exact_mod_cast bounds.2
  rw [abs_le]
  constructor
  · rw [le_sub_iff_add_le, ← sub_eq_neg_add, sub_le_iff_le_add, div_le_iff₀ positive']
    linarith
  · rw [sub_le_iff_le_add, ← sub_le_iff_le_add', le_div_iff₀ positive']
    linarith

/-- The bit lengths of two numbers tell how small their quotient is at least. -/
theorem zpow_log2_le_quotient {n d : Nat} (numerator : n ≠ 0) (positive : 0 < d) :
    (2 : Rat) ^ ((n.log2 : Int) - d.log2 - 1) ≤ n / d := by
  have positive' : (0 : Rat) < d := by exact_mod_cast positive
  have below : 2 ^ n.log2 ≤ n := Nat.log2_self_le numerator
  have above : d < 2 ^ (d.log2 + 1) := Nat.lt_log2_self
  have below' : (2 : Rat) ^ (n.log2 : Int) ≤ n := by exact_mod_cast below
  have above' : (d : Rat) ≤ (2 : Rat) ^ ((d.log2 : Int) + 1) := by exact_mod_cast above.le
  have split : ((n.log2 : Int) - d.log2 - 1) + ((d.log2 : Int) + 1) = n.log2 := by omega
  rw [le_div_iff₀ positive']
  calc (2 : Rat) ^ ((n.log2 : Int) - d.log2 - 1) * d
      ≤ 2 ^ ((n.log2 : Int) - d.log2 - 1) * 2 ^ ((d.log2 : Int) + 1) :=
        mul_le_mul_of_nonneg_left above' (two_zpow_pos _).le
    _ = 2 ^ (n.log2 : Int) := by rw [← zpow_add₀ two_ne_zero, split]
    _ ≤ n := below'

theorem le_quotient_of_full {n d : Nat} {e : Int} (positive : 0 < d)
    (full : (scaled n d e).2 * fullMantissa ≤ (scaled n d e).1) :
    (2 : Rat) ^ (52 + e) ≤ n / d := by
  have positive' : (0 : Rat) < (scaled n d e).2 := by exact_mod_cast scaled_pos e positive
  have full' : ((scaled n d e).2 : Rat) * (2 : Rat) ^ 52 ≤ (scaled n d e).1 := by
    rw [← cast_natPow]
    exact_mod_cast full
  have quotient : (2 : Rat) ^ 52 ≤ n / d / (2 : Rat) ^ e := by
    rw [← scaled_quotient, le_div_iff₀ positive', mul_comm]
    exact full'
  rw [le_div_iff₀ (two_zpow_pos e)] at quotient
  rwa [zpow_add₀ two_ne_zero]

/-- Unless it is the least one, the exponent leaves a quotient with 53 bits or more. -/
theorem roundingExponent_spec {n d : Nat} (numerator : n ≠ 0) (positive : 0 < d) :
    roundingExponent n d = minExponent ∨
      (2 : Rat) ^ (52 + roundingExponent n d) ≤ n / d := by
  have least := zpow_log2_le_quotient numerator positive
  unfold roundingExponent
  dsimp only
  generalize shape : (n.log2 : Int) - (d.log2 : Int) - 52 = e
  split
  · rcases max_choice minExponent (e - 1) with same | same
    · exact Or.inl same
    · have power : 52 + (e - 1) = (n.log2 : Int) - d.log2 - 1 := by omega
      rw [same, power]
      exact Or.inr least
  · rename_i full
    rcases max_choice minExponent e with same | same
    · exact Or.inl same
    · rw [same]
      exact Or.inr (le_quotient_of_full positive (Nat.not_lt.mp full))

/-- The double nearest to a quotient has the value of the whole multiple of the unit that is nearest
to it, unless it is beyond the largest exponent. A bit too many goes into the exponent. -/
theorem ofQuotient_eq {n d a b : Nat} {e : Int} (numerator : n ≠ 0)
    (exponent : roundingExponent n d = e) (shape : scaled n d e = (a, b)) (negative : Bool) :
    ∃ (m : Nat) (f : Int), e ≤ f ∧ f ≤ e + 1 ∧
      (halfEven a b ≤ 2 * fullMantissa → m < 2 * fullMantissa) ∧
      (fullMantissa ≤ halfEven a b → fullMantissa ≤ m) ∧
      (m : Rat) * 2 ^ f = halfEven a b * 2 ^ e ∧
      ofQuotient negative n d =
        if maxExponent < f then .infinite negative else .finite negative m f := by
  have room : fullMantissa < 2 * fullMantissa := by decide
  unfold ofQuotient
  rw [if_neg numerator, exponent]
  simp only [shape]
  generalize halfEven a b = m
  generalize fullMantissa = full at room ⊢
  by_cases carry : m = 2 * full
  · refine ⟨full, e + 1, by omega, le_rfl, fun _ => room, fun _ => le_rfl, ?_,
      by rw [if_pos carry]⟩
    rw [carry, zpow_add₀ two_ne_zero]
    push_cast
    ring
  · exact ⟨m, e, le_rfl, by omega, fun most => Nat.lt_of_le_of_ne most carry, id, rfl,
      by rw [if_neg carry]⟩

/-- Rounding finds the nearest multiple of a unit, which is the least one there is or leaves the
number 53 bits. What needs a larger exponent than there is becomes infinite. -/
theorem round_spec {q : Rat} (positive : 0 < q) (negative : Bool) : ∃ (m : Nat) (e : Int),
    minExponent ≤ e ∧ (e = minExponent ∨ (2 : Rat) ^ (52 + e) ≤ q) ∧ |m - q / 2 ^ e| ≤ 1 / 2 ∧
      ∃ (n : Nat) (f : Int), f ≤ e + 1 ∧ (n : Rat) * 2 ^ f = m * 2 ^ e ∧
        round negative q = if maxExponent < f then .infinite false else .finite false n f := by
  have above : 0 < q.num := Rat.num_pos.mpr positive
  have quotient : (q.num.natAbs : Rat) / q.den = q := by
    rw [Nat.cast_natAbs, abs_of_pos above]
    exact Rat.num_div_den q
  have numerator : q.num.natAbs ≠ 0 := Int.natAbs_ne_zero.mpr above.ne'
  have rounds : round negative q = ofQuotient false q.num.natAbs q.den := by
    rw [round, if_neg above.ne', decide_eq_false above.le.not_gt]
  have spec := roundingExponent_spec numerator q.den_pos
  have least : minExponent ≤ roundingExponent q.num.natAbs q.den := le_max_left ..
  generalize exponent : roundingExponent q.num.natAbs q.den = e at spec least
  rw [quotient] at spec
  have near : |(halfEven (scaled q.num.natAbs q.den e).1 (scaled q.num.natAbs q.den e).2 : Rat) -
      q / 2 ^ e| ≤ 1 / 2 := by
    have split := scaled_quotient q.num.natAbs q.den e
    rw [quotient] at split
    rw [← split]
    exact halfEven_near (scaled_pos e q.den_pos)
  obtain ⟨n, f, -, most, -, -, value, result⟩ :=
    ofQuotient_eq numerator exponent Prod.mk.eta.symm false
  exact ⟨_, e, least, spec, near, n, f, most, value, rounds.trans result⟩

theorem round_near {q : Rat} (positive : 0 < q) (bounded : q < (2 : Rat) ^ (1023 : Int))
    (negative : Bool) : ∃ (m : Nat) (e : Int), minExponent ≤ e ∧
      (e = minExponent ∨ (2 : Rat) ^ (52 + e) ≤ q) ∧
      (round negative q).toRat? = some (m * (2 : Rat) ^ e) ∧ |m - q / 2 ^ e| ≤ 1 / 2 := by
  obtain ⟨m, e, least, spec, near, n, f, most, value, rounds⟩ := round_spec positive negative
  have room : e < maxExponent := by
    rcases spec with same | full
    · rw [same]
      decide
    · have powers := (zpow_lt_zpow_iff_right₀ one_lt_two).mp (full.trans_lt bounded)
      unfold maxExponent
      omega
  refine ⟨m, e, least, spec, ?_, near⟩
  rw [rounds, if_neg (by omega), toRat?, finiteValue_false, value]

theorem toRat?_round_zero (negative : Bool) : (round negative 0).toRat? = some 0 := by
  rw [round, if_pos Rat.num_zero, zero, toRat?, finiteValue_zero]

/-- Multiples of a power of two with at most 53 bits are doubles. -/
theorem toRat?_round_of_bits {q : Rat} {k : Nat} {f : Int} (shape : q = k * (2 : Rat) ^ f)
    (bits : k < 2 ^ 53) (low : minExponent ≤ f) (high : f ≤ 970) (negative : Bool) :
    (round negative q).toRat? = some q := by
  rcases Nat.eq_zero_or_pos k with none | some
  · rw [shape, none, Nat.cast_zero, zero_mul]
    exact toRat?_round_zero negative
  have unit := two_zpow_pos f
  have positive : 0 < q := by
    rw [shape]
    exact mul_pos (Nat.cast_pos.mpr some) unit
  have limit : q < (2 : Rat) ^ (53 + f) := by
    rw [shape, zpow_add₀ two_ne_zero]
    exact mul_lt_mul_of_pos_right (by exact_mod_cast bits) unit
  have bounded : q < (2 : Rat) ^ (1023 : Int) :=
    limit.trans_le (zpow_le_zpow_right₀ one_le_two (by omega))
  obtain ⟨m, e, least, spec, value, near⟩ := round_near positive bounded negative
  have finer : e ≤ f := by
    rcases spec with same | full
    · omega
    · have powers := (zpow_lt_zpow_iff_right₀ one_lt_two).mp (full.trans_lt limit)
      omega
  have whole : q / 2 ^ e = (k * 2 ^ (f - e).toNat : Nat) := by
    rw [div_eq_iff (two_zpow_pos e).ne', shape, Nat.cast_mul, Nat.cast_pow, Nat.cast_ofNat,
      ← zpow_natCast, Int.toNat_of_nonneg (by omega), mul_assoc, ← zpow_add₀ two_ne_zero,
      sub_add_cancel]
  have same : m = k * 2 ^ (f - e).toNat := by
    rw [whole] at near
    exact eq_of_near (near.trans_lt (by norm_num))
  rw [value, same, ← whole, div_mul_cancel₀ _ (two_zpow_pos e).ne']

/-- The share of a number by which rounding may change it. -/
def unitRoundoff : Rat := 1 / 2 ^ 53

/-- Where there are 53 bits for it, a number loses at most its share. -/
theorem near_of_full {q : Rat} {m : Nat} {e : Int} (full : (2 : Rat) ^ (52 + e) ≤ q)
    (near : |m - q / 2 ^ e| ≤ 1 / 2) : |m * (2 : Rat) ^ e - q| ≤ q * unitRoundoff := by
  have unit := two_zpow_pos e
  have small : (2 : Rat) ^ e / 2 ≤ q * unitRoundoff := by
    rw [zpow_add₀ two_ne_zero] at full
    unfold unitRoundoff
    norm_num at full ⊢
    linarith
  have apart : m * (2 : Rat) ^ e - q = (m - q / 2 ^ e) * 2 ^ e := by
    rw [sub_mul, div_mul_cancel₀ _ unit.ne']
  rw [apart, abs_mul, abs_of_pos unit]
  calc _ ≤ 1 / 2 * (2 : Rat) ^ e := mul_le_mul_of_nonneg_right near unit.le
    _ ≤ q * unitRoundoff := by linarith

theorem toRat?_round_normal {q : Rat} (normal : (2 : Rat) ^ (-1022 : Int) ≤ q)
    (bounded : q < (2 : Rat) ^ (1023 : Int)) (negative : Bool) :
    ∃ r, (round negative q).toRat? = some r ∧ |r - q| ≤ q * unitRoundoff := by
  have positive : 0 < q := (two_zpow_pos _).trans_le normal
  obtain ⟨m, e, least, spec, value, near⟩ := round_near positive bounded negative
  refine ⟨_, value, near_of_full ?_ near⟩
  rcases spec with same | full
  · rw [same]
    exact normal
  · exact full

/-- What is neither tiny nor huge keeps nearly all of it in rounding. -/
theorem toRat?_round_moderate {q : Rat} (low : 1 / 2 ^ 64 ≤ q) (high : q ≤ 2 ^ 64)
    (negative : Bool) : ∃ r, (round negative q).toRat? = some r ∧ |r - q| ≤ q * unitRoundoff := by
  have normal : (2 : Rat) ^ (-1022 : Int) ≤ q := by
    have least : (2 : Rat) ^ (-1022 : Int) ≤ 2 ^ (-64 : Int) :=
      zpow_le_zpow_right₀ one_le_two (by decide)
    refine least.trans (le_of_eq_of_le ?_ low)
    rw [zpow_neg, one_div]
    rfl
  have bounded : q < (2 : Rat) ^ (1023 : Int) := by
    have most : (2 : Rat) ^ (64 : Int) < 2 ^ (1023 : Int) :=
      zpow_lt_zpow_right₀ one_lt_two (by decide)
    exact high.trans_lt most
  exact toRat?_round_normal normal bounded negative

theorem ofNat_eq_round (n : Nat) : ofNat n = round false n := by
  unfold ofNat round
  rw [Rat.num_natCast, Rat.den_natCast, Int.natAbs_natCast,
    decide_eq_false (Int.not_lt.mpr (Int.natCast_nonneg n))]
  split
  · rename_i none
    rw [ofQuotient, if_pos (Int.natCast_eq_zero.mp none)]
  · rfl

theorem toRat?_ofNat {n : Nat} (bits : n < 2 ^ 53) : (ofNat n).toRat? = some (n : Rat) := by
  rw [ofNat_eq_round]
  exact toRat?_round_of_bits (f := 0) (by simp) bits (by decide) (by decide) false

section Operations

variable {x y : Binary64} {p q : Rat}

theorem add_eq_round (first : x.toRat? = some p) (second : y.toRat? = some q) :
    ∃ negative, x + y = round negative (p + q) := by
  cases x <;> cases first
  cases y <;> cases second
  exact ⟨_, rfl⟩

theorem mul_eq_round (first : x.toRat? = some p) (second : y.toRat? = some q) :
    ∃ negative, x * y = round negative (p * q) := by
  cases x <;> cases first
  cases y <;> cases second
  exact ⟨_, rfl⟩

theorem div_eq_round (first : x.toRat? = some p) (second : y.toRat? = some q) (nonzero : q ≠ 0) :
    ∃ negative, x / y = round negative (p / q) := by
  cases x <;> cases first
  rename_i s m e
  cases y <;> cases second
  rename_i t n f
  have divisor : n ≠ 0 := fun none => nonzero (by rw [none, finiteValue_zero])
  change ∃ negative, div (finite s m e) (finite t n f) = _
  rw [div, if_neg divisor]
  exact ⟨_, rfl⟩

theorem floorUpTo_eq (value : x.toRat? = some q) (bound : Nat) :
    x.floorUpTo bound = min bound q.floor.toNat := by
  cases x <;> cases value
  rfl

theorem ceilUpTo_eq (value : x.toRat? = some q) (bound : Nat) :
    x.ceilUpTo bound = min bound q.ceil.toNat := by
  cases x <;> cases value
  rfl

theorem le_iff (first : x.toRat? = some p) (second : y.toRat? = some q) :
    x.le y = true ↔ p ≤ q := by
  cases x <;> cases first
  cases y <;> cases second
  exact decide_eq_true_iff

end Operations

end Binary64

end FeatureFlags
