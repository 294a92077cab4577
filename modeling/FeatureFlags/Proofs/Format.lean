import FeatureFlags.Proofs.Rounding

namespace FeatureFlags

namespace Binary64

/-- A number of the format: at most 53 bits, and an exponent that there is. What is read or reckoned
is such a number. -/
def InFormat : Binary64 → Prop
  | .finite _ mantissa exponent =>
    mantissa < 2 * fullMantissa ∧ minExponent ≤ exponent ∧ exponent ≤ maxExponent
  | .infinite _ | .nan => True

instance : DecidablePred InFormat
  | .finite .. => inferInstanceAs (Decidable (_ ∧ _ ∧ _))
  | .infinite _ | .nan => .isTrue trivial

/-- The bit lengths of two numbers tell how large their quotient is at most. -/
theorem quotient_lt_zpow_log2 (n : Nat) {d : Nat} (positive : 0 < d) :
    (n : Rat) / d < 2 ^ ((n.log2 : Int) - d.log2 + 1) := by
  have positive' : (0 : Rat) < d := Nat.cast_pos.mpr positive
  have above : n < 2 ^ (n.log2 + 1) := Nat.lt_log2_self
  have below : 2 ^ d.log2 ≤ d := Nat.log2_self_le positive.ne'
  have above' : (n : Rat) < 2 ^ ((n.log2 : Int) + 1) := by exact_mod_cast above
  have below' : (2 : Rat) ^ (d.log2 : Int) ≤ d := by exact_mod_cast below
  have split : ((n.log2 : Int) - d.log2 + 1) + d.log2 = n.log2 + 1 := by omega
  rw [div_lt_iff₀ positive']
  calc (n : Rat) < 2 ^ ((n.log2 : Int) + 1) := above'
    _ = 2 ^ ((n.log2 : Int) - d.log2 + 1) * 2 ^ (d.log2 : Int) := by
        rw [← zpow_add₀ two_ne_zero, split]
    _ ≤ 2 ^ ((n.log2 : Int) - d.log2 + 1) * d :=
        mul_le_mul_of_nonneg_left below' (two_zpow_pos _).le

theorem quotient_lt_of_not_full {n d : Nat} {e : Int} (positive : 0 < d)
    (short : (scaled n d e).1 < (scaled n d e).2 * fullMantissa) :
    (n : Rat) / d < 2 ^ (52 + e) := by
  have positive' : (0 : Rat) < (scaled n d e).2 := by exact_mod_cast scaled_pos e positive
  have short' : ((scaled n d e).1 : Rat) < (scaled n d e).2 * (2 : Rat) ^ 52 := by
    rw [← cast_natPow]
    exact_mod_cast short
  have quotient : n / d / (2 : Rat) ^ e < (2 : Rat) ^ 52 := by
    rw [← scaled_quotient, div_lt_iff₀ positive', mul_comm]
    exact short'
  rw [div_lt_iff₀ (two_zpow_pos e)] at quotient
  rwa [zpow_add₀ two_ne_zero]

/-- The exponent leaves a quotient with 53 bits or less. -/
theorem quotient_lt_of_roundingExponent (n : Nat) {d : Nat} (positive : 0 < d) :
    (n : Rat) / d < 2 ^ (53 + roundingExponent n d) := by
  have lengths := quotient_lt_zpow_log2 n positive
  unfold roundingExponent
  dsimp only
  generalize shape : (n.log2 : Int) - (d.log2 : Int) - 52 = e
  split
  · rename_i short
    have most := quotient_lt_of_not_full positive short
    exact most.trans_le (zpow_le_zpow_right₀ one_le_two (by omega))
  · exact lengths.trans_le (zpow_le_zpow_right₀ one_le_two (by omega))

/-- A quotient that is below a whole number is not rounded beyond it. -/
theorem halfEven_le {a b k : Nat} (below : a < k * b) : halfEven a b ≤ k := by
  have whole : a / b < k := Nat.div_lt_of_lt_mul (by rwa [Nat.mul_comm])
  unfold halfEven
  dsimp only
  split
  · omega
  split
  · omega
  split <;> omega

theorem halfEven_le_full (n : Nat) {d : Nat} (positive : 0 < d) :
    halfEven (scaled n d (roundingExponent n d)).1 (scaled n d (roundingExponent n d)).2 ≤
      2 * fullMantissa := by
  have most := quotient_lt_of_roundingExponent n positive
  generalize roundingExponent n d = e at most ⊢
  have positive' : (0 : Rat) < (scaled n d e).2 := by exact_mod_cast scaled_pos e positive
  have quotient : ((scaled n d e).1 : Rat) / (scaled n d e).2 < (2 : Rat) ^ 53 := by
    rw [scaled_quotient, div_lt_iff₀ (two_zpow_pos e)]
    rwa [zpow_add₀ two_ne_zero] at most
  refine halfEven_le ?_
  rw [div_lt_iff₀ positive'] at quotient
  have full : 2 * fullMantissa = 2 ^ 53 := rfl
  rw [full]
  exact_mod_cast quotient

theorem inFormat_zero (negative : Bool) : (zero negative).InFormat := by
  cases negative <;> decide

/-- The nearest double to a quotient is in the format. -/
theorem inFormat_ofQuotient (negative : Bool) (n : Nat) {d : Nat} (positive : 0 < d) :
    (ofQuotient negative n d).InFormat := by
  by_cases none : n = 0
  · rw [ofQuotient, if_pos none]
    exact inFormat_zero negative
  have least : minExponent ≤ roundingExponent n d := le_max_left ..
  obtain ⟨m, f, above, -, bits, -, -, result⟩ :=
    ofQuotient_eq none rfl Prod.mk.eta.symm negative
  rw [result]
  split
  · trivial
  · rename_i most
    exact ⟨bits (halfEven_le_full n positive), least.trans above, Int.not_lt.mp most⟩

theorem inFormat_round (negative : Bool) (q : Rat) : (round negative q).InFormat := by
  unfold round
  split
  · exact inFormat_zero negative
  · exact inFormat_ofQuotient _ _ q.den_pos

theorem inFormat_ofNat (n : Nat) : (ofNat n).InFormat := inFormat_ofQuotient false n Nat.one_pos

theorem InFormat.neg {x : Binary64} (format : x.InFormat) : (-x).InFormat := by
  cases x with
  | finite => exact format
  | infinite | nan => trivial

theorem inFormat_mul (x y : Binary64) : (x * y).InFormat := by
  change (mul x y).InFormat
  unfold mul
  split
  · exact inFormat_round _ _
  · trivial
  · split <;> trivial
  · split <;> trivial
  all_goals trivial

theorem inFormat_div (x y : Binary64) : (x / y).InFormat := by
  change (div x y).InFormat
  unfold div
  split
  · split
    · split <;> trivial
    · exact inFormat_round _ _
  · trivial
  · trivial
  · exact inFormat_zero _
  all_goals trivial

end Binary64

end FeatureFlags
