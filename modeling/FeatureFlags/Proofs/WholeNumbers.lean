import FeatureFlags.Attribute
import FeatureFlags.Proofs.Format
import FeatureFlags.Proofs.Shortest

namespace FeatureFlags

namespace Binary64

section Rounded

variable {n : Nat}

/-- A quotient that is whole is not changed by rounding. -/
theorem halfEven_whole {a b k : Nat} (positive : 0 < b) (whole : (a : Rat) / b = k) :
    halfEven a b = k := by
  have near := halfEven_near (a := a) positive
  rw [whole] at near
  exact eq_of_near (near.trans_lt (by norm_num))

/-- The unit that a whole number is rounded to leaves it 53 bits and no more. -/
theorem bits_of_whole (some : n ≠ 0) :
    (2 : Rat) ^ (52 + roundingExponent n 1) ≤ n ∧ (n : Rat) < 2 ^ (53 + roundingExponent n 1) := by
  have spec := roundingExponent_spec some Nat.one_pos
  have most := quotient_lt_of_roundingExponent n Nat.one_pos
  rw [Nat.cast_one, div_one] at spec most
  refine ⟨?_, most⟩
  rcases spec with least | full
  · have one : (1 : Rat) ≤ n := by exact_mod_cast Nat.one_le_iff_ne_zero.mpr some
    have tiny : (2 : Rat) ^ (53 + minExponent) ≤ 2 ^ (0 : Int) :=
      zpow_le_zpow_right₀ one_le_two (by decide)
    rw [zpow_zero] at tiny
    rw [least] at most
    exact absurd (one.trans_lt most) tiny.not_gt
  · exact full

variable {a b : Nat} {e : Int}

theorem full_of_rounded (positive : 0 < b) (quotient : (a : Rat) / b = n / 2 ^ e)
    (full : (2 : Rat) ^ (52 + e) ≤ n) : fullMantissa ≤ halfEven a b := by
  have near := halfEven_near (a := a) positive
  rw [quotient, abs_le] at near
  rw [zpow_add₀ two_ne_zero, ← le_div_iff₀ (two_zpow_pos e)] at full
  have above : ((2 ^ 52 : Nat) : Rat) < (halfEven a b + 1 : Nat) := by
    push_cast
    norm_num at full ⊢
    linarith
  exact Nat.le_of_lt_succ (Nat.cast_lt.mp above)

/-- A whole number of at most 53 bits is rounded to itself, and a longer one to one that is no
shorter. -/
theorem rounded_whole (positive : 0 < b) (quotient : (a : Rat) / b = n / 2 ^ e)
    (full : (2 : Rat) ^ (52 + e) ≤ n) (most : (n : Rat) < 2 ^ (53 + e)) :
    ∃ whole : Nat, (halfEven a b : Rat) * 2 ^ e = whole ∧
      (n < 2 ^ 53 ∧ whole = n ∨ 2 ^ 53 ≤ n ∧ 2 ^ 53 ≤ whole) := by
  have unit := two_zpow_pos e
  by_cases fine : e ≤ 0
  · have multiple : (n : Rat) / 2 ^ e = (n * 2 ^ (-e).toNat : Nat) := by
      rw [Nat.cast_mul, Nat.cast_pow, Nat.cast_ofNat, ← zpow_natCast,
        Int.toNat_of_nonneg (by omega), zpow_neg, div_eq_mul_inv]
    have limit : (n : Rat) < 2 ^ (53 : Int) :=
      most.trans_le (zpow_le_zpow_right₀ one_le_two (by omega))
    refine ⟨n, ?_, Or.inl ⟨by exact_mod_cast limit, rfl⟩⟩
    rw [halfEven_whole positive (quotient.trans multiple), ← multiple,
      div_mul_cancel₀ _ unit.ne']
  · have long := full_of_rounded positive quotient full
    have limit : (2 : Rat) ^ (53 : Int) ≤ n :=
      (zpow_le_zpow_right₀ one_le_two (by omega)).trans full
    have double : 2 ≤ 2 ^ e.toNat := Nat.le_self_pow (by omega) 2
    refine ⟨halfEven a b * 2 ^ e.toNat, ?_, Or.inr ⟨by exact_mod_cast limit, ?_⟩⟩
    · rw [Nat.cast_mul, Nat.cast_pow, Nat.cast_ofNat, ← zpow_natCast,
        Int.toNat_of_nonneg (by omega)]
    · exact Nat.mul_le_mul long double

/-- The double nearest to a whole number is a whole number. -/
theorem ofQuotient_whole (negative : Bool) (some : n ≠ 0)
    (bounded : (n : Rat) < 2 ^ (1023 : Int)) :
    ∃ (m : Nat) (f : Int) (whole : Nat), ofQuotient negative n 1 = .finite negative m f ∧
      fullMantissa ≤ m ∧ m < 2 * fullMantissa ∧ (m : Rat) * 2 ^ f = whole ∧
      (n < 2 ^ 53 ∧ whole = n ∨ 2 ^ 53 ≤ n ∧ 2 ^ 53 ≤ whole) := by
  obtain ⟨full, most⟩ := bits_of_whole some
  have short := halfEven_le_full n Nat.one_pos
  obtain ⟨m, f, -, carried, bits, kept, value, result⟩ :=
    ofQuotient_eq some rfl Prod.mk.eta.symm negative
  generalize roundingExponent n 1 = e at *
  have positive := scaled_pos (n := n) e Nat.one_pos
  have quotient := scaled_quotient n 1 e
  rw [Nat.cast_one, div_one] at quotient
  have room : f ≤ maxExponent := by
    have powers := (zpow_lt_zpow_iff_right₀ one_lt_two).mp (full.trans_lt bounded)
    unfold maxExponent
    omega
  rw [if_neg (Int.not_lt.mpr room)] at result
  obtain ⟨whole, same, sizes⟩ := rounded_whole positive quotient full most
  exact ⟨m, f, whole, result, kept (full_of_rounded positive quotient full), bits short,
    value.trans same, sizes⟩

end Rounded

section Written

variable {m whole : Nat} {e : Int}

theorem toInt?_whole (negative : Bool) (value : (m : Rat) * 2 ^ e = whole) :
    toInt? (.finite negative m e) = some (signed negative whole) := by
  have exact' : finiteValue negative m e = (signed negative whole : Int) := by
    cases negative with
    | false => rw [finiteValue_false, value, signed, if_neg Bool.false_ne_true, Int.cast_natCast]
    | true => rw [finiteValue_true, value, signed, if_pos rfl, Int.cast_neg, Int.cast_natCast]
  unfold toInt?
  dsimp only
  rw [exact', Rat.den_intCast, if_pos rfl, Rat.num_intCast]

variable {near : Nat}

/-- Of whole numbers, the bounds of a double of at most 53 bits enclose only the double. -/
theorem same_of_bounds (full : fullMantissa ≤ m) (value : (m : Rat) * 2 ^ e = whole)
    (least : ratio (neighbours m e).1 ≤ near) (most : near ≤ ratio (neighbours m e).2)
    (short : whole < 2 ^ 53) : near = whole := by
  have fine : e < 1 := by
    have full' : (2 : Rat) ^ (52 : Int) ≤ m := by exact_mod_cast full
    have short' : (whole : Rat) < 2 ^ (53 : Int) := by exact_mod_cast short
    have power : (2 : Rat) ^ (52 + e) < 2 ^ (53 : Int) := by
      rw [zpow_add₀ two_ne_zero]
      exact (mul_le_mul_of_nonneg_right full' (two_zpow_pos e).le).trans_lt (value ▸ short')
    have exponents := (zpow_lt_zpow_iff_right₀ one_lt_two).mp power
    omega
  have quarter : (2 : Rat) ^ (e - 2) ≤ 1 / 4 := by
    have power : (2 : Rat) ^ (e - 2) ≤ 2 ^ (-2 : Int) :=
      zpow_le_zpow_right₀ one_le_two (by omega)
    norm_num at power ⊢
    exact power
  have unit := two_zpow_pos (e - 2)
  have itself : 4 * m * (2 : Rat) ^ (e - 2) = whole := by
    rw [← ratio_itself, ratio_pairAt, Nat.cast_one, div_one, value]
  rw [ratio_low (lt_of_lt_of_le (by decide) full)] at least
  rw [ratio_high] at most
  refine eq_of_near (abs_lt.mpr ⟨?_, ?_⟩)
  · split at least <;> linarith
  · linarith

/-- What the bounds of a longer double enclose is no shorter. -/
theorem long_of_bounds (full : fullMantissa ≤ m) (bits : m < 2 * fullMantissa)
    (value : (m : Rat) * 2 ^ e = whole) (least : ratio (neighbours m e).1 ≤ near)
    (long : 2 ^ 53 ≤ whole) : 2 ^ 53 ≤ near := by
  have coarse : 0 < e := by
    have bits' : (m : Rat) < 2 ^ (53 : Int) := by exact_mod_cast bits
    have long' : (2 : Rat) ^ (53 : Int) ≤ whole := by exact_mod_cast long
    have power : (2 : Rat) ^ (53 : Int) < 2 ^ (53 + e) := by
      rw [zpow_add₀ two_ne_zero]
      exact (value ▸ long').trans_lt (mul_lt_mul_of_pos_right bits' (two_zpow_pos e))
    have exponents := (zpow_lt_zpow_iff_right₀ one_lt_two).mp power
    omega
  have half : 1 / 2 ≤ (2 : Rat) ^ (e - 2) := by
    have power : (2 : Rat) ^ (-1 : Int) ≤ 2 ^ (e - 2) :=
      zpow_le_zpow_right₀ one_le_two (by omega)
    norm_num at power ⊢
    exact power
  have quarters : (2 : Rat) ^ 54 - 1 ≤
      4 * m - if m = fullMantissa ∧ minExponent < e then 1 else 2 := by
    split
    · have full' : (2 : Rat) ^ 52 ≤ m := by exact_mod_cast full
      linarith
    · rename_i plain
      have normal : minExponent < e := lt_trans (by decide) coarse
      have longer : fullMantissa + 1 ≤ m := lt_of_le_of_ne full fun same => plain ⟨same.symm, normal⟩
      have longer' : (2 : Rat) ^ 52 + 1 ≤ m := by exact_mod_cast longer
      linarith
  have many : (0 : Rat) ≤ 2 ^ 54 - 1 := by norm_num
  rw [ratio_low (lt_of_lt_of_le (by decide) full)] at least
  have enough := (mul_le_mul quarters half (by norm_num) (many.trans quarters)).trans least
  have above : ((2 ^ 53 : Nat) : Rat) < (near + 1 : Nat) := by
    push_cast
    linarith
  exact Nat.le_of_lt_succ (Nat.cast_lt.mp above)

/-- A whole number is written as one; what is written has no less bits than it, and is the number
itself if 53 bits are enough for it. -/
theorem canonicalText_whole (negative : Bool) (full : fullMantissa ≤ m)
    (bits : m < 2 * fullMantissa) (value : (m : Rat) * 2 ^ e = whole) :
    ∃ near : Nat, canonicalText (.finite negative m e) = toString (signed negative near) ∧
      (whole < 2 ^ 53 → near = whole) ∧ (2 ^ 53 ≤ whole → 2 ^ 53 ≤ near) := by
  unfold canonicalText
  rw [toInt?_whole negative value]
  dsimp only
  rw [natAbs_signed]
  by_cases small : whole < Nat.pow 10 15
  · rw [if_pos small]
    exact ⟨whole, rfl, fun _ => rfl, id⟩
  · rw [if_neg small]
    obtain ⟨near, least, most, text⟩ :=
      plainText_whole negative full bits value (Nat.not_lt.mp small)
    exact ⟨near, text, same_of_bounds full value least most,
      long_of_bounds full bits value least⟩

end Written

end Binary64

end FeatureFlags
