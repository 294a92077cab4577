import FeatureFlags.Binary64.Notation
import FeatureFlags.Proofs.Digits
import FeatureFlags.Proofs.Rounding

namespace FeatureFlags

namespace Binary64

/-- The quotient that a pair of numbers stands for. -/
def ratio (pair : Nat × Nat) : Rat := pair.1 / pair.2

theorem ten_zpow_pos (k : Int) : 0 < (10 : Rat) ^ k := zpow_pos (by decide) k

theorem pairAt_pos (n : Nat) {d : Nat} (e : Int) (positive : 0 < d) : 0 < (pairAt n d e).2 := by
  unfold pairAt
  split
  · exact positive
  · exact Nat.mul_pos positive (Nat.pow_pos Nat.two_pos)

theorem ratio_pairAt (n d : Nat) (e : Int) : ratio (pairAt n d e) = n / d * (2 : Rat) ^ e := by
  unfold pairAt ratio
  split
  · rename_i up
    rw [Nat.cast_mul, cast_natPow, ← zpow_natCast, Int.toNat_of_nonneg up, mul_div_right_comm]
  · rename_i down
    rw [Nat.cast_mul, cast_natPow, ← zpow_natCast, Int.toNat_of_nonneg (by omega), zpow_neg,
      ← div_div, div_inv_eq_mul]

section Grid

variable {n d c : Nat} {k : Int}

theorem shiftTen_pos (n : Nat) (k : Int) (positive : 0 < d) : 0 < (shiftTen n d k).2 := by
  unfold shiftTen
  split
  · exact Nat.mul_pos positive (Nat.pow_pos (by decide))
  · exact positive

theorem ratio_shiftTen (n d : Nat) (k : Int) :
    ratio (shiftTen n d k) = n / d / (10 : Rat) ^ k := by
  have power (j : Nat) : ((Nat.pow 10 j : Nat) : Rat) = (10 : Rat) ^ j := by
    rw [Nat.pow_eq, Nat.cast_pow, Nat.cast_ofNat]
  unfold shiftTen ratio
  split
  · rename_i up
    rw [Nat.cast_mul, power, ← zpow_natCast, Int.toNat_of_nonneg up, div_div]
  · rename_i down
    rw [Nat.cast_mul, power, ← zpow_natCast, Int.toNat_of_nonneg (by omega), zpow_neg,
      ← div_eq_mul_inv, div_right_comm]

theorem shiftTen_le_iff (positive : 0 < d) :
    (shiftTen n d k).1 ≤ c * (shiftTen n d k).2 ↔ ratio (n, d) ≤ c * 10 ^ k := by
  have positive' : (0 : Rat) < (shiftTen n d k).2 := by exact_mod_cast shiftTen_pos n k positive
  rw [← div_le_iff₀ (ten_zpow_pos k), ratio, ← ratio_shiftTen, ratio, div_le_iff₀ positive']
  exact_mod_cast Iff.rfl

theorem le_shiftTen_iff (positive : 0 < d) :
    c * (shiftTen n d k).2 ≤ (shiftTen n d k).1 ↔ c * 10 ^ k ≤ ratio (n, d) := by
  have positive' : (0 : Rat) < (shiftTen n d k).2 := by exact_mod_cast shiftTen_pos n k positive
  rw [← le_div_iff₀ (ten_zpow_pos k), ratio, ← ratio_shiftTen, ratio, le_div_iff₀ positive']
  exact_mod_cast Iff.rfl

/-- The whole part of a quotient by a power of ten. -/
theorem grid_brackets (positive : 0 < d)
    (whole : (shiftTen n d k).1 / (shiftTen n d k).2 = c) :
    c * 10 ^ k ≤ ratio (n, d) ∧ ratio (n, d) < (c + 1 : Nat) * 10 ^ k := by
  subst whole
  refine ⟨(le_shiftTen_iff positive).mp (Nat.div_mul_le_self ..), ?_⟩
  rw [← not_le, ← le_shiftTen_iff positive, not_le]
  exact Nat.lt_mul_of_div_lt (Nat.lt_succ_self _) (shiftTen_pos n k positive)

variable {low high : Nat × Nat} {even : Bool}

theorem roundsBack_of_between (lows : 0 < low.2) (highs : 0 < high.2)
    (above : ratio low < c * 10 ^ k) (below : c * 10 ^ k < ratio high) :
    roundsBack even low high c k = true := by
  rw [← not_le, ← le_shiftTen_iff lows, not_le] at above
  rw [← not_le, ← shiftTen_le_iff highs, not_le] at below
  cases even with
  | true => exact decide_eq_true ⟨above.le, below.le⟩
  | false => exact decide_eq_true ⟨above, below⟩

theorem between_of_roundsBack (lows : 0 < low.2) (highs : 0 < high.2)
    (back : roundsBack even low high c k = true) :
    ratio low ≤ c * 10 ^ k ∧ c * 10 ^ k ≤ ratio high := by
  rw [← shiftTen_le_iff lows, ← le_shiftTen_iff highs]
  cases even with
  | true => exact of_decide_eq_true back
  | false =>
    have strict := of_decide_eq_true back
    exact ⟨strict.1.le, strict.2.le⟩

variable {tie : Tie}

theorem roundsBack_of_onGrid? (hit : onGrid? tie even low high n d k = some c) :
    roundsBack even low high c k = true := by
  unfold onGrid? at hit
  dsimp only at hit
  generalize (shiftTen n d k).1 / (shiftTen n d k).2 = lower at hit
  split at hit
  · cases hit
  · rename_i back _
    exact Option.some.inj hit ▸ back
  · rename_i back
    exact Option.some.inj hit ▸ back
  · rename_i back back'
    split at hit
    · exact Option.some.inj hit ▸ back
    split at hit
    · exact Option.some.inj hit ▸ back'
    split at hit
    · exact Option.some.inj hit ▸ back'
    · have chosen := Option.some.inj hit
      split at chosen
      · exact chosen ▸ back
      · exact chosen ▸ back'

theorem exists_onGrid? (whole : (shiftTen n d k).1 / (shiftTen n d k).2 = c)
    (back : roundsBack even low high c k = true ∨ roundsBack even low high (c + 1) k = true) :
    ∃ c', onGrid? tie even low high n d k = some c' := by
  unfold onGrid?
  dsimp only
  rw [whole]
  split
  · rename_i first second
    simp [first, second] at back
  · exact ⟨_, rfl⟩
  · exact ⟨_, rfl⟩
  · split
    · exact ⟨_, rfl⟩
    split
    · exact ⟨_, rfl⟩
    split <;> exact ⟨_, rfl⟩

/-- A grid that is finer than the gap between the bounds has a hit. So has a grid that the number
itself is on. -/
theorem exists_onGrid?_of_fine (positive : 0 < d) (lows : 0 < low.2) (highs : 0 < high.2)
    (above : ratio low < ratio (n, d)) (below : ratio (n, d) < ratio high)
    (fine : (10 : Rat) ^ k < ratio high - ratio low ∨ ∃ j : Nat, ratio (n, d) = j * 10 ^ k) :
    ∃ c, onGrid? tie even low high n d k = some c := by
  generalize whole : (shiftTen n d k).1 / (shiftTen n d k).2 = c
  obtain ⟨floor, ceiling⟩ := grid_brackets positive whole
  have unit := ten_zpow_pos k
  refine exists_onGrid? whole ?_
  rcases fine with narrow | ⟨j, itself⟩
  · push_cast at ceiling
    by_cases inside : ratio low < c * 10 ^ k
    · exact Or.inl (roundsBack_of_between lows highs inside (floor.trans_lt below))
    · refine Or.inr (roundsBack_of_between lows highs ?_ ?_)
      · push_cast
        linarith
      · push_cast
        linarith
  · rw [itself] at floor ceiling
    have most := Nat.cast_le.mp (le_of_mul_le_mul_right floor unit)
    have least := Nat.cast_lt.mp (lt_of_mul_lt_mul_right ceiling unit.le)
    obtain rfl : j = c := by omega
    refine Or.inl (roundsBack_of_between lows highs ?_ ?_) <;> rwa [← itself]

/-- The search ends at the first grid that has a hit. -/
theorem search_eq_hit {p : Int} {fuel count last : Nat} (earlier : count ≤ last)
    (within : last < count + fuel)
    (hit : ∃ c, onGrid? tie even low high n d (p - last) = some c) :
    ∃ c count', count' ≤ last ∧
      search tie even low high n d p fuel count = (c, p - (count' : Nat)) ∧
      onGrid? tie even low high n d (p - (count' : Nat)) = some c := by
  induction fuel generalizing count with
  | zero => omega
  | succ fuel ih =>
    unfold search
    cases here : onGrid? tie even low high n d (p - count) with
    | some c => exact ⟨c, count, earlier, rfl, here⟩
    | none =>
      have later : count ≠ last := by
        rintro rfl
        obtain ⟨c, there⟩ := hit
        rw [there] at here
        cases here
      exact ih (by omega) (by omega)

end Grid

section Neighbours

variable {m : Nat} {e : Int}

theorem neighbours_pos (m : Nat) (e : Int) :
    0 < (neighbours m e).1.2 ∧ 0 < (neighbours m e).2.2 := by
  unfold neighbours
  refine ⟨?_, pairAt_pos _ _ Nat.one_pos⟩
  dsimp only
  split <;> exact pairAt_pos _ _ Nat.one_pos

theorem two_zpow_sub_one (e : Int) : (2 : Rat) ^ (e - 1) = 2 ^ (e - 2) * 2 := by
  rw [← zpow_add_one₀ two_ne_zero]
  ring_nf

theorem ratio_high (m : Nat) (e : Int) :
    ratio (neighbours m e).2 = (4 * m + 2) * (2 : Rat) ^ (e - 2) := by
  rw [neighbours, ratio_pairAt, two_zpow_sub_one]
  push_cast
  ring

/-- In quarters of the unit, the lower bound is one below a power of two, and else two below. -/
theorem ratio_low (positive : 0 < m) (e : Int) :
    ratio (neighbours m e).1 =
      (4 * m - if m = fullMantissa ∧ minExponent < e then 1 else 2) * (2 : Rat) ^ (e - 2) := by
  unfold neighbours
  dsimp only
  split
  · rw [ratio_pairAt, Nat.cast_sub (by omega)]
    push_cast
    ring
  · rw [ratio_pairAt, Nat.cast_sub (by omega), two_zpow_sub_one]
    push_cast
    ring

theorem ratio_low_pos (positive : 0 < m) (e : Int) : 0 < ratio (neighbours m e).1 := by
  have one : (1 : Rat) ≤ m := by exact_mod_cast positive
  rw [ratio_low positive]
  refine mul_pos ?_ (two_zpow_pos (e - 2))
  split <;> linarith

theorem ratio_itself (m : Nat) (e : Int) :
    ratio (pairAt m 1 e) = 4 * m * (2 : Rat) ^ (e - 2) := by
  have quarters : (2 : Rat) ^ e = 2 ^ (e - 2) * 2 ^ 2 := by
    rw [← zpow_natCast, ← zpow_add₀ two_ne_zero]
    simp
  rw [ratio_pairAt, quarters]
  push_cast
  ring

theorem between_neighbours (positive : 0 < m) (e : Int) :
    ratio (neighbours m e).1 < ratio (pairAt m 1 e) ∧
      ratio (pairAt m 1 e) < ratio (neighbours m e).2 := by
  have unit := two_zpow_pos (e - 2)
  rw [ratio_high, ratio_low positive, ratio_itself]
  refine ⟨mul_lt_mul_of_pos_right ?_ unit, mul_lt_mul_of_pos_right ?_ unit⟩
  · split <;> linarith
  · linarith

/-- The gap between the bounds is more than the part of the number that seventeen digits leave. -/
theorem gap_of_full (full : fullMantissa ≤ m) (bits : m < 2 * fullMantissa) (e : Int) :
    ratio (pairAt m 1 e) / 10 ^ 16 <
      ratio (neighbours m e).2 - ratio (neighbours m e).1 := by
  have unit := two_zpow_pos (e - 2)
  have positive : 0 < m := lt_of_lt_of_le (by decide) full
  rw [ratio_high, ratio_low positive, ratio_itself, div_lt_iff₀ (by positivity), ← sub_mul,
    mul_right_comm _ _ ((10 : Rat) ^ 16)]
  refine mul_lt_mul_of_pos_right ?_ unit
  split
  · rename_i power
    rw [power.1]
    norm_num [fullMantissa]
  · have bits' : (m : Rat) < 9007199254740992 := by exact_mod_cast bits
    norm_num
    linarith

end Neighbours

section Whole

variable {m n d whole : Nat} {e : Int} {low high : Nat × Nat}

theorem pointOf_whole (divisor : 0 < d) (positive : 0 < whole)
    (value : ratio (n, d) = whole) : pointOf n d = (Nat.toDigits 10 whole).length := by
  have divisor' : (0 : Rat) < d := by exact_mod_cast divisor
  have product : n = whole * d := by
    rw [ratio, div_eq_iff divisor'.ne'] at value
    exact_mod_cast value
  unfold pointOf
  rw [if_pos (product ▸ Nat.le_mul_of_pos_left d positive), product,
    Nat.mul_div_cancel _ divisor]

/-- Between bounds that are not too near to a large whole number, a whole number is found. -/
theorem search_whole (tie : Tie) (even : Bool) (divisor : 0 < d) (lows : 0 < low.2)
    (highs : 0 < high.2) (above : ratio low < ratio (n, d)) (below : ratio (n, d) < ratio high)
    (gap : ratio (n, d) / 10 ^ 16 < ratio high - ratio low)
    (value : ratio (n, d) = whole) (large : 10 ^ 15 ≤ whole) :
    ∃ c k : Nat, search tie even low high n d (pointOf n d) 17 1 = (c, (k : Int)) ∧
      ratio low ≤ (c * 10 ^ k : Nat) ∧ ((c * 10 ^ k : Nat) : Rat) ≤ ratio high := by
  rw [pointOf_whole divisor (by omega) value]
  generalize length : (Nat.toDigits 10 whole).length = p
  obtain ⟨least, most⟩ := Text.bounds_of_length_toDigits (by omega) length
  have long : 15 < p := (Nat.pow_lt_pow_iff_right (by decide : 1 < 10)).mp (large.trans_lt most)
  -- As many digits as the number has write it; if it has more than seventeen, these are enough.
  have hit : ∃ c, onGrid? tie even low high n d ((p : Int) - (min p 17 : Nat)) = some c := by
    refine exists_onGrid?_of_fine divisor lows highs above below ?_
    by_cases short : p ≤ 17
    · refine Or.inr ⟨whole, ?_⟩
      rw [Nat.min_eq_left short, sub_self, zpow_zero, mul_one, value]
    · refine Or.inl (lt_of_le_of_lt ?_ gap)
      have split : (10 : Rat) ^ ((p : Int) - (17 : Nat)) * 10 ^ 16 = (10 ^ (p - 1) : Nat) := by
        rw [Nat.cast_pow, Nat.cast_ofNat, ← zpow_natCast, ← zpow_natCast,
          ← zpow_add₀ (by decide)]
        congr 1
        omega
      rw [Nat.min_eq_right (by omega), le_div_iff₀ (by positivity), split, value]
      exact_mod_cast least
  have start : 1 ≤ min p 17 := by omega
  have finish : min p 17 < 1 + 17 := by omega
  obtain ⟨c, count, early, found, there⟩ := search_eq_hit start finish hit
  have exponent : (p : Int) - count = (p - count : Nat) := by omega
  rw [exponent] at found there
  refine ⟨c, p - count, found, ?_⟩
  push_cast
  rw [← zpow_natCast]
  exact between_of_roundsBack lows highs (roundsBack_of_onGrid? there)

/-- Digits without the zeros at their end, with the point behind all of them, are written with these
zeros. -/
theorem positional_whole {c k : Nat} (positive : 0 < c) :
    positional []
        ⟨((Nat.toDigits 10 c).reverse.dropWhile (· = '0')).reverse,
          k + (Nat.toDigits 10 c).length⟩ =
      Nat.toDigits 10 (c * 10 ^ k) := by
  have some : 0 < (Nat.toDigits 10 c).length := Nat.length_toDigits_pos
  obtain ⟨zeros, written⟩ := Text.exists_zeros (Nat.toDigits 10 c)
  rw [Text.toDigits_mul_pow positive]
  generalize ((Nat.toDigits 10 c).reverse.dropWhile (· = '0')).reverse = digits at written ⊢
  rw [written] at some ⊢
  rw [List.length_append, List.length_replicate] at some ⊢
  have point : (((k : Int) + (digits.length + zeros : Nat))).toNat =
      k + (digits.length + zeros) := by omega
  unfold positional
  dsimp only
  rw [if_neg (by omega), point, if_pos (by omega), List.append_nil, List.append_assoc,
    List.replicate_append_replicate]
  congr 2
  omega

/-- The text of a large whole number is that of a whole number that rounds back to it. -/
theorem plainText_whole (negative : Bool) (full : fullMantissa ≤ m) (bits : m < 2 * fullMantissa)
    (value : (m : Rat) * 2 ^ e = whole) (large : 10 ^ 15 ≤ whole) :
    ∃ near : Nat, ratio (neighbours m e).1 ≤ near ∧ near ≤ ratio (neighbours m e).2 ∧
      plainText (.finite negative m e) = toString (signed negative near) := by
  have positive : 0 < m := lt_of_lt_of_le (by decide) full
  have itself : ratio (pairAt m 1 e) = whole := by
    rw [ratio_pairAt, ← value, Nat.cast_one, div_one]
  obtain ⟨above, below⟩ := between_neighbours positive e
  obtain ⟨lows, highs⟩ := neighbours_pos m e
  obtain ⟨c, k, found, least, most⟩ := search_whole (n := (pairAt m 1 e).1) .up (m % 2 = 0)
    (pairAt_pos m e Nat.one_pos) lows highs above below (gap_of_full full bits e) itself large
  have nonzero : 0 < c * 10 ^ k := by exact_mod_cast (ratio_low_pos positive e).trans_le least
  have digits : positional [] (shortest .up m e) = Nat.toDigits 10 (c * 10 ^ k) := by
    rw [← positional_whole (Nat.pos_of_mul_pos_right nonzero)]
    unfold shortest
    dsimp only
    rw [found]
  refine ⟨_, least, most, ?_⟩
  rw [← String.toList_inj, Text.toList_toString_signed fun _ => nonzero.ne', plainText]
  simp only [positive.ne', if_false, digits, String.toList_ofList]

end Whole

end Binary64

end FeatureFlags
