import FeatureFlags.Proofs.Draws
import FeatureFlags.Proofs.Picking
import FeatureFlags.Proofs.WeightClaims
import Mathlib.Algebra.Order.Floor.Semiring
import Mathlib.Order.Interval.Finset.Nat
import Mathlib.Tactic.Linarith

namespace FeatureFlags

theorem ceil_toNat (q : Rat) : q.ceil.toNat = ⌈q⌉₊ := by
  refine Nat.le_antisymm ?_ (Nat.ceil_le.mpr (le_ceil_toNat q))
  rw [Int.toNat_le, Rat.ceil_le_iff]
  exact Nat.le_ceil q

theorem claimed_replicate {ω : Type} [Quantity ω] (count : Nat) (weight : ω) (i : Nat) :
    claimed (List.replicate count weight) i = min i count * bucketsFor weight := by
  rw [claimed, List.map_replicate, List.take_replicate, List.sum_replicate_nat]

namespace Contest

/-- The number of buckets in an equal share for so many, rounded up. -/
def equalStep (count : Nat) : Nat := ⌈(bucketSpace : Rat) / count⌉₊

/-- The ranges of equal shares for so many. -/
def equalRanges (count : Nat) : List (Option BucketRange) :=
  allocateRanges (List.replicate count ((100 : Rat) / count))

/-- The buckets of the `i`-th of so many equal shares. -/
def shareBuckets (count i : Nat) : Finset Nat :=
  (Finset.Icc 1 bucketSpace).filter fun bucket => findRange (equalRanges count) bucket = some i

section Steps

variable {count : Nat} (positive : 0 < count)
include positive

theorem le_mul_equalStep : bucketSpace ≤ count * equalStep count := by
  have some : (0 : Rat) < count := Nat.cast_pos.mpr positive
  have enough : (bucketSpace : Rat) ≤ count * equalStep count :=
    (div_le_iff₀' some).mp (Nat.le_ceil _)
  exact_mod_cast enough

/-- Rounding up costs less than a bucket for each share. -/
theorem mul_equalStep_lt : count * equalStep count < bucketSpace + count := by
  have some : (0 : Rat) < count := Nat.cast_pos.mpr positive
  have exact : (bucketSpace : Rat) / count * count = bucketSpace := div_mul_cancel₀ _ some.ne'
  have above : (equalStep count : Rat) < bucketSpace / count + 1 := Nat.ceil_lt_add_one (by positivity)
  have product : (count * equalStep count : Rat) < bucketSpace + count := by
    calc (count * equalStep count : Rat) < count * (bucketSpace / count + 1) :=
          mul_lt_mul_of_pos_left above some
      _ = bucketSpace + count := by rw [mul_add, mul_comm, exact, mul_one]
  exact_mod_cast product

theorem equalStep_pos : 0 < equalStep count := by
  have enough := le_mul_equalStep positive
  by_contra none
  rw [Nat.eq_zero_of_not_pos none, Nat.mul_zero] at enough
  exact absurd enough (by decide)

theorem bucketsFor_equal : bucketsFor ((100 : Rat) / count) = equalStep count := by
  have least : (1 : Rat) ≤ count := Nat.one_le_cast.mpr positive
  have steps : (100 : Rat) / count * 100 = bucketSpace / count := by
    rw [div_mul_eq_mul_div]
    norm_num [bucketSpace]
  rw [bucketsFor_rat, steps, ceil_toNat]
  exact min_eq_right (Nat.ceil_le.mpr (div_le_self (Nat.cast_nonneg _) least))

/-- An equal share consists of as many buckets as a step has, as long as there are buckets. -/
theorem findRange_equalRanges_iff {bucket i : Nat} (first : 1 ≤ bucket) :
    findRange (equalRanges count) bucket = some i ↔
      i < count ∧ bucket ≤ bucketSpace ∧ i * equalStep count < bucket ∧
        bucket ≤ (i + 1) * equalStep count := by
  rw [equalRanges, allocateRanges, findRange_allocateAfter (Nat.zero_le _) first, claimed_replicate,
    claimed_replicate, bucketsFor_equal positive, Nat.zero_add, Nat.zero_add]
  rcases Nat.lt_or_ge i count with inside | outside
  · rw [min_eq_left inside.le, min_eq_left inside, and_iff_right inside]
  · rw [min_eq_right outside, min_eq_right (Nat.le_succ_of_le outside)]
    omega

/-- Each bucket is in the share that is found by division. -/
theorem findRange_equalRanges {bucket : Nat} (first : 1 ≤ bucket) (last : bucket ≤ bucketSpace) :
    (bucket - 1) / equalStep count < count ∧
      findRange (equalRanges count) bucket = some ((bucket - 1) / equalStep count) := by
  have step := equalStep_pos positive
  have inside : (bucket - 1) / equalStep count < count := by
    rw [Nat.div_lt_iff_lt_mul step]
    have enough := le_mul_equalStep positive
    omega
  have lower := Nat.div_mul_le_self (bucket - 1) (equalStep count)
  have upper := Nat.lt_div_mul_add (a := bucket - 1) step
  refine ⟨inside, (findRange_equalRanges_iff positive first).mpr ⟨inside, last, ?_, ?_⟩⟩
  · omega
  · rw [Nat.succ_mul]
    omega

/-- The share of the `i`-th has a step of buckets, less what the shares before it and it itself have
taken beyond the last bucket. -/
theorem card_share {i : Nat} (inside : i < count) :
    (shareBuckets count i).card =
      min bucketSpace ((i + 1) * equalStep count) - i * equalStep count := by
  rw [← Nat.card_Ioc, shareBuckets]
  congr 1
  ext bucket
  rw [Finset.mem_filter, Finset.mem_Icc, Finset.mem_Ioc, le_min_iff]
  constructor
  · rintro ⟨⟨first, last⟩, found⟩
    obtain ⟨-, -, lower, upper⟩ := (findRange_equalRanges_iff positive first).mp found
    exact ⟨lower, last, upper⟩
  · rintro ⟨lower, last, upper⟩
    have first : 1 ≤ bucket := Nat.one_le_of_lt lower
    exact ⟨⟨first, last⟩, (findRange_equalRanges_iff positive first).mpr ⟨inside, last, lower, upper⟩⟩

/-- No share has more than a bucket too much, and the last shares miss what the others have been
rounded up by. -/
theorem card_share_bounds {i : Nat} (inside : i < count) :
    count * (shareBuckets count i).card ≤ bucketSpace + count ∧
      bucketSpace ≤ count * (shareBuckets count i).card + count * (count - 1) := by
  have enough := le_mul_equalStep positive
  have tight := mul_equalStep_lt positive
  have split : (i + 1) * equalStep count = i * equalStep count + equalStep count := Nat.succ_mul _ _
  have size := card_share positive inside
  generalize (shareBuckets count i).card = owned at size ⊢
  have most : owned ≤ equalStep count := by omega
  refine ⟨(Nat.mul_le_mul_left count most).trans tight.le, ?_⟩
  rcases Nat.le_total ((i + 1) * equalStep count) bucketSpace with whole | cut
  · have full : owned = equalStep count := by omega
    rw [full]
    exact enough.trans (Nat.le_add_right _ _)
  · -- All shares before the `i`-th are whole, and there are fewer than `count` of them.
    have rest : bucketSpace ≤ owned + i * equalStep count := by omega
    have before : i * (count * equalStep count) ≤ (count - 1) * (bucketSpace + (count - 1)) :=
      Nat.mul_le_mul (by omega) (by omega)
    have all : count * bucketSpace ≤ count * owned + i * (count * equalStep count) := by
      calc count * bucketSpace ≤ count * (owned + i * equalStep count) := Nat.mul_le_mul_left _ rest
        _ = count * owned + i * (count * equalStep count) := by ring
    obtain ⟨others, rfl⟩ := Nat.exists_eq_add_of_le' positive
    rw [Nat.add_sub_cancel] at before ⊢
    nlinarith

end Steps

/-- A draw with equal shares looks for the user's bucket in their ranges. -/
theorem randomWinner_eq (group : UInt64) (user : String) (pool : List (Campaign Rat)) :
    randomWinner group user pool =
      (findRange (equalRanges pool.length) (bucket group user)).bind (pool[·]?) := by
  simp only [randomWinner, draw, List.map_map, Function.comp_def, List.map_id', List.map_const']
  rfl

/-- A draw with equal shares always has a winner, which is found by division, and the shares are even
but for one bucket too much and one too few for each of the others. -/
theorem equal_shares_are_nearly_even {pool : List (Campaign Rat)} (nonempty : pool ≠ [])
    (group : UInt64) (user : String) :
    (∃ c, randomWinner group user pool = some c ∧
      pool[(bucket group user - 1) / equalStep pool.length]? = some c) ∧
    randomWinner group user pool =
      (findRange (equalRanges pool.length) (bucket group user)).bind (pool[·]?) ∧
    ∀ i < pool.length,
      (bucketSpace : Rat) / pool.length - (pool.length - 1) ≤ (shareBuckets pool.length i).card ∧
        (shareBuckets pool.length i).card ≤ (bucketSpace : Rat) / pool.length + 1 := by
  have positive : 0 < pool.length := List.length_pos_iff.mpr nonempty
  refine ⟨?_, randomWinner_eq group user pool, fun i inside => ?_⟩
  · obtain ⟨first, last⟩ : 1 ≤ bucket group user ∧ bucket group user ≤ bucketSpace :=
      variationBucket_bounds _
    obtain ⟨bound, found⟩ := findRange_equalRanges positive first last
    have winner := List.getElem?_eq_getElem bound
    exact ⟨_, by rw [randomWinner_eq, found, Option.bind_some, winner], winner⟩
  · have some : (0 : Rat) < pool.length := Nat.cast_pos.mpr positive
    obtain ⟨most, least⟩ := card_share_bounds positive inside
    generalize (shareBuckets pool.length i).card = owned at most least ⊢
    constructor
    · have others : ((pool.length - 1 : Nat) : Rat) = pool.length - 1 := by
        rw [Nat.cast_sub positive, Nat.cast_one]
      rw [← others, sub_le_iff_le_add, div_le_iff₀' some, mul_add]
      exact_mod_cast least
    · rw [← sub_le_iff_le_add, le_div_iff₀' some, mul_sub, mul_one, sub_le_iff_le_add]
      exact_mod_cast most

/-- Three comparisons with nothing to choose between them. -/
def threeTrials : List (Campaign Rat) :=
  [(1, "first"), (2, "second"), (3, "third")].map fun (id, key) =>
    ⟨id, key, none, .ab, 100, .null, false, false, [], none, none, none, none⟩

/-- One of the three wins, and each has a third of the buckets, give or take two. -/
theorem three_trials_share_evenly :
    (∃ c, randomWinner 5 "ann" threeTrials = some c ∧
      threeTrials[(bucket 5 "ann" - 1) / equalStep 3]? = some c) ∧
    ∀ i < 3, 3332 ≤ (shareBuckets 3 i).card ∧ (shareBuckets 3 i).card ≤ 3334 := by
  have nonempty : threeTrials ≠ [] := List.cons_ne_nil _ _
  obtain ⟨winner, -, even⟩ := equal_shares_are_nearly_even nonempty 5 "ann"
  refine ⟨winner, fun i inside => ?_⟩
  obtain ⟨least, most⟩ := even i inside
  have count : threeTrials.length = 3 := rfl
  have space : (bucketSpace : Rat) = 10000 := by norm_num [bucketSpace]
  rw [count, space] at least most
  generalize (shareBuckets 3 i).card = owned at least most ⊢
  push_cast at least most
  have low : 3331 < owned := by
    rw [← Nat.cast_lt (α := Rat)]
    push_cast
    linarith
  have high : owned < 3335 := by
    rw [← Nat.cast_lt (α := Rat)]
    push_cast
    linarith
  exact ⟨low, Nat.le_of_lt_succ high⟩

end Contest

end FeatureFlags
