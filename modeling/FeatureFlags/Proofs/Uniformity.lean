import FeatureFlags.Proofs.WholePoints
import Mathlib.Data.Rat.Floor
import Mathlib.Data.Set.Card
import Mathlib.Order.Interval.Finset.Nat

namespace FeatureFlags

open Binary64 in
/-- All doubles on the way from a hash to its bucket have the values of exact reckoning. -/
structure ScaledExactly (hash : UInt32) (space : Nat) : Prop where
  ofHash : (ofNat hash.toNat).toRat? = some (hash.toNat : Rat)
  ofSize : (ofNat UInt32.size).toRat? = some (2 ^ 32)
  ratio : (ofNat hash.toNat / ofNat UInt32.size).toRat? = some ((hash.toNat : Rat) / 2 ^ 32)
  ofSpace : (ofNat space).toRat? = some (space : Rat)
  scaled : (ofNat space * (ofNat hash.toNat / ofNat UInt32.size)).toRat? =
    some ((space : Rat) * (hash.toNat / 2 ^ 32))
  shifted : (ofNat space * (ofNat hash.toNat / ofNat UInt32.size) + ofNat 1).toRat? =
    some ((space : Rat) * (hash.toNat / 2 ^ 32) + 1)
  multiplied : ((ofNat space * (ofNat hash.toNat / ofNat UInt32.size) + ofNat 1) * ofNat 1).toRat? =
    some (((space : Rat) * (hash.toNat / 2 ^ 32) + 1) * 1)

section Space

variable {space : Nat} (limit : space ≤ 2 ^ 20)
include limit

theorem scaledExactly (hash : UInt32) : ScaledExactly hash space := by
  obtain ⟨ratio, scaled, shifted, bits⟩ := parts_bucketOf hash limit
  have hashed : hash.toNat < 2 ^ 32 := hash.toNat_lt
  have product : ((space * hash.toNat : Nat) : Rat) / 2 ^ 32 = space * (hash.toNat / 2 ^ 32) := by
    rw [Nat.cast_mul, mul_div_assoc]
  have sum : ((space * hash.toNat + 2 ^ 32 : Nat) : Rat) / 2 ^ 32 =
      space * (hash.toNat / 2 ^ 32) + 1 := by
    rw [← product]
    push_cast
    ring
  exact {
    ofHash := Binary64.toRat?_ofNat (by omega)
    ofSize := Binary64.toRat?_ofNat (by decide)
    ratio := ratio
    ofSpace := Binary64.toRat?_ofNat (by omega)
    scaled := scaled.trans (congrArg some product)
    shifted := shifted.trans (congrArg some sum)
    multiplied := by
      rw [mul_one, ← sum]
      exact shifted.times_one bits }

theorem bucketOf_mono {hash other : UInt32} (le : hash ≤ other) :
    bucketOf hash space (.ofNat 1) ≤ bucketOf other space (.ofNat 1) := by
  rw [bucketOf_eq hash limit, bucketOf_eq other limit]
  have scaled := Nat.mul_le_mul_left space (UInt32.le_iff_toNat_le.mp le)
  exact Nat.add_le_add_right (Nat.div_le_div_right scaled) 1

theorem bucketOf_zero (hash : UInt32) : bucketOf hash space (.ofNat 0) = 0 := by
  obtain ⟨-, -, shifted, -⟩ := parts_bucketOf hash limit
  obtain ⟨s, rounds⟩ := Binary64.mul_eq_round shifted (Binary64.toRat?_ofNat (n := 0) (by decide))
  unfold bucketOf
  rw [rounds, Nat.cast_zero, mul_zero, Binary64.floorUpTo_eq (Binary64.toRat?_round_zero s)]
  rfl

end Space

/-- The first hash behind those of the buckets up to this one. -/
def firstBehind (space bucket : Nat) : Nat := ⌈bucket * (2 ^ 32 / space : Rat)⌉₊

section Shares

variable {space : Nat} (some : 0 < space)
include some

theorem firstBehind_le_iff {bucket count : Nat} :
    firstBehind space bucket ≤ count ↔ bucket * 2 ^ 32 ≤ space * count := by
  have some' : (0 : Rat) < space := by exact_mod_cast some
  rw [firstBehind, Nat.ceil_le, mul_div_assoc', div_le_iff₀ some', mul_comm (count : Rat)]
  exact_mod_cast Iff.rfl

theorem firstBehind_most {bucket : Nat} (inside : bucket ≤ space) :
    firstBehind space bucket ≤ 2 ^ 32 :=
  (firstBehind_le_iff some).mpr (Nat.mul_le_mul_right _ inside)

/-- A bucket has the hashes between the one before it and its own end. -/
theorem bucketOf_eq_iff (limit : space ≤ 2 ^ 20) (hash : UInt32) (bucket : Nat) :
    bucketOf hash space (.ofNat 1) = bucket + 1 ↔
      firstBehind space bucket ≤ hash.toNat ∧ hash.toNat < firstBehind space (bucket + 1) := by
  rw [bucketOf_eq hash limit, ← not_le, firstBehind_le_iff some, firstBehind_le_iff some, not_le,
    Nat.add_right_cancel_iff, Nat.div_eq_iff (by decide)]
  omega

theorem ncard_bucketOf (limit : space ≤ 2 ^ 20) {bucket : Nat} (inside : bucket < space) :
    {hash : UInt32 | bucketOf hash space (.ofNat 1) = bucket + 1}.ncard =
      firstBehind space (bucket + 1) - firstBehind space bucket := by
  have hashes : UInt32.toNat '' {hash | bucketOf hash space (.ofNat 1) = bucket + 1} =
      ↑(Finset.Ico (firstBehind space bucket) (firstBehind space (bucket + 1))) := by
    ext count
    simp only [Set.mem_image, Set.mem_ofPred_eq, bucketOf_eq_iff some limit, Finset.coe_Ico,
      Set.mem_Ico]
    constructor
    · rintro ⟨hash, between, rfl⟩
      exact between
    · intro between
      have word : count < 2 ^ 32 := between.2.trans_le (firstBehind_most some inside)
      refine ⟨UInt32.ofNat count, ?_, UInt32.toNat_ofNat_of_lt' word⟩
      rwa [UInt32.toNat_ofNat_of_lt' word]
  rw [← Set.ncard_image_of_injective _ fun _ _ => UInt32.toNat_inj.mp, hashes,
    Set.ncard_coe_finset, Nat.card_Ico]

end Shares

/-- The rounded multiples of a share follow each other at the rounded share. -/
theorem ceil_sub_ceil {share : Rat} (positive : 0 ≤ share) (k : Nat) :
    ⌈((k + 1 : Nat) : Rat) * share⌉₊ - ⌈(k : Rat) * share⌉₊ = ⌊share⌋₊ ∨
      ⌈((k + 1 : Nat) : Rat) * share⌉₊ - ⌈(k : Rat) * share⌉₊ = ⌈share⌉₊ := by
  have next : ((k + 1 : Nat) : Rat) * share = k * share + share := by
    push_cast
    ring
  have most : ⌈((k + 1 : Nat) : Rat) * share⌉₊ ≤ ⌈(k : Rat) * share⌉₊ + ⌈share⌉₊ := by
    rw [next]
    exact Nat.ceil_add_le _ _
  have least : ⌈(k : Rat) * share⌉₊ + ⌊share⌋₊ ≤ ⌈((k + 1 : Nat) : Rat) * share⌉₊ := by
    rw [next, ← Nat.ceil_add_natCast (mul_nonneg (Nat.cast_nonneg k) positive)]
    exact Nat.ceil_mono (by linarith [Nat.floor_le positive])
  have close := Nat.ceil_le_floor_add_one share
  omega

/-- Each bucket has the same share of all hashes, rounded down or up. -/
theorem ncard_bucketOf_even {space : Nat} (positive : 0 < space) (limit : space ≤ 2 ^ 20)
    {bucket : Nat} (first : 0 < bucket) (last : bucket ≤ space) :
    {hash : UInt32 | bucketOf hash space (.ofNat 1) = bucket}.ncard = ⌊(2 ^ 32 / space : Rat)⌋₊ ∨
      {hash : UInt32 | bucketOf hash space (.ofNat 1) = bucket}.ncard =
        ⌈(2 ^ 32 / space : Rat)⌉₊ := by
  obtain ⟨before, rfl⟩ := Nat.exists_eq_add_one.mpr first
  have share : (0 : Rat) ≤ 2 ^ 32 / space := div_nonneg (by norm_num) (Nat.cast_nonneg space)
  rw [ncard_bucketOf positive limit last]
  exact ceil_sub_ceil share before

theorem allocated_contains_zero {ω : Type} [Quantity ω] {weights : List ω} {range : BucketRange}
    (allocated : some range ∈ allocateRanges weights) : range.contains 0 = false := by
  have tile := allocateAfter_tile (Nat.zero_le bucketSpace) weights
  have among := List.reduceOption_mem_iff.mpr allocated
  by_contra inside
  have behind := (tile.covers_iff 0).mp ⟨range, among, Bool.eq_true_of_not_eq_false inside⟩
  exact absurd behind.1 (Nat.lt_irrefl 0)

/-- For each number of buckets up to ten thousand: the bucket of a seed is its hash scaled to that
number, reckoned without rounding; it is one of the buckets, and it grows with the hash. Each bucket
has an even share of the 32-bit hashes, rounded down or up. With the multiplier zero, the bucket is
one that no range has. -/
theorem buckets_are_exact_and_even {space : Nat} (positive : 0 < space) (most : space ≤ 10000) :
    (∀ seed, ScaledExactly (seedHash seed) space ∧
      bucketValue seed space (.ofNat 1) = space * (seedHash seed).toNat / 2 ^ 32 + 1 ∧
      1 ≤ bucketValue seed space (.ofNat 1) ∧ bucketValue seed space (.ofNat 1) ≤ space ∧
      bucketValue seed space (.ofNat 0) = 0) ∧
    (∀ seed multiplier,
      bucketValue seed space multiplier = bucketOf (seedHash seed) space multiplier) ∧
    (∀ hash other, hash ≤ other →
      bucketOf hash space (.ofNat 1) ≤ bucketOf other space (.ofNat 1)) ∧
    (∀ bucket, 1 ≤ bucket → bucket ≤ space →
      {hash | bucketOf hash space (.ofNat 1) = bucket}.ncard = ⌊(2 ^ 32 / space : Rat)⌋₊ ∨
      {hash | bucketOf hash space (.ofNat 1) = bucket}.ncard = ⌈(2 ^ 32 / space : Rat)⌉₊) ∧
    (∀ (weights : List Binary64) (range : BucketRange),
      some range ∈ allocateRanges weights → range.contains 0 = false) ∧
    ∀ weight : Binary64, (singleRange weight).any (·.contains 0) = false := by
  have limit : space ≤ 2 ^ 20 := by omega
  refine ⟨fun seed => ?_, fun seed => bucketValue_eq_bucketOf seed space,
    fun hash other => bucketOf_mono limit, fun bucket => ncard_bucketOf_even positive limit,
    fun weights range => allocated_contains_zero, fun weight => ?_⟩
  · obtain ⟨first, last⟩ := bucketValue_bounds seed positive limit
    exact ⟨scaledExactly limit _, bucketValue_eq seed limit, first, last, bucketOf_zero limit _⟩
  · by_contra inside
    have behind := singleRange_contains_iff.mp (Bool.eq_true_of_not_eq_false inside)
    exact absurd behind.1 (Nat.lt_irrefl 0)

/-- Three buckets cannot share the hashes evenly, and the empty seed falls into the first. -/
theorem three_buckets_are_even : 0 < 3 ∧ 3 ≤ 10000 ∧ bucketValue "" 3 (.ofNat 1) = 1 ∧
    ({hash | bucketOf hash 3 (.ofNat 1) = 2}.ncard = 1431655765 ∨
      {hash | bucketOf hash 3 (.ofNat 1) = 2}.ncard = 1431655766) := by
  obtain ⟨seeds, -, -, shares, -⟩ :=
    buckets_are_exact_and_even (show 0 < 3 by decide) (show 3 ≤ 10000 by decide)
  have down : ⌊(2 ^ 32 / (3 : Nat) : Rat)⌋₊ = 1431655765 := by norm_num [Nat.floor_eq_iff]
  have up : ⌈(2 ^ 32 / (3 : Nat) : Rat)⌉₊ = 1431655766 := by norm_num [Nat.ceil_eq_iff]
  have hashed : (seedHash "").toNat = 1364076727 := by decide
  have share := shares 2 (by decide) (by decide)
  rw [down, up] at share
  refine ⟨by decide, by decide, ?_, share⟩
  rw [(seeds "").2.1, hashed]
  rfl

end FeatureFlags
