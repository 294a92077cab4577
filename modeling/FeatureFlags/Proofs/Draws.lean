import FeatureFlags.Contest
import FeatureFlags.Proofs.WeightClaims

namespace FeatureFlags

namespace Binary64

theorem floor_quotient (n : Nat) {d : Nat} (positive : 0 < d) :
    ((n : Rat) / d).floor = ((n / d : Nat) : Int) := by
  have positive' : (0 : Rat) < d := Nat.cast_pos.mpr positive
  apply Int.le_antisymm
  · rw [← Int.lt_add_one_iff, ← not_le, Rat.le_floor_iff, not_le, div_lt_iff₀ positive']
    have below : n < (n / d + 1) * d := by
      rw [Nat.mul_comm]
      exact Nat.lt_mul_div_succ n positive
    exact_mod_cast below
  · rw [Rat.le_floor_iff, le_div_iff₀ positive']
    exact_mod_cast Nat.div_mul_le_self n d

theorem toRat?_one : (ofNat 1).toRat? = some 1 := by
  rw [toRat?_ofNat (by decide), Nat.cast_one]

theorem toRat?_hundred : (ofNat 100).toRat? = some 100 := toRat?_ofNat (by decide)

/-- The double is this many parts of size `2^-32`. -/
def Parts (x : Binary64) (count : Nat) : Prop := x.toRat? = some ((count : Rat) / 2 ^ 32)

theorem parts_round {count : Nat} (bits : count < 2 ^ 53) (negative : Bool) :
    Parts (round negative ((count : Rat) / 2 ^ 32)) count := by
  refine toRat?_round_of_bits (f := -32) ?_ bits (by decide) (by decide) negative
  rw [div_eq_mul_inv, zpow_neg]
  rfl

theorem parts_ratio {hash : Nat} (bits : hash < 2 ^ 53) :
    Parts (ofNat hash / ofNat UInt32.size) hash := by
  have scale : (ofNat UInt32.size).toRat? = some ((2 : Rat) ^ 32) := by
    rw [toRat?_ofNat (by decide)]
    norm_num [UInt32.size]
  obtain ⟨s, rounds⟩ := div_eq_round (toRat?_ofNat bits) scale (by norm_num)
  rw [rounds]
  exact parts_round bits s

variable {x : Binary64} {count : Nat}

theorem Parts.times (parts : Parts x count) {n : Nat} (bits : n < 2 ^ 53)
    (product : n * count < 2 ^ 53) : Parts (ofNat n * x) (n * count) := by
  obtain ⟨s, rounds⟩ := mul_eq_round (toRat?_ofNat bits) parts
  rw [rounds, ← mul_div_assoc, ← Nat.cast_mul]
  exact parts_round product s

theorem Parts.add_one (parts : Parts x count) (sum : count + 2 ^ 32 < 2 ^ 53) :
    Parts (x + ofNat 1) (count + 2 ^ 32) := by
  obtain ⟨s, rounds⟩ := add_eq_round parts toRat?_one
  have whole : (count : Rat) / 2 ^ 32 + 1 = (count + 2 ^ 32 : Nat) / 2 ^ 32 := by
    push_cast
    ring
  rw [rounds, whole]
  exact parts_round sum s

theorem Parts.times_one (parts : Parts x count) (bits : count < 2 ^ 53) :
    Parts (x * ofNat 1) count := by
  obtain ⟨s, rounds⟩ := mul_eq_round parts toRat?_one
  rw [rounds, mul_one]
  exact parts_round bits s

theorem Parts.floorUpTo (parts : Parts x count) (bound : Nat) :
    x.floorUpTo bound = min bound (count / 2 ^ 32) := by
  have whole := floor_quotient count (Nat.two_pow_pos 32)
  rw [Nat.cast_pow, Nat.cast_ofNat] at whole
  rw [floorUpTo_eq parts, whole, Int.toNat_natCast]

end Binary64

/-- The bucket of a hash, scaled and multiplied as that of a seed is. -/
def bucketOf (hash : UInt32) (space : Nat) (multiplier : Binary64) : Nat :=
  ((Binary64.ofNat space * (Binary64.ofNat hash.toNat / Binary64.ofNat UInt32.size) +
    Binary64.ofNat 1) * multiplier).floorUpTo (UInt32.size - 1)

theorem bucketValue_eq_bucketOf (seed : String) (space : Nat) (multiplier : Binary64) :
    bucketValue seed space multiplier = bucketOf (seedHash seed) space multiplier := rfl

open Binary64 in
/-- No step that takes a hash to its bucket is rounded. -/
theorem parts_bucketOf (hash : UInt32) {space : Nat} (limit : space ≤ 2 ^ 20) :
    Parts (ofNat hash.toNat / ofNat UInt32.size) hash.toNat ∧
      Parts (ofNat space * (ofNat hash.toNat / ofNat UInt32.size)) (space * hash.toNat) ∧
      Parts (ofNat space * (ofNat hash.toNat / ofNat UInt32.size) + ofNat 1)
        (space * hash.toNat + 2 ^ 32) ∧
      space * hash.toNat + 2 ^ 32 < 2 ^ 53 := by
  have hashed : hash.toNat < 2 ^ 32 := hash.toNat_lt
  generalize hash.toNat = count at hashed ⊢
  have most : space * count ≤ 2 ^ 20 * 2 ^ 32 := Nat.mul_le_mul limit hashed.le
  have ratio : Parts (ofNat count / ofNat UInt32.size) count := parts_ratio (by omega)
  have scaled := ratio.times (n := space) (by omega) (by omega)
  exact ⟨ratio, scaled, scaled.add_one (by omega), by omega⟩

open Binary64 in
theorem bucketOf_eq (hash : UInt32) {space : Nat} (limit : space ≤ 2 ^ 20) :
    bucketOf hash space (.ofNat 1) = space * hash.toNat / 2 ^ 32 + 1 := by
  obtain ⟨-, -, shifted, bits⟩ := parts_bucketOf hash limit
  have size : UInt32.size = 2 ^ 32 := rfl
  unfold bucketOf
  rw [(shifted.times_one bits).floorUpTo, Nat.add_div_right _ (Nat.two_pow_pos 32),
    min_eq_right (by omega)]

theorem bucketValue_eq (seed : String) {space : Nat} (limit : space ≤ 2 ^ 20) :
    bucketValue seed space (.ofNat 1) = space * (seedHash seed).toNat / 2 ^ 32 + 1 :=
  bucketOf_eq (seedHash seed) limit

/-- Buckets are numbered from one on, up to as many as there are. -/
theorem bucketValue_bounds (seed : String) {space : Nat} (some : 0 < space)
    (limit : space ≤ 2 ^ 20) :
    0 < bucketValue seed space (.ofNat 1) ∧ bucketValue seed space (.ofNat 1) ≤ space := by
  have hashed : (seedHash seed).toNat < 2 ^ 32 := (seedHash seed).toNat_lt
  have part : space * (seedHash seed).toNat < 2 ^ 32 * space := by
    rw [Nat.mul_comm]
    exact Nat.mul_lt_mul_of_pos_right hashed some
  have inside := Nat.div_lt_of_lt_mul part
  rw [bucketValue_eq seed limit]
  omega

theorem variationBucket_bounds (seed : String) :
    0 < variationBucket seed ∧ variationBucket seed ≤ bucketSpace :=
  bucketValue_bounds seed (by decide) (by decide)

theorem inclusionBucket_bounds (seed : String) :
    0 < inclusionBucket seed ∧ inclusionBucket seed ≤ percentSpace :=
  bucketValue_bounds seed (by decide) (by decide)

section Ranges

variable {ω : Type} [Quantity ω]

/-- When weights claim all buckets, one of them has the bucket of a seed. -/
theorem findRange_of_claimed {weights : List ω}
    (claimed : bucketSpace ≤ (weights.map bucketsFor).sum) (seed : String) :
    ∃ i < weights.length, findRange (allocateRanges weights) (variationBucket seed) = some i := by
  obtain ⟨positive, inside⟩ := variationBucket_bounds seed
  have covered := findRange_allocateRanges_isSome_iff.mpr
    ⟨positive, le_min inside (inside.trans claimed)⟩
  obtain ⟨i, found⟩ := Option.isSome_iff_exists.mp covered
  exact ⟨i, lt_length_of_found found, found⟩

end Ranges

namespace Contest

variable {ω : Type} [Quantity ω]

/-- Somebody is drawn exactly if the claims of all weights reach up to the user's bucket. -/
theorem draw_isSome_iff {group : UInt64} {user : String} {weighted : List (Campaign ω × ω)} :
    (draw group user weighted).isSome ↔
      bucket group user ≤ (weighted.map fun p => bucketsFor p.2).sum := by
  obtain ⟨first, last⟩ : 0 < bucket group user ∧ bucket group user ≤ bucketSpace :=
    variationBucket_bounds _
  have reaches : (findRange (allocateRanges (weighted.map (·.2))) (bucket group user)).isSome ↔
      bucket group user ≤ (weighted.map fun p => bucketsFor p.2).sum := by
    rw [findRange_allocateRanges_isSome_iff, and_iff_right first, le_min_iff, and_iff_right last,
      List.map_map]
    rfl
  rw [← reaches, draw]
  cases found : findRange (allocateRanges (weighted.map (·.2))) (bucket group user) with
  | none => rfl
  | some i =>
    have bound := lt_length_of_found found
    rw [List.length_map] at bound
    rw [Option.bind_some, List.getElem?_map, List.getElem?_eq_getElem bound]
    rfl

/-- When weights claim all buckets, somebody is drawn. -/
theorem draw_of_claimed {weighted : List (Campaign ω × ω)}
    (claimed : bucketSpace ≤ (weighted.map fun p => bucketsFor p.2).sum) (group : UInt64)
    (user : String) : ∃ c, draw group user weighted = some c := by
  have inside : bucket group user ≤ bucketSpace := (variationBucket_bounds _).2
  exact Option.isSome_iff_exists.mp (draw_isSome_iff.mpr (inside.trans claimed))

/-- An equal share of all buckets for so many is not too small. -/
def SharesAll (ω : Type) [Quantity ω] (count : Nat) : Prop :=
  bucketSpace ≤ count * bucketsFor (Quantity.ofNat 100 / Quantity.ofNat count : ω)

theorem randomWinner_of_sharesAll {pool : List (Campaign ω)} (shares : SharesAll ω pool.length)
    (group : UInt64) (user : String) : ∃ c, randomWinner group user pool = some c := by
  refine draw_of_claimed ?_ group user
  simp only [List.map_map, Function.comp_def, List.map_const', List.sum_replicate_nat]
  exact shares

/-- Rounding up makes up for the part of a bucket that the reckoning may lose. -/
theorem le_mul_ceil {count : Nat} {steps : Rat} (enough : 9999 < steps * count) :
    bucketSpace ≤ count * min bucketSpace steps.ceil.toNat := by
  have worth : 9999 < ((List.replicate count steps).map id).sum := by
    rw [List.map_id, List.sum_replicate, nsmul_eq_mul, mul_comm]
    exact enough
  have all := bucketSpace_le_sum (fun q _ => le_min_ceil q) worth
  rwa [List.map_replicate, List.sum_replicate_nat] at all

theorem sharesAll_rat {count : Nat} (positive : 0 < count) : SharesAll Rat count := by
  have nonzero : (count : Rat) ≠ 0 := Nat.cast_ne_zero.mpr positive.ne'
  refine le_mul_ceil ?_
  change (9999 : Rat) < ((100 : Nat) : Rat) / (count : Rat) * ((100 : Nat) : Rat) * count
  rw [mul_right_comm, div_mul_cancel₀ _ nonzero]
  norm_num

open Binary64 in
/-- An equal share is rounded twice, for the number of those who share and for the quotient. -/
theorem share_binary64 {count : Nat} (positive : 0 < count) (word : count < 2 ^ 64) :
    ∃ share, (ofNat 100 / ofNat count).toRat? = some share ∧ 1 / 2 ^ 63 ≤ share ∧ share ≤ 201 ∧
      100 * (1 - 1 / 2 ^ 53) ≤ share * (count * (1 + 1 / 2 ^ 53)) := by
  have least : (1 : Rat) ≤ count := by exact_mod_cast positive
  have most : (count : Rat) ≤ 2 ^ 64 := by exact_mod_cast word.le
  have unit : unitRoundoff = 1 / 2 ^ 53 := rfl
  obtain ⟨divisor, isDivisor, near⟩ :=
    toRat?_round_moderate (q := (count : Rat)) (by linarith) (by linarith) false
  rw [← ofNat_eq_round] at isDivisor
  rw [abs_le, unit] at near
  have large : 1 / 2 ≤ divisor := by linarith
  have divides : 0 < divisor := by linarith
  obtain ⟨s, rounds⟩ := div_eq_round toRat?_hundred isDivisor divides.ne'
  generalize exact : 100 / divisor = part at rounds
  have back : part * divisor = 100 := by rw [← exact, div_mul_cancel₀ _ divides.ne']
  have low : 1 / 2 ^ 60 ≤ part := by
    rw [← exact, le_div_iff₀ divides]
    linarith
  have high : part ≤ 200 := by
    rw [← exact, div_le_iff₀ divides]
    linarith
  obtain ⟨share, isShare, near'⟩ :=
    toRat?_round_moderate (q := part) (by linarith) (by linarith) s
  rw [abs_le, unit] at near'
  refine ⟨share, rounds ▸ isShare, by linarith, by linarith, ?_⟩
  calc (100 : Rat) * (1 - 1 / 2 ^ 53) = part * (1 - 1 / 2 ^ 53) * divisor := by
        rw [mul_right_comm, back]
    _ ≤ share * divisor := mul_le_mul_of_nonneg_right (by linarith) divides.le
    _ ≤ share * (count * (1 + 1 / 2 ^ 53)) :=
        mul_le_mul_of_nonneg_left (by linarith) (by linarith)

open Binary64 in
theorem sharesAll_binary64 {count : Nat} (positive : 0 < count) (word : count < 2 ^ 64) :
    SharesAll Binary64 count := by
  obtain ⟨share, isShare, low, high, shares⟩ := share_binary64 positive word
  obtain ⟨s, rounds⟩ := mul_eq_round isShare toRat?_hundred
  obtain ⟨steps, isSteps, near⟩ :=
    toRat?_round_moderate (q := share * 100) (by linarith) (by linarith) s
  have unit : unitRoundoff = 1 / 2 ^ 53 := rfl
  rw [abs_le, unit] at near
  have claims : share * 100 * (1 - 1 / 2 ^ 53) * count ≤ steps * count :=
    mul_le_mul_of_nonneg_right (by linarith) (Nat.cast_nonneg count)
  have enough : 9999 < steps * count := by linarith
  change bucketSpace ≤ count * ceilUpTo bucketSpace (ofNat 100 / ofNat count * ofNat 100)
  rw [rounds, ceilUpTo_eq isSteps]
  exact le_mul_ceil enough

end Contest

end FeatureFlags
