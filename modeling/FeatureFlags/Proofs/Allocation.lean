import FeatureFlags.Bucketing
import Mathlib.Algebra.GroupWithZero.Nat
import Mathlib.Data.List.ReduceOption

namespace FeatureFlags

/-- The sum of two words, unless it overflows. -/
def wordSum? (a b : UInt32) : Option UInt32 :=
  if BitVec.uaddOverflow a.toBitVec b.toBitVec then none else some (a + b)

/-- The difference of two words, unless it falls below zero. -/
def wordDifference? (a b : UInt32) : Option UInt32 :=
  if BitVec.usubOverflow a.toBitVec b.toBitVec then none else some (a - b)

theorem wordSum?_eq_some {a b : UInt32} (fits : a.toNat + b.toNat < 2 ^ 32) :
    ∃ c, wordSum? a b = some c ∧ c.toNat = a.toNat + b.toNat := by
  have exact : BitVec.uaddOverflow a.toBitVec b.toBitVec = false :=
    decide_eq_false (Nat.not_le.mpr fits)
  refine ⟨a + b, by rw [wordSum?, exact, if_neg Bool.false_ne_true], ?_⟩
  rw [UInt32.toNat_add, Nat.mod_eq_of_lt fits]

theorem wordDifference?_eq_some {a b : UInt32} (below : b.toNat ≤ a.toNat) :
    ∃ c, wordDifference? a b = some c ∧ c.toNat = a.toNat - b.toNat := by
  have exact : BitVec.usubOverflow a.toBitVec b.toBitVec = false :=
    decide_eq_false (Nat.not_lt.mpr below)
  refine ⟨a - b, by rw [wordDifference?, exact, if_neg Bool.false_ne_true], ?_⟩
  exact UInt32.toNat_sub_of_le _ _ (UInt32.le_iff_toNat_le.mpr below)

namespace BucketRange

/-- The ranges follow each other without gaps from behind the bucket `done` up to `stop`, and none
of them is empty. -/
inductive Tile : Nat → List BucketRange → Nat → Prop
  | nil (done : Nat) : Tile done [] done
  | cons {done stop : Nat} {range : BucketRange} {rest : List BucketRange} :
      range.first = done + 1 → range.first ≤ range.last → Tile range.last rest stop →
      Tile done (range :: rest) stop

theorem contains_iff {range : BucketRange} {bucket : Nat} :
    range.contains bucket = true ↔ range.first ≤ bucket ∧ bucket ≤ range.last := by
  simp [contains]

variable {done stop : Nat} {ranges : List BucketRange}

theorem Tile.le (tile : Tile done ranges stop) : done ≤ stop := by
  induction tile with
  | nil => exact Nat.le_refl _
  | cons starts nonempty _ ih => omega

theorem Tile.covers_iff (tile : Tile done ranges stop) (bucket : Nat) :
    (∃ range ∈ ranges, range.contains bucket = true) ↔ done < bucket ∧ bucket ≤ stop := by
  induction tile with
  | nil done =>
    constructor
    · rintro ⟨range, inside, _⟩
      cases inside
    · omega
  | @cons done stop range rest starts nonempty later ih =>
    have ends := later.le
    simp only [List.mem_cons, exists_eq_or_imp, ih]
    rw [contains_iff]
    omega

/-- No bucket is in two of the ranges. -/
theorem Tile.apart (tile : Tile done ranges stop) :
    ranges.Pairwise fun r s => ∀ bucket, ¬(r.contains bucket = true ∧ s.contains bucket = true) := by
  induction tile with
  | nil => exact .nil
  | @cons done stop range rest starts nonempty later ih =>
    refine .cons (fun other among bucket both => ?_) ih
    have before := contains_iff.mp both.1
    have after := (later.covers_iff bucket).mp ⟨other, among, both.2⟩
    omega

end BucketRange

section Weights

variable {ω : Type} [Quantity ω]

/-- Allocation in words of 32 bits, given up where a sum or a difference is no word. -/
def allocateInWords? (allocated : UInt32) : List ω → Option (List (Option BucketRange))
  | [] => some []
  | weight :: rest => do
    let left ← wordDifference? bucketSpace.toUInt32 allocated
    let count := min (bucketsFor weight).toUInt32 left
    if count = 0 then
      let others ← allocateInWords? allocated rest
      return none :: others
    else
      let first ← wordSum? allocated 1
      let last ← wordSum? allocated count
      let others ← allocateInWords? last rest
      return some ⟨first.toNat, last.toNat⟩ :: others

/-- How many buckets the first `i` weights claim. -/
def claimed (weights : List ω) (i : Nat) : Nat := ((weights.map bucketsFor).take i).sum

theorem claimed_nil (i : Nat) : claimed ([] : List ω) i = 0 := by
  rw [claimed, List.map_nil, List.take_nil, List.sum_nil]

theorem claimed_zero (weights : List ω) : claimed weights 0 = 0 := rfl

theorem claimed_cons (weight : ω) (rest : List ω) (i : Nat) :
    claimed (weight :: rest) (i + 1) = bucketsFor weight + claimed rest i := by
  rw [claimed, List.map_cons, List.take_succ_cons, List.sum_cons]
  rfl

variable {allocated : Nat} {weights : List ω}

/-- A weight takes no range, or the buckets that come next. -/
theorem allocateAfter_cons (allocated : Nat) (weight : ω) (rest : List ω) :
    allocateAfter allocated (weight :: rest) =
      (if min (bucketsFor weight) (bucketSpace - allocated) = 0 then none
        else some ⟨allocated + 1, allocated + min (bucketsFor weight) (bucketSpace - allocated)⟩) ::
      allocateAfter (allocated + min (bucketsFor weight) (bucketSpace - allocated)) rest := by
  rw [allocateAfter]
  split
  · rename_i nothing
    rw [nothing, Nat.add_zero]
  · rfl

theorem length_allocateAfter (allocated : Nat) (weights : List ω) :
    (allocateAfter allocated weights).length = weights.length := by
  induction weights generalizing allocated with
  | nil => rfl
  | cons weight rest ih => rw [allocateAfter_cons, List.length_cons, List.length_cons, ih]

/-- The ranges that are assigned tile what the weights claim, as far as there are buckets. -/
theorem allocateAfter_tile (within : allocated ≤ bucketSpace) (weights : List ω) :
    BucketRange.Tile allocated (allocateAfter allocated weights).reduceOption
      (min bucketSpace (allocated + (weights.map bucketsFor).sum)) := by
  induction weights generalizing allocated with
  | nil =>
    rw [List.map_nil, List.sum_nil, Nat.add_zero, Nat.min_eq_right within]
    exact .nil allocated
  | cons weight rest ih =>
    rw [allocateAfter_cons, List.map_cons, List.sum_cons]
    generalize taken : min (bucketsFor weight) (bucketSpace - allocated) = count
    have stop : min bucketSpace (allocated + (bucketsFor weight + (rest.map bucketsFor).sum)) =
        min bucketSpace (allocated + count + (rest.map bucketsFor).sum) := by omega
    have room : allocated + count ≤ bucketSpace := by omega
    have later := ih room
    rw [stop]
    by_cases nothing : count = 0
    · rw [if_pos nothing, List.reduceOption_cons_of_none]
      simpa only [nothing, Nat.add_zero] using later
    · rw [if_neg nothing, List.reduceOption_cons_of_some]
      exact .cons rfl (by dsimp only; omega) later

/-- A bucket is found if it is in one of the ranges that are assigned. -/
theorem findRange_isSome_iff {ranges : List (Option BucketRange)} {bucket : Nat} :
    (findRange ranges bucket).isSome ↔ ∃ range ∈ ranges.reduceOption, range.contains bucket = true := by
  rw [findRange, List.findIdx?_isSome, List.any_eq_true]
  constructor
  · rintro ⟨assigned, among, holds⟩
    obtain ⟨range, rfl, inside⟩ := (Option.any_eq_true _ _).mp holds
    exact ⟨range, List.reduceOption_mem_iff.mpr among, inside⟩
  · rintro ⟨range, among, inside⟩
    exact ⟨some range, List.reduceOption_mem_iff.mp among, inside⟩

theorem findRange_allocateRanges_isSome_iff {bucket : Nat} :
    (findRange (allocateRanges weights) bucket).isSome ↔
      0 < bucket ∧ bucket ≤ min bucketSpace (weights.map bucketsFor).sum := by
  have tile := allocateAfter_tile (Nat.zero_le bucketSpace) weights
  rw [Nat.zero_add] at tile
  exact findRange_isSome_iff.trans (tile.covers_iff bucket)

/-- A range that is found is that of one of the weights. -/
theorem lt_length_of_found {bucket i : Nat}
    (found : findRange (allocateRanges weights) bucket = some i) : i < weights.length := by
  have bound := (List.findIdx?_eq_some_iff_getElem.mp found).1
  rwa [allocateRanges, length_allocateAfter] at bound

/-- The first weight takes the buckets up to the end of its range, and the others share the rest. -/
theorem findRange_allocateAfter_cons {bucket : Nat} (after : allocated < bucket) (weight : ω)
    (rest : List ω) :
    findRange (allocateAfter allocated (weight :: rest)) bucket =
      if bucket ≤ allocated + min (bucketsFor weight) (bucketSpace - allocated) then some 0
      else (findRange (allocateAfter
        (allocated + min (bucketsFor weight) (bucketSpace - allocated)) rest) bucket).map (· + 1) := by
  rw [allocateAfter_cons, findRange, List.findIdx?_cons]
  generalize min (bucketsFor weight) (bucketSpace - allocated) = count
  by_cases nothing : count = 0
  · rw [if_pos nothing, Option.any_none, if_neg Bool.false_ne_true, if_neg (by omega)]
    rfl
  · rw [if_neg nothing, Option.any_some]
    have inside : (⟨allocated + 1, allocated + count⟩ : BucketRange).contains bucket = true ↔
        bucket ≤ allocated + count := by
      rw [BucketRange.contains_iff]
      dsimp only
      omega
    simp only [inside]
    rfl

/-- A bucket belongs to the weight whose claim reaches it first. -/
theorem findRange_allocateAfter {bucket i : Nat} (within : allocated ≤ bucketSpace)
    (after : allocated < bucket) :
    findRange (allocateAfter allocated weights) bucket = some i ↔
      bucket ≤ bucketSpace ∧ allocated + claimed weights i < bucket ∧
        bucket ≤ allocated + claimed weights (i + 1) := by
  induction weights generalizing allocated i with
  | nil =>
    rw [claimed_nil, claimed_nil]
    constructor
    · intro found
      cases found
    · omega
  | cons weight rest ih =>
    rw [findRange_allocateAfter_cons after, claimed_cons]
    -- The weight gets all that it claims, or nothing is left for the others.
    generalize taken : min (bucketsFor weight) (bucketSpace - allocated) = count
    by_cases here : bucket ≤ allocated + count
    · rw [if_pos here]
      cases i with
      | zero =>
        rw [claimed_zero, claimed_zero]
        simp only [true_iff]
        omega
      | succ i =>
        rw [claimed_cons]
        constructor
        · intro found
          cases found
        · omega
    · rw [if_neg here, Option.map_eq_some_iff]
      cases i with
      | zero =>
        rw [claimed_zero, claimed_zero]
        constructor
        · rintro ⟨j, _, same⟩
          cases same
        · omega
      | succ i =>
        rw [claimed_cons]
        simp only [Nat.add_right_cancel_iff, exists_eq_right]
        rw [ih (by omega) (by omega)]
        omega

/-- Words are large enough for all that is reckoned. -/
theorem allocateInWords?_eq {allocated : UInt32} (within : allocated.toNat ≤ bucketSpace)
    (bounded : ∀ weight ∈ weights, bucketsFor weight ≤ bucketSpace) :
    allocateInWords? allocated weights = some (allocateAfter allocated.toNat weights) := by
  induction weights generalizing allocated with
  | nil => rfl
  | cons weight rest ih =>
    have later {next : UInt32} (inside : next.toNat ≤ bucketSpace) :
        allocateInWords? next rest = some (allocateAfter next.toNat rest) :=
      ih inside fun w among => bounded w (List.mem_cons_of_mem _ among)
    have most : bucketsFor weight ≤ bucketSpace := bounded weight (List.mem_cons_self ..)
    have space : bucketSpace = 10000 := rfl
    have spaceWord : bucketSpace.toUInt32.toNat = bucketSpace := rfl
    have claimWord : (bucketsFor weight).toUInt32.toNat = bucketsFor weight :=
      UInt32.toNat_ofNat_of_lt' (Nat.lt_of_le_of_lt most (by decide))
    obtain ⟨left, isLeft, leftover⟩ :=
      wordDifference?_eq_some (a := bucketSpace.toUInt32) (b := allocated) within
    have count : (min (bucketsFor weight).toUInt32 left).toNat =
        min (bucketsFor weight) (bucketSpace - allocated.toNat) := by
      rw [UInt32.toNat_min, claimWord, leftover, spaceWord]
    rw [allocateInWords?, isLeft, allocateAfter_cons, ← count]
    simp only [Option.bind_eq_bind, Option.bind_some]
    generalize min (bucketsFor weight).toUInt32 left = word at count ⊢
    have zero : word = 0 ↔ word.toNat = 0 := UInt32.toNat_inj.symm
    by_cases nothing : word = 0
    · rw [if_pos nothing, if_pos (zero.mp nothing), later within, zero.mp nothing, Nat.add_zero]
      rfl
    · obtain ⟨first, isFirst, start⟩ :=
        wordSum?_eq_some (a := allocated) (b := 1) (by rw [UInt32.toNat_one]; omega)
      obtain ⟨last, isLast, finish⟩ :=
        wordSum?_eq_some (a := allocated) (b := word) (by omega)
      rw [if_neg nothing, if_neg (mt zero.mpr nothing), isFirst, isLast]
      simp only [Option.bind_some]
      rw [later (by omega), start, finish]
      rfl

end Weights

/-- No weight claims more buckets than there are. -/
theorem bucketsFor_le (weight : Binary64) : bucketsFor weight ≤ bucketSpace := by
  change Binary64.ceilUpTo bucketSpace (weight * Binary64.ofNat 100) ≤ bucketSpace
  generalize weight * Binary64.ofNat 100 = steps
  cases steps with
  | finite negative mantissa exponent => exact Nat.min_le_left _ _
  | infinite negative => cases negative <;> decide
  | nan => exact Nat.zero_le _

/-- Ranges give each bucket to the weight whose claim reaches it first. So they tile the buckets
from the first one on, as far as they are claimed, and no reckoning leaves the words. -/
theorem ranges_share_out_buckets (weights : List Binary64) :
    (∀ weight : Binary64, bucketsFor weight ≤ bucketSpace) ∧
    (allocateRanges weights).length = weights.length ∧
    allocateInWords? 0 weights = some (allocateRanges weights) ∧
    (∀ bucket i, findRange (allocateRanges weights) bucket = some i ↔
      1 ≤ bucket ∧ bucket ≤ bucketSpace ∧
        claimed weights i < bucket ∧ bucket ≤ claimed weights (i + 1)) ∧
    BucketRange.Tile 0 (allocateRanges weights).reduceOption
      (min bucketSpace (weights.map bucketsFor).sum) ∧
    (allocateRanges weights).reduceOption.Pairwise
      (fun r s => ∀ bucket, ¬(r.contains bucket = true ∧ s.contains bucket = true)) ∧
    ∀ bucket, (∃ range ∈ (allocateRanges weights).reduceOption, range.contains bucket = true) ↔
      1 ≤ bucket ∧ bucket ≤ min bucketSpace (weights.map bucketsFor).sum := by
  have tile := allocateAfter_tile (Nat.zero_le bucketSpace) weights
  rw [Nat.zero_add] at tile
  refine ⟨bucketsFor_le, length_allocateAfter 0 weights,
    allocateInWords?_eq (Nat.zero_le _) fun weight _ => bucketsFor_le weight, fun bucket i => ?_,
    tile, tile.apart, tile.covers_iff⟩
  by_cases positive : 0 < bucket
  · refine Iff.trans ?_ (and_iff_right positive).symm
    rw [allocateRanges, findRange_allocateAfter (Nat.zero_le bucketSpace) positive, Nat.zero_add,
      Nat.zero_add]
  · have nowhere : ¬(findRange (allocateRanges weights) bucket).isSome := fun found =>
      positive (findRange_allocateRanges_isSome_iff.mp found).1
    constructor
    · intro found
      exact absurd (by rw [found]; rfl) nowhere
    · intro held
      exact absurd held.1 positive

end FeatureFlags
