import FeatureFlags.Quantity
import FeatureFlags.Hash.Murmur3
import FeatureFlags.Text.Utf8

namespace FeatureFlags

/-- Number of buckets that variations and group members share. -/
def bucketSpace : Nat := 10000

/-- Number of buckets that decide who takes part in a campaign. -/
def percentSpace : Nat := 100

/-- Hash of a bucketing seed. -/
def seedHash (seed : String) : UInt32 := Murmur3.hash 1 (Text.utf8Bytes seed.toList)

/-- The hash scaled to `1, …, max`, then multiplied; the multiplier 0 gives bucket 0, which nothing
owns. -/
def bucketValue (seed : String) (max : Nat) (multiplier : Binary64) : Nat :=
  let ratio := Binary64.ofNat (seedHash seed).toNat / Binary64.ofNat UInt32.size
  ((Binary64.ofNat max * ratio + Binary64.ofNat 1) * multiplier).floorUpTo (UInt32.size - 1)

/-- Bucket from 1 to 100 that decides whether a user takes part. -/
def inclusionBucket (seed : String) : Nat := bucketValue seed percentSpace (Binary64.ofNat 1)

/-- Bucket from 1 to 10000 that picks a variation or a group member. -/
def variationBucket (seed : String) : Nat := bucketValue seed bucketSpace (Binary64.ofNat 1)

/-- The buckets from `first` to `last`, both included. -/
structure BucketRange where
  first : Nat
  last : Nat
  deriving DecidableEq

namespace BucketRange

def contains (range : BucketRange) (bucket : Nat) : Bool :=
  range.first ≤ bucket && bucket ≤ range.last

end BucketRange

section Weights

variable {ω : Type} [Quantity ω]

/-- Number of buckets that a weight in percent claims: a hundred for each point, rounded up, at
most all of them and none for what is not positive. -/
def bucketsFor (weight : ω) : Nat := Quantity.ceilUpTo bucketSpace (weight * Quantity.ofNat 100)

/-- Ranges in the order of the weights, each following the one before, when `allocated` buckets
are gone already. A weight for which nothing is left gets none. -/
def allocateAfter (allocated : Nat) : List ω → List (Option BucketRange)
  | [] => []
  | weight :: rest =>
    let count := min (bucketsFor weight) (bucketSpace - allocated)
    if count = 0 then none :: allocateAfter allocated rest
    else some ⟨allocated + 1, allocated + count⟩ :: allocateAfter (allocated + count) rest

/-- Contiguous ranges from bucket 1 on, in the order of the weights. -/
def allocateRanges (weights : List ω) : List (Option BucketRange) := allocateAfter 0 weights

/-- The range of a variation that shares its campaign with no other: a hundred buckets for each
point of its weight, rounded down. -/
def singleRange (weight : ω) : Option BucketRange :=
  let last := Quantity.floorUpTo bucketSpace (weight * Quantity.ofNat 100)
  if last = 0 then none else some ⟨1, last⟩

/-- Weights in the same proportions that sum to 100. Weights that sum to zero become equal. -/
def scaleWeights (weights : List ω) : List ω :=
  let total := Quantity.sum weights
  if Quantity.isZero total then
    weights.map fun _ => Quantity.ofNat 100 / Quantity.ofNat weights.length
  else weights.map fun w => w / total * Quantity.ofNat 100

/-- Ranges of weights that have been scaled to sum to 100. -/
def rescaledRanges (weights : List ω) : List (Option BucketRange) :=
  allocateRanges (scaleWeights weights)

end Weights

/-- Position of the first range that holds the bucket. -/
def findRange (ranges : List (Option BucketRange)) (bucket : Nat) : Option Nat :=
  ranges.findIdx? fun range => range.any (·.contains bucket)

end FeatureFlags
