import FeatureFlags.Proofs.Allocation
import FeatureFlags.Proofs.Linking
import FeatureFlags.Traffic
import Mathlib.Algebra.BigOperators.Group.List.Basic

namespace FeatureFlags

variable {ω : Type} [Quantity ω]

section Ranges

variable {weights : List ω} {bucket i : Nat}

theorem claimed_succ (bound : i < weights.length) :
    claimed weights (i + 1) = claimed weights i + bucketsFor weights[i] := by
  have inside : i < (weights.map bucketsFor).length := by rwa [List.length_map]
  rw [claimed, List.sum_take_succ _ _ inside, List.getElem_map]
  rfl

/-- A bucket belongs to a weight that claims buckets. -/
theorem claims_of_found (found : findRange (allocateRanges weights) bucket = some i) :
    ∃ weight, weights[i]? = some weight ∧ 0 < bucketsFor weight := by
  have inside : i < weights.length := lt_length_of_found found
  refine ⟨weights[i], List.getElem?_eq_getElem inside, ?_⟩
  have some : (findRange (allocateRanges weights) bucket).isSome := by rw [found]; rfl
  have covered := findRange_allocateRanges_isSome_iff.mp some
  have share := (findRange_allocateAfter (Nat.zero_le _) covered.1).mp found
  rw [claimed_succ inside] at share
  omega

/-- No bucket is in the ranges of two weights. -/
theorem allocateRanges_apart (weights : List ω) :
    (allocateRanges weights).Pairwise fun r s => ∀ bucket,
      ¬(r.any (·.contains bucket) = true ∧ s.any (·.contains bucket) = true) := by
  have tile := allocateAfter_tile (Nat.zero_le bucketSpace) weights
  refine (List.pairwise_filterMap.mp tile.apart).imp fun apart bucket both => ?_
  obtain ⟨first, isFirst, inFirst⟩ := (Option.any_eq_true _ _).mp both.1
  obtain ⟨second, isSecond, inSecond⟩ := (Option.any_eq_true _ _).mp both.2
  exact apart first isFirst second isSecond bucket ⟨inFirst, inSecond⟩

/-- The range that is found is the only one that holds the bucket. -/
theorem found_iff_contains {range : Option BucketRange}
    (own : (allocateRanges weights)[i]? = some range) :
    findRange (allocateRanges weights) bucket = some i ↔ range.any (·.contains bucket) = true := by
  have apart := allocateRanges_apart weights
  generalize allocateRanges weights = ranges at own apart ⊢
  obtain ⟨inside, rfl⟩ := List.getElem?_eq_some_iff.mp own
  constructor
  · intro found
    obtain ⟨_, holds, _⟩ := List.findIdx?_eq_some_iff_getElem.mp found
    exact holds
  · intro holds
    refine List.findIdx?_eq_some_iff_getElem.mpr ⟨inside, holds, fun j before other => ?_⟩
    exact List.pairwise_iff_getElem.mp apart j i (Nat.lt_trans before inside) inside before bucket
      ⟨other, holds⟩

end Ranges

namespace Campaign

theorem mem_of_choice? {c : Campaign ω} {user : String} {targeted : List (Variation ω)}
    {v : Variation ω} (chosen : c.choice? user targeted = some v) : v ∈ targeted := by
  unfold choice? at chosen
  split at chosen
  · cases chosen
  · exact Option.some.inj chosen ▸ List.mem_singleton_self _
  · obtain ⟨index, -, found⟩ := Option.bind_eq_some_iff.mp chosen
    exact List.mem_of_getElem? found

/-- A variation that is allotted is one of the campaign's. -/
theorem mem_of_allotted? {c : Campaign ω} {account : UInt64} {user : String}
    {v : Variation ω} (given : c.allotted? account user = some v) : v ∈ c.variations := by
  unfold allotted? at given
  split at given
  · split at given
    · obtain ⟨index, -, found⟩ := Option.bind_eq_some_iff.mp given
      exact List.mem_of_getElem? found
    all_goals exact List.mem_of_head? given
  · cases given

theorem length_ranges (c : Campaign ω) : c.ranges.length = c.variations.length := by
  unfold ranges
  split
  · rw [allocateRanges, length_allocateAfter, List.length_map]
  all_goals rw [List.length_map, List.length_map]

omit [Quantity ω] in
/-- Variations that are prepared have the ranges that they are given, and keep their weights. -/
theorem zipWith_prepared {ranges : List (Option BucketRange)} {vs : List (Variation ω)}
    (same : ranges.length = vs.length) :
    (List.zipWith Variation.prepared ranges vs).map (·.range) = ranges ∧
      (List.zipWith Variation.prepared ranges vs).map (·.weight) = vs.map (·.weight) := by
  induction ranges generalizing vs with
  | nil => cases vs with
    | nil => exact ⟨rfl, rfl⟩
    | cons v rest => cases same
  | cons range others ih => cases vs with
    | nil => cases same
    | cons v rest =>
      obtain ⟨later, later'⟩ := ih (Nat.succ.inj same)
      simp only [List.zipWith_cons_cons, List.map_cons, later, later']
      exact ⟨rfl, rfl⟩

/-- The variations have the ranges that go with their weights, side by side. -/
def SharedOut (c : Campaign ω) : Prop :=
  c.variations.map (·.range) = allocateRanges (c.variations.map (·.weight))

/-- The variation that is picked is the one whose weight the bucket belongs to. -/
theorem SharedOut.picked?_eq_some_iff {c : Campaign ω} (shared : c.SharedOut) {account : UInt64}
    {user : String} {v : Variation ω} :
    c.picked? account user = some v ↔ ∃ i, c.variations[i]? = some v ∧
      findRange (allocateRanges (c.variations.map (·.weight))) (c.pickBucket account user) =
        some i := by
  rw [picked?, shared, Option.bind_eq_some_iff]
  exact exists_congr fun i => and_comm

end Campaign

/-- Comparisons are shared out when settings are processed. -/
theorem Settings.Processed.sharedOut {settings : Settings ω} (processed : settings.Processed)
    {c : Campaign ω} (member : c ∈ settings.campaigns) (kind : c.kind = .ab) : c.SharedOut := by
  obtain ⟨raw, _, campaigns, _⟩ := processed.sources
  rw [campaigns] at member
  obtain ⟨before, _, rfl⟩ := List.mem_map.mp member
  have kind : before.kind = .ab := kind
  obtain ⟨ranges, weights⟩ := Campaign.zipWith_prepared before.length_ranges
  have shared : before.ranges = allocateRanges (before.variations.map (·.weight)) := by
    rw [Campaign.ranges, kind]
  exact ranges.trans (shared.trans (congrArg allocateRanges weights.symm))

end FeatureFlags
