import FeatureFlags.Proofs.Picking
import FeatureFlags.Proofs.Ramping
import FeatureFlags.Proofs.WeightClaims

namespace FeatureFlags

theorem Binary64.ofNat_le_ofNat_iff {m n : Nat} (first : m < 2 ^ 53) (second : n < 2 ^ 53) :
    (ofNat m).le (ofNat n) = true ↔ m ≤ n := by
  rw [le_iff (toRat?_ofNat first) (toRat?_ofNat second)]
  exact Nat.cast_le

namespace Campaign

variable {c : Campaign Binary64} {account : UInt64} {user : String}

theorem includes_eq_false_of_le_zero (kind : c.kind = .ab)
    (none : c.percentTraffic.le (.ofNat 0) = true) : c.includes user = false := by
  obtain ⟨positive, most⟩ := inclusionBucket_bounds (c.entrySeed user Option.none)
  rw [Bool.eq_false_iff]
  intro part
  rw [includes_iff, share_of_comparison kind] at part
  have low := (Binary64.ofNat_le_ofNat_iff (most.trans_lt (by decide)) (by decide)).mp
    (Binary64.le_trans part none)
  exact positive.ne' (Nat.le_zero.mp low)

theorem includes_of_hundred_le (kind : c.kind = .ab)
    (all : (Binary64.ofNat 100).le c.percentTraffic = true) : c.includes user = true := by
  obtain ⟨-, most⟩ := inclusionBucket_bounds (c.entrySeed user none)
  have inside : (Binary64.ofNat (c.entryBucket user)).le (.ofNat 100) = true :=
    (Binary64.ofNat_le_ofNat_iff (most.trans_lt (by decide)) (by decide)).mpr most
  rw [includes_iff, share_of_comparison kind]
  exact Binary64.le_trans inside all

/-- Who takes part in a comparison whose weights claim all buckets gets a variation. -/
theorem SharedOut.allotted (shared : c.SharedOut) (kind : c.kind = .ab)
    (part : c.includes user = true)
    (claimed : bucketSpace ≤ (c.variations.map fun v => bucketsFor v.weight).sum) :
    ∃ v ∈ c.variations, c.allotted? account user = some v := by
  have enough : bucketSpace ≤ ((c.variations.map (·.weight)).map bucketsFor).sum := by
    rwa [List.map_map]
  obtain ⟨i, bound, found⟩ := findRange_of_claimed enough (c.variationSeed account user)
  rw [List.length_map] at bound
  refine ⟨c.variations[i], List.getElem_mem bound, ?_⟩
  rw [allotted?_of_comparison kind, if_pos part, picked?_of_includes kind part, shared, found]
  exact List.getElem?_eq_getElem bound

/-- The weights of a campaign may be worth all buckets, though each is rounded when it claims its
own. -/
theorem bucketSpace_le_claims (format : ∀ v ∈ c.variations, v.weight.InFormat)
    (worth : 100 ≤ (c.variations.map fun v => v.weight.credit).sum) :
    bucketSpace ≤ (c.variations.map fun v => bucketsFor v.weight).sum := by
  have every : ∀ w ∈ c.variations.map (·.weight), w.InFormat := List.forall_mem_map.mpr format
  have enough := Binary64.bucketSpace_le_claims every (by rwa [List.map_map])
  rwa [List.map_map] at enough

/-- A variation that is allotted has a weight that claims buckets. -/
theorem SharedOut.weight_pos (shared : c.SharedOut) (kind : c.kind = .ab) {v : Variation Binary64}
    (given : c.allotted? account user = some v) : (Binary64.ofNat 0).lt v.weight = true := by
  have part := includes_of_allotted? given
  rw [allotted?_of_comparison kind, if_pos part, shared.picked?_eq_some_iff] at given
  obtain ⟨i, own, found⟩ := given
  obtain ⟨weight, same, claims⟩ := claims_of_found found
  rw [List.getElem?_map, own, Option.map_some, Option.some.injEq] at same
  rw [same]
  exact Binary64.pos_of_bucketsFor_pos claims

end Campaign

/-- Without traffic nobody gets a variation of a comparison, and with full traffic everybody does if
the weights claim all buckets, as they do when they are worth a hundred points. Nobody gets a
variation without a positive weight. -/
theorem traffic_bounds_allotment {settings : Settings Binary64} (processed : settings.Processed)
    {c : Campaign Binary64} (member : c ∈ settings.campaigns) (kind : c.kind = .ab)
    (account : UInt64) (user : String) :
    (c.percentTraffic.le (.ofNat 0) = true → c.allotted? account user = none) ∧
    ((Binary64.ofNat 100).le c.percentTraffic = true →
      (bucketSpace ≤ (c.variations.map fun v => bucketsFor v.weight).sum ∨
        (∀ v ∈ c.variations, v.weight.InFormat) ∧
          100 ≤ (c.variations.map fun v => v.weight.credit).sum) →
      ∃ v ∈ c.variations, c.allotted? account user = some v) ∧
    ∀ v, c.allotted? account user = some v → (Binary64.ofNat 0).lt v.weight = true := by
  have shared := processed.sharedOut member kind
  refine ⟨fun none => ?_, fun all weights => ?_, fun v => shared.weight_pos kind⟩
  · rw [Campaign.allotted?, Campaign.includes_eq_false_of_le_zero kind none]
    rfl
  · refine shared.allotted kind (Campaign.includes_of_hundred_le kind all) ?_
    rcases weights with claimed | ⟨format, worth⟩
    · exact claimed
    · exact Campaign.bucketSpace_le_claims format worth

/-- Three forms of an offer for a third of the users each, and a fourth one for nobody, with so much
traffic. -/
def thirds (percent : Binary64) : Settings Binary64 where
  features := []
  campaigns := [⟨10, "offer_ab", none, .ab, percent, .null, false, false,
    [⟨1, "plain", none, 100 / 3, .null, [], none, none, none⟩,
     ⟨2, "hidden", none, 0, .null, [], none, none, none⟩,
     ⟨3, "small", none, 100 / 3, .null, [], none, none, none⟩,
     ⟨4, "large", none, 100 / 3, .null, [], none, none, none⟩], none, none, none, none⟩]
  groups := []
  campaignGroups := []
  account := 1
  sdkKey := none
  version := none

def thirdSettings (percent : Binary64) : Settings Binary64 :=
  (thirds percent).process.toOption.getD .empty

/-- Without traffic no form is offered; with full traffic one is, for three thirds that are rounded
are worth all, and it is not the fourth. -/
theorem thirds_reach_everybody :
    (∃ c ∈ (thirdSettings 0).campaigns, c.allotted? 1 "ann" = none) ∧
    ∃ c ∈ (thirdSettings 100).campaigns, c.variations.length = 4 ∧
      ∃ v ∈ c.variations, c.allotted? 1 "ann" = some v ∧ (Binary64.ofNat 0).lt v.weight = true := by
  have off : (thirdSettings 0).Processed := Settings.processed_getD (by decide +kernel)
  have on : (thirdSettings 100).Processed := Settings.processed_getD (by decide +kernel)
  obtain ⟨c, member, kind, none⟩ : ∃ c ∈ (thirdSettings 0).campaigns, c.kind = .ab ∧
      c.percentTraffic.le (.ofNat 0) = true := by decide +kernel
  obtain ⟨d, member', kind', four, all, format, worth⟩ : ∃ d ∈ (thirdSettings 100).campaigns,
      d.kind = .ab ∧ d.variations.length = 4 ∧ (Binary64.ofNat 100).le d.percentTraffic = true ∧
      (∀ v ∈ d.variations, v.weight.InFormat) ∧
        100 ≤ (d.variations.map fun v => v.weight.credit).sum := by decide +kernel
  obtain ⟨nobody, -, -⟩ := traffic_bounds_allotment off member kind 1 "ann"
  obtain ⟨-, everybody, positive⟩ := traffic_bounds_allotment on member' kind' 1 "ann"
  obtain ⟨v, among, given⟩ := everybody all (Or.inr ⟨format, worth⟩)
  exact ⟨⟨c, member, nobody none⟩, d, member', four, v, among, given, positive v given⟩

end FeatureFlags
