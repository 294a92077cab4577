import FeatureFlags.Proofs.Draws
import FeatureFlags.Proofs.Linking
import FeatureFlags.Traffic

namespace FeatureFlags

/-- Each of the buckets that decide who takes part is made of a hundred of those that ranges
share. -/
theorem inclusionBucket_le_iff (seed : String) (points : Nat) :
    inclusionBucket seed ≤ points ↔ variationBucket seed ≤ 100 * points := by
  have coarse : inclusionBucket seed = 100 * (seedHash seed).toNat / 2 ^ 32 + 1 :=
    bucketValue_eq seed (by decide)
  have fine : variationBucket seed = 10000 * (seedHash seed).toNat / 2 ^ 32 + 1 :=
    bucketValue_eq seed (by decide)
  omega

theorem singleRange_contains_iff {ω : Type} [Quantity ω] {weight : ω} {bucket : Nat} :
    (singleRange weight).any (·.contains bucket) = true ↔
      0 < bucket ∧ bucket ≤ Quantity.floorUpTo bucketSpace (weight * Quantity.ofNat 100) := by
  unfold singleRange
  generalize Quantity.floorUpTo bucketSpace (weight * Quantity.ofNat 100) = last
  by_cases none : last = 0
  · simp only [none, if_true, Option.any_none, Bool.false_eq_true, false_iff]
    omega
  · simp only [none, if_false, Option.any_some, BucketRange.contains_iff]
    omega

/-- The whole number in a quantity that is not negative, without the fraction that may be left. -/
def wholePart (q : Rat) : Nat := q.floor.toNat

theorem wholePart_natCast (n : Nat) : wholePart n = n := by
  rw [wholePart, ← Int.cast_natCast, Rat.floor_intCast, Int.toNat_natCast]

section WholePart

variable {q : Rat} (least : 0 ≤ q)
include least

theorem cast_le_iff_le_wholePart (n : Nat) : (n : Rat) ≤ q ↔ n ≤ wholePart q := by
  have positive : 0 ≤ q.floor := Rat.le_floor_iff.mpr (by exact_mod_cast least)
  rw [wholePart, Int.le_toNat positive, Rat.le_floor_iff, Int.cast_natCast]

theorem cast_wholePart_le : (wholePart q : Rat) ≤ q := (cast_le_iff_le_wholePart least _).mpr le_rfl

/-- Of a weight in percent, a hundred buckets for each point are all that its range ends with. -/
theorem floorUpTo_hundredfold (most : q ≤ 100) :
    Quantity.floorUpTo bucketSpace (q * Quantity.ofNat 100) = wholePart (q * 100) := by
  have below : q * 100 < ((bucketSpace + 1 : Nat) : Rat) := by
    have size : bucketSpace = 10000 := rfl
    rw [size]
    push_cast
    linarith
  have within : ¬ bucketSpace + 1 ≤ wholePart (q * 100) := by
    rw [← cast_le_iff_le_wholePart (by linarith)]
    exact not_le.mpr below
  have few : wholePart (q * 100) ≤ bucketSpace := by omega
  exact min_eq_right few

theorem hundred_mul_wholePart_le : 100 * wholePart q ≤ wholePart (q * 100) := by
  have part := cast_wholePart_le least
  rw [← cast_le_iff_le_wholePart (by linarith), Nat.cast_mul]
  push_cast
  linarith

/-- Without a fraction nothing is left behind the hundreds of its points. -/
theorem wholePart_hundredfold (whole : (wholePart q : Rat) = q) :
    wholePart (q * 100) = 100 * wholePart q := by
  have last := cast_wholePart_le (q := q * 100) (by linarith)
  refine le_antisymm ?_ (hundred_mul_wholePart_le least)
  have bound : (wholePart (q * 100) : Rat) ≤ (100 * wholePart q : Nat) := by
    push_cast
    linarith
  exact_mod_cast bound

end WholePart

namespace Campaign

/-- Outside comparisons each variation has the range of its own weight, whatever the others have. -/
def RangedAlone {ω : Type} [Quantity ω] (c : Campaign ω) : Prop :=
  ∀ v ∈ c.variations, v.range = singleRange v.weight

section

variable {ω : Type} [Quantity ω] {c : Campaign ω}

theorem rangedAlone_prepared (kind : c.kind ≠ .ab) : c.prepared.RangedAlone := by
  have alone : c.ranges = c.variations.map fun v => singleRange v.weight := by
    unfold ranges
    cases same : c.kind with
    | ab => exact absurd same kind
    | rollout => simp only [List.map_map, Function.comp_def]
    | personalize => simp only [List.map_map, Function.comp_def]
  intro v inside
  rw [prepared, alone, List.zipWith_map_left, List.zipWith_self] at inside
  obtain ⟨raw, -, rfl⟩ := List.mem_map.mp inside
  rfl

theorem RangedAlone.narrowed (alone : c.RangedAlone) (rule : Rule) :
    (c.narrowed rule).RangedAlone :=
  fun v inside => alone v (narrowed_variations_subset inside)

theorem rangedAlone_of_processed {settings : Settings ω} (processed : settings.Processed)
    (belongs : c ∈ settings.campaigns ∨ ∃ f ∈ settings.features, c ∈ f.linked)
    (kind : c.kind ≠ .ab) : c.RangedAlone :=
  processed.of_campaign (P := fun c => c.kind ≠ .ab → c.RangedAlone)
    (fun raw (kind : raw.kind ≠ .ab) => rangedAlone_prepared kind)
    (fun _ rule alone kind => (alone kind).narrowed rule) belongs kind

end

/-- The bucket of a user among those that ranges share, for the seed that decides who takes part. -/
def fineBucket {ω : Type} (c : Campaign ω) (user : String) : Nat :=
  variationBucket (c.entrySeed user none)

section Inclusion

variable {c : Campaign Rat} {v : Variation Rat} {others : List (Variation Rat)}

theorem includes_iff_le_wholePart (kind : c.kind ≠ .ab) (first : c.variations = v :: others)
    (least : 0 ≤ v.weight) (user : String) :
    c.includes user = true ↔ c.entryBucket user ≤ wholePart v.weight := by
  have share : c.share = v.weight := by
    unfold Campaign.share
    cases same : c.kind with
    | ab => exact absurd same kind
    | rollout => rw [first]
    | personalize => rw [first]
  have some : c.entryBucket user ≠ 0 := (inclusionBucket_bounds _).1.ne'
  have compared : Quantity.le (Quantity.ofNat (c.entryBucket user)) v.weight =
      decide ((c.entryBucket user : Rat) ≤ v.weight) := rfl
  rw [includes, share, compared, Bool.and_eq_true, decide_eq_true_iff, decide_eq_true_iff,
    and_iff_right some, cast_le_iff_le_wholePart least]

/-- Those who take part are the users in the first buckets of the range, a hundred for each whole
point of the weight. Behind them a fraction of a point leaves buckets that nobody takes part for. -/
theorem whole_points_take_part {settings : Settings Rat} (processed : settings.Processed)
    (belongs : c ∈ settings.campaigns ∨ ∃ f ∈ settings.features, c ∈ f.linked)
    (kind : c.kind ≠ .ab) (first : c.variations = v :: others) (least : 0 ≤ v.weight)
    (most : v.weight ≤ 100) (user : String) :
    (c.includes user = true ↔ v.range.any (·.contains (c.fineBucket user)) = true ∧
        c.fineBucket user ≤ 100 * wholePart v.weight) ∧
      ((∃ points : Nat, v.weight = points) →
        c.includes user = v.range.any (·.contains (c.fineBucket user))) ∧
      (1 ≤ v.weight → v.range.isSome ∧ (c.fineBucket user ≤ 100 → c.includes user = true)) ∧
      (v.weight < 1 → c.includes user = false) := by
  have among : v ∈ c.variations := first ▸ List.mem_cons_self ..
  have range := rangedAlone_of_processed processed belongs kind v among
  have ranged : v.range.any (·.contains (c.fineBucket user)) = true ↔
      c.fineBucket user ≤ wholePart (v.weight * 100) := by
    rw [range, singleRange_contains_iff, floorUpTo_hundredfold least most]
    exact and_iff_right (variationBucket_bounds _).1
  have included : c.includes user = true ↔ c.fineBucket user ≤ 100 * wholePart v.weight := by
    rw [includes_iff_le_wholePart kind first least user]
    exact inclusionBucket_le_iff _ _
  have inside := hundred_mul_wholePart_le least
  -- Both sides bound the same bucket, the range by as many buckets as inclusion or by some more.
  refine ⟨?_, ?_, ?_, ?_⟩
  · rw [included, ranged]
    omega
  · rintro ⟨points, whole⟩
    have same := wholePart_hundredfold least (by rw [whole, wholePart_natCast])
    rw [Bool.eq_iff_iff, included, ranged, same]
  · intro point
    have some : 1 ≤ wholePart v.weight :=
      (cast_le_iff_le_wholePart least 1).mp (by rwa [Nat.cast_one])
    constructor
    · rw [range, singleRange, floorUpTo_hundredfold least most, if_neg (by omega),
        Option.isSome_some]
    · intro early
      rw [included]
      omega
  · intro fraction
    have noPoint : ¬ 1 ≤ wholePart v.weight := by
      rw [← cast_le_iff_le_wholePart least, Nat.cast_one]
      exact not_le.mpr fraction
    have positive : 0 < c.fineBucket user := (variationBucket_bounds _).1
    rw [Bool.eq_false_iff, Ne, included]
    omega

end Inclusion

end Campaign

/-- A cart that is rolled out to so many percent of the users. -/
def cartRollout (weight : Rat) : Settings Rat where
  features := []
  campaigns := [⟨30, "cart_rollout", none, .rollout, 100, .null, false, false,
    [⟨1, "on", none, weight, .null, [], none, none, none⟩], none, none, none, none⟩]
  groups := []
  campaignGroups := []
  account := 1
  sdkKey := none
  version := none

def cartRolloutSettings (weight : Rat) : Settings Rat :=
  (cartRollout weight).process.toOption.getD .empty

/-- Rita and Bob are both in the range of 46.5 percent. Bob's bucket is behind the first 4600 of it,
so that only Rita gets the cart. -/
theorem half_point_reaches_nobody : ∃ c ∈ (cartRolloutSettings (93 / 2)).campaigns,
    ∃ v, c.variations = [v] ∧ v.range = some ⟨1, 4650⟩ ∧
      c.fineBucket "rita" = 4489 ∧ c.includes "rita" = true ∧
      c.fineBucket "bob" = 4613 ∧ c.includes "bob" = false := by
  have processed : (cartRolloutSettings (93 / 2)).Processed :=
    Settings.processed_getD (by decide +kernel)
  obtain ⟨c, member, kind, v, among, single, weight, range, rita, bob⟩ :
      ∃ c ∈ (cartRolloutSettings (93 / 2)).campaigns, c.kind ≠ .ab ∧
        ∃ v ∈ c.variations, c.variations.length = 1 ∧ v.weight = 93 / 2 ∧
          v.range = some ⟨1, 4650⟩ ∧ c.fineBucket "rita" = 4489 ∧ c.fineBucket "bob" = 4613 := by
    decide +kernel
  obtain ⟨only, first⟩ := List.length_eq_one_iff.mp single
  obtain rfl : v = only := by rwa [first, List.mem_singleton] at among
  have bounds : 0 ≤ v.weight ∧ v.weight ≤ 100 := by
    rw [weight]
    norm_num
  have points : wholePart v.weight = 46 := by
    rw [weight]
    decide +kernel
  have part := fun user => (Campaign.whole_points_take_part processed (Or.inl member) kind first
    bounds.1 bounds.2 user).1
  refine ⟨c, member, v, first, range, rita, ?_, bob, ?_⟩
  · rw [part, range, rita, points]
    decide
  · rw [Bool.eq_false_iff, Ne, part, bob, points]
    omega

/-- Half a percent is a range of fifty buckets. Hugo's is one of them, and still he does not take
part. -/
theorem half_percent_misses_hugo : (cartRolloutSettings (1 / 2)).Processed ∧
    ∃ c ∈ (cartRolloutSettings (1 / 2)).campaigns, c.kind = .rollout ∧
      ∃ v ∈ c.variations.head?, v.weight = 1 / 2 ∧ v.range = some ⟨1, 50⟩ ∧
        v.range.any (·.contains (c.fineBucket "hugo")) = true ∧ c.includes "hugo" = false :=
  ⟨Settings.processed_getD (by decide +kernel), by decide +kernel⟩

end FeatureFlags
