import FeatureFlags.Proofs.Draws
import FeatureFlags.Proofs.Picking
import FeatureFlags.Proofs.Replies
import FeatureFlags.Proofs.WeightClaims

namespace FeatureFlags

open Inquiry

theorem Quantity.sum_rat (qs : List Rat) : Quantity.sum qs = qs.sum := by
  rw [List.sum_eq_foldl]
  rfl

theorem Quantity.isZero_rat (q : Rat) : Quantity.isZero q = true ↔ q = 0 := by
  have bounds : Quantity.isZero q = true ↔ q ≤ 0 ∧ 0 ≤ q := by
    rw [isZero, Bool.and_eq_true]
    exact and_congr decide_eq_true_iff decide_eq_true_iff
  rw [bounds]
  exact le_antisymm_iff.symm

section Rescaling

variable {weights : List Rat}

theorem scaleWeights_rat (weights : List Rat) :
    scaleWeights weights =
      if weights.sum = 0 then List.replicate weights.length ((100 : Rat) / weights.length)
      else weights.map fun w => w / weights.sum * 100 := by
  unfold scaleWeights
  rw [Quantity.sum_rat]
  simp only [Quantity.isZero_rat, List.map_const']
  rfl

/-- Weights that are scaled share out a hundred points, be there a proportion to keep or not. -/
theorem sum_scaleWeights (some : weights ≠ []) : Quantity.sum (scaleWeights weights) = 100 := by
  rw [Quantity.sum_rat, scaleWeights_rat]
  split
  · have many : (weights.length : Rat) ≠ 0 :=
      Nat.cast_ne_zero.mpr (mt List.length_eq_zero_iff.mp some)
    rw [List.sum_replicate, nsmul_eq_mul, mul_div_cancel₀ _ many]
  · rename_i total
    simp only [div_eq_mul_inv, List.sum_map_mul_right, List.map_id']
    rw [mul_inv_cancel₀ total, one_mul]

theorem length_scaleWeights (weights : List Rat) :
    (scaleWeights weights).length = weights.length := by
  rw [scaleWeights_rat]
  split
  · exact List.length_replicate
  · exact List.length_map _

theorem bucketSpace_le_scaled (some : weights ≠ []) :
    bucketSpace ≤ ((scaleWeights weights).map bucketsFor).sum := by
  have all := sum_scaleWeights some
  rw [Quantity.sum_rat] at all
  exact bucketSpace_le_claims_rat all.ge

/-- Scaled weights own every bucket. -/
theorem rescaledRanges_cover_iff (some : weights ≠ []) (bucket : Nat) :
    (∃ range ∈ (rescaledRanges weights).reduceOption, range.contains bucket = true) ↔
      1 ≤ bucket ∧ bucket ≤ bucketSpace := by
  have tile := allocateAfter_tile (Nat.zero_le bucketSpace) (scaleWeights weights)
  rw [Nat.zero_add, min_eq_left (bucketSpace_le_scaled some)] at tile
  exact tile.covers_iff bucket

/-- A weight of zero stays zero when it is scaled, unless all weights are zero. -/
theorem eq_zero_of_scaled_pos (nonneg : ∀ w ∈ weights, 0 ≤ w) {i : Nat} (zero : weights[i]? = some 0)
    {scaled : Rat} (own : (scaleWeights weights)[i]? = some scaled) (positive : 0 < scaled) :
    ∀ w ∈ weights, w = 0 := by
  rw [scaleWeights_rat] at own
  split at own
  · rename_i total
    exact fun w => List.all_zero_of_le_zero_le_of_sum_eq_zero nonneg total
  · rw [List.getElem?_map, zero, Option.map_some, zero_div, zero_mul, Option.some.injEq] at own
    exact absurd own positive.ne

end Rescaling

namespace Campaign

section Choice

variable {c : Campaign Rat} {user : String} {targeted : List (Variation Rat)}

/-- Of several variations the one is chosen to which the user's bucket belongs. -/
theorem choice?_of_several {v w : Variation Rat} {rest : List (Variation Rat)} :
    c.choice? user (v :: w :: rest) =
      (findRange (rescaledRanges ((v :: w :: rest).map (·.weight)))
        (variationBucket (c.entrySeed user none))).bind ((v :: w :: rest)[·]?) := rfl

/-- If variations are targeted, one of them is chosen. -/
theorem choice?_isSome_iff : (c.choice? user targeted).isSome ↔ targeted ≠ [] := by
  cases targeted with
  | nil => simp [choice?]
  | cons v rest =>
    cases rest with
    | nil => simp [choice?]
    | cons w others =>
      have some : (v :: w :: others).map (·.weight) ≠ [] := List.cons_ne_nil _ _
      obtain ⟨i, bound, found⟩ :=
        findRange_of_claimed (bucketSpace_le_scaled some) (c.entrySeed user none)
      rw [length_scaleWeights, List.length_map] at bound
      rw [choice?_of_several, rescaledRanges, found, Option.bind_some,
        List.getElem?_eq_getElem bound]
      simp

/-- A variation without weight is chosen only where there is no other, or none with a weight. -/
theorem choice?_eq_some (nonneg : ∀ v ∈ targeted, 0 ≤ v.weight) {v : Variation Rat}
    (chosen : c.choice? user targeted = some v) :
    v ∈ targeted ∧ (v.weight = 0 → targeted = [v] ∨ ∀ w ∈ targeted, w.weight = 0) := by
  refine ⟨mem_of_choice? chosen, fun zero => ?_⟩
  match targeted with
  | [] => cases chosen
  | [w] => exact Or.inl (congrArg (fun u => [u]) (Option.some.inj chosen))
  | u :: w :: rest =>
    right
    rw [choice?_of_several] at chosen
    generalize u :: w :: rest = several at nonneg chosen ⊢
    obtain ⟨i, found, own⟩ := Option.bind_eq_some_iff.mp chosen
    obtain ⟨scaled, isScaled, claims⟩ := claims_of_found found
    have weights : (several.map (·.weight))[i]? = some 0 := by
      rw [List.getElem?_map, own, Option.map_some, zero]
    -- Only a positive scaled weight has buckets, and this one was zero.
    have every := eq_zero_of_scaled_pos (List.forall_mem_map.mpr nonneg) weights isScaled
      (pos_of_bucketsFor_pos_rat claims)
    exact List.forall_mem_map.mp every

end Choice

end Campaign

section Matching

variable {ω σ : Type} (services : Services σ) (scope : Scope ω) (attributes : Attributes)

/-- Whether a variation has a condition that holds when it is asked for now. -/
def Variation.isTargeted (v : Variation ω) (now : Journal σ) : Bool :=
  v.segment.any fun segment => ((segment.holds scope attributes).run services now).1

namespace Campaign

variable (c : Campaign ω) (start : Journal σ)

/-- What has happened when the conditions of these variations have been asked for in order. -/
def asked (vs : List (Variation ω)) : Journal σ :=
  ((c.targetedVariations scope attributes vs).run services start).2

/-- The `i`-th variation matches: its condition holds when those before it have been asked for. -/
def Matches (i : Nat) (v : Variation ω) : Prop :=
  c.variations[i]? = some v ∧ v.isTargeted services scope attributes
    (c.asked services scope attributes start (c.variations.take i)) = true

/-- Variations are asked for one after the other. -/
theorem run_targetedVariations_append (first last : List (Variation ω)) :
    (c.targetedVariations scope attributes (first ++ last)).run services start =
      (((c.targetedVariations scope attributes first).run services start).1 ++
        ((c.targetedVariations scope attributes last).run services
          (c.asked services scope attributes start first)).1,
        c.asked services scope attributes (c.asked services scope attributes start first) last) := by
  induction first generalizing start with
  | nil => rfl
  | cons v rest ih =>
    unfold asked at ih ⊢
    rw [List.cons_append, targetedVariations, targetedVariations]
    split
    · rw [run_bind, run_bind]
      exact ih _
    · simp only [run_bind, run_pure, ih]
      split <;> rfl

theorem run_targetedVariations_singleton (v : Variation ω) :
    ((c.targetedVariations scope attributes [v]).run services start).1 =
      if v.isTargeted services scope attributes start then [v] else [] := by
  rw [targetedVariations, Variation.isTargeted]
  split
  · rename_i none
    rw [none]
    rfl
  · rename_i segment own
    rw [own]
    simp only [targetedVariations, run_bind, run_pure, Option.any_some]

/-- The variations that are targeted are those that match, in their order. -/
theorem run_targetedVariations_eq (vs : List (Variation ω)) :
    ((c.targetedVariations scope attributes vs).run services start).1 =
      (vs.zipIdx.filter fun p => p.1.isTargeted services scope attributes
        (c.asked services scope attributes start (vs.take p.2))).map (·.1) := by
  -- The induction is from the end: what has happened when a variation has its turn depends on
  -- those before it only.
  induction vs using List.reverseRecOn with
  | nil => rfl
  | append_singleton vs v ih =>
    have earlier : ∀ p ∈ vs.zipIdx, (vs ++ [v]).take p.2 = vs.take p.2 := fun p inside =>
      List.take_append_of_le_length (List.snd_lt_of_mem_zipIdx inside).le
    rw [run_targetedVariations_append]
    dsimp only
    rw [ih, run_targetedVariations_singleton, List.zipIdx_append, List.filter_append,
      List.map_append]
    congr 1
    · refine congrArg _ (List.filter_congr fun p inside => ?_)
      rw [earlier p inside]
    · rw [List.zipIdx_singleton, List.filter_cons, Nat.zero_add, List.take_left]
      split <;> rfl

variable {services scope attributes c start} {v : Variation ω}

theorem run_forced? [Quantity ω] :
    ((c.forced? scope attributes).run services start).1 = c.choice? scope.user.id
      ((c.targetedVariations scope attributes c.variations).run services start).1 := by
  rw [forced?, run_bind, run_bind, run_pure]

/-- What is targeted matches at some place. -/
theorem mem_targeted_iff :
    v ∈ ((c.targetedVariations scope attributes c.variations).run services start).1 ↔
      ∃ i, c.Matches services scope attributes start i v := by
  rw [run_targetedVariations_eq, List.mem_map]
  simp only [List.mem_filter, List.mem_zipIdx_iff_getElem?, Prod.exists, exists_and_right,
    exists_eq_right]
  rfl

/-- If only one variation is targeted, no other place matches. -/
theorem Matches.unique {i j : Nat} {w : Variation ω}
    (alone : ((c.targetedVariations scope attributes c.variations).run services start).1 = [v])
    (first : c.Matches services scope attributes start i v)
    (second : c.Matches services scope attributes start j w) : j = i := by
  rw [run_targetedVariations_eq] at alone
  obtain ⟨p, only, -⟩ := List.map_eq_singleton_iff.mp alone
  have among {k : Nat} {u : Variation ω} (matching : c.Matches services scope attributes start k u) :
      (u, k) = p := by
    rw [← List.mem_singleton, ← only, List.mem_filter, List.mem_zipIdx_iff_getElem?]
    exact matching
  rw [← among first] at among
  exact (Prod.mk.inj (among second)).2

end Campaign

end Matching

/-- Among the variations whose conditions hold forcing always decides, and a variation without
weight has its turn only when it is alone or none of them has a weight. For scaled weights own every
bucket, whatever they have been. -/
theorem forcing_decides_among_matches {c : Campaign Rat} (nonneg : ∀ v ∈ c.variations, 0 ≤ v.weight)
    {σ : Type} (services : Services σ) (scope : Scope Rat) (attributes : Attributes)
    (start : Journal σ) :
    (((c.forced? scope attributes).run services start).1.isSome ↔
      ∃ i v, c.Matches services scope attributes start i v) ∧
    (∀ v, ((c.forced? scope attributes).run services start).1 = some v →
      ∃ i, c.Matches services scope attributes start i v ∧ (v.weight = 0 →
        (∀ j w, c.Matches services scope attributes start j w → j = i) ∨
        ∀ j w, c.Matches services scope attributes start j w → w.weight = 0)) ∧
    ∀ weights : List Rat, weights ≠ [] → Quantity.sum (scaleWeights weights) = 100 ∧
      ∀ bucket, (∃ range ∈ (rescaledRanges weights).reduceOption, range.contains bucket = true) ↔
        1 ≤ bucket ∧ bucket ≤ bucketSpace := by
  refine ⟨?_, fun v forced => ?_, fun weights some =>
    ⟨sum_scaleWeights some, rescaledRanges_cover_iff some⟩⟩
  · rw [Campaign.run_forced?, Campaign.choice?_isSome_iff, ← List.length_pos_iff,
      List.length_pos_iff_exists_mem]
    simp only [Campaign.mem_targeted_iff]
    exact exists_comm
  · rw [Campaign.run_forced?] at forced
    obtain ⟨targeted, weightless⟩ := Campaign.choice?_eq_some (fun w inside => by
      obtain ⟨j, own, -⟩ := Campaign.mem_targeted_iff.mp inside
      exact nonneg w (List.mem_of_getElem? own)) forced
    obtain ⟨i, matching⟩ := Campaign.mem_targeted_iff.mp targeted
    refine ⟨i, matching, fun zero => (weightless zero).imp (fun alone j w other => ?_)
      fun every j w other => ?_⟩
    · exact Campaign.Matches.unique alone matching other
    · exact every w (Campaign.mem_targeted_iff.mpr ⟨j, other⟩)

/-- A page with an old form, a new one that has no weight yet, and one that is not for testers. -/
def pageTrial : Campaign Rat :=
  let beta := Json.object [("custom_variable", .object [("beta", .string "true")])]
  Campaign.prepared ⟨3, "page_ab", none, .ab, 100, .null, true, false,
    [⟨1, "old", none, 30, beta, [], none, none, none⟩,
     ⟨2, "new", none, 0, beta, [], none, none, none⟩,
     ⟨3, "other", none, 70, .null, [], none, none, none⟩], none, none, none, none⟩

def pageScope : Scope Rat where
  settings := .empty
  user := { id := "ann", targetingVariables := [("beta", .bool true)] }

/-- For a tester both the old form and the new one match, so that the new one is not forced. -/
theorem tester_gets_form_with_weight :
    let attributes := pageScope.forcingAttributes pageTrial
    ∃ v w, pageTrial.Matches Services.none pageScope attributes ⟨(), [], []⟩ 0 v ∧
      pageTrial.Matches Services.none pageScope attributes ⟨(), [], []⟩ 1 w ∧ w.weight = 0 ∧
      ∃ u, ((pageTrial.forced? pageScope attributes).run Services.none ⟨(), [], []⟩).1 = some u ∧
        u.weight ≠ 0 := by
  intro attributes
  have nonneg : ∀ v ∈ pageTrial.variations, 0 ≤ v.weight := by decide +kernel
  obtain ⟨v, old, oldMatches, weight⟩ : ∃ v ∈ pageTrial.variations[0]?,
      v.isTargeted Services.none pageScope attributes (pageTrial.asked Services.none pageScope
        attributes ⟨(), [], []⟩ (pageTrial.variations.take 0)) = true ∧ v.weight = 30 := by
    decide +kernel
  obtain ⟨w, new, newMatches, none⟩ : ∃ w ∈ pageTrial.variations[1]?,
      w.isTargeted Services.none pageScope attributes (pageTrial.asked Services.none pageScope
        attributes ⟨(), [], []⟩ (pageTrial.variations.take 1)) = true ∧ w.weight = 0 := by
    decide +kernel
  obtain ⟨decides, weightless, -⟩ := forcing_decides_among_matches nonneg Services.none pageScope
    attributes ⟨(), [], []⟩
  obtain ⟨u, forced⟩ := Option.isSome_iff_exists.mp (decides.mpr ⟨0, v, old, oldMatches⟩)
  refine ⟨v, w, ⟨old, oldMatches⟩, ⟨new, newMatches⟩, none, u, forced, fun zero => ?_⟩
  obtain ⟨i, -, only⟩ := weightless u forced
  rcases only zero with alone | every
  · have first := alone 0 v ⟨old, oldMatches⟩
    have second := alone 1 w ⟨new, newMatches⟩
    omega
  · have absent := every 0 v ⟨old, oldMatches⟩
    rw [weight] at absent
    exact absurd absent (by decide)

end FeatureFlags
