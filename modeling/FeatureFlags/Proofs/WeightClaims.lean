import FeatureFlags.Proofs.Allocation
import FeatureFlags.Proofs.Format
import Mathlib.Algebra.BigOperators.Ring.Finset
import Mathlib.Algebra.BigOperators.Ring.List
import Mathlib.Algebra.Order.BigOperators.Group.List

namespace FeatureFlags

/-- Claims that miss all buckets by less than one do not miss any, since they are whole numbers. -/
theorem bucketSpace_le_sum {α : Type} {claim : α → Nat} {steps : α → Rat} {xs : List α}
    (each : ∀ x ∈ xs, bucketSpace ≤ claim x ∨ steps x ≤ claim x)
    (enough : 9999 < (xs.map steps).sum) : bucketSpace ≤ (xs.map claim).sum := by
  by_cases full : ∃ x ∈ xs, bucketSpace ≤ claim x
  · obtain ⟨x, inside, all⟩ := full
    have part : claim x ≤ (xs.map claim).sum :=
      List.single_le_sum (fun _ _ => Nat.zero_le _) _ (List.mem_map_of_mem inside)
    exact all.trans part
  · have below : (xs.map steps).sum ≤ (xs.map fun x => (claim x : Rat)).sum := by
      refine List.sum_le_sum fun x inside => ?_
      rcases each x inside with all | some
      · exact absurd ⟨x, inside, all⟩ full
      · exact some
    have cast : (xs.map fun x => (claim x : Rat)).sum = ((xs.map claim).sum : Nat) := by
      rw [Nat.cast_list_sum, List.map_map]
      rfl
    have whole : ((9999 : Nat) : Rat) < ((xs.map claim).sum : Nat) := by
      rw [← cast]
      exact_mod_cast enough.trans_le below
    exact Nat.cast_lt.mp whole

theorem le_min_ceil (q : Rat) :
    bucketSpace ≤ min bucketSpace q.ceil.toNat ∨ q ≤ (min bucketSpace q.ceil.toNat : Nat) := by
  rcases Nat.le_total bucketSpace q.ceil.toNat with all | few
  · exact Or.inl (le_min le_rfl all)
  · rw [min_eq_right few]
    exact Or.inr (le_ceil_toNat q)

theorem bucketsFor_rat (weight : Rat) :
    bucketsFor weight = min bucketSpace (weight * 100).ceil.toNat := rfl

/-- Reckoned exactly, a weight claims all buckets, or no less than a hundred for each point. -/
theorem le_bucketsFor_rat (weight : Rat) :
    bucketSpace ≤ bucketsFor weight ∨ weight * 100 ≤ bucketsFor weight := by
  rw [bucketsFor_rat]
  exact le_min_ceil _

/-- Weights that sum to a hundred points claim all buckets. -/
theorem bucketSpace_le_claims_rat {weights : List Rat} (enough : 100 ≤ weights.sum) :
    bucketSpace ≤ (weights.map bucketsFor).sum := by
  refine bucketSpace_le_sum (fun weight _ => le_bucketsFor_rat weight) ?_
  rw [List.sum_map_mul_right, List.map_id']
  linarith

theorem pos_of_bucketsFor_pos_rat {weight : Rat} (claims : 0 < bucketsFor weight) :
    0 < weight := by
  by_contra low
  have none : (weight * 100).ceil ≤ 0 := by
    rw [Rat.ceil_le_iff, Int.cast_zero]
    linarith
  rw [bucketsFor_rat, Int.toNat_eq_zero.mpr none, Nat.min_zero] at claims
  exact claims.ne rfl

namespace Binary64

/-- What is not positive is still not positive when it has been rounded. -/
theorem ceilUpTo_round_of_nonpos {q : Rat} (low : q ≤ 0) (negative : Bool) (bound : Nat) :
    (round negative q).ceilUpTo bound = 0 := by
  rcases low.eq_or_lt with rfl | below
  · rw [ceilUpTo_eq (toRat?_round_zero negative)]
    exact Nat.min_zero bound
  · have under : q.num < 0 := Rat.num_neg.mpr below
    obtain ⟨m, f, -, -, -, -, -, rounds⟩ :=
      ofQuotient_eq (Int.natAbs_ne_zero.mpr under.ne) rfl Prod.mk.eta.symm true
    rw [round, if_neg under.ne, decide_eq_true under, rounds]
    split
    · rfl
    · have none : (finiteValue true m f).ceil ≤ 0 := by
        rw [Rat.ceil_le_iff, finiteValue_true, Int.cast_zero, neg_nonpos]
        exact mul_nonneg (Nat.cast_nonneg m) (two_zpow_pos f).le
      rw [ceilUpTo, Int.toNat_eq_zero.mpr none, Nat.min_zero]

/-- A positive number that is not below the least one there is, rounded and then rounded up, keeps
nearly all of it. -/
theorem le_ceilUpTo_round {q : Rat} (low : (2 : Rat) ^ minExponent ≤ q) (negative : Bool)
    (bound : Nat) : bound ≤ (round negative q).ceilUpTo bound ∨
      q * (1 - unitRoundoff) ≤ (round negative q).ceilUpTo bound := by
  have positive : 0 < q := (two_zpow_pos _).trans_le low
  obtain ⟨m, e, least, spec, near, n, f, -, value, rounds⟩ := round_spec positive negative
  by_cases beyond : maxExponent < f
  · rw [rounds, if_pos beyond]
    exact Or.inl le_rfl
  have exact : (round negative q).toRat? = some (m * (2 : Rat) ^ e) := by
    rw [rounds, if_neg beyond, toRat?, finiteValue_false, value]
  rw [ceilUpTo_eq exact]
  have whole := le_ceil_toNat (m * (2 : Rat) ^ e)
  generalize (m * (2 : Rat) ^ e).ceil.toNat = claim at whole ⊢
  rcases Nat.le_total bound claim with all | few
  · exact Or.inl (le_min le_rfl all)
  right
  rw [min_eq_right few]
  by_cases large : (2 : Rat) ^ (52 + e) ≤ q
  · have kept := near_of_full large near
    rw [abs_le] at kept
    linarith
  · -- Where bits are lost, the number is tiny, and a single bucket is more than it asks for.
    have same : e = minExponent := spec.resolve_right large
    have tiny : q ≤ 1 := by
      rw [not_le, same] at large
      exact large.le.trans (zpow_le_one_of_nonpos₀ one_le_two (by decide))
    have unit : 1 ≤ q / 2 ^ e := (one_le_div (two_zpow_pos e)).mpr (same ▸ low)
    rw [abs_le] at near
    have present : (0 : Rat) < claim :=
      (mul_pos (by linarith) (two_zpow_pos e)).trans_le whole
    have one : (1 : Rat) ≤ claim := by exact_mod_cast present
    unfold unitRoundoff
    linarith

theorem InFormat.least_le {x : Binary64} {q : Rat} (format : x.InFormat)
    (value : x.toRat? = some q) (positive : 0 < q) : (2 : Rat) ^ minExponent ≤ q := by
  cases x with
  | infinite | nan => cases value
  | finite negative m e =>
    obtain ⟨-, least, -⟩ := format
    have unit := two_zpow_pos e
    rw [toRat?, Option.some.injEq] at value
    cases negative with
    | true =>
      rw [finiteValue_true] at value
      have size : 0 ≤ m * (2 : Rat) ^ e := mul_nonneg (Nat.cast_nonneg m) unit.le
      linarith
    | false =>
      rw [finiteValue_false] at value
      have some : 0 < m := by
        rw [← value] at positive
        exact_mod_cast (mul_pos_iff_of_pos_right unit).mp positive
      have one : (1 : Rat) ≤ m := by exact_mod_cast some
      calc (2 : Rat) ^ minExponent ≤ 2 ^ e := zpow_le_zpow_right₀ one_le_two least
        _ ≤ m * 2 ^ e := le_mul_of_one_le_left unit.le one
        _ = q := value

/-- What a weight counts for: its exact value, or nothing if that is negative or there is none. -/
def credit (weight : Binary64) : Rat := max 0 (weight.toRat?.getD 0)

/-- In double precision, a weight claims all buckets, or nearly a hundred for each point. -/
theorem le_bucketsFor {weight : Binary64} (format : weight.InFormat) :
    bucketSpace ≤ bucketsFor weight ∨
      weight.credit * (100 * (1 - unitRoundoff)) ≤ bucketsFor weight := by
  cases value : weight.toRat? with
  | none =>
    right
    rw [credit, value, Option.getD_none, max_self, zero_mul]
    exact Nat.cast_nonneg _
  | some q =>
    rw [credit, value, Option.getD_some]
    rcases le_or_gt q 0 with none | positive
    · right
      rw [max_eq_left none, zero_mul]
      exact Nat.cast_nonneg _
    · have low := format.least_le value positive
      obtain ⟨s, rounds⟩ := mul_eq_round value (toRat?_ofNat (n := 100) (by decide))
      have kept := le_ceilUpTo_round (q := q * 100) (by linarith) s bucketSpace
      rw [max_eq_right positive.le, ← mul_assoc]
      change _ ≤ (weight * ofNat 100).ceilUpTo bucketSpace ∨
        _ ≤ (((weight * ofNat 100).ceilUpTo bucketSpace : Nat) : Rat)
      rw [rounds]
      exact kept

/-- Weights that are worth a hundred points claim all buckets, for all that rounding takes away. -/
theorem bucketSpace_le_claims {weights : List Binary64} (format : ∀ w ∈ weights, w.InFormat)
    (enough : 100 ≤ (weights.map credit).sum) : bucketSpace ≤ (weights.map bucketsFor).sum := by
  refine bucketSpace_le_sum (fun w inside => le_bucketsFor (format w inside)) ?_
  rw [List.sum_map_mul_right]
  unfold unitRoundoff
  linarith

/-- Only positive weights claim buckets. -/
theorem pos_of_bucketsFor_pos {weight : Binary64} (claims : 0 < bucketsFor weight) :
    (ofNat 0).lt weight = true := by
  have zero : (ofNat 0).toRat? = some 0 := toRat?_ofNat (by decide)
  change 0 < (weight * ofNat 100).ceilUpTo bucketSpace at claims
  cases value : weight.toRat? with
  | some q =>
    obtain ⟨s, rounds⟩ := mul_eq_round value (toRat?_ofNat (n := 100) (by decide))
    have positive : 0 < q := by
      by_contra low
      rw [rounds, ceilUpTo_round_of_nonpos (by push_cast; linarith)] at claims
      exact claims.ne rfl
    have above : weight.le (ofNat 0) = false := by
      rw [Bool.eq_false_iff, Ne, le_iff value zero, not_le]
      exact positive
    rw [lt, above, (le_iff zero value).mpr positive.le]
    rfl
  | none =>
    cases weight with
    | finite => cases value
    | nan => exact absurd claims (by decide)
    | infinite negative =>
      cases negative with
      | false => decide
      | true => exact absurd claims (by decide)

end Binary64

end FeatureFlags
