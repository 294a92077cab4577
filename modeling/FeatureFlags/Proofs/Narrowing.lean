import FeatureFlags.Proofs.Picking

namespace FeatureFlags

/-- Where no two elements have a property, at most one has it. -/
theorem countP_le_one {α : Type} {p : α → Bool} {xs : List α}
    (apart : xs.Pairwise fun a b => ¬(p a = true ∧ p b = true)) : xs.countP p ≤ 1 := by
  induction xs with
  | nil => exact Nat.zero_le 1
  | cons a rest ih =>
    obtain ⟨first, later⟩ := List.pairwise_cons.mp apart
    by_cases held : p a = true
    · have none : rest.countP p = 0 :=
        List.countP_eq_zero.mpr fun b inside other => first b inside ⟨held, other⟩
      exact Nat.le_of_eq (by rw [List.countP_cons_of_pos held, none])
    · rw [List.countP_cons_of_neg held]
      exact ih later

variable {ω : Type}

/-- A rule of a feature links this copy of a campaign, narrowed to one of its variations. -/
def Settings.Narrows (settings : Settings ω) (c : Campaign ω) (v : Variation ω)
    (copy : Campaign ω) : Prop :=
  ∃ f ∈ settings.features, ∃ rule, (rule, copy) ∈ f.rules.zip f.linked ∧
    rule.campaign = c.id ∧ rule.variation = some v.id

namespace Campaign

/-- The copy of a campaign that has been left with one variation. -/
theorem narrowed_of_variation {c : Campaign ω} (distinct : (c.variations.map (·.id)).Nodup)
    {v : Variation ω} (own : v ∈ c.variations) {rule : Rule} (names : rule.variation = some v.id) :
    c.narrowed rule = { c with ruleKey := rule.ruleKey <|> c.ruleKey, variations := [v] } := by
  have found : c.variation? v.id = some v := find?_of_nodup_map distinct own
  rw [narrowed, names, Option.bind_some, found]

variable [Quantity ω] {c copy : Campaign ω} {v : Variation ω}

/-- The copy has the only variation, and otherwise decides about users as the campaign does. -/
structure Isolates (c : Campaign ω) (v : Variation ω) (copy : Campaign ω) : Prop where
  kind : copy.kind = c.kind
  includes : ∀ user, copy.includes user = c.includes user
  bucket : ∀ account user, copy.pickBucket account user = c.pickBucket account user
  variations : copy.variations = [v]

theorem isolates_narrowed (kind : c.kind = .ab) (distinct : (c.variations.map (·.id)).Nodup)
    (own : v ∈ c.variations) {rule : Rule} (names : rule.variation = some v.id) :
    c.Isolates v (c.narrowed rule) := by
  rw [narrowed_of_variation distinct own names]
  refine ⟨rfl, fun user => ?_, fun _ _ => rfl, rfl⟩
  simp only [includes, entryBucket, entrySeed, entrySalt?, share, kind]

/-- The bucket is in the range of the variation exactly if the campaign picks the variation. -/
theorem SharedOut.picked?_iff_contains (shared : c.SharedOut)
    (distinct : (c.variations.map (·.id)).Nodup) (own : v ∈ c.variations) (account : UInt64)
    (user : String) : c.picked? account user = some v ↔
      v.range.any (·.contains (c.pickBucket account user)) = true := by
  obtain ⟨i, inside, rfl⟩ := List.getElem_of_mem own
  have range : (allocateRanges (c.variations.map (·.weight)))[i]? = some c.variations[i].range := by
    rw [← shared, List.getElem?_map, List.getElem?_eq_getElem inside]
    rfl
  rw [shared.picked?_eq_some_iff, ← found_iff_contains range]
  constructor
  · rintro ⟨j, same, found⟩
    obtain ⟨inside', same⟩ := List.getElem?_eq_some_iff.mp same
    have nodup : c.variations.Nodup := distinct.of_map _
    rw [(List.Nodup.getElem_inj_iff nodup).mp same] at found
    exact found
  · intro found
    exact ⟨i, List.getElem?_eq_getElem inside, found⟩

theorem Isolates.picked?_eq (isolates : c.Isolates v copy) (account : UInt64) (user : String) :
    copy.picked? account user =
      if v.range.any (·.contains (c.pickBucket account user)) then some v else none := by
  rw [picked?, isolates.variations, isolates.bucket, findRange, List.map_singleton,
    List.findIdx?_singleton]
  split <;> rfl

/-- The copy gives its variation to those to whom the campaign gives it, and nothing to others. -/
theorem Isolates.allotted?_eq_some_iff (isolates : c.Isolates v copy) (kind : c.kind = .ab)
    (shared : c.SharedOut) (distinct : (c.variations.map (·.id)).Nodup) (own : v ∈ c.variations)
    (account : UInt64) (user : String) (w : Variation ω) :
    copy.allotted? account user = some w ↔ c.allotted? account user = some v ∧ w = v := by
  have picks := shared.picked?_iff_contains distinct own account user
  rw [allotted?, allotted?, isolates.kind, isolates.includes, kind]
  cases c.includes user with
  | false => simp
  | true =>
    simp only [if_true]
    rw [isolates.picked?_eq, picks]
    split
    · rename_i inside
      simp [inside, eq_comm]
    · rename_i outside
      simp [outside]

end Campaign

namespace Settings.Narrows

variable [Quantity ω] {settings : Settings ω} {c copy : Campaign ω} {v : Variation ω}

theorem isolates (narrows : settings.Narrows c v copy) (processed : settings.Processed)
    (member : c ∈ settings.campaigns) (kind : c.kind = .ab)
    (distinct : (c.variations.map (·.id)).Nodup) (own : v ∈ c.variations) :
    c.Isolates v copy := by
  obtain ⟨f, present, rule, linked, names, variation⟩ := narrows
  obtain ⟨source, found, rfl⟩ := (List.forall₂_iff_zip.mp (processed.copies present)).2 linked
  have same : settings.campaign? c.id = some c := find?_of_nodup_map processed.links.1 member
  rw [names, same, Option.some.injEq] at found
  rw [← found]
  exact Campaign.isolates_narrowed kind distinct own variation

/-- A copy that a rule has narrowed gives something to those to whom the campaign gives its
variation. -/
theorem isSome_iff (narrows : settings.Narrows c v copy) (processed : settings.Processed)
    (member : c ∈ settings.campaigns) (kind : c.kind = .ab)
    (distinct : (c.variations.map (·.id)).Nodup) (own : v ∈ c.variations) (account : UInt64)
    (user : String) :
    (copy.allotted? account user).isSome ↔ c.allotted? account user = some v := by
  have gives := (narrows.isolates processed member kind distinct own).allotted?_eq_some_iff kind
    (processed.sharedOut member kind) distinct own account user
  rw [Option.isSome_iff_exists]
  simp only [gives, exists_and_left, exists_eq, and_true]

end Settings.Narrows

/-- Rules that narrow a comparison to single variations share out its users: each gives its
variation to those to whom the whole comparison gives it. So of such copies for different variations
at most one gives anything to a user, and one does if there are copies for all variations and the
comparison gives anything. -/
theorem narrowed_copies_share_out [Quantity ω] {settings : Settings ω}
    (processed : settings.Processed) {c : Campaign ω} (member : c ∈ settings.campaigns)
    (kind : c.kind = .ab) (distinct : (c.variations.map (·.id)).Nodup) (account : UInt64)
    (user : String) :
    (∀ v ∈ c.variations, ∀ copy, settings.Narrows c v copy →
      ((copy.allotted? account user).isSome ↔ c.allotted? account user = some v) ∧
        ∀ w, copy.allotted? account user = some w → w = v) ∧
    ∀ copies : List (Variation ω × Campaign ω),
      (∀ p ∈ copies, p.1 ∈ c.variations ∧ settings.Narrows c p.1 p.2) →
      (copies.map (·.1)).Nodup →
        (copies.countP fun p => (p.2.allotted? account user).isSome) ≤ 1 ∧
        ((∀ v ∈ c.variations, v ∈ copies.map (·.1)) → (c.allotted? account user).isSome →
          (copies.countP fun p => (p.2.allotted? account user).isSome) = 1) := by
  have gives : ∀ v ∈ c.variations, ∀ copy, settings.Narrows c v copy →
      ((copy.allotted? account user).isSome ↔ c.allotted? account user = some v) :=
    fun v own copy narrows => narrows.isSome_iff processed member kind distinct own account user
  refine ⟨fun v own copy narrows => ⟨gives v own copy narrows, fun w given => ?_⟩,
    fun copies all different => ?_⟩
  · have inside := Campaign.mem_of_allotted? given
    rw [(narrows.isolates processed member kind distinct own).variations] at inside
    exact List.mem_singleton.mp inside
  -- Two copies that give something give the variation of the whole comparison, so they are one.
  have once : (copies.countP fun p => (p.2.allotted? account user).isSome) ≤ 1 := by
    refine countP_le_one ((List.pairwise_map.mp different).imp_of_mem ?_)
    rintro p q inside inside' apart ⟨given, given'⟩
    have first := (gives p.1 (all p inside).1 p.2 (all p inside).2).mp given
    have second := (gives q.1 (all q inside').1 q.2 (all q inside').2).mp given'
    exact apart (Option.some.inj (first.symm.trans second))
  refine ⟨once, fun complete given => Nat.le_antisymm once ?_⟩
  obtain ⟨v, isGiven⟩ := Option.isSome_iff_exists.mp given
  have own : v ∈ c.variations := Campaign.mem_of_allotted? isGiven
  obtain ⟨p, inside, rfl⟩ := List.mem_map.mp (complete v own)
  refine List.countP_pos_iff.mpr ⟨p, inside, ?_⟩
  exact (gives p.1 own p.2 (all p inside).2).mpr isGiven

/-- Three colours, of which the second has no weight and the third more than is left for it, each
with a rule of its own. -/
def palette : Settings Binary64 where
  features := [
    { id := 1, key := "colours", name := none, values := [],
      rules := [⟨10, some 1, none, none⟩, ⟨10, some 2, none, none⟩, ⟨10, some 3, none, none⟩] }]
  campaigns := [⟨10, "colours_ab", none, .ab, 100, .null, false, false,
    [⟨1, "blue", none, 333 / 10, .null, [], none, none, none⟩,
     ⟨2, "green", none, 0, .null, [], none, none, none⟩,
     ⟨3, "red", none, 80, .null, [], none, none, none⟩], none, none, none, none⟩]
  groups := []
  campaignGroups := []
  account := 1
  sdkKey := none
  version := none

def paletteSettings : Settings Binary64 := palette.process.toOption.getD .empty

/-- Whatever colour a user gets, one of the three rules gives it, here the last one. -/
theorem one_rule_gives_colour : ∃ c ∈ paletteSettings.campaigns, ∃ f ∈ paletteSettings.features,
    ∃ blue green red, f.linked = [blue, green, red] ∧
      ((red.allotted? 1 "ann").isSome ↔ c.allotted? 1 "ann" = c.variations[2]?) ∧
      (c.allotted? 1 "ann").map (·.key) = some "red" ∧
      ([blue, green, red].countP fun copy => (copy.allotted? 1 "ann").isSome) = 1 := by
  have processed : paletteSettings.Processed := Settings.processed_getD (by decide +kernel)
  obtain ⟨c, member, f, present, kind, ids, names, three, key⟩ :
      ∃ c ∈ paletteSettings.campaigns, ∃ f ∈ paletteSettings.features,
        c.kind = .ab ∧ c.variations.map (·.id) = [1, 2, 3] ∧
        f.rules.map (fun rule => (rule.campaign, rule.variation)) =
          [(c.id, some 1), (c.id, some 2), (c.id, some 3)] ∧
        f.linked.length = 3 ∧ (c.allotted? 1 "ann").map (·.key) = some "red" := by
    decide +kernel
  have distinct : (c.variations.map (·.id)).Nodup := by rw [ids]; decide
  obtain ⟨u, v, w, variations⟩ := List.length_eq_three.mp
    (by rw [← List.length_map (·.id), ids]; rfl : c.variations.length = 3)
  obtain ⟨first, second, third, rules⟩ := List.length_eq_three.mp
    (by rw [← List.length_map fun rule : Rule => (rule.campaign, rule.variation), names]; rfl :
      f.rules.length = 3)
  obtain ⟨blue, green, red, linked⟩ := List.length_eq_three.mp three
  simp only [variations, rules, List.map_cons, List.map_nil, List.cons.injEq, Prod.mk.injEq,
    and_true] at ids names
  have narrows : ∀ p ∈ [(u, blue), (v, green), (w, red)],
      p.1 ∈ c.variations ∧ paletteSettings.Narrows c p.1 p.2 := by
    simp only [Settings.Narrows, List.forall_mem_cons, variations]
    refine ⟨⟨by simp, f, present, first, by simp [rules, linked], ?_⟩,
      ⟨by simp, f, present, second, by simp [rules, linked], ?_⟩,
      ⟨by simp, f, present, third, by simp [rules, linked], ?_⟩, by simp⟩
    all_goals simp [ids, names]
  have different : ([(u, blue), (v, green), (w, red)].map (·.1)).Nodup := by
    rw [variations] at distinct
    exact distinct.of_map _
  obtain ⟨each, together⟩ := narrowed_copies_share_out processed member kind distinct 1 "ann"
  obtain ⟨own, narrow⟩ := narrows (w, red) (by simp)
  have given : (c.allotted? 1 "ann").isSome := by
    rw [← Option.isSome_map (f := (·.key)), key]
    rfl
  refine ⟨c, member, f, present, blue, green, red, linked, ?_, key, ?_⟩
  · rw [variations]
    exact (each w own red narrow).1
  · refine (together _ narrows different).2 (fun variation among => ?_) given
    rwa [variations] at among

end FeatureFlags
