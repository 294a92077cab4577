import FeatureFlags.Settings.Process
import FeatureFlags.Proofs.Draws
import Mathlib.Logic.Relation

namespace FeatureFlags

namespace Binary64

theorem le_trans {x y z : Binary64} (first : x.le y = true) (second : y.le z = true) :
    x.le z = true := by
  cases x with
  | nan => cases first
  | infinite below =>
    cases below with
    | true =>
      cases z with
      | nan => cases y <;> cases second
      | _ => rfl
    | false =>
      cases y with
      | infinite lowest =>
        cases lowest
        · exact second
        · cases first
      | _ => cases first
  | finite s m e =>
    cases y with
    | nan => cases first
    | infinite below =>
      cases below
      · cases z with
        | infinite lowest => cases lowest <;> trivial
        | _ => cases second
      · cases first
    | finite t n f =>
      cases z with
      | nan => cases second
      | infinite below =>
        cases below
        · rfl
        · cases second
      | finite u k g =>
        exact decide_eq_true ((of_decide_eq_true first).trans (of_decide_eq_true second))

theorem isZero_eq_false {x : Binary64} {n : Nat} (positive : 0 < n) (bits : n < 2 ^ 53)
    (above : (ofNat n).le x = true) : Quantity.isZero x = false := by
  rw [Bool.eq_false_iff]
  intro zero
  have below : x.le (ofNat 0) = true := (Bool.and_eq_true_iff.mp zero).1
  have order := (le_iff (toRat?_ofNat bits) (toRat?_ofNat (by decide))).mp (le_trans above below)
  have whole : n ≤ 0 := by exact_mod_cast order
  omega

end Binary64

/-- The same variation, but for its weight and the range that goes with it. -/
def Variation.SameButWeight {ω : Type} (v w : Variation ω) : Prop :=
  w = { v with weight := w.weight, range := w.range }

theorem Variation.SameButWeight.trans {ω : Type} {u v w : Variation ω} (first : u.SameButWeight v)
    (second : v.SameButWeight w) : u.SameButWeight w := by
  unfold SameButWeight at first second ⊢
  rw [second, first]

namespace Campaign

/-- A campaign is raised to one that differs in nothing but a larger share of the users: the
traffic of a comparison, or the weight of the first variation of another campaign, with whatever
range goes with that weight. -/
inductive Raised {ω : Type} [Quantity ω] : Campaign ω → Campaign ω → Prop
  | traffic {c : Campaign ω} {percent : ω} : c.kind = .ab →
      Quantity.le c.percentTraffic percent = true → Raised c { c with percentTraffic := percent }
  | weight {c : Campaign ω} {v : Variation ω} {rest : List (Variation ω)} {weight : ω}
      {range : Option BucketRange} : c.kind ≠ .ab → c.variations = v :: rest →
      Quantity.le v.weight weight = true →
      Raised c { c with variations := { v with weight := weight, range := range } :: rest }

variable {c d : Campaign Binary64}

theorem share_of_comparison (kind : c.kind = .ab) : c.share = c.percentTraffic := by
  rw [share, kind]

theorem share_of_first {v : Variation Binary64} {rest : List (Variation Binary64)}
    (kind : c.kind ≠ .ab) (first : c.variations = v :: rest) : c.share = v.weight := by
  cases same : c.kind with
  | ab => exact absurd same kind
  | rollout => rw [share, same, first]
  | personalize => rw [share, same, first]

theorem allotted?_of_comparison (kind : c.kind = .ab) (account : UInt64) (user : String) :
    c.allotted? account user = if c.includes user then c.picked? account user else none := by
  rw [allotted?, kind]

theorem allotted?_of_other (kind : c.kind ≠ .ab) (account : UInt64) (user : String) :
    c.allotted? account user = if c.includes user then c.variations.head? else none := by
  cases same : c.kind with
  | ab => exact absurd same kind
  | rollout => rw [allotted?, same]
  | personalize => rw [allotted?, same]

theorem Raised.kind_eq (raised : c.Raised d) : d.kind = c.kind := by
  cases raised <;> rfl

theorem Raised.share_le (raised : c.Raised d) : c.share.le d.share = true := by
  have same := raised.kind_eq
  cases raised with
  | traffic kind more =>
    rw [share_of_comparison kind, share_of_comparison (same.trans kind)]
    exact more
  | weight kind first more =>
    rw [share_of_first kind first, share_of_first (same ▸ kind) rfl]
    exact more

/-- Whether a user takes part is decided by the same bucket after a raise. -/
theorem Raised.entryBucket_eq (raised : c.Raised d) (user : String) :
    d.entryBucket user = c.entryBucket user := by
  have salt : d.entrySalt? = c.entrySalt? := by
    cases raised with
    | traffic kind more => rfl
    | weight kind first more =>
      cases same : c.kind <;> simp [entrySalt?, same, first]
  cases raised <;> simp only [entryBucket, entrySeed, salt]

theorem includes_iff {user : String} : c.includes user = true ↔
    (Binary64.ofNat (c.entryBucket user)).le c.share = true := by
  have positive : c.entryBucket user ≠ 0 :=
    (inclusionBucket_bounds (c.entrySeed user none)).1.ne'
  rw [includes, decide_eq_true positive, Bool.true_and]
  rfl

theorem Raised.includes (raised : c.Raised d) {user : String} (part : c.includes user = true) :
    d.includes user = true := by
  rw [includes_iff] at part ⊢
  rw [raised.entryBucket_eq]
  exact Binary64.le_trans part raised.share_le

theorem includes_of_allotted? {account : UInt64} {user : String} {v : Variation Binary64}
    (given : c.allotted? account user = some v) : c.includes user = true := by
  unfold allotted? at given
  split at given
  · rename_i part
    exact part
  · cases given

/-- As long as there is any traffic, its amount does not matter for the variation that is picked. -/
theorem picked?_of_includes (kind : c.kind = .ab) {user : String} (part : c.includes user = true)
    (account : UInt64) : c.picked? account user =
      (findRange (c.variations.map (·.range)) (variationBucket (c.variationSeed account user))).bind
        (c.variations[·]?) := by
  obtain ⟨positive, most⟩ := inclusionBucket_bounds (c.entrySeed user none)
  rw [includes_iff, share_of_comparison kind] at part
  have traffic := Binary64.isZero_eq_false positive (most.trans_lt (by decide)) part
  rw [picked?, pickBucket, traffic]
  rfl

/-- What a larger share of the users leaves as it was: whoever takes part still does, with the same
variation, or still without any. -/
structure Keeps (c d : Campaign Binary64) (account : UInt64) (user : String) : Prop where
  kind : d.kind = c.kind
  includes : c.includes user = true → d.includes user = true
  comparison : c.kind = .ab → c.includes user = true →
    d.allotted? account user = c.allotted? account user
  allotted : ∀ v, c.allotted? account user = some v →
    ∃ w, d.allotted? account user = some w ∧ v.SameButWeight w

theorem Keeps.refl (c : Campaign Binary64) (account : UInt64) (user : String) :
    c.Keeps c account user where
  kind := rfl
  includes part := part
  comparison _ _ := rfl
  allotted v given := ⟨v, given, rfl⟩

theorem Keeps.trans {b : Campaign Binary64} {account : UInt64} {user : String}
    (first : b.Keeps c account user) (second : c.Keeps d account user) :
    b.Keeps d account user where
  kind := second.kind.trans first.kind
  includes part := second.includes (first.includes part)
  comparison kind part :=
    (second.comparison (first.kind.trans kind) (first.includes part)).trans
      (first.comparison kind part)
  allotted u given := by
    obtain ⟨v, given', same⟩ := first.allotted u given
    obtain ⟨w, given'', same'⟩ := second.allotted v given'
    exact ⟨w, given'', same.trans same'⟩

theorem Raised.keeps (raised : c.Raised d) (account : UInt64) (user : String) :
    c.Keeps d account user := by
  have comparison (kind : c.kind = .ab) (part : c.includes user = true) :
      d.allotted? account user = c.allotted? account user := by
    have part' := raised.includes part
    rw [allotted?_of_comparison kind, allotted?_of_comparison (raised.kind_eq.trans kind),
      if_pos part, if_pos part', picked?_of_includes kind part,
      picked?_of_includes (raised.kind_eq.trans kind) part']
    cases raised with
    | traffic _ more => rfl
    | weight other first more => exact absurd kind other
  refine ⟨raised.kind_eq, raised.includes, comparison, fun v given => ?_⟩
  have part := includes_of_allotted? given
  by_cases kind : c.kind = .ab
  · exact ⟨v, (comparison kind part).trans given, rfl⟩
  · have part' := raised.includes part
    rw [allotted?_of_other kind, if_pos part] at given
    rw [allotted?_of_other (raised.kind_eq ▸ kind), if_pos part']
    cases raised with
    | traffic same more => exact absurd same kind
    | weight other first more =>
      rw [first, List.head?_cons, Option.some.injEq] at given
      subst given
      exact ⟨_, rfl, rfl⟩

end Campaign

/-- However often a campaign is raised, whoever takes part still does, and keeps the variation. -/
theorem raising_moves_nobody {c d : Campaign Binary64}
    (raised : Relation.ReflTransGen Campaign.Raised c d) (account : UInt64) (user : String) :
    (c.includes user = true → d.includes user = true ∧
      (c.kind = .ab → d.allotted? account user = c.allotted? account user)) ∧
    ∀ v, c.allotted? account user = some v →
      ∃ w, d.allotted? account user = some w ∧ v.SameButWeight w ∧ (c.kind = .ab → w = v) := by
  have keeps : c.Keeps d account user := by
    induction raised with
    | refl => exact .refl c account user
    | tail _ last ih => exact ih.trans (last.keeps account user)
  refine ⟨fun part => ⟨keeps.includes part, fun kind => keeps.comparison kind part⟩,
    fun v given => ?_⟩
  have part := Campaign.includes_of_allotted? given
  obtain ⟨w, given', same⟩ := keeps.allotted v given
  refine ⟨w, given', same, fun kind => ?_⟩
  rw [keeps.comparison kind part, given] at given'
  exact (Option.some.inj given').symm

/-- Two colours in equal parts, compared with so many percent of the users. -/
def colourTrial (percent : Binary64) : Campaign Binary64 :=
  Campaign.prepared ⟨10, "colours_ab", none, .ab, percent, .null, false, false,
    [⟨1, "blue", none, 50, .null, [], none, none, none⟩,
     ⟨2, "red", none, 50, .null, [], none, none, none⟩], none, none, none, none⟩

/-- A user who is just among the first 43 percent keeps the colour when half a percent more, and
then everybody, takes part. -/
theorem blue_stays_blue :
    Relation.ReflTransGen Campaign.Raised (colourTrial 43) (colourTrial 150) ∧
    ∃ v, v.key = "blue" ∧ (colourTrial 43).allotted? 1 "ann" = some v ∧
      (colourTrial 150).allotted? 1 "ann" = some v := by
  have half : (colourTrial 43).Raised (colourTrial (87 / 2)) := .traffic rfl (by decide +kernel)
  have all : (colourTrial (87 / 2)).Raised (colourTrial 150) := .traffic rfl (by decide +kernel)
  have raised := (Relation.ReflTransGen.single half).tail all
  have blue : ((colourTrial 43).allotted? 1 "ann").map (·.key) = some "blue" := by decide +kernel
  obtain ⟨v, given, isBlue⟩ := Option.map_eq_some_iff.mp blue
  obtain ⟨w, given', _, same⟩ := (raising_moves_nobody raised 1 "ann").2 v given
  exact ⟨raised, v, isBlue, given, same rfl ▸ given'⟩

end FeatureFlags
