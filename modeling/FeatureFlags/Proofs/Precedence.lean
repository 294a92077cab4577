import FeatureFlags.Proofs.Draws
import FeatureFlags.Proofs.Exclusivity
import FeatureFlags.Proofs.Picking

namespace FeatureFlags

namespace Contest

section Order

variable {ω : Type} {group : Group ω} {pool : List (Campaign ω)} {c d : Campaign ω}

/-- The candidate that the priorities decide for. -/
def preferred? (group : Group ω) (pool : List (Campaign ω)) : Option (Campaign ω) :=
  group.priorities.findSome? fun p => pool.find? fun c => c.identity = p

/-- Of the candidates that the priorities name, this one is named earliest. -/
structure Foremost (group : Group ω) (pool : List (Campaign ω)) (c : Campaign ω) : Prop where
  member : c ∈ pool
  named : c.identity ∈ group.priorities
  first : ∀ d ∈ pool, d.identity ∈ group.priorities →
    group.priorities.idxOf c.identity ≤ group.priorities.idxOf d.identity

theorem preferred?_eq_none_iff :
    preferred? group pool = none ↔ ∀ c ∈ pool, c.identity ∉ group.priorities := by
  simp only [preferred?, List.findSome?_eq_none_iff, List.find?_eq_none, decide_eq_true_eq]
  constructor
  · intro missing c inside named
    exact missing c.identity named c inside rfl
  · intro unnamed p among c inside same
    exact unnamed c inside (same ▸ among)

/-- The priorities are gone through one by one, whatever the order of the pool is. -/
theorem foremost_of_preferred? (found : preferred? group pool = some c) :
    Foremost group pool c := by
  obtain ⟨before, p, after, split, atP, earlier⟩ := List.findSome?_eq_some_iff.mp found
  have identity : c.identity = p := by simpa using List.find?_some atP
  have unnamed : ∀ d ∈ pool, d.identity ∉ before := fun d inside among =>
    List.find?_eq_none.mp (earlier d.identity among) d inside (decide_eq_true rfl)
  have member : c ∈ pool := List.mem_of_find?_eq_some atP
  refine ⟨member, ?_, fun d inside _ => ?_⟩
  · rw [split, identity]
    exact List.mem_append_right before List.mem_cons_self
  · rw [split, List.idxOf_append_of_notMem (unnamed c member),
      List.idxOf_append_of_notMem (unnamed d inside), identity, List.idxOf_cons_self]
    exact Nat.add_le_add_left (Nat.zero_le _) _

theorem Foremost.unique (distinct : (pool.map (·.identity)).Nodup) (one : Foremost group pool c)
    (other : Foremost group pool d) : c = d := by
  have same : group.priorities.idxOf c.identity = group.priorities.idxOf d.identity :=
    Nat.le_antisymm (one.first d other.member other.named) (other.first c one.member one.named)
  exact List.inj_on_of_nodup_map distinct one.member other.member
    ((List.idxOf_inj one.named).mp same)

theorem preferred?_eq_some_iff (distinct : (pool.map (·.identity)).Nodup) :
    preferred? group pool = some c ↔ Foremost group pool c := by
  refine ⟨foremost_of_preferred?, fun foremost => ?_⟩
  cases found : preferred? group pool with
  | none => exact absurd foremost.named (preferred?_eq_none_iff.mp found c foremost.member)
  | some d => rw [foremost.unique distinct (foremost_of_preferred? found)]

/-- Weights do not matter as long as a priority decides. -/
theorem Foremost.reweigh (foremost : Foremost group pool c) (weights : List (String × ω)) :
    Foremost { group with weights := weights } pool c :=
  ⟨foremost.member, foremost.named, foremost.first⟩

theorem Foremost.perm {other : List (Campaign ω)} (foremost : Foremost group pool c)
    (same : pool.Perm other) : Foremost group other c :=
  ⟨same.mem_iff.mp foremost.member, foremost.named,
    fun d inside => foremost.first d (same.mem_iff.mpr inside)⟩

/-- The table has this weight for the campaign: under its identity, or where it has none there,
under its plain id. -/
def Weighs (group : Group ω) (c : Campaign ω) (weight : ω) : Prop :=
  group.weights.lookup c.identity = some weight ∨
    group.weights.lookup c.identity = none ∧ group.weights.lookup (idText c.id) = some weight

theorem weight?_eq_some_iff {weight : ω} : weight? group c = some weight ↔ Weighs group c weight := by
  rw [weight?, Weighs]
  cases group.weights.lookup c.identity with
  | none => simp
  | some _ => simp

/-- Whether the group says anything about a candidate: a priority or a weight. -/
def isListed (group : Group ω) (c : Campaign ω) : Bool :=
  group.priorities.contains c.identity || (weight? group c).isSome

theorem isListed_iff :
    isListed group c = true ↔ c.identity ∈ group.priorities ∨ ∃ weight, Weighs group c weight := by
  rw [isListed, Bool.or_eq_true, List.contains_iff_mem, Option.isSome_iff_exists]
  simp only [weight?_eq_some_iff]

/-- The candidates of a pool that have a weight, with their weights. -/
def weighted (group : Group ω) (pool : List (Campaign ω)) : List (Campaign ω × ω) :=
  pool.filterMap fun c => (weight? group c).map fun w => (c, w)

theorem mem_weighted {weight : ω} :
    (c, weight) ∈ weighted group pool ↔ c ∈ pool ∧ Weighs group c weight := by
  simp only [weighted, List.mem_filterMap, Option.map_eq_some_iff, Prod.mk.injEq,
    weight?_eq_some_iff]
  constructor
  · rintro ⟨_, inside, _, weighs, rfl, rfl⟩
    exact ⟨inside, weighs⟩
  · rintro ⟨inside, weighs⟩
    exact ⟨c, inside, weight, weighs, rfl, rfl⟩

theorem map_snd_weighted : (weighted group pool).map (·.2) = pool.filterMap (weight? group) := by
  rw [weighted, List.map_filterMap]
  congr 1
  funext c
  cases weight? group c <;> rfl

theorem preferred?_filter_isListed :
    preferred? group (pool.filter (isListed group)) = preferred? group pool := by
  have eq_findSome? : ∀ xs : List (Campaign ω), preferred? group xs =
      (group.priorities.map fun p => xs.find? fun c => c.identity = p).findSome? id := by
    intro xs
    rw [List.findSome?_map]
    rfl
  rw [eq_findSome?, eq_findSome?]
  congr 1
  refine List.map_congr_left fun p among => ?_
  rw [List.find?_filter]
  congr 1
  funext c
  by_cases same : c.identity = p
  · have listed : isListed group c = true := isListed_iff.mpr (Or.inl (same ▸ among))
    simp [same, listed]
  · simp [same]

theorem weighted_filter_isListed :
    weighted group (pool.filter (isListed group)) = weighted group pool := by
  rw [weighted, List.filterMap_filter]
  congr 1
  funext c
  cases weight : weight? group c with
  | none => exact ite_self _
  | some w =>
    have listed : isListed group c = true :=
      isListed_iff.mpr (Or.inr ⟨w, weight?_eq_some_iff.mp weight⟩)
    rw [if_pos listed]

section Contests

variable [Quantity ω] {id : UInt64} {user : String}

theorem advancedWinner_of_preferred? (found : preferred? group pool = some c) :
    advancedWinner id group user pool = some c := by
  unfold advancedWinner
  rw [← preferred?, found]

theorem advancedWinner_of_unnamed (unnamed : preferred? group pool = none) :
    advancedWinner id group user pool = draw id user (weighted group pool) := by
  unfold advancedWinner
  rw [← preferred?, unnamed, weighted]

/-- Candidates of whom the group says nothing do not matter. -/
theorem advancedWinner_filter_isListed :
    advancedWinner id group user (pool.filter (isListed group)) =
      advancedWinner id group user pool := by
  cases found : preferred? group pool with
  | some c =>
    rw [advancedWinner_of_preferred? found,
      advancedWinner_of_preferred? (preferred?_filter_isListed.trans found)]
  | none =>
    rw [advancedWinner_of_unnamed found,
      advancedWinner_of_unnamed (preferred?_filter_isListed.trans found), weighted_filter_isListed]

theorem poolWinner_of_advanced (advanced : group.algorithm = .advanced) (several : 2 ≤ pool.length) :
    poolWinner id group user pool = advancedWinner id group user pool := by
  match pool, several with
  | _ :: _ :: _, _ =>
    unfold poolWinner
    rw [advanced]

theorem Foremost.poolWinner (foremost : Foremost group pool c)
    (advanced : group.algorithm = .advanced) (several : 2 ≤ pool.length)
    (distinct : (pool.map (·.identity)).Nodup) (id : UInt64) (user : String) :
    Contest.poolWinner id group user pool = some c := by
  rw [poolWinner_of_advanced advanced several]
  exact advancedWinner_of_preferred? ((preferred?_eq_some_iff distinct).mpr foremost)

/-- Whoever is drawn has a weight that claims buckets. -/
theorem claims_of_drawn {entries : List (Campaign ω × ω)} (drawn : draw id user entries = some c) :
    ∃ weight, (c, weight) ∈ entries ∧ 0 < bucketsFor weight := by
  obtain ⟨i, found, atI⟩ := Option.bind_eq_some_iff.mp drawn
  obtain ⟨weight, weightAtI, claims⟩ := claims_of_found found
  rw [List.getElem?_map] at atI weightAtI
  obtain ⟨entry, own, rfl⟩ := Option.map_eq_some_iff.mp atI
  rw [own, Option.map_some, Option.some.injEq] at weightAtI
  exact ⟨weight, weightAtI ▸ List.mem_of_getElem? own, claims⟩

end Contests

end Order

open Binary64 in
/-- Weights that are not positive claim nothing. -/
theorem sum_claims_filter_positive (weights : List Binary64) :
    ((weights.filter (ofNat 0).lt).map bucketsFor).sum = (weights.map bucketsFor).sum := by
  induction weights with
  | nil => rfl
  | cons weight rest ih =>
    rw [List.filter_cons, List.map_cons, List.sum_cons]
    cases positive : (ofNat 0).lt weight with
    | true => rw [if_pos rfl, List.map_cons, List.sum_cons, ih]
    | false =>
      have none : bucketsFor weight = 0 := by
        by_contra some
        rw [pos_of_bucketsFor_pos (Nat.pos_of_ne_zero some)] at positive
        cases positive
      rw [if_neg Bool.false_ne_true, ih, none, Nat.zero_add]

/-- The buckets that the candidates with a positive weight claim together. -/
def positiveClaims (group : Group Binary64) (pool : List (Campaign Binary64)) : Nat :=
  (((pool.filterMap (weight? group)).filter (Binary64.ofNat 0).lt).map bucketsFor).sum

theorem claims_weighted (group : Group Binary64) (pool : List (Campaign Binary64)) :
    ((weighted group pool).map fun p => bucketsFor p.2).sum = positiveClaims group pool := by
  rw [positiveClaims, sum_claims_filter_positive, ← map_snd_weighted, List.map_map]
  rfl

open Binary64 in
/-- In an advanced contest the candidate with the foremost priority wins, whatever the order of the
pool, the weights and the user are. Where no candidate has a priority, one with a positive weight
wins, and somebody wins exactly if the claims of these reach up to the user's bucket. Candidates
with neither may come and go. -/
theorem advanced_contest_by_priority_else_weight {group : Group Binary64}
    {pool : List (Campaign Binary64)} (advanced : group.algorithm = .advanced)
    (several : 2 ≤ pool.length) (distinct : (pool.map (·.identity)).Nodup) (id : UInt64)
    (user : String) :
    ((∃ c ∈ pool, c.identity ∈ group.priorities) →
      ∃ c, Foremost group pool c ∧ ∀ id' weights user' other, pool.Perm other →
        poolWinner id' { group with weights := weights } user' other = some c) ∧
    ((∀ c ∈ pool, c.identity ∉ group.priorities) →
      (∀ c, poolWinner id group user pool = some c →
        c ∈ pool ∧ ∃ weight, Weighs group c weight ∧ (ofNat 0).lt weight = true) ∧
      ((poolWinner id group user pool).isSome ↔ bucket id user ≤ positiveClaims group pool)) ∧
    ∀ other, other.filter (isListed group) = pool.filter (isListed group) →
      advancedWinner id group user other = poolWinner id group user pool ∧
        (2 ≤ other.length → poolWinner id group user other = poolWinner id group user pool) := by
  refine ⟨?_, fun unnamed => ?_, fun other same => ?_⟩
  · rintro ⟨d, inside, named⟩
    cases found : preferred? group pool with
    | none => exact absurd named (preferred?_eq_none_iff.mp found d inside)
    | some c =>
      have foremost := foremost_of_preferred? found
      refine ⟨c, foremost, fun id' weights user' other same => ?_⟩
      have several' : 2 ≤ other.length := same.length_eq ▸ several
      have distinct' : (other.map (·.identity)).Nodup := (same.map _).nodup_iff.mp distinct
      exact ((foremost.perm same).reweigh weights).poolWinner advanced several' distinct' id' user'
  · rw [poolWinner_of_advanced advanced several,
      advancedWinner_of_unnamed (preferred?_eq_none_iff.mpr unnamed)]
    refine ⟨fun c drawn => ?_, ?_⟩
    · obtain ⟨weight, among, claims⟩ := claims_of_drawn drawn
      obtain ⟨inside, weighs⟩ := mem_weighted.mp among
      exact ⟨inside, weight, weighs, pos_of_bucketsFor_pos claims⟩
    · rw [draw_isSome_iff, claims_weighted]
  · have winner : advancedWinner id group user other = poolWinner id group user pool := by
      rw [poolWinner_of_advanced advanced several, ← advancedWinner_filter_isListed, same,
        advancedWinner_filter_isListed]
    refine ⟨winner, fun several' => ?_⟩
    rw [poolWinner_of_advanced advanced several', winner]

/-- Three trials for one contest. -/
def contenders : List (Campaign Binary64) :=
  [trial 10 "cart_ab" .ab .null, trial 20 "search_personal" .personalize .null,
    trial 30 "map_ab" .ab .null]

/-- A group that puts the third trial before the first. -/
def ranked : Group Binary64 := ⟨none, ["10", "20_1", "30"], some 2, ["40", "30", "10"], []⟩

/-- A group that has weights for two of the trials, for the second one under its plain id. -/
def weighed : Group Binary64 :=
  ⟨none, ["10", "20_1", "30"], some 2, [], [("20", .ofNat 30), ("30", .ofNat 0)]⟩

/-- The third trial wins all users of the first group, and the second trial wins three tenths of
the users of the other one. -/
theorem contenders_won_by_priority_and_weight :
    ranked.algorithm = .advanced ∧ weighed.algorithm = .advanced ∧ 2 ≤ contenders.length ∧
      (contenders.map (·.identity)).Nodup ∧
    ∀ user, (poolWinner 5 ranked user contenders.reverse).map (·.id) = some 30 ∧
      (∀ c, poolWinner 5 weighed user contenders = some c → c.id = 20) ∧
      ((poolWinner 5 weighed user contenders).isSome ↔ bucket 5 user ≤ 3000) := by
  have advanced : ranked.algorithm = .advanced ∧ weighed.algorithm = .advanced :=
    ⟨by decide, by decide⟩
  have several : 2 ≤ contenders.length := by decide
  have distinct : (contenders.map (·.identity)).Nodup := by decide +kernel
  refine ⟨advanced.1, advanced.2, several, distinct, fun user => ?_⟩
  obtain ⟨byPriority, -, -⟩ :=
    advanced_contest_by_priority_else_weight advanced.1 several distinct 5 user
  obtain ⟨-, byWeight, -⟩ :=
    advanced_contest_by_priority_else_weight advanced.2 several distinct 5 user
  have third : Foremost ranked contenders (trial 30 "map_ab" .ab .null) :=
    ⟨List.mem_of_getElem? (i := 2) rfl, by decide +kernel, by decide +kernel⟩
  obtain ⟨c, foremost, wins⟩ := byPriority ⟨_, third.member, third.named⟩
  have unnamed : ∀ c ∈ contenders, c.identity ∉ weighed.priorities :=
    fun _ _ => List.not_mem_nil
  obtain ⟨sound, somebody⟩ := byWeight unnamed
  have claims : positiveClaims weighed contenders = 3000 := by decide +kernel
  have alone : ∀ c ∈ contenders, (weight? weighed c).any (Binary64.ofNat 0).lt = true → c.id = 20 := by
    decide +kernel
  refine ⟨?_, fun c won => ?_, claims ▸ somebody⟩
  · rw [wins 5 ranked.weights user _ (List.reverse_perm contenders).symm,
      foremost.unique distinct third]
    rfl
  · obtain ⟨inside, weight, weighs, positive⟩ := sound c won
    refine alone c inside ?_
    rw [weight?_eq_some_iff.mpr weighs]
    exact positive

end Contest

end FeatureFlags
