import FeatureFlags.Proofs.Candidates
import FeatureFlags.Proofs.ContestAgreement

namespace FeatureFlags

open Inquiry

section Filtering

variable {m : Type → Type} [Monad m] [LawfulMonad m] {α : Type}

theorem filterAuxM_eq (p : α → m Bool) (as found : List α) :
    as.filterAuxM p found = (do
      let new ← as.filterAuxM p []
      return new ++ found) := by
  induction as generalizing found with
  | nil => simp [List.filterAuxM]
  | cons a rest ih =>
    simp only [List.filterAuxM, bind_assoc]
    refine bind_congr fun passed => ?_
    rw [ih, ih (bif passed then [a] else [])]
    cases passed <;> simp

theorem filterM_cons (p : α → m Bool) (a : α) (rest : List α) :
    (a :: rest).filterM p = (do
      let passed ← p a
      let others ← rest.filterM p
      return if passed then a :: others else others) := by
  simp only [List.filterM, List.filterAuxM, bind_assoc, pure_bind]
  refine bind_congr fun passed => ?_
  rw [filterAuxM_eq, bind_assoc]
  refine bind_congr fun others => ?_
  cases passed <;> simp

end Filtering

variable {ω : Type}

namespace Contest

section Order

variable {all : List (Feature ω)} {members : List String}

/-- Which member of the group a feature links first. -/
def firstMember (members : List String) (f : Feature ω) : Nat :=
  members.findIdx fun member => links f member

/-- Where a feature stands among all features. -/
def place (all : List (Feature ω)) (f : Feature ω) : Nat := (all.map (·.key)).idxOf f.key

/-- A feature comes before another one if it links an earlier member of the group, or stands earlier
among all features and links the same member first. -/
def ComesBefore (all : List (Feature ω)) (members : List String) (f g : Feature ω) : Prop :=
  firstMember members f < firstMember members g ∨
    firstMember members f = firstMember members g ∧ place all f < place all g

theorem firstMember_cons (member : String) (rest : List String) (f : Feature ω) :
    firstMember (member :: rest) f = if links f member then 0 else firstMember rest f + 1 := by
  rw [firstMember, List.findIdx_cons]
  cases links f member <;> rfl

variable (distinct : (all.map (·.key)).Nodup)
include distinct

/-- Since no key occurs twice, a member brings all features that link it and are not known yet. -/
theorem newFeatures_eq_filter (member : String) (known : List String) :
    newFeatures member known all = all.filter fun f => links f member && !known.contains f.key := by
  induction all generalizing known with
  | nil => rfl
  | cons f rest ih =>
    obtain ⟨apart, distinct⟩ : f.key ∉ rest.map (·.key) ∧ (rest.map (·.key)).Nodup :=
      List.nodup_cons.mp distinct
    unfold newFeatures
    split
    · rename_i new
      rw [List.filter_cons, if_pos new, ih distinct]
      congr 1
      apply List.filter_congr
      intro g inside
      have other : g.key ≠ f.key := fun same => apart (same ▸ List.mem_map_of_mem inside)
      simp [other]
    · rename_i stale
      rw [List.filter_cons, if_neg stale, ih distinct]

theorem mem_newFeatures_iff {member : String} {known : List String} {f : Feature ω} :
    f ∈ newFeatures member known all ↔ f ∈ all ∧ links f member = true ∧ f.key ∉ known := by
  simp [newFeatures_eq_filter distinct]

theorem key_mem_newFeatures_iff {member : String} {known : List String} {f : Feature ω}
    (inside : f ∈ all) : f.key ∈ (newFeatures member known all).map (·.key) ↔
      links f member = true ∧ f.key ∉ known := by
  constructor
  · intro among
    obtain ⟨g, new, same⟩ := List.mem_map.mp among
    obtain ⟨inside', held⟩ := (mem_newFeatures_iff distinct).mp new
    exact List.inj_on_of_nodup_map distinct inside' inside same ▸ held
  · intro held
    exact List.mem_map_of_mem ((mem_newFeatures_iff distinct).mpr ⟨inside, held⟩)

/-- The features that are asked about are those that link a member and are not known before. -/
theorem mem_features_iff {known : List String} {f : Feature ω} : f ∈ features all known members ↔
    f ∈ all ∧ f.key ∉ known ∧ ∃ member ∈ members, links f member = true := by
  induction members generalizing known with
  | nil => simp [features]
  | cons member rest ih =>
    rw [features, List.mem_append, mem_newFeatures_iff distinct, ih]
    constructor
    · rintro (⟨inside, linked, new⟩ | ⟨inside, new, later, among, linked⟩)
      · exact ⟨inside, new, member, List.mem_cons_self .., linked⟩
      · exact ⟨inside, fun before => new (List.mem_append_left _ before), later,
          List.mem_cons_of_mem _ among, linked⟩
    · rintro ⟨inside, new, some, among, linked⟩
      by_cases first : links f member = true
      · exact Or.inl ⟨inside, first, new⟩
      · refine Or.inr ⟨inside, ?_, some, ?_, linked⟩
        · rw [List.mem_append, key_mem_newFeatures_iff distinct inside]
          exact not_or.mpr ⟨new, fun held => first held.1⟩
        · exact (List.mem_cons.mp among).resolve_left fun same => first (same ▸ linked)

theorem all_pairwise_place : all.Pairwise fun f g => place all f < place all g := by
  rw [List.pairwise_iff_getElem]
  intro i j inside inside' before
  have at_place (k : Nat) (within : k < all.length) : place all all[k] = k := by
    have key := distinct.idxOf_getElem k (by simpa using within)
    rwa [List.getElem_map] at key
  rw [at_place i inside, at_place j inside']
  exact before

/-- Those that a member brings link it first, and those that come later do not link it. -/
theorem features_pairwise (known : List String) :
    (features all known members).Pairwise (ComesBefore all members) := by
  induction members generalizing known with
  | nil => exact .nil
  | cons member rest ih =>
    have first {f : Feature ω} (new : f ∈ newFeatures member known all) :
        firstMember (member :: rest) f = 0 := by
      rw [firstMember_cons, if_pos ((mem_newFeatures_iff distinct).mp new).2.1]
    have later {f : Feature ω}
        (among : f ∈ features all (known ++ (newFeatures member known all).map (·.key)) rest) :
        firstMember (member :: rest) f = firstMember rest f + 1 := by
      obtain ⟨inside, new, -⟩ := (mem_features_iff distinct).mp among
      rw [List.mem_append, key_mem_newFeatures_iff distinct inside, not_or, not_and] at new
      rw [firstMember_cons, if_neg fun linked => new.2 linked new.1]
    rw [features, List.pairwise_append]
    refine ⟨?_, (ih _).imp_of_mem fun {f g} one two before => ?_, fun f new g among => ?_⟩
    · have ordered := (all_pairwise_place distinct).filter
        fun f => links f member && !known.contains f.key
      rw [← newFeatures_eq_filter distinct] at ordered
      refine ordered.imp_of_mem fun {f g} one two before => Or.inr ⟨?_, before⟩
      rw [first one, first two]
    · unfold ComesBefore at before ⊢
      rw [later one, later two]
      omega
    · refine Or.inl ?_
      rw [first new, later among]
      exact Nat.succ_pos _

end Order

/-- Of each member that some of these features link, one campaign is found, and nothing else: a
campaign of one of these features. -/
structure OneForEach (members : List String) (through : List (Feature ω))
    (found : List (Feature ω × Campaign ω)) : Prop where
  linked : ∀ candidate ∈ found, candidate.1 ∈ through ∧ candidate.2 ∈ candidate.1.linked
  identities : ∀ identity, identity ∈ found.map (·.2.identity) ↔
    identity ∈ members ∧ ∃ f ∈ through, links f identity = true
  once : (found.map (·.2.identity)).Nodup

theorem brought_oneForEach (members : List String) (through : List (Feature ω)) :
    OneForEach members through (brought members [] through) where
  linked candidate found := mem_brought found
  identities identity := by
    rw [List.mem_map]
    constructor
    · rintro ⟨⟨f, c⟩, found, rfl⟩
      obtain ⟨member, -, first, own⟩ := mem_brought_iff.mp found
      exact ⟨member, f, List.mem_of_find?_eq_some first, links_iff_linkedAs?.mpr ⟨c, own⟩⟩
    · rintro ⟨member, f, among, linked⟩
      have some : (through.find? fun g => links g identity).isSome :=
        List.find?_isSome.mpr ⟨f, among, linked⟩
      obtain ⟨g, first⟩ := Option.isSome_iff_exists.mp some
      have links : links g identity = true := by simpa using List.find?_some first
      obtain ⟨c, own⟩ := links_iff_linkedAs?.mp links
      obtain ⟨-, rfl⟩ := Feature.linkedAs?_eq_some own
      exact ⟨(g, c), mem_brought_iff.mpr ⟨member, List.not_mem_nil, first, own⟩, rfl⟩
  once := brought_identities

section Gate

variable {s : Type} (gate : Feature ω → StateT s Inquiry Bool)

/-- The gate is asked about one feature after the other, and only then is anything made of its
answers. -/
theorem candidates_eq_filterM (members seen : List String) (fs : List (Feature ω)) :
    candidates gate members seen fs = (do
      let through ← fs.filterM gate
      return brought members seen through) := by
  induction fs generalizing seen with
  | nil => rfl
  | cons f rest ih =>
    rw [filterM_cons, bind_assoc, candidates]
    refine bind_congr fun passed => ?_
    rw [bind_assoc]
    cases passed with
    | false => simp [ih]
    | true =>
      simp only [if_true, ih, bind_assoc, pure_bind]
      rfl

/-- Where the gate says of each feature what `opens` says, whatever else it does, it lets those
through that are open. -/
theorem filterM_of_answers {opens : Feature ω → Bool}
    (answers : ∀ f, gate f = (do let _ ← gate f; return opens f)) (fs : List (Feature ω)) :
    fs.filterM gate = (do
      fs.forM fun f => do let _ ← gate f
      return fs.filter opens) := by
  induction fs with
  | nil => rfl
  | cons f rest ih =>
    rw [filterM_cons, ih, List.filter_cons]
    conv_lhs => rw [answers f]
    simp

end Gate

/-- The features that the contest in a group asks its gate about. -/
def asked (scope : Scope ω) (group : Group ω) : List (Feature ω) :=
  features scope.settings.features [] group.members

variable [Quantity ω]

/-- The winner among some candidates as a feature sees it. -/
def decided (scope : Scope ω) (id : UInt64) (group : Group ω) (asking : Feature ω)
    (found : List (Feature ω × Campaign ω)) : Inquiry (Option (Campaign ω)) := do
  let (stored, eligible) ← sorted scope found
  match poolWinner id group scope.user.id (if stored.isEmpty then eligible else stored) with
  | none =>
    Inquiry.report (.groupLost scope.user.id id)
    return none
  | some c =>
    Inquiry.report (.groupWon scope.user.id id group c)
    return if links asking c.identity then some c else none

theorem winner?_eq_decided {s : Type} {scope : Scope ω} {id : UInt64} {group : Group ω}
    (found : scope.settings.group? id = some group) (gate : Feature ω → StateT s Inquiry Bool)
    (asking : Feature ω) :
    winner? scope gate id asking = (do
      let through ← (asked scope group).filterM gate
      decided scope id group asking (brought group.members [] through)) := by
  unfold winner?
  rw [found]
  dsimp only
  rw [candidates_eq_filterM, bind_assoc]
  refine bind_congr fun through => ?_
  rw [pure_bind, decided, liftM_bind]
  refine bind_congr fun parts => ?_
  obtain ⟨stored, eligible⟩ := parts
  dsimp only
  cases poolWinner id group scope.user.id (if stored.isEmpty then eligible else stored) <;> simp

/-- Where no two features have the same key, a contest asks its gate about just the features that
link a member of the group, about each of them once whatever it answers: first about those that link
the first member, and of those that link the same member first in the order of the settings. Of each
member that a feature links which the gate lets through, one campaign is considered, and nothing
else. -/
theorem contest_enumerates_its_members {scope : Scope ω} {id : UInt64} {group : Group ω}
    (found : scope.settings.group? id = some group)
    (distinct : (scope.settings.features.map (·.key)).Nodup) :
    (∀ f, f ∈ asked scope group ↔
      f ∈ scope.settings.features ∧ ∃ member ∈ group.members, links f member = true) ∧
    (asked scope group).Nodup ∧
    (asked scope group).Pairwise (ComesBefore scope.settings.features group.members) ∧
    (∀ through : List (Feature ω),
      OneForEach group.members through (brought group.members [] through)) ∧
    ∀ (s : Type) (gate : Feature ω → StateT s Inquiry Bool) (asking : Feature ω),
      winner? scope gate id asking = (do
        let through ← (asked scope group).filterM gate
        decided scope id group asking (brought group.members [] through)) ∧
      ∀ opens : Feature ω → Bool, (∀ f, gate f = (do let _ ← gate f; return opens f)) →
        winner? scope gate id asking = (do
          (asked scope group).forM fun f => do let _ ← gate f
          decided scope id group asking
            (brought group.members [] ((asked scope group).filter opens))) := by
  have ordered : (asked scope group).Pairwise _ := features_pairwise distinct []
  refine ⟨fun f => ?_, ordered.imp ?_, ordered, brought_oneForEach group.members,
    fun s gate asking => ⟨winner?_eq_decided found gate asking, fun opens answers => ?_⟩⟩
  · rw [asked, mem_features_iff distinct, and_iff_right List.not_mem_nil]
  · rintro f g before rfl
    exact before.elim (Nat.lt_irrefl _) fun same => Nat.lt_irrefl _ same.2
  · rw [winner?_eq_decided found, filterM_of_answers gate answers, bind_assoc]
    simp

/-- A gate that only opens for carts, and takes down what it is asked about. -/
def cartGate (f : Feature Binary64) : StateT (List String) Inquiry Bool := do
  modify (· ++ [f.key])
  return f.key = "cart"

def shopScope : Scope Binary64 := ⟨shopSettings, shopUser, none⟩

/-- Offers are asked about before the cart, which stands before them, and the search is not. Only
the cart's campaign is considered. -/
theorem offers_are_asked_first : ∃ group, shopSettings.group? 6 = some group ∧
    (shopSettings.features.map (·.key)).Nodup ∧
    (asked shopScope group).map (·.key) = ["offers", "cart"] ∧
    (∀ f, cartGate f = (do let _ ← cartGate f; return f.key = "cart")) ∧
    ∀ asking, winner? shopScope cartGate 6 asking = (do
      (asked shopScope group).forM fun f => do let _ ← cartGate f
      decided shopScope 6 group asking (brought group.members []
        ((asked shopScope group).filter fun f => f.key = "cart"))) := by
  obtain ⟨group, found, order⟩ : ∃ group, shopSettings.group? 6 = some group ∧
      (asked shopScope group).map (·.key) = ["offers", "cart"] := by decide +kernel
  have distinct : (shopSettings.features.map (·.key)).Nodup := by decide +kernel
  have answers (f : Feature Binary64) :
      cartGate f = (do let _ ← cartGate f; return f.key = "cart") := by simp [cartGate]
  obtain ⟨-, -, -, -, runs⟩ := contest_enumerates_its_members
    (show shopScope.settings.group? 6 = some group from found) distinct
  exact ⟨group, found, distinct, order, answers, fun asking =>
    (runs (List String) cartGate asking).2 (fun f => f.key = "cart") answers⟩

end Contest

end FeatureFlags
