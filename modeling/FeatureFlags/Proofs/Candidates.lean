import FeatureFlags.Proofs.Calls
import FeatureFlags.Proofs.Champion

namespace FeatureFlags

open Inquiry

variable {ω : Type}

/-- The first campaign that a feature links under this identity. -/
def Feature.linkedAs? (f : Feature ω) (identity : String) : Option (Campaign ω) :=
  f.linked.find? fun c => c.identity = identity

theorem Feature.linkedAs?_eq_some {f : Feature ω} {identity : String} {c : Campaign ω}
    (found : f.linkedAs? identity = some c) : c ∈ f.linked ∧ c.identity = identity :=
  ⟨List.mem_of_find?_eq_some found, by simpa using List.find?_some found⟩

namespace Contest

theorem links_iff {f : Feature ω} {identity : String} :
    links f identity = true ↔ ∃ c ∈ f.linked, c.identity = identity := by
  simp [links]

theorem links_iff_linkedAs? {f : Feature ω} {identity : String} :
    links f identity = true ↔ ∃ c, f.linkedAs? identity = some c := by
  rw [← Option.isSome_iff_exists, Feature.linkedAs?, List.find?_isSome, links_iff]
  simp

/-- A feature newly brings a campaign exactly if this is a member that nobody has brought before,
and the first campaign of its identity that the feature links. -/
theorem mem_newCandidates_iff {members seen : List String} {linked : List (Campaign ω)}
    {c : Campaign ω} :
    c ∈ newCandidates members seen linked ↔ c.identity ∈ members ∧ c.identity ∉ seen ∧
      linked.find? (fun d => d.identity = c.identity) = some c := by
  induction linked generalizing seen with
  | nil => simp [newCandidates]
  | cons d rest ih =>
    have brings : (members.contains d.identity && !seen.contains d.identity) = true ↔
        d.identity ∈ members ∧ d.identity ∉ seen := by simp
    unfold newCandidates
    rw [List.find?_cons]
    by_cases same : d.identity = c.identity
    · rw [same] at brings ⊢
      rw [decide_eq_true rfl, Option.some.injEq, eq_comm (a := d)]
      split <;> rename_i new
      · obtain ⟨member, fresh⟩ := brings.mp new
        rw [List.mem_cons, ih]
        -- The rest brings nothing more of this identity.
        simp [member, fresh]
      · rw [ih]
        have stale := mt brings.mpr new
        constructor
        · exact fun held => absurd ⟨held.1, held.2.1⟩ stale
        · exact fun held => absurd ⟨held.1, held.2.1⟩ stale
    · have apart : c ≠ d := fun equal => same (equal ▸ rfl)
      rw [decide_eq_false same]
      split
      · rw [List.mem_cons, ih]
        simp [apart, Ne.symm same]
      · rw [ih]

theorem newCandidates_identities {members seen : List String} {linked : List (Campaign ω)} :
    ((newCandidates members seen linked).map (·.identity)).Nodup := by
  induction linked generalizing seen with
  | nil => exact List.nodup_nil
  | cons d rest ih =>
    unfold newCandidates
    split
    · rw [List.map_cons, List.nodup_cons]
      refine ⟨fun again => ?_, ih⟩
      obtain ⟨c, later, same⟩ := List.mem_map.mp again
      exact (mem_newCandidates_iff.mp later).2.1 (same ▸ List.mem_cons_self ..)
    · exact ih

/-- A candidate is a member that nobody has brought before. It comes from the first feature that
links it, and is the first of its identity there. -/
theorem mem_brought_iff {members seen : List String} {fs : List (Feature ω)} {f : Feature ω}
    {c : Campaign ω} :
    (f, c) ∈ brought members seen fs ↔ c.identity ∈ members ∧ c.identity ∉ seen ∧
      fs.find? (fun g => links g c.identity) = some f ∧ f.linkedAs? c.identity = some c := by
  induction fs generalizing seen with
  | nil => simp [brought]
  | cons g rest ih =>
    have here : (f, c) ∈ (newCandidates members seen g.linked).map (fun d => (g, d)) ↔
        f = g ∧ c ∈ newCandidates members seen g.linked := by
      simp [eq_comm, and_comm]
    unfold brought
    rw [List.mem_append, here, ih, mem_newCandidates_iff, List.find?_cons]
    cases linked : links g c.identity with
    | true =>
      obtain ⟨d, first⟩ := links_iff_linkedAs?.mp linked
      obtain ⟨-, same⟩ := Feature.linkedAs?_eq_some first
      -- What this feature links is not new any more for those that come later.
      have taken (member : c.identity ∈ members) (new : c.identity ∉ seen) :
          c.identity ∈ (newCandidates members seen g.linked).map (·.identity) := by
        have brings : d ∈ newCandidates members seen g.linked := by
          rw [mem_newCandidates_iff, same]
          exact ⟨member, new, first⟩
        exact List.mem_map.mpr ⟨d, brings, same⟩
      constructor
      · rintro (⟨rfl, member, new, found⟩ | ⟨member, new, -, -⟩)
        · exact ⟨member, new, rfl, found⟩
        · rw [List.mem_append, not_or] at new
          exact absurd (taken member new.1) new.2
      · rintro ⟨member, new, found, own⟩
        cases found
        exact Or.inl ⟨rfl, member, new, own⟩
    | false =>
      have absent : g.linkedAs? c.identity ≠ some c := fun found => by
        have linked' := links_iff_linkedAs?.mpr ⟨c, found⟩
        rw [linked] at linked'
        cases linked'
      have untouched : c.identity ∉ (newCandidates members seen g.linked).map (·.identity) := by
        intro among
        obtain ⟨d, inside, same⟩ := List.mem_map.mp among
        have linked' := links_iff.mpr ⟨d, newCandidates_subset inside, same⟩
        rw [linked] at linked'
        cases linked'
      constructor
      · rintro (⟨rfl, -, -, found⟩ | ⟨member, new, found, first⟩)
        · exact absurd found absent
        · exact ⟨member, fun before => new (List.mem_append_left _ before), found, first⟩
      · rintro ⟨member, new, found, first⟩
        refine Or.inr ⟨member, ?_, found, first⟩
        rw [List.mem_append, not_or]
        exact ⟨new, untouched⟩

theorem brought_identities {members seen : List String} {fs : List (Feature ω)} :
    ((brought members seen fs).map (·.2.identity)).Nodup := by
  induction fs generalizing seen with
  | nil => exact List.nodup_nil
  | cons g rest ih =>
    unfold brought
    rw [List.map_append, List.map_map, List.nodup_append]
    refine ⟨newCandidates_identities, ih, ?_⟩
    intro identity here other later same
    obtain ⟨⟨f, c⟩, member, rfl⟩ := List.mem_map.mp later
    refine (mem_brought_iff.mp member).2.1 (List.mem_append_right _ ?_)
    exact same ▸ here

/-- Every candidate is a member that the feature which brings it links. -/
theorem candidates_linked {s : Type} (gate : Feature ω → StateT s Inquiry Bool)
    (members seen : List String) (fs : List (Feature ω)) :
    Always (fun _ => True) (fun found => ∀ candidate ∈ found,
      candidate.1 ∈ fs ∧ candidate.2 ∈ candidate.1.linked ∧ candidate.2.identity ∈ members)
      (candidates gate members seen fs) := by
  induction fs generalizing seen with
  | nil => exact always_pure (List.forall_mem_nil _)
  | cons f rest ih =>
    refine (always_trivial (gate f)).bind fun passed _ => ?_
    split
    · refine (ih _).bind fun others inside => always_pure fun candidate found => ?_
      rcases List.mem_append.mp found with new | later
      · obtain ⟨c, among, rfl⟩ := List.mem_map.mp new
        obtain ⟨member, -⟩ := mem_newCandidates_iff.mp among
        exact ⟨List.mem_cons_self .., newCandidates_subset among, member⟩
      · obtain ⟨inside, held⟩ := inside candidate later
        exact ⟨List.mem_cons_of_mem _ inside, held⟩
    · exact fun state => (ih seen state).mono (fun _ asked => asked) fun _ inside candidate found =>
        ⟨List.mem_cons_of_mem _ (inside candidate found).1, (inside candidate found).2⟩

end Contest

end FeatureFlags
