import FeatureFlags.Proofs.Exclusivity
import FeatureFlags.Proofs.SegmentMeaning

namespace FeatureFlags

namespace Segment

variable {ω : Type} {scope : Scope ω} {places : List (LocationKey × String)}

/-- Leaves that ask for one place each. -/
def placeLeaves (places : List (LocationKey × String)) : List Segment :=
  places.map fun place => .location place.1 place.2

theorem location?_of_mem_placeLeaves {child : Segment} (leaf : child ∈ placeLeaves places) :
    child.location?.isSome := by
  obtain ⟨place, -, rfl⟩ := List.mem_map.mp leaf
  rfl

theorem filterMap_location?_placeLeaves : (placeLeaves places).filterMap location? = places := by
  rw [placeLeaves, List.filterMap_map]
  exact List.filterMap_some

theorem jointPlaces_placeLeaves_iff :
    JointPlaces (placeLeaves places) ↔ places ≠ [] ∧ (places.map (·.1)).Nodup := by
  rw [JointPlaces, filterMap_location?_placeLeaves, placeLeaves, Ne, List.map_eq_nil_iff]
  exact and_congr_right fun _ => and_iff_right fun _ => location?_of_mem_placeLeaves

/-- Leaves that ask for different kinds of places decide together. -/
theorem holds_and_placeLeaves (nonempty : places ≠ []) (distinct : (places.map (·.1)).Nodup)
    (scope : Scope ω) (attributes : Attributes) :
    holds scope attributes (.and (placeLeaves places)) = locationsHold scope places := by
  rw [holds_and, if_pos (jointPlaces_placeLeaves_iff.mpr ⟨nonempty, distinct⟩),
    filterMap_location?_placeLeaves]

/-- Where a kind of place is asked for twice, the leaves never decide, and as there is nothing else
to ask for, everybody is let in. -/
theorem holds_and_placeLeaves_of_repeated (repeated : ¬(places.map (·.1)).Nodup) (scope : Scope ω)
    (attributes : Attributes) : holds scope attributes (.and (placeLeaves places)) = pure true := by
  have others : (placeLeaves places).filter (fun child => child.location?.isNone) = [] := by
    refine List.filter_eq_nil_iff.mpr fun child leaf => ?_
    rw [Option.isNone_iff_eq_none]
    exact Option.isSome_iff_ne_none.mp (location?_of_mem_placeLeaves leaf)
  rw [holds_and, if_neg fun joint => repeated (jointPlaces_placeLeaves_iff.mp joint).2, others]
  rfl

/-- A user is in several places if in each of them. -/
theorem inPlaces_iff_forall (nonempty : places ≠ []) :
    InPlaces scope places ↔ ∀ place ∈ places, InPlaces scope [place] := by
  constructor
  · rintro ⟨address, data, known, located, agree⟩ place among
    refine ⟨address, data, known, located, fun key value single => ?_⟩
    exact agree key value (List.mem_singleton.mp single ▸ among)
  · intro each
    obtain ⟨place, among⟩ := List.exists_mem_of_ne_nil places nonempty
    obtain ⟨address, data, known, located, -⟩ := each place among
    refine ⟨address, data, known, located, fun key value inside => ?_⟩
    obtain ⟨-, _, known', -, agree⟩ := each (key, value) inside
    obtain rfl := Option.some.inj (known.symm.trans known')
    exact agree key value (List.mem_singleton_self _)

section Run

variable {σ : Type} (services : Services σ) (attributes : Attributes) (journal : Journal σ)

/-- No services are asked to tell where a user is. -/
theorem run_locationsHold_iff :
    ((locationsHold scope places).run services journal).1 = true ↔ InPlaces scope places := by
  let replies : Replies := ⟨fun _ _ => none, fun _ => false, fun _ => none⟩
  have silent : ((locationsHold scope places).run services journal).1 =
      (locationsHold scope places).answer replies := by
    unfold locationsHold
    split <;> rfl
  rw [silent, locationsHold_iff]

/-- Places of different kinds that are asked for together are open only to users with an address who
are known to be in each of them, as they would be if each was asked for on its own. -/
theorem distinct_places_fail_closed (nonempty : places ≠ []) (distinct : (places.map (·.1)).Nodup)
    (scope : Scope ω) :
    let held (asked : List (LocationKey × String)) : Bool :=
      ((holds scope attributes (.and (placeLeaves asked))).run services journal).1
    (held places = true ↔ InPlaces scope places) ∧
      (scope.user.ip? = none ∨ (∀ data, scope.gateway? = some data → data.location = []) →
        held places = false) ∧
      (held places = true ↔ ∀ place ∈ places, held [place] = true) := by
  intro held
  have decided : held places = true ↔ InPlaces scope places := by
    simp only [held, holds_and_placeLeaves nonempty distinct, run_locationsHold_iff]
  have single (place : LocationKey × String) : held [place] = true ↔ InPlaces scope [place] := by
    simp only [held, holds_and_placeLeaves (List.cons_ne_nil place []) (List.nodup_singleton _),
      run_locationsHold_iff]
  refine ⟨decided, fun unknown => ?_, ?_⟩
  · rw [← Bool.not_eq_true, decided]
    rintro ⟨address, data, known, located, -⟩
    rcases unknown with missing | unlocated
    · rw [missing] at address
      cases address
    · exact located (unlocated data known)
  · rw [decided, inPlaces_iff_forall nonempty]
    exact forall₂_congr fun place _ => (single place).symm

end Run

/-- A user in a town, with quotes around its name. -/
def townUser : User where
  id := "ann"
  ipAddress := some "10.0.0.1"
  gateway := some { location := [("country", "US"), ("city", "\"Boston\"")] }

/-- Whether a user of no settings in particular is let in by places that are asked for together. -/
def letsIn (user : User) (places : List (LocationKey × String)) : Bool :=
  ((holds ⟨trialSettings, user, none⟩ ⟨[], some user.id⟩ (.and (placeLeaves places))).run
    Services.none ⟨(), [], []⟩).1

/-- The town is open to those who are in it, but not without an address. -/
theorem town_is_for_users_in_town :
    letsIn townUser [(.country, "US"), (.city, "Boston")] = true ∧
      (∀ place ∈ [(.country, "US"), (.city, "Boston")], letsIn townUser [place] = true) ∧
      letsIn { townUser with ipAddress := none } [(.country, "US"), (.city, "Boston")] = false := by
  have nonempty : [(LocationKey.country, "US"), (.city, "Boston")] ≠ [] := List.cons_ne_nil _ _
  have distinct : ([(LocationKey.country, "US"), (.city, "Boston")].map (·.1)).Nodup := by decide
  obtain ⟨-, -, conjunction⟩ := distinct_places_fail_closed Services.none ⟨[], some "ann"⟩
    ⟨(), [], []⟩ nonempty distinct ⟨trialSettings, townUser, none⟩
  obtain ⟨-, closed, -⟩ := distinct_places_fail_closed Services.none ⟨[], some "ann"⟩
    ⟨(), [], []⟩ nonempty distinct ⟨trialSettings, { townUser with ipAddress := none }, none⟩
  have inside : letsIn townUser [(.country, "US"), (.city, "Boston")] = true := by decide +kernel
  exact ⟨inside, conjunction.mp inside, closed (Or.inl rfl)⟩

/-- Two countries are open to a user without an address, while neither of them is. -/
theorem two_countries_are_open_to_everybody :
    Segment.compile? (.object [("and", .array [.object [("country", .string "US")],
      .object [("country", .string "DE")]])]) =
      some (.and (placeLeaves [(.country, "US"), (.country, "DE")])) ∧
    ¬InPlaces ⟨trialSettings, { id := "ann" }, none⟩ [(.country, "US"), (.country, "DE")] ∧
    letsIn { id := "ann" } [(.country, "US"), (.country, "DE")] = true ∧
    letsIn { id := "ann" } [(.country, "US")] = false ∧
    letsIn { id := "ann" } [(.country, "DE")] = false := by
  have repeated : ¬([(LocationKey.country, "US"), (.country, "DE")].map (·.1)).Nodup := by decide
  refine ⟨rfl, fun inside => absurd inside.1 (by decide), ?_, by decide +kernel, by decide +kernel⟩
  rw [letsIn, holds_and_placeLeaves_of_repeated repeated]
  rfl

end Segment

end FeatureFlags
