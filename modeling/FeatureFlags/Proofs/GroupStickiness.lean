import FeatureFlags.Proofs.Arena
import FeatureFlags.Proofs.Exclusivity

namespace FeatureFlags

/-- Where keys are unique, what satisfies a condition that one element alone satisfies is this
element. -/
theorem filter_eq_singleton {α β : Type} {key : α → β} {xs : List α} {p : α → Bool} {a : α}
    (distinct : (xs.map key).Nodup) (member : a ∈ xs) (holds : p a = true)
    (alone : ∀ b ∈ xs, p b = true → key b = key a) : xs.filter p = [a] := by
  have same : ∀ b ∈ xs.filter p, b = a := by
    intro b found
    obtain ⟨inside, held⟩ := List.mem_filter.mp found
    exact List.inj_on_of_nodup_map distinct inside member (alone b inside held)
  have nodup : (xs.filter p).Nodup := (List.Nodup.of_map key distinct).filter p
  rw [List.eq_replicate_of_mem same] at nodup ⊢
  have most := List.nodup_replicate.mp nodup
  have some := List.length_pos_of_mem (List.mem_filter.mpr ⟨member, holds⟩)
  rw [show (xs.filter p).length = 1 by omega]
  rfl

namespace Contest.Arena

variable {ω s σ : Type}

/-- Some open feature keeps a decision about a member that it links. -/
def KeptSomewhere (arena : Arena ω s σ) (identity : String) : Prop :=
  ∃ f ∈ arena.scope.settings.features, arena.opens f = true ∧
    ∃ c ∈ f.linked, c.identity = identity ∧ arena.scope.Keeps arena.replies f c

/-- The first open feature that links a member keeps a decision about it. -/
def KeptFirst (arena : Arena ω s σ) (group : Group ω) (identity : String) : Prop :=
  ∃ f c, arena.scope.sponsor? arena.opens group identity = some f ∧
    f.linkedAs? identity = some c ∧ arena.scope.Keeps arena.replies f c

instance (arena : Arena ω s σ) (identity : String) : Decidable (arena.KeptSomewhere identity) :=
  inferInstanceAs (Decidable (∃ f ∈ arena.scope.settings.features, arena.opens f = true ∧
    ∃ c ∈ f.linked, c.identity = identity ∧ arena.scope.Keeps arena.replies f c))

instance (arena : Arena ω s σ) (group : Group ω) (identity : String) :
    Decidable (arena.KeptFirst group identity) :=
  decidable_of_iff ((arena.scope.sponsor? arena.opens group identity).any (fun f =>
    (f.linkedAs? identity).any fun c => decide (arena.scope.Keeps arena.replies f c)) = true) (by
      simp [KeptFirst, Option.any_eq_true])

variable {arena : Arena ω s σ}

theorem kept_of_keptFirst {group : Group ω} {identity : String}
    (alone : ∀ member ∈ group.members, arena.KeptFirst group member ↔ member = identity)
    (member : identity ∈ group.members) : ∃ c, c.identity = identity ∧
      arena.scope.kept arena.replies arena.opens group = [c] := by
  obtain ⟨f, c, first, own, keeps⟩ := (alone identity member).mpr rfl
  obtain ⟨-, same⟩ := Feature.linkedAs?_eq_some own
  refine ⟨c, same, ?_⟩
  have candidate : (f, c) ∈ arena.scope.field arena.opens group := by
    rw [Scope.mem_field_iff, same]
    exact ⟨member, first, own⟩
  have others : ∀ other ∈ arena.scope.field arena.opens group,
      arena.scope.keepsCandidate arena.replies other = true → other.2.identity = c.identity := by
    rintro ⟨g, d⟩ inside kept
    obtain ⟨among, first, own⟩ := Scope.mem_field_iff.mp inside
    rw [same]
    exact (alone d.identity among).mp ⟨g, d, first, own, Scope.keepsCandidate_iff.mp kept⟩
  rw [Scope.kept, filter_eq_singleton Scope.field_identities candidate
    (Scope.keepsCandidate_iff.mpr keeps) others]
  rfl

variable [Quantity ω]

/-- The member about which alone the first open feature that links it keeps a decision wins the
group, whatever is known about the others: features that link it see it win, all others nobody. -/
theorem kept_member_wins {id : UInt64} {group : Group ω}
    (found : arena.scope.settings.group? id = some group) {identity : String}
    (member : identity ∈ group.members)
    (alone : ∀ other ∈ group.members, arena.KeptFirst group other ↔ other = identity)
    (start : arena.Start) (asking : Feature ω) :
    ((∃ d ∈ asking.linked, d.identity = identity) →
      ∃ c, arena.winner? start id asking = some c ∧ c.identity = identity) ∧
    ((¬∃ d ∈ asking.linked, d.identity = identity) → arena.winner? start id asking = none) := by
  obtain ⟨c, same, kept⟩ := kept_of_keptFirst alone member
  have won := winner?_of_kept found kept start asking
  rw [← same, ← links_iff]
  constructor
  · intro linked
    rw [won, Option.filter_some, if_pos linked]
    exact ⟨c, rfl, rfl⟩
  · intro apart
    rw [won, Option.filter_some, if_neg apart]

end Contest.Arena

/-- The trials, with these records in store, of a user about whose country nothing is known. -/
def trialArena (records : List Record) : Contest.Arena Binary64 Session Store :=
  .ofRules ⟨trialSettings, trialUser, none⟩
    (Services.inMemory (fun _ => .ok none) trialGateway) (· = ⟨records⟩)
    (.ofStore ⟨records⟩ (fun _ => .ok none) trialGateway) (Services.inMemory_stay _)
    (Services.inMemory_answer _) trialSettings_distinct

def trialStart (records : List Record) : (trialArena records).Start :=
  ⟨{}, ⟨⟨records⟩, [], []⟩, rfl, Session.sound_empty _ _⟩

/-- The record that a feature keeps when it has granted the trial of the map. -/
def trialRecord (featureKey : String) : Record :=
  { featureKey := featureKey, user := "ann", experimentId := some 10,
    experimentKey := some "map_ab", experimentVariation := some 1 }

/-- With a record of the map itself, the map and the atlas stay with its trial, though the user may
not enter it any more, and the search has lost. -/
theorem map_trial_stays : ∃ group, trialSettings.group? 5 = some group ∧ "10" ∈ group.members ∧
    (∀ other ∈ group.members,
      (trialArena [trialRecord "map"]).KeptFirst group other ↔ other = "10") ∧
    (∀ f ∈ trialSettings.features, f.key = "map" ∨ f.key = "atlas" →
      ∃ c, (trialArena [trialRecord "map"]).winner? (trialStart _) 5 f = some c ∧
        c.identity = "10") ∧
    ∀ f ∈ trialSettings.features, f.key = "search" →
      (trialArena [trialRecord "map"]).winner? (trialStart _) 5 f = none := by
  obtain ⟨group, found, member, alone⟩ : ∃ group ∈ trialSettings.group? 5, "10" ∈ group.members ∧
      ∀ other ∈ group.members,
        (trialArena [trialRecord "map"]).KeptFirst group other ↔ other = "10" := by
    decide +kernel
  have linked : ∀ f ∈ trialSettings.features, f.key = "map" ∨ f.key = "atlas" →
      ∃ d ∈ f.linked, d.identity = "10" := by
    decide +kernel
  have apart : ∀ f ∈ trialSettings.features, f.key = "search" →
      ¬∃ d ∈ f.linked, d.identity = "10" := by
    decide +kernel
  refine ⟨group, found, member, alone, fun f inside key => ?_, fun f inside key => ?_⟩
  · exact (Contest.Arena.kept_member_wins found member alone (trialStart _) f).1 (linked f inside key)
  · exact (Contest.Arena.kept_member_wins found member alone (trialStart _) f).2 (apart f inside key)

/-- With the same record of the atlas alone nobody remembers: the map is asked first, so the atlas,
where the record is, does not see its own trial win. -/
theorem atlas_trial_lost : trialSettings.Processed ∧
    (trialSettings.features.map (·.key)).Nodup ∧ (trialSettings.campaigns.map (·.key)).Nodup ∧
    (∀ c ∈ trialSettings.campaigns, c.key ≠ "") ∧
    (∃ group ∈ trialSettings.group? 5, "10" ∈ group.members ∧ ∀ other ∈ group.members,
      (trialArena [trialRecord "atlas"]).KeptSomewhere other ↔ other = "10") ∧
    ∃ f ∈ trialSettings.features, f.key = "atlas" ∧ (∃ d ∈ f.linked, d.identity = "10") ∧
      (trialArena [trialRecord "atlas"]).winner? (trialStart _) 5 f = none :=
  ⟨trialSettings_processed, by decide +kernel⟩

end FeatureFlags
