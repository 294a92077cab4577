import FeatureFlags.Session
import FeatureFlags.Proofs.Processing

namespace FeatureFlags

variable {ω : Type}

/-- Where keys differ, an element is the one that is found by its key. -/
theorem find?_of_nodup_map {α κ : Type} [DecidableEq κ] {key : α → κ} {xs : List α}
    (nodup : (xs.map key).Nodup) {a : α} (member : a ∈ xs) :
    (xs.find? fun b => key b = key a) = some a := by
  cases found : xs.find? fun b => key b = key a with
  | none =>
    have apart := List.find?_eq_none.mp found a member
    simp at apart
  | some b =>
    have same : key b = key a := by simpa using List.find?_some found
    rw [List.inj_on_of_nodup_map nodup (List.mem_of_find?_eq_some found) member same]

theorem Campaign.narrowed_variations_subset {c : Campaign ω} {rule : Rule} {v : Variation ω}
    (member : v ∈ (c.narrowed rule).variations) : v ∈ c.variations := by
  unfold narrowed at member
  dsimp only at member
  split at member
  · rename_i only found
    obtain ⟨id, _, named⟩ := Option.bind_eq_some_iff.mp found
    rw [List.mem_singleton.mp member]
    exact List.mem_of_find?_eq_some named
  · exact member

/-- Settings that processing has given. -/
def Settings.Processed [Quantity ω] (settings : Settings ω) : Prop :=
  ∃ raw : Settings ω, raw.process = .ok settings

theorem Settings.processed_getD [Quantity ω] {raw : Settings ω}
    (succeeds : raw.process.toOption.isSome) : (raw.process.toOption.getD .empty).Processed := by
  refine ⟨raw, ?_⟩
  cases processing : raw.process with
  | ok settings => rfl
  | error e =>
    rw [processing] at succeeds
    cases succeeds

namespace Settings.Processed

variable [Quantity ω] {settings : Settings ω}

/-- Campaigns of different ids are prepared, and then features with them. -/
theorem sources (processed : settings.Processed) : ∃ raw : Settings ω,
    (raw.campaigns.map (·.id)).Nodup ∧ settings.campaigns = raw.campaigns.map (·.prepared) ∧
      ∀ f ∈ settings.features, ∃ before ∈ raw.features,
        before.prepared settings.campaigns = .ok f := by
  obtain ⟨raw, processing⟩ := processed
  obtain ⟨distinct, features, ready, rfl⟩ := process_eq_ok_iff.mp processing
  exact ⟨raw, distinct, rfl, fun f member => exists_of_forall₂_of_mem ready member⟩

/-- The rules of a feature link copies of the campaigns that they name. -/
theorem copies (processed : settings.Processed) {f : Feature ω} (member : f ∈ settings.features) :
    List.Forall₂ (fun rule copy => ∃ source, settings.campaign? rule.campaign = some source ∧
      copy = source.narrowed rule) f.rules f.linked := by
  obtain ⟨raw, _, _, features⟩ := processed.sources
  obtain ⟨before, _, ready⟩ := features f member
  obtain ⟨linked, links, rfl⟩ := Feature.prepared_eq_ok_iff.mp ready
  exact Feature.link_eq_ok_iff.mp links

/-- The ids of campaigns differ, and what rules link are narrowed copies of campaigns. -/
theorem links (processed : settings.Processed) :
    (settings.campaigns.map (·.id)).Nodup ∧ ∀ f ∈ settings.features, ∀ c ∈ f.linked,
      ∃ source ∈ settings.campaigns, ∃ rule, c = source.narrowed rule := by
  obtain ⟨raw, nodup, campaigns, -⟩ := processed.sources
  constructor
  · rwa [campaigns, List.map_map]
  · intro f member c linked
    have copies := processed.copies member
    obtain ⟨rule, _, source, found, same⟩ := exists_of_forall₂_of_mem copies linked
    exact ⟨source, List.mem_of_find?_eq_some found, rule, same⟩

/-- A feature needs gateway data exactly if a campaign that it links does. -/
theorem requiresGateway_eq (processed : settings.Processed) {f : Feature ω}
    (member : f ∈ settings.features) :
    f.requiresGateway = f.linked.any (·.requiresGateway) := by
  obtain ⟨raw, _, _, features⟩ := processed.sources
  obtain ⟨before, _, ready⟩ := features f member
  obtain ⟨linked, _, rfl⟩ := Feature.prepared_eq_ok_iff.mp ready
  rfl

theorem source (processed : settings.Processed) {f : Feature ω} {c : Campaign ω}
    (member : f ∈ settings.features) (linked : c ∈ f.linked) :
    ∃ source ∈ settings.campaigns, ∃ rule, c = source.narrowed rule :=
  processed.links.2 f member c linked

/-- What preparing gives and narrowing keeps is true of all campaigns, listed or linked. -/
theorem of_campaign {P : Campaign ω → Prop} (processed : settings.Processed)
    (prepared : ∀ raw : Campaign ω, P raw.prepared)
    (narrowed : ∀ c (rule : Rule), P c → P (c.narrowed rule)) {c : Campaign ω}
    (belongs : c ∈ settings.campaigns ∨ ∃ f ∈ settings.features, c ∈ f.linked) : P c := by
  obtain ⟨raw, -, campaigns, -⟩ := processed.sources
  have listed : ∀ d ∈ settings.campaigns, P d := by
    intro d among
    rw [campaigns] at among
    obtain ⟨written, -, rfl⟩ := List.mem_map.mp among
    exact prepared written
  rcases belongs with among | ⟨f, member, linked⟩
  · exact listed c among
  · obtain ⟨source, among, rule, rfl⟩ := processed.source member linked
    exact narrowed source rule (listed source among)

/-- The condition of a linked campaign is the one that its document compiles to. -/
theorem segment_eq (processed : settings.Processed) {f : Feature ω} {c : Campaign ω}
    (member : f ∈ settings.features) (linked : c ∈ f.linked) :
    c.segment = Segment.compile? c.segments :=
  processed.of_campaign (P := fun c => c.segment = Segment.compile? c.segments)
    (fun _ => rfl) (fun _ _ same => same) (Or.inr ⟨f, member, linked⟩)

theorem kind_eq_of_id_eq (processed : settings.Processed) {f g : Feature ω} {c d : Campaign ω}
    (inFirst : f ∈ settings.features) (inSecond : g ∈ settings.features) (linked : c ∈ f.linked)
    (linked' : d ∈ g.linked) (same : c.id = d.id) : c.kind = d.kind := by
  obtain ⟨source, among, rule, rfl⟩ := processed.source inFirst linked
  obtain ⟨other, among', rule', rfl⟩ := processed.source inSecond linked'
  have equal : source = other := List.inj_on_of_nodup_map processed.links.1 among among' same
  rw [equal]
  rfl

theorem id_eq_of_key_eq (processed : settings.Processed)
    (distinct : (settings.campaigns.map (·.key)).Nodup) {f : Feature ω} {c source : Campaign ω}
    (member : f ∈ settings.features) (linked : c ∈ f.linked) (among : source ∈ settings.campaigns)
    (same : c.key = source.key) : c.id = source.id := by
  obtain ⟨other, among', rule, rfl⟩ := processed.source member linked
  have equal : other = source := List.inj_on_of_nodup_map distinct among' among same
  rw [← equal]
  rfl

end Settings.Processed

namespace GroupWinner

/-- The winner that a campaign is also tells its identity. -/
theorem identity_eq_of_eq {c d : Campaign ω} (same : of c = of d) : c.identity = d.identity := by
  unfold of at same
  unfold Campaign.identity
  split at same <;> split at same <;> grind

end GroupWinner

end FeatureFlags
