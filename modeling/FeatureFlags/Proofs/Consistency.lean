import FeatureFlags.Proofs.Picking

namespace FeatureFlags

variable {ω : Type}

namespace Campaign

/-- The compiled conditions are those of the documents. -/
structure Compiled (c : Campaign ω) : Prop where
  own : c.segment = Segment.compile? c.segments
  variations : ∀ v ∈ c.variations, v.segment = Segment.compile? v.segments

/-- A document of the campaign, or of one of its variations, is a condition that needs gateway
data. -/
def DocumentRequiresGateway (c : Campaign ω) : Prop :=
  ∃ document ∈ c.segments :: c.variations.map (·.segments),
    ∃ segment ∈ Segment.compile? document, segment.requiresGateway = true

theorem Compiled.requiresGateway_iff {c : Campaign ω} (compiled : c.Compiled) :
    c.requiresGateway = true ↔ c.DocumentRequiresGateway := by
  have variations : (∃ s ∈ c.variations.filterMap (·.segment), s.requiresGateway = true) ↔
      ∃ document ∈ c.variations.map (·.segments),
        ∃ s, Segment.compile? document = some s ∧ s.requiresGateway = true := by
    constructor
    · rintro ⟨s, inside, required⟩
      obtain ⟨v, among, own⟩ := List.mem_filterMap.mp inside
      rw [compiled.variations v among] at own
      exact ⟨v.segments, List.mem_map_of_mem among, s, own, required⟩
    · rintro ⟨document, inside, s, own, required⟩
      obtain ⟨v, among, rfl⟩ := List.mem_map.mp inside
      rw [← compiled.variations v among] at own
      exact ⟨s, List.mem_filterMap.mpr ⟨v, among, own⟩, required⟩
  rw [requiresGateway, List.any_append, Bool.or_eq_true, List.any_eq_true, List.any_eq_true,
    variations, compiled.own]
  simp only [DocumentRequiresGateway, List.mem_cons, exists_eq_or_imp, Option.mem_toList,
    Option.mem_def]

theorem Compiled.narrowed {c : Campaign ω} (compiled : c.Compiled) (rule : Rule) :
    (c.narrowed rule).Compiled :=
  ⟨compiled.own, fun v inside => compiled.variations v (narrowed_variations_subset inside)⟩

/-- The copy of a campaign that a rule asks for: with the rule's key if it has one, and with the
variation that it names alone, just as the campaign has it, if there is one. -/
structure CopyFor (rule : Rule) (c copy : Campaign ω) : Prop where
  same : copy = { c with ruleKey := copy.ruleKey, variations := copy.variations }
  replaced : ∀ key ∈ rule.ruleKey, copy.ruleKey = some key
  kept : rule.ruleKey = none → copy.ruleKey = c.ruleKey
  alone : ∀ id ∈ rule.variation, ∀ front v back, c.variations = front ++ v :: back →
    v.id = id → (∀ w ∈ front, w.id ≠ id) → copy.variations = [v]
  all : (∀ id ∈ rule.variation, ∀ v ∈ c.variations, v.id ≠ id) → copy.variations = c.variations

theorem copyFor_narrowed (rule : Rule) (c : Campaign ω) : CopyFor rule c (c.narrowed rule) where
  same := rfl
  replaced key own := by
    rw [narrowed, Option.mem_def.mp own]
    rfl
  kept none := by
    rw [narrowed, none]
    rfl
  alone id named front v back split own before := by
    have found : c.variation? id = some v := by
      rw [variation?, split, List.find?_append, List.find?_eq_none.mpr (by simpa using before),
        Option.none_or, List.find?_cons_of_pos (by simpa using own)]
    rw [narrowed, Option.mem_def.mp named, Option.bind_some, found]
  all absent := by
    have missing : rule.variation.bind c.variation? = none := by
      refine Option.bind_eq_none_iff.mpr fun id named => ?_
      exact List.find?_eq_none.mpr (by simpa using absent id named)
    rw [narrowed, missing]

theorem zipWith_prepared_again (ranges : List (Option BucketRange)) (vs : List (Variation ω)) :
    List.zipWith Variation.prepared ranges (List.zipWith Variation.prepared ranges vs) =
      List.zipWith Variation.prepared ranges vs := by
  induction ranges generalizing vs with
  | nil => rfl
  | cons range rest ih =>
    cases vs with
    | nil => rfl
    | cons v others =>
      rw [List.zipWith_cons_cons, List.zipWith_cons_cons, ih]
      rfl

section

variable [Quantity ω] {c : Campaign ω}

theorem compiled_prepared : c.prepared.Compiled := by
  refine ⟨rfl, fun v inside => ?_⟩
  rw [prepared, ← List.map_uncurry_zip_eq_zipWith] at inside
  obtain ⟨⟨range, raw⟩, -, rfl⟩ := List.mem_map.mp inside
  rfl

/-- What is prepared stays as it is, for neither weights nor documents have changed. -/
theorem prepared_prepared : c.prepared.prepared = c.prepared := by
  have weights : c.prepared.variations.map (·.weight) = c.variations.map (·.weight) :=
    (zipWith_prepared c.length_ranges).2
  have ranges : c.prepared.ranges = c.ranges := by
    unfold Campaign.ranges
    rw [weights]
    rfl
  have again := zipWith_prepared_again c.ranges c.variations
  unfold prepared at ranges ⊢
  dsimp only
  rw [ranges, again]

end

end Campaign

namespace Feature

/-- The feature has a campaign for each of its rules, a copy of the one that the rule names, and
needs gateway data exactly if one of these does. Nothing else of it has changed. -/
structure LinkedFrom (raw : Feature ω) (campaigns : List (Campaign ω)) (f : Feature ω) :
    Prop where
  same : f = { raw with linked := f.linked, requiresGateway := f.requiresGateway }
  copies : List.Forall₂ (fun rule copy => ∃ source ∈ campaigns, source.id = rule.campaign ∧
    Campaign.CopyFor rule source copy) raw.rules f.linked
  gateway : f.requiresGateway = true ↔ ∃ c ∈ f.linked, c.DocumentRequiresGateway

theorem linkedFrom_prepared {raw f : Feature ω} {campaigns : List (Campaign ω)}
    (compiled : ∀ c ∈ campaigns, c.Compiled) (ready : raw.prepared campaigns = .ok f) :
    raw.LinkedFrom campaigns f := by
  obtain ⟨linked, links, rfl⟩ := prepared_eq_ok_iff.mp ready
  have copies := link_eq_ok_iff.mp links
  refine ⟨rfl, copies.imp ?_, ?_⟩
  · rintro rule copy ⟨source, found, rfl⟩
    exact ⟨source, List.mem_of_find?_eq_some found, by simpa using List.find?_some found,
      Campaign.copyFor_narrowed rule source⟩
  · dsimp only
    rw [List.any_eq_true]
    refine exists_congr fun c => and_congr_right fun inside => ?_
    obtain ⟨rule, -, source, found, rfl⟩ := exists_of_forall₂_of_mem copies inside
    have own := (compiled source (List.mem_of_find?_eq_some found)).narrowed rule
    exact own.requiresGateway_iff

end Feature

namespace Settings

variable [Quantity ω] {settings done : Settings ω}

/-- Of settings that have been processed everything is derived already. -/
theorem process_again (processing : settings.process = .ok done) : done.process = .ok done := by
  obtain ⟨distinct, features, ready, rfl⟩ := process_eq_ok_iff.mp processing
  have same : (settings.campaigns.map (·.prepared)).map (·.prepared) =
      settings.campaigns.map (·.prepared) := by
    simp only [List.map_map, Function.comp_def, Campaign.prepared_prepared]
  refine process_eq_ok_iff.mpr ⟨?_, features, ?_, ?_⟩
  · rwa [List.map_map]
  · dsimp only
    rw [same, List.forall₂_same]
    intro f member
    obtain ⟨raw, -, prepared⟩ := exists_of_forall₂_of_mem ready member
    obtain ⟨linked, links, rfl⟩ := Feature.prepared_eq_ok_iff.mp prepared
    refine Feature.prepared_eq_ok_iff.mpr ⟨linked, ?_, rfl⟩
    -- Which campaigns are linked depends on the rules only, and these are still the same.
    rw [Feature.link_eq_ok_iff] at links ⊢
    exact links
  · dsimp only
    rw [same]

/-- Processing accepts the consistent settings. Of others it tells the first campaign id that
repeats an earlier one, or else the first rule that names no campaign. What it gives has all links,
and stays the same when it is processed again. -/
theorem consistent_settings_are_processed (settings : Settings ω) :
    ((∃ done, settings.process = .ok done) ↔ settings.Consistent) ∧
    (∀ id, settings.process = .error (.duplicateCampaign id) ↔
      FirstRepeat (settings.campaigns.map (·.id)) id) ∧
    (∀ key id, settings.process = .error (.unknownCampaign key id) ↔
      (settings.campaigns.map (·.id)).Nodup ∧
        ∃ f rule, settings.FirstUnknown f rule ∧ f.key = key ∧ rule.campaign = id) ∧
    settings.process ≠ .error .malformed ∧
    ∀ done, settings.process = .ok done →
      done = { settings with
        features := done.features, campaigns := settings.campaigns.map (·.prepared) } ∧
      List.Forall₂ (fun raw f => raw.LinkedFrom done.campaigns f) settings.features done.features ∧
      done.process = .ok done := by
  refine ⟨process_isOk_iff, fun id => ?_, fun key id => ?_, ?_, fun done processing => ?_⟩
  · rw [process_eq_error_iff]
    simp
  · rw [process_eq_error_iff]
    simp [eq_comm]
  · rw [Ne, process_eq_error_iff]
    simp
  · have again := process_again processing
    obtain ⟨-, features, ready, rfl⟩ := process_eq_ok_iff.mp processing
    have compiled : ∀ c ∈ settings.campaigns.map (·.prepared), c.Compiled := by
      intro c inside
      obtain ⟨raw, -, rfl⟩ := List.mem_map.mp inside
      exact Campaign.compiled_prepared
    exact ⟨rfl, ready.imp fun _ _ => Feature.linkedFrom_prepared compiled, again⟩

end Settings

/-- A menu in two forms. A rule names the second one, under a key of its own. -/
def menu : Settings Binary64 where
  features := [
    { id := 1, key := "menu", name := none, values := [],
      rules := [⟨10, some 2, none, some "evening"⟩, ⟨10, none, none, none⟩] }]
  campaigns := [⟨10, "menu_ab", none, .ab, 100, .null, false, false,
    [⟨1, "day", none, 50, .null, [], none, none, none⟩,
     ⟨2, "night", none, 50, .null, [], none, none, none⟩], none, none, none, none⟩]
  groups := []
  campaignGroups := []
  account := 1
  sdkKey := none
  version := none

/-- The menu is processed once for all. With its campaign twice, or without it, it is rejected. -/
theorem menu_is_processed :
    (∃ done, menu.process = .ok done ∧ done.process = .ok done ∧
      ∃ f evening other, done.features = [f] ∧ f.linked = [evening, other] ∧
        evening.ruleKey = some "evening") ∧
    { menu with campaigns := menu.campaigns ++ menu.campaigns }.process =
      .error (.duplicateCampaign 10) ∧
    { menu with campaigns := [] }.process = .error (.unknownCampaign "menu" 10) := by
  obtain ⟨accepted, -, -, -, given⟩ := Settings.consistent_settings_are_processed menu
  have consistent : menu.Consistent := ⟨by decide +kernel, by
    simp [menu, Rule.NamesIn]⟩
  obtain ⟨done, processing⟩ := accepted.mpr consistent
  obtain ⟨-, linked, again⟩ := given done processing
  obtain ⟨f, rest, links, none, only⟩ := List.forall₂_cons_left_iff.mp linked
  rw [List.forall₂_nil_left_iff] at none
  subst none
  obtain ⟨evening, others, ⟨source, -, -, copy⟩, more, two⟩ := List.forall₂_cons_left_iff.mp
    links.copies
  obtain ⟨other, rest, -, none, rfl⟩ := List.forall₂_cons_left_iff.mp more
  rw [List.forall₂_nil_left_iff] at none
  subst none
  refine ⟨⟨done, processing, again, f, evening, other, only, two, copy.replaced _ rfl⟩, ?_, ?_⟩
  · obtain ⟨-, duplicate, -⟩ := Settings.consistent_settings_are_processed
      { menu with campaigns := menu.campaigns ++ menu.campaigns }
    exact (duplicate 10).mpr ⟨[10], [], rfl, by decide, by decide⟩
  · obtain ⟨-, -, unknown, -⟩ := Settings.consistent_settings_are_processed
      { menu with campaigns := [] }
    exact (unknown "menu" 10).mpr ⟨List.nodup_nil, _, _,
      ⟨[], [], [], _, rfl, List.forall_mem_nil _, rfl, List.forall_mem_nil _, List.not_mem_nil⟩,
      rfl, rfl⟩

end FeatureFlags
