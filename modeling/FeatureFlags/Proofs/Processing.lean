import FeatureFlags.Settings.Process
import Mathlib.Data.List.Forall2
import Mathlib.Data.List.Nodup

namespace FeatureFlags

section Lists

variable {α β ε : Type} {step : α → Except ε β}

theorem mapM_cons_except (x : α) (rest : List α) :
    (x :: rest).mapM step = match step x with
      | .error e => .error e
      | .ok y => match rest.mapM step with
        | .ok ys => .ok (y :: ys)
        | .error e => .error e := by
  rw [List.mapM_cons]
  cases step x with
  | error e => rfl
  | ok y => cases rest.mapM step <;> rfl

theorem mapM_eq_ok_iff {xs : List α} {ys : List β} :
    xs.mapM step = .ok ys ↔ List.Forall₂ (fun x y => step x = .ok y) xs ys := by
  induction xs generalizing ys with
  | nil =>
    rw [List.forall₂_nil_left_iff]
    exact ⟨fun same => (Except.ok.inj same).symm, fun same => same ▸ rfl⟩
  | cons x rest ih =>
    rw [mapM_cons_except, List.forall₂_cons_left_iff]
    cases first : step x with
    | error e => simp
    | ok y =>
      cases others : rest.mapM step with
      | error e => simp [← ih, others]
      | ok zs => simp [← ih, others, eq_comm]

theorem exists_of_forall₂_of_mem {R : α → β → Prop} {xs : List α} {ys : List β}
    (related : List.Forall₂ R xs ys) {y : β} (member : y ∈ ys) : ∃ x ∈ xs, R x y := by
  induction related with
  | nil => cases member
  | @cons x z xs zs first _ ih =>
    rcases List.mem_cons.mp member with rfl | later
    · exact ⟨x, List.mem_cons_self .., first⟩
    · obtain ⟨x', inside, second⟩ := ih later
      exact ⟨x', List.mem_cons_of_mem _ inside, second⟩

theorem mapM_isOk_iff {xs : List α} :
    (∃ ys, xs.mapM step = .ok ys) ↔ ∀ x ∈ xs, ∃ y, step x = .ok y := by
  induction xs with
  | nil => exact ⟨fun _ => nofun, fun _ => ⟨[], rfl⟩⟩
  | cons x rest ih =>
    rw [List.forall_mem_cons, ← ih, mapM_cons_except]
    cases step x <;> cases rest.mapM step <;> simp

/-- The error is that of the first element that has one. -/
theorem mapM_eq_error_iff {xs : List α} {e : ε} :
    xs.mapM step = .error e ↔ ∃ front x back, xs = front ++ x :: back ∧
      (∀ y ∈ front, ∃ z, step y = .ok z) ∧ step x = .error e := by
  constructor
  · intro fails
    induction xs with
    | nil => cases fails
    | cons x rest ih =>
      rw [mapM_cons_except] at fails
      cases first : step x with
      | error e' =>
        rw [first] at fails
        cases fails
        exact ⟨[], x, rest, rfl, nofun, first⟩
      | ok y =>
        simp only [first] at fails
        split at fails
        · cases fails
        rename_i later
        cases fails
        obtain ⟨front, x', back, rfl, passed, failed⟩ := ih later
        exact ⟨x :: front, x', back, rfl, List.forall_mem_cons.mpr ⟨⟨y, first⟩, passed⟩, failed⟩
  · rintro ⟨front, x, back, rfl, passed, failed⟩
    induction front with
    | nil => rw [List.nil_append, mapM_cons_except, failed]
    | cons y front ih =>
      obtain ⟨⟨z, first⟩, passed⟩ := List.forall_mem_cons.mp passed
      rw [List.cons_append, mapM_cons_except, first, ih passed]

variable [DecidableEq α] {seen xs : List α}

theorem firstRepeat?_eq_none_iff :
    firstRepeat? seen xs = none ↔ xs.Nodup ∧ ∀ a ∈ xs, a ∉ seen := by
  induction xs generalizing seen with
  | nil => exact ⟨fun _ => ⟨List.nodup_nil, nofun⟩, fun _ => rfl⟩
  | cons a rest ih =>
    unfold firstRepeat?
    by_cases repeated : a ∈ seen
    · simp [repeated]
    · simp only [repeated, if_false, ih, List.nodup_cons, List.mem_cons, not_or]
      grind

/-- An element that repeats an earlier one, behind elements that all differ. -/
def FirstRepeat (xs : List α) (a : α) : Prop :=
  ∃ front back, xs = front ++ a :: back ∧ front.Nodup ∧ a ∈ front

theorem firstRepeat?_eq_some_iff {a : α} : firstRepeat? seen xs = some a ↔
    ∃ front back, xs = front ++ a :: back ∧ firstRepeat? seen front = none ∧
      (a ∈ front ∨ a ∈ seen) := by
  constructor
  · intro found
    induction xs generalizing seen with
    | nil => cases found
    | cons b rest ih =>
      unfold firstRepeat? at found
      by_cases repeated : b ∈ seen
      · rw [if_pos repeated] at found
        cases found
        exact ⟨[], rest, rfl, rfl, Or.inr repeated⟩
      · rw [if_neg repeated] at found
        obtain ⟨front, back, rfl, differ, earlier⟩ := ih found
        refine ⟨b :: front, back, rfl, ?_, ?_⟩
        · rw [firstRepeat?, if_neg repeated, differ]
        · rw [List.mem_cons] at earlier ⊢
          tauto
  · rintro ⟨front, back, rfl, differ, earlier⟩
    induction front generalizing seen with
    | nil => rw [List.nil_append, firstRepeat?, if_pos (earlier.resolve_left List.not_mem_nil)]
    | cons b front ih =>
      unfold firstRepeat? at differ
      by_cases repeated : b ∈ seen
      · rw [if_pos repeated] at differ
        cases differ
      · rw [if_neg repeated] at differ
        rw [List.cons_append, firstRepeat?, if_neg repeated]
        refine ih differ ?_
        rw [List.mem_cons] at earlier ⊢
        tauto

theorem firstRepeat?_nil_eq_none_iff : firstRepeat? [] xs = none ↔ xs.Nodup := by
  rw [firstRepeat?_eq_none_iff]
  exact and_iff_left fun _ _ => List.not_mem_nil

theorem firstRepeat?_nil_eq_some_iff {a : α} : firstRepeat? [] xs = some a ↔ FirstRepeat xs a := by
  simp only [firstRepeat?_eq_some_iff, firstRepeat?_nil_eq_none_iff, List.not_mem_nil, or_false,
    FirstRepeat]

end Lists

variable {ω : Type}

/-- A rule names one of the campaigns. -/
def Rule.NamesIn (rule : Rule) (campaigns : List (Campaign ω)) : Prop :=
  rule.campaign ∈ campaigns.map (·.id)

namespace Feature

variable {f g : Feature ω} {campaigns : List (Campaign ω)} {rule : Rule} {e : SettingsError}

/-- The campaign that a rule of the feature links. -/
def copyFor (f : Feature ω) (campaigns : List (Campaign ω)) (rule : Rule) :
    Except SettingsError (Campaign ω) :=
  match campaigns.find? fun c => c.id = rule.campaign with
  | none => .error (.unknownCampaign f.key rule.campaign)
  | some source => .ok (source.narrowed rule)

theorem link_eq_mapM (rules : List Rule) :
    f.link campaigns rules = rules.mapM (f.copyFor campaigns) := by
  induction rules with
  | nil => rfl
  | cons rule rest ih =>
    rw [link, mapM_cons_except, ← ih, copyFor]
    cases campaigns.find? fun c => c.id = rule.campaign with
    | none => rfl
    | some source => cases f.link campaigns rest <;> rfl

theorem copyFor_eq_ok_iff {copy : Campaign ω} : f.copyFor campaigns rule = .ok copy ↔
    ∃ source, (campaigns.find? fun c => c.id = rule.campaign) = some source ∧
      copy = source.narrowed rule := by
  unfold copyFor
  cases campaigns.find? fun c => c.id = rule.campaign with
  | none => simp
  | some source => simp [eq_comm]

theorem find?_isSome_iff_namesIn :
    (campaigns.find? fun c => c.id = rule.campaign).isSome ↔ rule.NamesIn campaigns := by
  simp [Rule.NamesIn]

theorem copyFor_isOk_iff : (∃ copy, f.copyFor campaigns rule = .ok copy) ↔
    rule.NamesIn campaigns := by
  rw [← find?_isSome_iff_namesIn, copyFor]
  cases campaigns.find? fun c => c.id = rule.campaign <;> simp

theorem copyFor_eq_error_iff : f.copyFor campaigns rule = .error e ↔
    ¬ rule.NamesIn campaigns ∧ e = .unknownCampaign f.key rule.campaign := by
  rw [← find?_isSome_iff_namesIn, copyFor]
  cases campaigns.find? fun c => c.id = rule.campaign <;> simp [eq_comm]

theorem link_eq_ok_iff {rules : List Rule} {linked : List (Campaign ω)} :
    f.link campaigns rules = .ok linked ↔
      List.Forall₂ (fun rule copy => ∃ source, (campaigns.find? fun c => c.id = rule.campaign) =
        some source ∧ copy = source.narrowed rule) rules linked := by
  simp only [link_eq_mapM, mapM_eq_ok_iff, copyFor_eq_ok_iff]

theorem link_eq_error_iff {rules : List Rule} : f.link campaigns rules = .error e ↔
    ∃ front rule back, rules = front ++ rule :: back ∧ (∀ r ∈ front, r.NamesIn campaigns) ∧
      ¬ rule.NamesIn campaigns ∧ e = .unknownCampaign f.key rule.campaign := by
  simp only [link_eq_mapM, mapM_eq_error_iff, copyFor_isOk_iff, copyFor_eq_error_iff]

theorem prepared_eq_ok_iff : f.prepared campaigns = .ok g ↔
    ∃ linked, f.link campaigns f.rules = .ok linked ∧
      g = { f with linked := linked, requiresGateway := linked.any (·.requiresGateway) } := by
  unfold prepared
  cases f.link campaigns f.rules <;> simp [eq_comm]

theorem prepared_eq_error_iff :
    f.prepared campaigns = .error e ↔ f.link campaigns f.rules = .error e := by
  unfold prepared
  cases f.link campaigns f.rules <;> simp

theorem prepared_isOk_iff :
    (∃ g, f.prepared campaigns = .ok g) ↔ ∀ rule ∈ f.rules, rule.NamesIn campaigns := by
  rw [← forall₂_congr fun rule _ => copyFor_isOk_iff (f := f), ← mapM_isOk_iff, ← link_eq_mapM]
  simp only [prepared_eq_ok_iff]
  exact ⟨fun ⟨_, linked, ends, _⟩ => ⟨linked, ends⟩, fun ⟨linked, ends⟩ => ⟨_, linked, ends, rfl⟩⟩

end Feature

namespace Settings

variable {settings done : Settings ω} {e : SettingsError}

theorem linkAll_eq_mapM (campaigns : List (Campaign ω)) (fs : List (Feature ω)) :
    linkAll campaigns fs = fs.mapM (·.prepared campaigns) := by
  induction fs with
  | nil => rfl
  | cons f rest ih =>
    rw [linkAll, mapM_cons_except, ← ih]
    cases f.prepared campaigns with
    | error e => rfl
    | ok g => cases linkAll campaigns rest <;> rfl

variable [Quantity ω]

/-- Campaign ids that all differ, and rules that all name campaigns. -/
structure Consistent (settings : Settings ω) : Prop where
  distinct : (settings.campaigns.map (·.id)).Nodup
  named : ∀ f ∈ settings.features, ∀ rule ∈ f.rules, rule.NamesIn settings.campaigns

theorem process_eq_ok_iff : settings.process = .ok done ↔
    (settings.campaigns.map (·.id)).Nodup ∧ ∃ features,
      List.Forall₂ (fun raw f => raw.prepared (settings.campaigns.map (·.prepared)) = .ok f)
        settings.features features ∧
      done = { settings with
        features := features, campaigns := settings.campaigns.map (·.prepared) } := by
  rw [← firstRepeat?_nil_eq_none_iff, process]
  simp only [← mapM_eq_ok_iff, ← linkAll_eq_mapM]
  cases firstRepeat? [] (settings.campaigns.map (·.id)) with
  | some id => simp
  | none => cases linkAll (settings.campaigns.map (·.prepared)) settings.features <;> simp [eq_comm]

/-- The first rule, in the order of the features and of their rules, that names no campaign. -/
def FirstUnknown (settings : Settings ω) (f : Feature ω) (rule : Rule) : Prop :=
  ∃ before after front back, settings.features = before ++ f :: after ∧
    (∀ g ∈ before, ∀ r ∈ g.rules, r.NamesIn settings.campaigns) ∧
    f.rules = front ++ rule :: back ∧ (∀ r ∈ front, r.NamesIn settings.campaigns) ∧
    ¬ rule.NamesIn settings.campaigns

theorem namesIn_prepared {campaigns : List (Campaign ω)} {rule : Rule} :
    rule.NamesIn (campaigns.map (·.prepared)) ↔ rule.NamesIn campaigns := by
  rw [Rule.NamesIn, List.map_map]
  rfl

theorem linkAll_eq_error_iff :
    linkAll (settings.campaigns.map (·.prepared)) settings.features = .error e ↔
      ∃ f rule, settings.FirstUnknown f rule ∧ e = .unknownCampaign f.key rule.campaign := by
  simp only [linkAll_eq_mapM, mapM_eq_error_iff, Feature.prepared_isOk_iff,
    Feature.prepared_eq_error_iff, Feature.link_eq_error_iff, namesIn_prepared, FirstUnknown]
  constructor
  · rintro ⟨before, f, after, split, named, front, rule, back, rules, first, unknown, rfl⟩
    exact ⟨f, rule, ⟨before, after, front, back, split, named, rules, first, unknown⟩, rfl⟩
  · rintro ⟨f, rule, ⟨before, after, front, back, split, named, rules, first, unknown⟩, rfl⟩
    exact ⟨before, f, after, split, named, front, rule, back, rules, first, unknown, rfl⟩

theorem process_eq_error_iff : settings.process = .error e ↔
    (∃ id, FirstRepeat (settings.campaigns.map (·.id)) id ∧ e = .duplicateCampaign id) ∨
      (settings.campaigns.map (·.id)).Nodup ∧
        ∃ f rule, settings.FirstUnknown f rule ∧ e = .unknownCampaign f.key rule.campaign := by
  rw [← linkAll_eq_error_iff, ← firstRepeat?_nil_eq_none_iff, process]
  simp only [← firstRepeat?_nil_eq_some_iff]
  cases firstRepeat? [] (settings.campaigns.map (·.id)) with
  | some id => simp [eq_comm]
  | none => cases linkAll (settings.campaigns.map (·.prepared)) settings.features <;> simp [eq_comm]

/-- Processing succeeds on consistent settings and on no others. -/
theorem process_isOk_iff : (∃ done, settings.process = .ok done) ↔ settings.Consistent := by
  have linked : (∃ features, List.Forall₂
      (fun raw f => raw.prepared (settings.campaigns.map (·.prepared)) = .ok f)
      settings.features features) ↔
      ∀ f ∈ settings.features, ∀ rule ∈ f.rules, rule.NamesIn settings.campaigns := by
    simp only [← mapM_eq_ok_iff, mapM_isOk_iff, Feature.prepared_isOk_iff, namesIn_prepared]
  simp only [process_eq_ok_iff]
  constructor
  · rintro ⟨_, distinct, features, ready, _⟩
    exact ⟨distinct, linked.mp ⟨features, ready⟩⟩
  · rintro ⟨distinct, named⟩
    obtain ⟨features, ready⟩ := linked.mpr named
    exact ⟨_, distinct, features, ready, rfl⟩

end Settings

end FeatureFlags
