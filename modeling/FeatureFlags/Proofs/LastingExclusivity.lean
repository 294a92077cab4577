import FeatureFlags.Proofs.Exclusivity
import FeatureFlags.Proofs.Stickiness
import Mathlib.Data.List.Find

namespace FeatureFlags

open Inquiry

variable {ω : Type}

/-- No condition of a campaign asks for kept decisions. -/
def Settings.ToggleFree (settings : Settings ω) : Prop :=
  ∀ c ∈ settings.campaigns, (∀ t ∈ c.segment, ¬t.hasToggle) ∧
    ∀ v ∈ c.variations, ∀ t ∈ v.segment, ¬t.hasToggle

theorem Settings.ToggleFree.entrySegment? [Quantity ω] {settings : Settings ω}
    (free : settings.ToggleFree) (processed : settings.Processed) {f : Feature ω}
    {c : Campaign ω} {t : Segment} (member : f ∈ settings.features) (linked : c ∈ f.linked)
    (entry : c.entrySegment? = some t) : ¬t.hasToggle := by
  obtain ⟨source, among, rule, rfl⟩ := processed.source member linked
  obtain ⟨own, ofVariations⟩ := free source among
  have ofHead (head : (source.narrowed rule).variations.head?.bind (·.segment) = some t) :
      ¬t.hasToggle := by
    obtain ⟨v, first, kept⟩ := Option.bind_eq_some_iff.mp head
    exact ofVariations v (Campaign.narrowed_variations_subset (List.mem_of_head? first)) t kept
  unfold Campaign.entrySegment? at entry
  split at entry
  · exact own t entry
  · exact ofHead entry
  · exact ofHead entry

section Steady

variable [Quantity ω] {scope : Scope ω} {first second : Replies}

/-- Replies that differ in records only do not matter for entering a linked campaign. -/
theorem Scope.enters_congr (processed : scope.settings.Processed)
    (free : scope.settings.ToggleFree) (agree : Replies.Agree Call.isList first second)
    {f : Feature ω} {c : Campaign ω} (member : f ∈ scope.settings.features)
    (linked : c ∈ f.linked) : scope.enters first c = scope.enters second c := by
  unfold enters Campaign.mayEnter
  split
  · rfl
  · rename_i t entry
    have plain := free.entrySegment? processed member linked entry
    have held : (t.holds scope (scope.entryAttributes c)).Guarantees Call.isList fun _ => True :=
      Segment.holds_guarantees (fun _ _ _ => trivial) _ t fun toggle => absurd toggle plain
    simp only [answer_bind, answer_pure, held.answer_congr agree]

theorem Scope.passes_congr (processed : scope.settings.Processed)
    (free : scope.settings.ToggleFree) (agree : Replies.Agree Call.isList first second)
    {f : Feature ω} (member : f ∈ scope.settings.features) :
    scope.passes first f = scope.passes second f := by
  have same : f.rollouts.find? (scope.enters first) = f.rollouts.find? (scope.enters second) := by
    refine List.find?_congr fun c inside => ?_
    exact Scope.enters_congr processed free agree member (Feature.mem_rollouts.mp inside).1
  rw [passes, passes, same]

theorem Scope.contenders_congr (processed : scope.settings.Processed)
    (free : scope.settings.ToggleFree) (agree : Replies.Agree Call.isList first second)
    (group : Group ω) : scope.contenders first group = scope.contenders second group := by
  unfold contenders
  congr 1
  refine List.filter_congr fun f inside => ?_
  exact Scope.passes_congr processed free agree (Contest.features_subset inside)

end Steady

section Lasting

variable {list : ListQuery → Except ServiceError (Option String)}
variable {gateway : GatewayQuery → Except ServiceError (Option String)}

variable [Quantity ω]

/-- Kept decisions of the user say what would also be decided if nothing were kept. -/
structure Store.Consistent (store : Store) (scope : Scope ω) (fresh : Replies) : Prop where
  known : ∀ key record, store.get? key scope.user.id = some record →
    ∃ f ∈ scope.settings.features, f.key = key
  rollouts : ∀ f ∈ scope.settings.features, ∀ record,
    store.get? f.key scope.user.id = some record → record.rolloutId.isSome →
      scope.passes fresh f = true
  experiments : ∀ f ∈ scope.settings.features, ∀ record key variation,
    store.get? f.key scope.user.id = some record → record.experiment? = some (key, variation) →
      ∃ c ∈ f.experiments, c.key = key ∧
        (c.kind = .personalize → c.variations.head?.map (·.id) = some variation) ∧
        scope.Wins fresh c

variable {scope : Scope ω} {store : Store}

theorem Store.consistent_empty (scope : Scope ω) (fresh : Replies) :
    Store.Consistent ⟨[]⟩ scope fresh where
  known _ _ found := by cases found
  rollouts _ _ _ found := by cases found
  experiments _ _ _ _ _ found := by cases found

theorem Store.Consistent.wins_of_keepsCandidate {fresh : Replies}
    (consistent : store.Consistent scope fresh) (processed : scope.settings.Processed)
    (keys : (scope.settings.campaigns.map (·.key)).Nodup) {f : Feature ω} {c : Campaign ω}
    (member : f ∈ scope.settings.features) (linked : c ∈ f.linked)
    (kept : scope.keepsCandidate (.ofStore store list gateway) (f, c) = true) :
    ∃ d ∈ f.experiments, GroupWinner.of c = GroupWinner.of d ∧ scope.Wins fresh d := by
  obtain ⟨record, found, named⟩ := (Option.any_eq_true _ _).mp kept
  unfold Contest.isNamedBy at named
  split at named
  · cases named
  rename_i key variation names
  rw [Bool.and_eq_true, Bool.and_eq_true, decide_eq_true_eq] at named
  obtain ⟨⟨sameKey, _⟩, about⟩ := named
  obtain ⟨d, inside, sameKey', head, wins⟩ :=
    consistent.experiments f member record key variation found names
  have linked' := (Feature.mem_experiments.mp inside).1
  have sameId : c.id = d.id := by
    obtain ⟨source, among, rule, rfl⟩ := processed.source member linked'
    have named : c.key = source.key := sameKey.symm.trans sameKey'.symm
    have same : c.id = source.id := processed.id_eq_of_key_eq keys member linked among named
    exact same
  have names : Grant.Names ⟨d.id, key, variation, "", false⟩ c := by
    refine ⟨sameId.symm, sameKey, fun kind => ?_⟩
    rw [kind] at about
    obtain ⟨v, first, same⟩ := (Option.any_eq_true _ _).mp about
    rw [first, Option.map_some, of_decide_eq_true same]
  have names' : Grant.Names ⟨d.id, key, variation, "", false⟩ d := ⟨rfl, sameKey'.symm, head⟩
  exact ⟨d, inside, processed.of_eq_of_names member member linked linked' names names', wins⟩

theorem Scope.mem_contenders {replies : Replies} {group : Group ω} {f : Feature ω} {c : Campaign ω}
    (contender : (f, c) ∈ scope.contenders replies group) :
    f ∈ scope.settings.features ∧ c ∈ f.linked := by
  obtain ⟨inside, linked⟩ := Contest.mem_brought contender
  exact ⟨Contest.features_subset (List.mem_filter.mp inside).1, linked⟩

theorem Scope.keptContenders_eq_nil_iff {replies : Replies} {group : Group ω} :
    scope.keptContenders replies group = [] ↔ ∀ candidate ∈ scope.contenders replies group,
      scope.keepsCandidate replies candidate = false := by
  simp only [keptContenders, List.map_eq_nil_iff, List.filter_eq_nil_iff, Bool.not_eq_true]

/-- Without kept candidates the same ones are eligible as if nothing were kept. -/
theorem Scope.eligibleContenders_of_unkept (processed : scope.settings.Processed)
    (free : scope.settings.ToggleFree) {group : Group ω}
    (unkept : scope.keptContenders (.ofStore store list gateway) group = []) :
    scope.eligibleContenders (.ofStore store list gateway) group =
      scope.eligibleContenders (.ofStore ⟨[]⟩ list gateway) group := by
  have agree : Replies.Agree Call.isList (.ofStore store list gateway)
      (.ofStore ⟨[]⟩ list gateway) := Replies.ofStore_agree store ⟨[]⟩
  unfold eligibleContenders
  rw [← contenders_congr processed free agree group]
  congr 1
  refine List.filter_congr fun candidate contender => ?_
  obtain ⟨member, linked⟩ := mem_contenders contender
  rw [keptContenders_eq_nil_iff.mp unkept candidate contender, joins, joins,
    enters_congr processed free agree member linked]
  rfl

/-- Who wins a group although decisions are kept would also win if nothing were kept. -/
theorem Scope.wins_of_consistent (processed : scope.settings.Processed)
    (free : scope.settings.ToggleFree) (keys : (scope.settings.campaigns.map (·.key)).Nodup)
    (consistent : store.Consistent scope (.ofStore ⟨[]⟩ list gateway)) {c : Campaign ω}
    (wins : scope.Wins (.ofStore store list gateway) c) :
    scope.Wins (.ofStore ⟨[]⟩ list gateway) c := by
  intro id grouped
  obtain ⟨champion, won, same⟩ := wins id grouped
  obtain ⟨group, found, drawn⟩ := Option.bind_eq_some_iff.mp won
  split at drawn
  · -- Nothing is kept about the group, so the contest is the one that is held if nothing is kept.
    rename_i empty
    have eligible := eligibleContenders_of_unkept processed free (List.isEmpty_iff.mp empty)
    have fresh : scope.keptContenders (.ofStore ⟨[]⟩ list gateway) group = [] :=
      keptContenders_eq_nil_iff.mpr fun _ _ => rfl
    refine ⟨champion, ?_, same⟩
    rwa [champion?, found, Option.bind_some, if_pos (List.isEmpty_iff.mpr fresh), ← eligible]
  · -- The champion is kept, and whatever is kept was decided for who wins if nothing is kept.
    obtain ⟨⟨f, w⟩, contender, rfl⟩ := List.mem_map.mp (Contest.poolWinner_mem drawn)
    obtain ⟨among, kept⟩ := List.mem_filter.mp contender
    obtain ⟨member, linked⟩ := mem_contenders among
    obtain ⟨d, _, alike, winsFresh⟩ :=
      consistent.wins_of_keepsCandidate processed keys member linked kept
    have sameWinner : GroupWinner.of d = .of c := alike.symm.trans same
    rw [← scope.settings.groupOf?_of_eq sameWinner] at grouped
    obtain ⟨first, wonFirst, sameFirst⟩ := winsFresh id grouped
    exact ⟨first, wonFirst, sameFirst.trans sameWinner⟩

/-- Keeping a decision by rules keeps a store consistent. -/
theorem Store.Consistent.insert {fresh : Replies} (consistent : store.Consistent scope fresh)
    (distinct : (scope.settings.features.map (·.key)).Nodup) {f : Feature ω} {decision : Decision}
    (member : f ∈ scope.settings.features) (about : decision.featureKey = f.key)
    (entered : decision.rollout.isSome → scope.passes fresh f = true)
    (granted : ∀ grant, decision.experiment = some grant → scope.Grounds fresh f grant) :
    (store.insert (decision.record scope.user.id)).Consistent scope fresh := by
  have cases {key : String} {record : Record}
      (found : (store.insert (decision.record scope.user.id)).get? key scope.user.id = some record) :
      key = f.key ∧ record = decision.record scope.user.id ∨
        store.get? key scope.user.id = some record := by
    rw [get?_insert] at found
    split at found
    · rename_i same
      exact Or.inl ⟨same.1.trans about, (Option.some.inj found).symm⟩
    · exact Or.inr found
  refine ⟨fun key record found => ?_, fun g inside record found kept => ?_,
    fun g inside record key variation found names => ?_⟩
  · rcases cases found with ⟨rfl, -⟩ | earlier
    · exact ⟨f, member, rfl⟩
    · exact consistent.known key record earlier
  · rcases cases found with ⟨same, rfl⟩ | earlier
    · rw [List.inj_on_of_nodup_map distinct inside member same]
      exact entered (by simpa [Decision.record] using kept)
    · exact consistent.rollouts g inside record earlier kept
  · rcases cases found with ⟨same, rfl⟩ | earlier
    · rw [List.inj_on_of_nodup_map distinct inside member same]
      obtain ⟨grant, experiment, rfl, rfl⟩ := Decision.experiment_of_record names
      obtain ⟨c, among, named, wins⟩ := granted grant experiment
      exact ⟨c, among, named.2.1.symm, named.2.2, wins⟩
    · exact consistent.experiments g inside record key variation earlier names

omit [Quantity ω] in
theorem Rules.prefix_of_eq_groupKey {key : String} {id : UInt64} (same : key = groupKey id) :
    "_vwo_meta_meg_".toList <+: key.toList := by
  rw [same, groupKey, String.toList_append]
  exact List.prefix_append _ _

/-- Features and campaigns have keys of their own, none of them kept for groups, and who wins a
group depends on nothing that is kept. -/
structure Settings.Orderly (settings : Settings ω) : Prop where
  processed : settings.Processed
  features : (settings.features.map (·.key)).Nodup
  reserved : ∀ f ∈ settings.features, ¬"_vwo_meta_meg_".toList <+: f.key.toList
  campaigns : (settings.campaigns.map (·.key)).Nodup
  plain : settings.PlainGroups
  free : settings.ToggleFree

/-- An experiment of a decision is one of the feature's, and would win its group if nothing were
kept. -/
def Scope.Justifies (scope : Scope ω) (fresh : Replies) (featureKey : String)
    (decision : Decision) : Prop :=
  ∀ grant, decision.experiment = some grant →
    ∃ f ∈ scope.settings.features, f.key = featureKey ∧ scope.Grounds fresh f grant

namespace Evaluation

/-- What is remembered at the start, and a rollout that is granted at the start, come from a kept
rollout. -/
theorem start_of_consistent {fresh : Replies} (consistent : store.Consistent scope fresh)
    (distinct : (scope.settings.features.map (·.key)).Nodup) {f : Feature ω}
    (member : f ∈ scope.settings.features) :
    let begun := start f.key (keptBy scope.settings (store.get? f.key scope.user.id))
    begun.2.Sound scope fresh ∧ begun.2.winners = [] ∧
      (begun.1.rollout.isSome → scope.passes fresh f = true) := by
  cases settled : keptBy scope.settings (store.get? f.key scope.user.id) with
  | experiment c v => exact ⟨Session.sound_empty scope fresh, rfl, nofun⟩
  | nothing => exact ⟨Session.sound_empty scope fresh, rfl, nofun⟩
  | rollout c v =>
    have passed : scope.passes fresh f = true := by
      cases found : store.get? f.key scope.user.id with
      | none => simp [keptBy, found] at settled
      | some record =>
        rw [found] at settled
        exact consistent.rollouts f member record found (rolloutId_of_kept settled)
    exact ⟨(Session.sound_empty scope fresh).withRollout distinct member passed _, rfl,
      fun _ => passed⟩

/-- What rules decide when a consistent store is read is justified although nothing is kept. -/
theorem byRules_of_consistent (orderly : scope.settings.Orderly)
    (consistent : store.Consistent scope (.ofStore ⟨[]⟩ list gateway)) {f : Feature ω}
    (member : f ∈ scope.settings.features) :
    let begun := start f.key (keptBy scope.settings (store.get? f.key scope.user.id))
    let ruled := (((byRules scope f begun.1).run begun.2).answer (.ofStore store list gateway)).1
    (ruled.rollout.isSome → scope.passes (.ofStore ⟨[]⟩ list gateway) f = true) ∧
      ∀ grant, ruled.experiment = some grant →
        scope.Grounds (.ofStore ⟨[]⟩ list gateway) f grant := by
  intro begun ruled
  have passes (g : Feature ω) (inside : g ∈ scope.settings.features) :
      scope.passes (.ofStore store list gateway) g = scope.passes (.ofStore ⟨[]⟩ list gateway) g :=
    scope.passes_congr orderly.processed orderly.free (Replies.ofStore_agree store ⟨[]⟩) inside
  obtain ⟨sound, unsettled, entered⟩ := start_of_consistent consistent orderly.features member
  have fair : begun.2.Fair scope (.ofStore store list gateway) f := by
    refine Session.Sound.fair (fun g inside recorded => ?_) unsettled f
    rw [passes g inside]
    exact sound g inside recorded
  have unkept (id : UInt64) : store.get? (Rules.groupKey id) scope.user.id = none := by
    cases kept : store.get? (Rules.groupKey id) scope.user.id with
    | none => rfl
    | some record =>
      obtain ⟨g, inside, same⟩ := consistent.known _ record kept
      exact absurd (Rules.prefix_of_eq_groupKey same) (orderly.reserved g inside)
  have leads : Leads (.ofStore store list gateway) (·.Fair scope (.ofStore store list gateway) f)
      (byRules scope f begun.1) _ :=
    byRules_leads member orderly.features orderly.plain unkept (start_experiment f.key _)
  obtain ⟨rolledOut, granted⟩ := leads begun.2 fair
  refine ⟨fun recorded => ?_, fun grant experiment => ?_⟩
  · rcases rolledOut recorded with before | passed
    · exact entered before
    · rwa [← passes f member]
  · obtain ⟨c, among, names, wins⟩ := granted grant experiment
    exact ⟨c, among, names, Scope.wins_of_consistent orderly.processed orderly.free
      orderly.campaigns consistent wins⟩

theorem Effect.consistent {settings : Settings ω} {user : User} {featureKey : String}
    {before after : Store} {decision : Decision} (orderly : settings.Orderly)
    (own : user.gateway.isSome)
    (consistent : before.Consistent ⟨settings, user, none⟩ (.ofStore ⟨[]⟩ list gateway))
    (effect : Effect (Services.inMemory list gateway) id settings featureKey user before decision
      after) :
    after.Consistent ⟨settings, user, none⟩ (.ofStore ⟨[]⟩ list gateway) ∧
      Scope.Justifies ⟨settings, user, none⟩ (.ofStore ⟨[]⟩ list gateway) featureKey decision := by
  let scope : Scope ω := ⟨settings, user, none⟩
  cases effect with
  | refused _ => exact ⟨consistent, nofun⟩
  | missing _ _ _ => exact ⟨consistent, nofun⟩
  | @kept c v _ settled =>
    refine ⟨consistent, fun grant granted => ?_⟩
    cases granted
    obtain ⟨⟨record, found, names⟩, available⟩ := keptBy_eq_experiment_iff.mp settled
    obtain ⟨f, member, rfl⟩ := consistent.known featureKey record found
    obtain ⟨d, among, sameKey, head, wins⟩ := consistent.experiments f member record _ _ found names
    obtain ⟨inside, -, -, -⟩ := Settings.variationByKey?_eq_some available
    have sameId : d.id = c.id := orderly.processed.id_eq_of_key_eq orderly.campaigns member
      (Feature.mem_experiments.mp among).1 inside sameKey
    exact ⟨f, member, rfl, d, among, ⟨sameId.symm, sameKey.symm, head⟩, wins⟩
  | @decided f asked deciding other ruled _ _ found same sameScope shape =>
    have member : f ∈ settings.features := List.mem_of_find?_eq_some found
    have key : f.key = featureKey := by simpa using List.find?_some found
    subst key
    rw [fetched_of_own settings own f] at sameScope
    change other = scope at sameScope
    subst sameScope
    let begun := start f.key (keptBy settings (before.get? f.key user.id))
    have goesOn := byRules_guarantees scope.asks_isQuestion f begun.1 begun.2
    rw [goesOn.run_answer (Services.inMemory_stay before) (Services.inMemory_answer before) same] at shape
    have about : ruled.featureKey = f.key :=
      shape ▸ (goesOn.answer _).1.trans (start_featureKey f.key _)
    obtain ⟨entered, granted⟩ := byRules_of_consistent orderly consistent member
    rw [← shape] at entered granted
    split
    · exact ⟨consistent.insert orderly.features member about entered granted,
        fun grant experiment => ⟨f, member, rfl, granted grant experiment⟩⟩
    · exact ⟨consistent, nofun⟩

end Evaluation

/-- In a run of evaluations for one user, every experiment is justified although nothing is kept. -/
theorem serve_justifies {settings : Settings ω} (orderly : settings.Orderly) {user : User}
    (own : user.gateway.isSome) (featureKeys : List String) (journal : Journal Store)
    (consistent : journal.world.Consistent ⟨settings, user, none⟩ (.ofStore ⟨[]⟩ list gateway)) :
    ∀ served ∈ ((serve settings (featureKeys.map fun key => .evaluate key user)).run
        (Services.inMemory list gateway) journal).1,
      Scope.Justifies ⟨settings, user, none⟩ (.ofStore ⟨[]⟩ list gateway) served.featureKey
        served.decision := by
  induction featureKeys generalizing journal with
  | nil =>
    intro served member
    simp [serve] at member
  | cons key rest ih =>
    intro served member
    simp only [List.map_cons, serve, run_bind, run_pure] at member
    let ended := (Evaluation.evaluate settings key user).run (Services.inMemory list gateway) journal
    have effect : Evaluation.Effect (Services.inMemory list gateway) id settings key user
        journal.world ended.1 ended.2.world :=
      Evaluation.evaluate_effect (Services.inMemory_keepsRecords list gateway) settings key user
        journal
    obtain ⟨after, justified⟩ := effect.consistent orderly own consistent
    rcases List.mem_cons.mp member with rfl | later
    · exact justified
    · exact ih ended.2 after served later

end Lasting

/-- Whatever features are decided for a user, in whatever order, and with all decisions kept in
memory: every experiment is one of its feature, and all those of one group are one campaign, and
one variation of it if it is a personalize campaign. -/
theorem group_stays_with_one_campaign [Quantity ω]
    (list : ListQuery → Except ServiceError (Option String))
    (gateway : GatewayQuery → Except ServiceError (Option String)) {settings : Settings ω}
    (orderly : settings.Orderly) {user : User} (own : user.gateway.isSome)
    (featureKeys : List String) (calls : List Call) (events : List Event) :
    let run := ((serve settings (featureKeys.map fun key => .evaluate key user)).run
      (Services.inMemory list gateway) ⟨⟨[]⟩, calls, events⟩).1
    (∀ served ∈ run, ∀ a, served.decision.experiment = some a →
      ∃ f ∈ settings.features, f.key = served.featureKey ∧ ∃ c ∈ f.linked, a.Names c) ∧
    ∀ served ∈ run, ∀ other ∈ run, ∀ a b, served.decision.experiment = some a →
      other.decision.experiment = some b → ∀ f ∈ settings.features, ∀ g ∈ settings.features,
      ∀ c ∈ f.linked, ∀ d ∈ g.linked, a.Names c → b.Names d → ∀ id,
      settings.groupOf? c = some id → settings.groupOf? d = some id →
        a.campaign = b.campaign ∧ (c.kind = .personalize → a.variation = b.variation) := by
  intro run
  have justified : ∀ served ∈ run, Scope.Justifies ⟨settings, user, none⟩
      (.ofStore ⟨[]⟩ list gateway) served.featureKey served.decision :=
    serve_justifies orderly own featureKeys _ (Store.consistent_empty _ _)
  refine ⟨fun served member a granted => ?_, ?_⟩
  · obtain ⟨f, inside, key, c, among, names, -⟩ := justified served member a granted
    exact ⟨f, inside, key, c, (Feature.mem_experiments.mp among).1, names⟩
  intro served member other member' a b granted granted' f inFirst g inSecond c linked d linked'
    names names' id grouped grouped'
  obtain ⟨f', inFirst', -, grounds⟩ := justified served member a granted
  obtain ⟨g', inSecond', -, grounds'⟩ := justified other member' b granted'
  have wins := grounds.wins orderly.processed inFirst' inFirst linked names
  have wins' := grounds'.wins orderly.processed inSecond' inSecond linked' names'
  have same := wins.unique wins' grouped grouped'
  rw [GroupWinner.of_of_names names, GroupWinner.of_of_names names'] at same
  split at same <;> split at same
  · obtain ⟨sameId, sameVariation⟩ := GroupWinner.variation.inj same
    exact ⟨sameId, fun _ => sameVariation⟩
  · cases same
  · cases same
  · rename_i other _
    exact ⟨GroupWinner.campaign.inj same, fun kind => absurd kind other⟩

theorem trialSettings_orderly : trialSettings.Orderly where
  processed := trialSettings_processed
  features := trialSettings_distinct
  reserved := by decide +kernel
  campaigns := by decide +kernel
  plain := trialSettings_plainGroups
  free := by
    unfold Settings.ToggleFree
    decide +kernel

/-- A user who is known to be abroad. -/
def farUser : User := { id := "ann", gateway := some { location := [("country", "DE")] } }

/-- All features, some of them twice, are decided for this user, and the decisions are kept. -/
def farRun : List (Served Binary64) :=
  ((serve trialSettings (["map", "search", "atlas", "search"].map fun key =>
    .evaluate key farUser)).run (Services.inMemory (fun _ => .ok none) trialGateway)
    ⟨⟨[]⟩, [], []⟩).1

/-- Abroad, the search is tried out, in one variation, and neither map nor atlas is. -/
theorem group_stays_with_search : trialSettings.Orderly ∧ farUser.gateway.isSome ∧
    farRun.map (fun served => (served.featureKey, served.decision.experiment)) =
      [("map", none), ("search", some ⟨20, "search_personal", 1, "on", false⟩), ("atlas", none),
       ("search", some ⟨20, "search_personal", 1, "on", false⟩)] ∧
    ∀ served ∈ farRun, ∀ other ∈ farRun, ∀ a b, served.decision.experiment = some a →
      other.decision.experiment = some b → ∀ f ∈ trialSettings.features,
      ∀ g ∈ trialSettings.features, ∀ c ∈ f.linked, ∀ d ∈ g.linked, a.Names c → b.Names d → ∀ id,
      trialSettings.groupOf? c = some id → trialSettings.groupOf? d = some id →
        a.campaign = b.campaign ∧ (c.kind = .personalize → a.variation = b.variation) :=
  ⟨trialSettings_orderly, rfl, by decide +kernel,
    (group_stays_with_one_campaign _ _ trialSettings_orderly rfl
      ["map", "search", "atlas", "search"] [] []).2⟩

end FeatureFlags
