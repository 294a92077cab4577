import FeatureFlags.Proofs.Grounds
import FeatureFlags.Proofs.Keeping
import FeatureFlags.Proofs.Linking

namespace FeatureFlags

open Inquiry

variable {ω : Type}

theorem GroupWinner.of_of_names {grant : Grant} {c : Campaign ω} (names : grant.Names c) :
    of c = if c.kind = .personalize then .variation grant.campaign grant.variation
      else .campaign grant.campaign := by
  obtain ⟨sameId, -, head⟩ := names
  unfold of
  split
  · rename_i v rest kind shape
    have sameVariation : v.id = grant.variation := by simpa [shape] using head kind
    rw [if_pos kind, sameId, sameVariation]
  · rename_i other
    split
    · rename_i kind
      obtain ⟨v, atHead, _⟩ := Option.map_eq_some_iff.mp (head kind)
      obtain ⟨rest, shape⟩ := List.head?_eq_some_iff.mp atHead
      exact absurd shape (other v rest kind)
    · rw [sameId]

/-- The campaigns that a grant names are one and the same winner. -/
theorem Settings.Processed.of_eq_of_names [Quantity ω] {settings : Settings ω}
    (processed : settings.Processed) {f g : Feature ω} {c d : Campaign ω} {grant : Grant}
    (inFirst : f ∈ settings.features) (inSecond : g ∈ settings.features) (linked : c ∈ f.linked)
    (linked' : d ∈ g.linked) (names : grant.Names c) (names' : grant.Names d) :
    GroupWinner.of c = GroupWinner.of d := by
  have kind := processed.kind_eq_of_id_eq inFirst inSecond linked linked'
    (names.1.symm.trans names'.1)
  rw [GroupWinner.of_of_names names, GroupWinner.of_of_names names', kind]

theorem Settings.groupOf?_of_eq (settings : Settings ω) {c d : Campaign ω}
    (same : GroupWinner.of c = GroupWinner.of d) : settings.groupOf? c = settings.groupOf? d := by
  unfold groupOf?
  rw [GroupWinner.identity_eq_of_eq same]

/-- Who wins a group in a scope is one winner for all who win it. -/
theorem Scope.Wins.unique [Quantity ω] {scope : Scope ω} {replies : Replies} {c d : Campaign ω}
    {id : UInt64} (wins : scope.Wins replies c) (wins' : scope.Wins replies d)
    (grouped : scope.settings.groupOf? c = some id) (grouped' : scope.settings.groupOf? d = some id) :
    GroupWinner.of c = GroupWinner.of d := by
  obtain ⟨champion, won, same⟩ := wins id grouped
  obtain ⟨other, won', same'⟩ := wins' id grouped'
  rw [won] at won'
  rw [← same, ← same', Option.some.inj won']

/-- Whatever campaign is named by a grant that has its grounds wins its group. -/
theorem Scope.Grounds.wins [Quantity ω] {scope : Scope ω} {replies : Replies} {f g : Feature ω}
    {grant : Grant} {c : Campaign ω} (grounds : scope.Grounds replies f grant)
    (processed : scope.settings.Processed) (member : f ∈ scope.settings.features)
    (inside : g ∈ scope.settings.features) (linked : c ∈ g.linked) (names : grant.Names c) :
    scope.Wins replies c := by
  obtain ⟨d, among, named, wins⟩ := grounds
  have same := processed.of_eq_of_names inside member linked
    (Feature.mem_experiments.mp among).1 names named
  intro id grouped
  rw [scope.settings.groupOf?_of_eq same] at grouped
  rw [same]
  exact wins id grouped

namespace Evaluation

variable [Quantity ω]

theorem answer_conclude (featureKey user : String) (decision : Decision) (replies : Replies) :
    (conclude featureKey user decision).answer replies =
      if decision.enabled then decision else { featureKey := featureKey } := by
  unfold conclude
  cases decision.enabled <;> rfl

/-- Where nothing is kept, an experiment is granted by the rules of a feature. -/
theorem experiment_by_rules {settings : Settings ω} {featureKey : String} {user : User}
    {replies : Replies} {grant : Grant} (nothing : replies.record featureKey user.id = none)
    (granted : ((evaluate settings featureKey user).answer replies).experiment = some grant) :
    ∃ f, settings.feature? featureKey = some f ∧
      (((byRules ⟨settings, user, (fetched settings user f).answer replies⟩ f
        { featureKey := featureKey }).run {}).answer replies).1.experiment = some grant := by
  unfold evaluate tryEvaluate at granted
  split at granted
  · cases granted
  rw [answer_bind, answer_bind, decide, answer_bind, answer_recordOf, nothing] at granted
  dsimp only [Option.elim_none] at granted
  cases found : settings.feature? featureKey with
  | none =>
    rw [found] at granted
    cases granted
  | some f =>
    simp only [found, answer_pure, ofFeature_eq, answer_bind, answer_conclude] at granted
    split at granted
    · exact ⟨f, rfl, granted⟩
    · cases granted

/-- The gateway data that the evaluation of a feature sees: the user's own, or what the gateway
tells when the feature itself asks for it. -/
def seen (gateway : GatewayQuery → Except ServiceError (Option String)) (settings : Settings ω)
    (user : User) (f : Feature ω) : Option GatewayData :=
  user.gateway <|>
    if f.requiresGateway && (user.agent?.isSome || user.ip?.isSome) then
      (Services.classification (gateway ⟨user.agent?, user.ip?, settings.account⟩)).1
    else none

omit [Quantity ω] in
theorem seen_of_requiresGateway_eq
    (gateway : GatewayQuery → Except ServiceError (Option String)) (settings : Settings ω)
    (user : User) {f g : Feature ω} (same : f.requiresGateway = g.requiresGateway) :
    seen gateway settings user f = seen gateway settings user g := by
  rw [seen, seen, same]

omit [Quantity ω] in
theorem answer_fetched (read : String → String → Except ServiceError (Option Record))
    (list : ListQuery → Except ServiceError (Option String))
    (gateway : GatewayQuery → Except ServiceError (Option String)) (settings : Settings ω)
    (user : User) (f : Feature ω) :
    (fetched settings user f).answer (.ofFixed read list gateway) =
      if user.gateway.isSome then none else seen gateway settings user f := by
  unfold fetched fetchGateway seen
  cases user.gateway with
  | some own => simp
  | none => cases f.requiresGateway <;> cases user.agent? <;> cases user.ip? <;> rfl

end Evaluation

theorem Settings.feature?_of_mem {settings : Settings ω}
    (distinct : (settings.features.map (·.key)).Nodup) {f : Feature ω}
    (member : f ∈ settings.features) : settings.feature? f.key = some f :=
  find?_of_nodup_map distinct member

/-- Where nothing is kept, an experiment that is granted is backed. -/
theorem Evaluation.backs_of_granted [Quantity ω] {settings : Settings ω} {user : User}
    {f : Feature ω} {replies : Replies} {grant : Grant} (member : f ∈ settings.features)
    (distinct : (settings.features.map (·.key)).Nodup) (rollouts : settings.RolloutsUngrouped)
    (nothing : ∀ key, replies.record key user.id = none)
    (granted : ((evaluate settings f.key user).answer replies).experiment = some grant) :
    (Scope.mk settings user ((fetched settings user f).answer replies)).Backs replies f grant := by
  obtain ⟨g, found, ruled⟩ := experiment_by_rules (nothing f.key) granted
  rw [Settings.feature?_of_mem distinct member] at found
  cases found
  let scope : Scope ω := ⟨settings, user, (fetched settings user f).answer replies⟩
  have fair := (Session.sound_empty scope replies).fair rfl f
  have leads : Leads replies (·.Fair scope replies f) (byRules scope f { featureKey := f.key }) _ :=
    byRules_vouched member distinct rollouts (fun id => nothing _) rfl
  exact (leads {} fair).2 grant ruled

/-- Where nothing is kept, and no group forces variations, an experiment that is granted is the
champion of its group. -/
theorem Evaluation.grounds_of_granted [Quantity ω] {settings : Settings ω} {user : User}
    {f : Feature ω} {replies : Replies} {grant : Grant} (member : f ∈ settings.features)
    (distinct : (settings.features.map (·.key)).Nodup) (plain : settings.PlainGroups)
    (nothing : ∀ key, replies.record key user.id = none)
    (granted : ((evaluate settings f.key user).answer replies).experiment = some grant) :
    (Scope.mk settings user ((fetched settings user f).answer replies)).Grounds replies f grant :=
  (backs_of_granted member distinct plain.rollouts nothing granted).grounds member plain

/-- Two evaluations for a user that see the same gateway data grant at most one campaign of a
group. -/
theorem group_grants_one_campaign [Quantity ω]
    (list : ListQuery → Except ServiceError (Option String))
    (gateway : GatewayQuery → Except ServiceError (Option String)) {settings : Settings ω}
    (processed : settings.Processed) (distinct : (settings.features.map (·.key)).Nodup)
    (plain : settings.PlainGroups) {user : User} {f g : Feature ω} (inFirst : f ∈ settings.features)
    (inSecond : g ∈ settings.features)
    (sight : Evaluation.seen gateway settings user f = Evaluation.seen gateway settings user g)
    {journal journal' : Journal Unit} {a b : Grant}
    (granted : ((Evaluation.evaluate settings f.key user).run
      (Services.fixed (fun _ _ => .ok none) list gateway) journal).1.experiment = some a)
    (granted' : ((Evaluation.evaluate settings g.key user).run
      (Services.fixed (fun _ _ => .ok none) list gateway) journal').1.experiment = some b)
    {c d : Campaign ω} (linked : c ∈ f.linked) (linked' : d ∈ g.linked) (names : a.Names c)
    (names' : b.Names d) {id : UInt64} (grouped : settings.groupOf? c = some id)
    (grouped' : settings.groupOf? d = some id) : c.identity = d.identity := by
  rw [run_fixed] at granted granted'
  have grounds := Evaluation.grounds_of_granted inFirst distinct plain (fun _ => rfl) granted
  have grounds' := Evaluation.grounds_of_granted inSecond distinct plain (fun _ => rfl) granted'
  rw [Evaluation.answer_fetched, sight, ← Evaluation.answer_fetched] at grounds
  have wins := grounds.wins processed inFirst inFirst linked names
  have wins' := grounds'.wins processed inSecond inSecond linked' names'
  exact GroupWinner.identity_eq_of_eq (wins.unique wins' grouped grouped')

instance (grant : Grant) (c : Campaign ω) : Decidable (grant.Names c) :=
  inferInstanceAs (Decidable (_ ∧ _ ∧ (_ → _)))

/-- A campaign that all take part in who meet a condition, with one variation. -/
def trial (id : UInt64) (key : String) (kind : CampaignKind) (segments : Json) :
    Campaign Binary64 :=
  ⟨id, key, none, kind, .ofNat 100, segments, false, false,
    [⟨1, "on", none, .ofNat 100, .null, [], none, none, none⟩], none, none, none, none⟩

/-- A map and an atlas are tried out with users of one country, and a search with all users; who
tries out the map or the atlas does not try out the search. -/
def trials : Settings Binary64 where
  features := [
    { id := 1, key := "map", name := none, rules := [⟨10, none, none, none⟩], values := [] },
    { id := 2, key := "atlas", name := none, rules := [⟨10, none, none, none⟩], values := [] },
    { id := 3, key := "search", name := none, rules := [⟨20, none, none, none⟩], values := [] }]
  campaigns := [
    trial 10 "map_ab" .ab (.object [("and", .array [.object [("country", .string "US")]])]),
    trial 20 "search_personal" .personalize .null]
  groups := [(5, ⟨none, ["10", "20_1"], some 2, ["10"], []⟩)]
  campaignGroups := [("10", 5), ("20_1", 5)]
  account := 1
  sdkKey := none
  version := none

def trialSettings : Settings Binary64 := trials.process.toOption.getD .empty

/-- The gateway knows the country of all users. -/
def trialGateway : GatewayQuery → Except ServiceError (Option String) :=
  fun _ => .ok (some "\x7b\"location\":\x7b\"country\":\"US\"\x7d\x7d")

def trialUser : User := { id := "ann", ipAddress := some "10.0.0.1" }

/-- What is granted to the user where nothing is kept. -/
def trialGrant? (featureKey : String) : Option Grant :=
  ((Evaluation.evaluate trialSettings featureKey trialUser).run
    (Services.fixed (fun _ _ => .ok none) (fun _ => .ok none) trialGateway)
    ⟨(), [], []⟩).1.experiment

theorem trialSettings_processed : trialSettings.Processed :=
  Settings.processed_getD (by decide +kernel)

theorem trialSettings_distinct : (trialSettings.features.map (·.key)).Nodup := by decide +kernel

theorem trialSettings_plainGroups : trialSettings.PlainGroups :=
  ⟨by decide +kernel, by decide +kernel⟩

/-- The map and the atlas both ask the gateway, and grant the same campaign. -/
theorem group_grants_map_trial :
    ∃ f ∈ trialSettings.features, ∃ g ∈ trialSettings.features, ∃ c ∈ f.linked, ∃ d ∈ g.linked,
      f.key = "map" ∧ g.key = "atlas" ∧
      Evaluation.seen trialGateway trialSettings trialUser f =
        Evaluation.seen trialGateway trialSettings trialUser g ∧
      trialGrant? "map" = some ⟨10, "map_ab", 1, "on", false⟩ ∧
      trialGrant? "atlas" = some ⟨10, "map_ab", 1, "on", false⟩ ∧
      trialSettings.groupOf? c = some 5 ∧ trialSettings.groupOf? d = some 5 ∧
      c.identity = d.identity := by
  obtain ⟨f, inFirst, g, inSecond, c, linked, d, linked', isMap, isAtlas, asks, granted, granted',
      names, names', grouped, grouped'⟩ :
      ∃ f ∈ trialSettings.features, ∃ g ∈ trialSettings.features, ∃ c ∈ f.linked, ∃ d ∈ g.linked,
        f.key = "map" ∧ g.key = "atlas" ∧ f.requiresGateway = g.requiresGateway ∧
        trialGrant? "map" = some ⟨10, "map_ab", 1, "on", false⟩ ∧
        trialGrant? "atlas" = some ⟨10, "map_ab", 1, "on", false⟩ ∧
        Grant.Names ⟨10, "map_ab", 1, "on", false⟩ c ∧
        Grant.Names ⟨10, "map_ab", 1, "on", false⟩ d ∧
        trialSettings.groupOf? c = some 5 ∧ trialSettings.groupOf? d = some 5 := by
    decide +kernel
  have sight := Evaluation.seen_of_requiresGateway_eq trialGateway trialSettings trialUser asks
  refine ⟨f, inFirst, g, inSecond, c, linked, d, linked', isMap, isAtlas, sight, granted, granted',
    grouped, grouped', ?_⟩
  rw [← isMap] at granted
  rw [← isAtlas] at granted'
  exact group_grants_one_campaign _ _ trialSettings_processed trialSettings_distinct
    trialSettings_plainGroups inFirst inSecond sight granted granted' linked linked' names names'
    grouped grouped'

/-- The map and the search grant two campaigns of one group: only the map asks the gateway, so the
contest that the search holds does not know the country. -/
theorem group_grants_two_campaigns : trialSettings.Processed ∧
    (trialSettings.features.map (·.key)).Nodup ∧ trialSettings.PlainGroups ∧
    ∃ f ∈ trialSettings.features, ∃ g ∈ trialSettings.features, ∃ c ∈ f.linked, ∃ d ∈ g.linked,
      trialGrant? f.key = some ⟨10, "map_ab", 1, "on", false⟩ ∧
      trialGrant? g.key = some ⟨20, "search_personal", 1, "on", false⟩ ∧
      Grant.Names ⟨10, "map_ab", 1, "on", false⟩ c ∧
      Grant.Names ⟨20, "search_personal", 1, "on", false⟩ d ∧
      trialSettings.groupOf? c = some 5 ∧ trialSettings.groupOf? d = some 5 ∧
      c.identity ≠ d.identity :=
  ⟨trialSettings_processed, trialSettings_distinct, trialSettings_plainGroups, by decide +kernel⟩

end FeatureFlags
