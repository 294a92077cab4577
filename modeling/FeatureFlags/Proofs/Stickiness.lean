import FeatureFlags.Proofs.Keeping
import FeatureFlags.Settings.Process

namespace FeatureFlags

open Inquiry

variable {ω : Type}

/-- A record keeps this variation of the experiment with this key. -/
def Store.Keeps (store : Store) (featureKey user key : String) (variation : UInt64) : Prop :=
  ∃ record, store.get? featureKey user = some record ∧ record.experiment? = some (key, variation)

theorem Settings.variationByKey?_eq_some {settings : Settings ω} {key : String} {id : UInt64}
    {c : Campaign ω} {v : Variation ω} (found : settings.variationByKey? key id = some (c, v)) :
    c ∈ settings.campaigns ∧ c.key = key ∧ v ∈ c.variations ∧ v.id = id := by
  unfold variationByKey? at found
  obtain ⟨campaign, first, rest⟩ := Option.bind_eq_some_iff.mp found
  obtain ⟨variation, inside, same⟩ := Option.bind_eq_some_iff.mp rest
  obtain ⟨rfl, rfl⟩ := Prod.mk.inj (Option.some.inj same)
  exact ⟨List.mem_of_find?_eq_some first, by simpa using List.find?_some first,
    List.mem_of_find?_eq_some inside, by simpa using List.find?_some inside⟩

namespace Record

theorem experimentVariation_of_experiment? {record : Record} {key : String} {variation : UInt64}
    (names : record.experiment? = some (key, variation)) :
    record.experimentVariation = some variation := by
  unfold experiment? at names
  obtain ⟨_, _, rest⟩ := Option.bind_eq_some_iff.mp names
  obtain ⟨found, kept, same⟩ := Option.bind_eq_some_iff.mp rest
  rw [kept, (Prod.mk.inj (Option.some.inj same)).2]

end Record

theorem Decision.record_experiment? {decision : Decision} {grant : Grant}
    (granted : decision.experiment = some grant) (keyed : grant.campaignKey ≠ "")
    (user : String) :
    (decision.record user).experiment? = some (grant.campaignKey, grant.variation) := by
  simp [record, Record.experiment?, granted, nonEmpty?, keyed]

theorem Decision.experiment_of_record {decision : Decision} {user key : String}
    {variation : UInt64} (names : (decision.record user).experiment? = some (key, variation)) :
    ∃ grant, decision.experiment = some grant ∧ grant.campaignKey = key ∧
      grant.variation = variation := by
  cases granted : decision.experiment with
  | none => simp [record, Record.experiment?, granted, nonEmpty?] at names
  | some grant =>
    by_cases keyed : grant.campaignKey = ""
    · simp [record, Record.experiment?, granted, nonEmpty?, keyed] at names
    · rw [record_experiment? granted keyed] at names
      obtain ⟨sameKey, sameVariation⟩ := Prod.mk.inj (Option.some.inj names)
      exact ⟨grant, rfl, sameKey, sameVariation⟩

namespace Evaluation

variable {settings : Settings ω} {record : Record} {key : String} {variation : UInt64}
variable {c : Campaign ω} {v : Variation ω}

/-- A kept experiment whose variation still exists settles the decision. -/
theorem kept_of_experiment? (names : record.experiment? = some (key, variation))
    (available : settings.variationByKey? key variation = some (c, v)) :
    kept settings record = .experiment c v := by
  simp [kept, names, available, Record.experimentVariation_of_experiment? names]

theorem experiment?_of_kept (settled : kept settings record = .experiment c v) :
    record.experiment? = some (c.key, v.id) ∧
      settings.variationByKey? c.key v.id = some (c, v) := by
  unfold kept at settled
  dsimp only at settled
  split at settled
  · split at settled
    · rename_i found
      obtain ⟨rfl, rfl⟩ := Kept.experiment.inj settled
      obtain ⟨⟨key, variation⟩, names, available⟩ := Option.bind_eq_some_iff.mp found
      obtain ⟨-, rfl, -, rfl⟩ := Settings.variationByKey?_eq_some available
      exact ⟨names, available⟩
    · cases settled
  · split at settled <;> cases settled

theorem rollout?_of_kept (settled : kept settings record = .rollout c v) :
    record.rollout? = some (c.key, v.id) ∧
      settings.variationByKey? c.key v.id = some (c, v) := by
  unfold kept at settled
  dsimp only at settled
  split at settled
  · split at settled <;> cases settled
  split at settled
  · rename_i found
    obtain ⟨rfl, rfl⟩ := Kept.rollout.inj settled
    obtain ⟨⟨key, variation⟩, names, available⟩ := Option.bind_eq_some_iff.mp found
    obtain ⟨-, rfl, -, rfl⟩ := Settings.variationByKey?_eq_some available
    exact ⟨names, available⟩
  · cases settled

theorem rolloutId_of_kept (settled : kept settings record = .rollout c v) :
    record.rolloutId.isSome := by
  obtain ⟨id, kept, -⟩ := Option.bind_eq_some_iff.mp (rollout?_of_kept settled).1
  rw [kept]
  rfl

/-- What is kept is about a variation that still exists. -/
theorem variationByKey?_of_keptBy {record : Option Record}
    (settled : keptBy settings record = .experiment c v ∨ keptBy settings record = .rollout c v) :
    settings.variationByKey? c.key v.id = some (c, v) := by
  cases record with
  | none => simp [keptBy] at settled
  | some record =>
    rcases settled with settled | settled
    · exact (experiment?_of_kept settled).2
    · exact (rollout?_of_kept settled).2

theorem keptBy_eq_experiment_iff {before : Store} {featureKey user : String} :
    keptBy settings (before.get? featureKey user) = .experiment c v ↔
      before.Keeps featureKey user c.key v.id ∧
        settings.variationByKey? c.key v.id = some (c, v) := by
  constructor
  · intro settled
    cases found : before.get? featureKey user with
    | none => simp [keptBy, found] at settled
    | some record =>
      rw [found] at settled
      obtain ⟨names, available⟩ := experiment?_of_kept settled
      exact ⟨⟨record, found, names⟩, available⟩
  · rintro ⟨⟨record, found, names⟩, available⟩
    rw [found]
    exact kept_of_experiment? names available

section Effect

variable {σ : Type} {services : Services σ} {store : σ → Store} [Quantity ω]
variable {featureKey : String} {user : User} {before after : Store} {decision : Decision}

theorem Effect.decided_featureKey {scope : Scope ω} {feature : Feature ω} {settled : Kept ω}
    {journal : Journal σ} :
    (((byRules scope feature (start featureKey settled).1).run
      (start featureKey settled).2).run services journal).1.1.featureKey = featureKey := by
  have held := byRules_guarantees scope.asks_isQuestion feature (start featureKey settled).1
    (start featureKey settled).2
  exact (held.run_gives journal).1.trans (start_featureKey featureKey settled)

/-- An experiment that is granted is kept from then on. -/
theorem Effect.keeps_experiment {grant : Grant}
    (effect : Effect services store settings featureKey user before decision after)
    (granted : decision.experiment = some grant) (keyed : grant.campaignKey ≠ "") :
    after.Keeps featureKey user.id grant.campaignKey grant.variation := by
  cases effect with
  | refused _ => cases granted
  | missing _ _ _ => cases granted
  | kept _ settled =>
    cases granted
    exact (keptBy_eq_experiment_iff.mp settled).1
  | @decided feature asked deciding scope ruled _ _ _ _ _ shape =>
    split at granted
    · rename_i enabled
      have about : ruled.featureKey = featureKey := shape ▸ decided_featureKey
      rw [if_pos enabled]
      refine ⟨ruled.record user.id, ?_, Decision.record_experiment? granted keyed user.id⟩
      have inserted := Store.get?_insert_self before (ruled.record user.id)
      change (before.insert _).get? ruled.featureKey user.id = _ at inserted
      rwa [about] at inserted
    · cases granted

theorem Effect.accepted_of_experiment {grant : Grant}
    (effect : Effect services store settings featureKey user before decision after)
    (granted : decision.experiment = some grant) : refusal? featureKey user = none := by
  cases effect with
  | refused _ => cases granted
  | missing accepted _ _ => exact accepted
  | kept accepted _ => exact accepted
  | decided accepted _ _ _ _ _ => exact accepted

/-- A kept experiment whose variation still exists is granted again, and the store stays as it
is. -/
theorem Effect.of_keeps
    (effect : Effect services store settings featureKey user before decision after)
    (accepted : refusal? featureKey user = none)
    (keeps : before.Keeps featureKey user.id key variation)
    (available : settings.variationByKey? key variation = some (c, v)) :
    decision = restored featureKey c v ∧ after = before := by
  obtain ⟨-, rfl, -, rfl⟩ := Settings.variationByKey?_eq_some available
  have settled := keptBy_eq_experiment_iff.mpr ⟨keeps, available⟩
  cases effect with
  | refused refused => rw [accepted] at refused; cases refused
  | missing _ anew _ => exact absurd settled (anew c v)
  | decided _ anew _ _ _ _ => exact absurd settled (anew c v)
  | kept _ other =>
    rw [settled] at other
    obtain ⟨rfl, rfl⟩ := Kept.experiment.inj other
    exact ⟨rfl, rfl⟩

/-- Records of other features and of other users stay as they are. -/
theorem Effect.get?_other {other id : String}
    (effect : Effect services store settings featureKey user before decision after)
    (apart : ¬ (other = featureKey ∧ id = user.id)) : after.get? other id = before.get? other id := by
  cases effect with
  | refused _ => rfl
  | missing _ _ _ => rfl
  | kept _ _ => rfl
  | @decided feature asked deciding scope ruled _ _ _ _ _ shape =>
    split
    · have about : ruled.featureKey = featureKey := shape ▸ decided_featureKey
      refine Store.get?_insert_other before (ruled.record user.id) ?_
      change ¬ (other = ruled.featureKey ∧ id = user.id)
      rwa [about]
    · rfl

end Effect

end Evaluation

/-- What one evaluator is asked for over time: to decide a feature, or to go on with other
settings. -/
inductive Request (ω : Type) where
  | evaluate (featureKey : String) (user : User)
  | replace (settings : Settings ω)

/-- A decision with the settings it was made under. -/
structure Served (ω : Type) where
  settings : Settings ω
  featureKey : String
  user : User
  decision : Decision

/-- Carries out requests one after another. -/
def serve [Quantity ω] (settings : Settings ω) : List (Request ω) → Inquiry (List (Served ω))
  | [] => return []
  | .replace next :: rest => serve next rest
  | .evaluate featureKey user :: rest => do
    let decision ← Evaluation.evaluate settings featureKey user
    let later ← serve settings rest
    return ⟨settings, featureKey, user, decision⟩ :: later

namespace Served

/-- The same feature is decided for the same user. -/
def Alike (first second : Served ω) : Prop :=
  second.featureKey = first.featureKey ∧ second.user.id = first.user.id

end Served

section Runs

variable [Quantity ω] {σ : Type} {services : Services σ} {store : σ → Store}

/-- Carrying out requests, cut open after some decision: it had an effect on the store from which
the remaining requests are carried out. -/
theorem serve_split (keeps : services.KeepsRecords store) {settings : Settings ω}
    {requests : List (Request ω)} {journal : Journal σ} {before after : List (Served ω)}
    {served : Served ω}
    (run : ((serve settings requests).run services journal).1 = before ++ served :: after) :
    ∃ (early late : Journal σ) (rest : List (Request ω)),
      Evaluation.Effect services store served.settings served.featureKey served.user
        (store early.world) served.decision (store late.world) ∧
      ((serve served.settings rest).run services late).1 = after := by
  induction requests generalizing settings journal before with
  | nil => simp [serve] at run
  | cons request later ih =>
    cases request with
    | replace next => exact ih run
    | evaluate featureKey user =>
      simp only [serve, run_bind, run_pure] at run
      cases before with
      | cons earlier before =>
        rw [List.cons_append, List.cons.injEq] at run
        exact ih run.2
      | nil =>
        rw [List.nil_append, List.cons.injEq] at run
        obtain ⟨rfl, rest⟩ := run
        exact ⟨journal, _, later, Evaluation.evaluate_effect keeps settings featureKey user journal,
          rest⟩

/-- Once an experiment is kept for a feature and a user, the first decision about them after that
gives the same variation again, whatever has been decided in between. -/
theorem serve_of_keeps (keeps : services.KeepsRecords store) {settings : Settings ω}
    {requests : List (Request ω)} {journal : Journal σ} {between after : List (Served ω)}
    {later : Served ω} {key : String} {variation : UInt64}
    (run : ((serve settings requests).run services journal).1 = between ++ later :: after)
    (accepted : Evaluation.refusal? later.featureKey later.user = none)
    (kept : (store journal.world).Keeps later.featureKey later.user.id key variation)
    (available : ∀ served ∈ between ++ [later], later.Alike served →
      (served.settings.variationByKey? key variation).isSome) :
    ∃ c v, later.settings.variationByKey? key variation = some (c, v) ∧
      later.decision = Evaluation.restored later.featureKey c v := by
  induction requests generalizing settings journal between with
  | nil => simp [serve] at run
  | cons request rest ih =>
    cases request with
    | replace next => exact ih run kept available
    | evaluate featureKey user =>
      simp only [serve, run_bind, run_pure] at run
      have effect := Evaluation.evaluate_effect keeps settings featureKey user journal
      cases between with
      | nil =>
        rw [List.nil_append, List.cons.injEq] at run
        obtain ⟨rfl, -⟩ := run
        obtain ⟨⟨c, v⟩, found⟩ := Option.isSome_iff_exists.mp
          (available _ (List.mem_singleton_self _) ⟨rfl, rfl⟩)
        exact ⟨c, v, found, (effect.of_keeps accepted kept found).1⟩
      | cons earlier between =>
        rw [List.cons_append, List.cons.injEq] at run
        obtain ⟨rfl, run⟩ := run
        refine ih run ?_ fun served member => available served (List.mem_cons_of_mem _ member)
        by_cases alike : later.featureKey = featureKey ∧ later.user.id = user.id
        · obtain ⟨sameKey, sameUser⟩ := alike
          obtain ⟨⟨c, v⟩, found⟩ := Option.isSome_iff_exists.mp
            (available _ (List.mem_cons_self ..) ⟨sameKey.symm, sameUser.symm⟩)
          rw [sameKey, sameUser] at kept ⊢
          have accepted : Evaluation.refusal? featureKey user = none := by
            rw [← accepted]
            simp only [Evaluation.refusal?, sameKey, sameUser]
          rw [(effect.of_keeps accepted kept found).2]
          exact kept
        · obtain ⟨record, found, names⟩ := kept
          exact ⟨record, (effect.get?_other alike).trans found, names⟩

end Runs

/-- Records kept in memory by one evaluator, with lists and a gateway that have a world of their
own. -/
def Services.recorded {τ : Type}
    (list : ListQuery → τ → Except ServiceError (Option String) × τ)
    (gateway : GatewayQuery → τ → Except ServiceError (Option String) × τ) :
    Services (Store × τ) where
  read key user world := (.ok (world.1.get? key user), world)
  write record world := (.ok (), (world.1.insert record, world.2))
  list query world := ((list query world.2).1, (world.1, (list query world.2).2))
  gateway query world := ((gateway query world.2).1, (world.1, (gateway query world.2).2))

theorem Services.recorded_keepsRecords {τ : Type}
    (list : ListQuery → τ → Except ServiceError (Option String) × τ)
    (gateway : GatewayQuery → τ → Except ServiceError (Option String) × τ) :
    (Services.recorded list gateway).KeepsRecords Prod.fst where
  read _ _ _ := rfl
  read_store _ _ _ := rfl
  write_store _ _ := rfl
  list_store _ _ := rfl
  gateway_store _ _ := rfl

/-- Once an experiment has been granted for a feature and a user, every later decision about them
grants the same variation of the same campaign, with the values it has by then, as long as it has
not been taken out of the settings. Nothing else that changes in between matters. -/
theorem experiment_stays [Quantity ω] {τ : Type}
    (list : ListQuery → τ → Except ServiceError (Option String) × τ)
    (gateway : GatewayQuery → τ → Except ServiceError (Option String) × τ)
    {settings : Settings ω} {requests : List (Request ω)} {journal : Journal (Store × τ)}
    {before between after : List (Served ω)} {first later : Served ω} {grant : Grant}
    (run : ((serve settings requests).run (Services.recorded list gateway) journal).1 =
      before ++ first :: (between ++ later :: after))
    (granted : first.decision.experiment = some grant) (keyed : grant.campaignKey ≠ "")
    (alike : first.Alike later)
    (available : ∀ served ∈ between ++ [later], first.Alike served →
      (served.settings.variationByKey? grant.campaignKey grant.variation).isSome) :
    later.decision.enabled ∧ ∃ c v again,
      later.settings.variationByKey? grant.campaignKey grant.variation = some (c, v) ∧
      later.decision.experiment = some again ∧ again.campaignKey = grant.campaignKey ∧
      again.variation = grant.variation ∧ later.decision.values = v.values := by
  have keeps := Services.recorded_keepsRecords list gateway
  obtain ⟨early, late, rest, effect, tail⟩ := serve_split keeps run
  have kept := effect.keeps_experiment granted keyed
  have accepted := effect.accepted_of_experiment granted
  obtain ⟨sameKey, sameUser⟩ := alike
  rw [← sameKey, ← sameUser] at kept
  have acceptedLater : Evaluation.refusal? later.featureKey later.user = none := by
    rw [← accepted]
    simp only [Evaluation.refusal?, sameKey, sameUser]
  obtain ⟨c, v, found, decision⟩ := serve_of_keeps keeps tail acceptedLater kept
    fun served member alike => available served member
      ⟨alike.1.trans sameKey, alike.2.trans sameUser⟩
  obtain ⟨-, sameCampaign, -, sameVariation⟩ := Settings.variationByKey?_eq_some found
  rw [decision]
  exact ⟨rfl, c, v, .of c v false, found, rfl, sameCampaign, sameVariation, rfl⟩

/-- A feature that comes in two colours; a share of its users, in percent, gets red. -/
def colours (redShare : Rat) : Settings Rat where
  features := [{ id := 1, key := "colours", name := none, rules := [⟨10, none, none, none⟩],
                 values := [] }]
  campaigns := [⟨10, "colours_ab", none, .ab, 100, .null, false, false,
    [⟨1, "blue", none, 100 - redShare, .null, [], none, none, none⟩,
     ⟨2, "red", none, redShare, .null, [], none, none, none⟩], none, none, none, none⟩]
  groups := []
  campaignGroups := []
  account := 1
  sdkKey := none
  version := none

/-- Two users ask for a colour; between the two requests of the first one, red takes all weight. -/
def colourVisits : List (Served Rat) :=
  ((serve .empty [.replace ((colours 0).process.toOption.getD .empty),
    .evaluate "colours" { id := "ann" }, .replace ((colours 100).process.toOption.getD .empty),
    .evaluate "colours" { id := "bob" }, .evaluate "colours" { id := "ann" }]).run
    (Services.recorded (fun _ world => (.ok none, world)) fun _ world => (.ok none, world))
    ⟨(⟨[]⟩, ()), [], []⟩).1

theorem colourVisits_grants : (colourVisits.map fun served =>
    (served.featureKey, served.user.id, served.decision.experiment,
      (served.settings.variationByKey? "colours_ab" 1).isSome)) =
    [("colours", "ann", some ⟨10, "colours_ab", 1, "blue", false⟩, true),
     ("colours", "bob", some ⟨10, "colours_ab", 2, "red", false⟩, true),
     ("colours", "ann", some ⟨10, "colours_ab", 1, "blue", false⟩, true)] := by
  decide +kernel

/-- Blue stays blue for the first user although new users get red by then. -/
theorem experiment_stays_reweighted : ∃ first other later : Served Rat,
    colourVisits = [first, other, later] ∧
    first.decision.experiment = some ⟨10, "colours_ab", 1, "blue", false⟩ ∧
    other.decision.experiment = some ⟨10, "colours_ab", 2, "red", false⟩ ∧
    later.decision.enabled ∧ ∃ c v again,
      later.settings.variationByKey? "colours_ab" 1 = some (c, v) ∧
      later.decision.experiment = some again ∧ again.campaignKey = "colours_ab" ∧
      again.variation = 1 ∧ later.decision.values = v.values := by
  have grants := colourVisits_grants
  match run : colourVisits with
  | [first, other, later] =>
    rw [run] at grants
    simp only [List.map_cons, List.map_nil, List.cons.injEq, Prod.mk.injEq, and_true] at grants
    obtain ⟨⟨firstKey, firstUser, blue, _⟩, ⟨_, otherUser, red, _⟩, laterKey, laterUser, _, found⟩ :=
      grants
    refine ⟨first, other, later, rfl, blue, red, ?_⟩
    refine experiment_stays _ _ (show _ = [] ++ first :: ([other] ++ later :: []) from run) blue
      (by decide) ⟨laterKey.trans firstKey.symm, laterUser.trans firstUser.symm⟩ ?_
    intro served member alike
    rcases List.mem_cons.mp member with rfl | member
    · obtain ⟨_, sameUser⟩ := alike
      rw [otherUser, firstUser] at sameUser
      exact absurd sameUser (by decide)
    · rw [List.mem_singleton.mp member]
      exact found
  | [] | [_] | [_, _] | _ :: _ :: _ :: _ :: _ => rw [run] at grants; simp at grants

end FeatureFlags
