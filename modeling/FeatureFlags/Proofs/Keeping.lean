import FeatureFlags.Proofs.Calls

namespace FeatureFlags

open Inquiry

variable {ω : Type}

namespace Store

@[simp] theorem get?_insert_self (store : Store) (record : Record) :
    (store.insert record).get? record.featureKey record.user = some record := by
  unfold get? insert
  rw [List.find?_append, List.find?_eq_none.mpr, Option.none_or]
  · simp
  · intro earlier member
    have apart := (List.mem_filter.mp member).2
    rw [decide_eq_true_eq] at apart
    rwa [decide_eq_true_eq]

theorem get?_insert_other (store : Store) (record : Record) {featureKey user : String}
    (other : ¬ (featureKey = record.featureKey ∧ user = record.user)) :
    (store.insert record).get? featureKey user = store.get? featureKey user := by
  unfold get? insert
  rw [List.find?_append, List.find?_filter]
  have last : [record].find? (fun r => r.featureKey = featureKey ∧ r.user = user) = none := by
    simp only [List.find?_singleton, ite_eq_right_iff, decide_eq_true_eq]
    rintro ⟨rfl, rfl⟩
    exact absurd ⟨rfl, rfl⟩ other
  rw [last, Option.or_none]
  congr 1
  funext r
  by_cases same : r.featureKey = featureKey ∧ r.user = user
  · obtain ⟨rfl, rfl⟩ := same
    simp [other]
  · simp [same]

theorem get?_insert (store : Store) (record : Record) (featureKey user : String) :
    (store.insert record).get? featureKey user =
      if featureKey = record.featureKey ∧ user = record.user then some record
      else store.get? featureKey user := by
  split
  · rename_i same
    rw [same.1, same.2, get?_insert_self]
  · rename_i other
    exact get?_insert_other store record other

end Store

/-- The services keep records in a store of their world: nothing but writing changes it, and reading
shows it. Lists and the gateway may answer anything. -/
structure Services.KeepsRecords {σ : Type} (services : Services σ) (store : σ → Store) :
    Prop where
  read : ∀ key user world, (services.read key user world).1 = .ok ((store world).get? key user)
  read_store : ∀ key user world, store (services.read key user world).2 = store world
  write_store : ∀ record world,
    store (services.write record world).2 = (store world).insert record
  list_store : ∀ query world, store (services.list query world).2 = store world
  gateway_store : ∀ query world, store (services.gateway query world).2 = store world

namespace Services

theorem inMemory_keepsRecords (list : ListQuery → Except ServiceError (Option String))
    (gateway : GatewayQuery → Except ServiceError (Option String)) :
    (Services.inMemory list gateway).KeepsRecords id where
  read _ _ _ := rfl
  read_store _ _ _ := rfl
  write_store _ _ := rfl
  list_store _ _ := rfl
  gateway_store _ _ := rfl

namespace KeepsRecords

variable {σ : Type} {services : Services σ} {store : σ → Store}

theorem stay (keeps : services.KeepsRecords store) (before : Store) :
    services.Stay Call.isQuestion fun world => store world = before where
  read key user world _ same := (keeps.read_store key user world).trans same
  write _ _ asked _ := asked.elim
  list query world _ same := (keeps.list_store query world).trans same
  gateway query world _ same := (keeps.gateway_store query world).trans same

/-- What only asks leaves the store as it is. -/
theorem run_store {α : Type} (keeps : services.KeepsRecords store) {gives : α → Prop}
    {x : Inquiry α} (held : x.Guarantees Call.isQuestion gives) (journal : Journal σ) :
    store (x.run services journal).2.world = store journal.world :=
  held.run_within (keeps.stay _) rfl

theorem run_recordOf (keeps : services.KeepsRecords store) (key user : String)
    (journal : Journal σ) :
    ((recordOf key user).run services journal).1 = (store journal.world).get? key user := by
  simp [recordOf, Inquiry.run, keeps.read]

end KeepsRecords

end Services

theorem Scope.asks_isQuestion (scope : Scope ω) : scope.Asks Call.isQuestion where
  read _ := trivial
  list _ _ _ := trivial

namespace Evaluation

/-- What a decision by rules starts from: a kept rollout that has let the user in, or nothing. -/
def start (featureKey : String) : Kept ω → Decision × Session
  | .rollout c v =>
    ({ featureKey := featureKey, enabled := true, values := v.values,
       rollout := some (.of c v false) },
     Session.withRollout {} featureKey ⟨c.id, c.key, some v.id⟩)
  | _ => ({ featureKey := featureKey }, {})

/-- The decision that a kept experiment settles. -/
def restored (featureKey : String) (c : Campaign ω) (v : Variation ω) : Decision where
  featureKey := featureKey
  enabled := true
  values := v.values
  experiment := some (.of c v false)

/-- What is kept about a feature when its record is this one. -/
def keptBy (settings : Settings ω) (record : Option Record) : Kept ω :=
  record.elim .nothing (kept settings)

/-- The gateway data that are fetched for a user before a feature is decided. -/
def fetched (settings : Settings ω) (user : User) (feature : Feature ω) :
    Inquiry (Option GatewayData) :=
  if feature.requiresGateway && user.gateway.isNone then fetchGateway user settings.account
  else pure none

theorem fetched_guarantees (settings : Settings ω) (user : User) (feature : Feature ω) :
    (fetched settings user feature).Guarantees Call.isQuestion fun _ => True := by
  unfold fetched fetchGateway
  split
  · split
    · trivial
    · exact ⟨trivial, fun _ => trivial⟩
  · trivial

/-- Keeps a decision that enables its feature; another one leaves the feature disabled. -/
def conclude (featureKey user : String) (decision : Decision) : Inquiry Decision :=
  if decision.enabled then .write (decision.record user) (pure decision)
  else pure { featureKey := featureKey }

theorem fetched_of_own (settings : Settings ω) {user : User} (own : user.gateway.isSome)
    (f : Feature ω) : fetched settings user f = pure none := by
  rw [fetched, Option.isNone_eq_false_iff.mpr own, Bool.and_false]
  rfl

theorem ofFeature_eq [Quantity ω] (settings : Settings ω) (user : User) (feature : Feature ω)
    (begun : Decision) (session : Session) :
    ofFeature settings user feature begun session = (do
      let data ← fetched settings user feature
      let ruled ← (byRules ⟨settings, user, data⟩ feature begun).run session
      conclude begun.featureKey user.id ruled.1) := by
  unfold ofFeature fetched
  split <;> rfl

/-- A decision by the rules of a feature, if there is such a feature. -/
def anew [Quantity ω] (settings : Settings ω) (featureKey : String) (user : User)
    (settled : Kept ω) : Inquiry Decision :=
  match settings.feature? featureKey with
  | some feature =>
    ofFeature settings user feature (start featureKey settled).1 (start featureKey settled).2
  | none => .note (.featureMissing featureKey) (pure { featureKey := featureKey })

/-- How a decision goes on once it is known what is kept: an experiment is restored, and otherwise
the rules decide. -/
def resume [Quantity ω] (settings : Settings ω) (featureKey : String) (user : User)
    (settled : Kept ω) : Inquiry Decision :=
  match settled with
  | .experiment c v =>
    .note (.storedExperiment user.id c.key v) (pure (restored featureKey c v))
  | .rollout c v => .note (.storedRollout user.id c.key v) (anew settings featureKey user settled)
  | .nothing => anew settings featureKey user settled

theorem decide_eq [Quantity ω] (settings : Settings ω) (featureKey : String) (user : User) :
    decide settings featureKey user = (do
      let record ← recordOf featureKey user.id
      resume settings featureKey user (keptBy settings record)) := by
  unfold decide resume anew
  refine congrArg (recordOf featureKey user.id >>= ·) (funext fun record => ?_)
  dsimp only [keptBy]
  cases record.elim .nothing (kept settings) <;> cases settings.feature? featureKey <;> rfl

/-- A request that is not refused is decided. -/
theorem evaluate_of_accepted [Quantity ω] (settings : Settings ω) {featureKey : String} {user : User}
    (accepted : refusal? featureKey user = none) :
    evaluate settings featureKey user = decide settings featureKey user := by
  unfold evaluate tryEvaluate
  rw [accepted]
  simp only [bind_assoc, pure_bind, bind_pure]

theorem evaluate_of_refused [Quantity ω] (settings : Settings ω) {featureKey : String} {user : User}
    {error : RequestError} (refused : refusal? featureKey user = some error) :
    evaluate settings featureKey user =
      .note (.requestRefused featureKey error) (pure { featureKey := featureKey }) := by
  unfold evaluate tryEvaluate
  rw [refused, pure_bind]

@[simp] theorem start_featureKey (featureKey : String) (settled : Kept ω) :
    (start featureKey settled).1.featureKey = featureKey := by
  cases settled <;> rfl

theorem start_experiment (featureKey : String) (settled : Kept ω) :
    (start featureKey settled).1.experiment = none := by
  cases settled <;> rfl

section Resumed

variable {σ : Type}

/-- The same calls have been made, and they have led to the same world. -/
def Reported (before after : Journal σ) : Prop :=
  after.world = before.world ∧ after.calls = before.calls

/-- All the ways in which a decision goes on once it is known what is kept. -/
inductive Resumed [Quantity ω] (services : Services σ) (settings : Settings ω) (featureKey : String)
    (user : User) (settled : Kept ω) (before : Journal σ) : Decision × Journal σ → Prop
  | restored {c v after} : settled = .experiment c v → Reported before after →
      Resumed services settings featureKey user settled before (restored featureKey c v, after)
  | missing {after} : (∀ c v, settled ≠ .experiment c v) → settings.feature? featureKey = none →
      Reported before after →
      Resumed services settings featureKey user settled before ({ featureKey := featureKey }, after)
  | decided {feature asking} : (∀ c v, settled ≠ .experiment c v) →
      settings.feature? featureKey = some feature → Reported before asking →
      Resumed services settings featureKey user settled before
        ((ofFeature settings user feature (start featureKey settled).1
          (start featureKey settled).2).run services asking)

theorem anew_run [Quantity ω] (services : Services σ) (settings : Settings ω)
    (featureKey : String) (user : User) {settled : Kept ω}
    (unsettled : ∀ c v, settled ≠ .experiment c v) {before after : Journal σ}
    (reported : Reported before after) :
    Resumed services settings featureKey user settled before
      ((anew settings featureKey user settled).run services after) := by
  unfold anew
  cases found : settings.feature? featureKey with
  | none => exact .missing unsettled found reported
  | some feature => exact .decided unsettled found reported

theorem resume_run [Quantity ω] (services : Services σ) (settings : Settings ω)
    (featureKey : String) (user : User) (settled : Kept ω) (before : Journal σ) :
    Resumed services settings featureKey user settled before
      ((resume settings featureKey user settled).run services before) := by
  cases settled with
  | experiment c v => exact .restored rfl ⟨rfl, rfl⟩
  | rollout c v =>
    have reported : Reported before (before.noted (.storedRollout user.id c.key v)) := ⟨rfl, rfl⟩
    exact anew_run services settings featureKey user (by simp) reported
  | nothing => exact anew_run services settings featureKey user (by simp) ⟨rfl, rfl⟩

/-- A decision first reads what is kept. -/
theorem decide_resumed [Quantity ω] (services : Services σ) (settings : Settings ω)
    (featureKey : String) (user : User) (journal : Journal σ) :
    let read := (recordOf featureKey user.id).run services journal
    Resumed services settings featureKey user (keptBy settings read.1) read.2
      ((decide settings featureKey user).run services journal) := by
  rw [decide_eq, run_bind]
  exact resume_run ..

end Resumed

section Served

variable {σ : Type} (services : Services σ) (store : σ → Store)

/-- All that an evaluation can do to the decision and to the store. A decision is kept when it was
made by rules and enables the feature; else the store stays as it is. -/
inductive Effect [Quantity ω] (settings : Settings ω) (featureKey : String) (user : User)
    (before : Store) : Decision → Store → Prop
  | refused {error} : refusal? featureKey user = some error →
      Effect settings featureKey user before { featureKey := featureKey } before
  | kept {c v} : refusal? featureKey user = none →
      keptBy settings (before.get? featureKey user.id) = .experiment c v →
      Effect settings featureKey user before (restored featureKey c v) before
  | missing : refusal? featureKey user = none →
      (∀ c v, keptBy settings (before.get? featureKey user.id) ≠ .experiment c v) →
      settings.feature? featureKey = none →
      Effect settings featureKey user before { featureKey := featureKey } before
  | decided {feature asked deciding scope decision} : refusal? featureKey user = none →
      (∀ c v, keptBy settings (before.get? featureKey user.id) ≠ .experiment c v) →
      settings.feature? featureKey = some feature → store deciding.world = before →
      scope = ⟨settings, user, ((fetched settings user feature).run services asked).1⟩ →
      decision = (((byRules scope feature
        (start featureKey (keptBy settings (before.get? featureKey user.id))).1).run
        (start featureKey (keptBy settings (before.get? featureKey user.id))).2).run services
          deciding).1.1 →
      Effect settings featureKey user before
        (if decision.enabled then decision else { featureKey := featureKey })
        (if decision.enabled then before.insert (decision.record user.id) else before)

variable {services store}

theorem conclude_run (keeps : services.KeepsRecords store) (featureKey user : String)
    (decision : Decision) (journal : Journal σ) :
    let ended := (conclude featureKey user decision).run services journal
    ended.1 = (if decision.enabled then decision else { featureKey := featureKey }) ∧
      store ended.2.world = if decision.enabled then
        (store journal.world).insert (decision.record user) else store journal.world := by
  unfold conclude
  cases decision.enabled
  · exact ⟨rfl, rfl⟩
  · refine ⟨rfl, ?_⟩
    simp [Inquiry.run, keeps.write_store]

theorem ofFeature_effect [Quantity ω] (keeps : services.KeepsRecords store)
    {settings : Settings ω} {featureKey : String} {user : User} (feature : Feature ω)
    (journal : Journal σ) {before : Store} (same : store journal.world = before)
    (accepted : refusal? featureKey user = none)
    (anew : ∀ c v, keptBy settings (before.get? featureKey user.id) ≠ .experiment c v)
    (found : settings.feature? featureKey = some feature) :
    let begun := start featureKey (keptBy settings (before.get? featureKey user.id))
    let ended := (ofFeature settings user feature begun.1 begun.2).run services journal
    Effect services store settings featureKey user before ended.1 (store ended.2.world) := by
  intro begun ended
  let afterFetch := (fetched settings user feature).run services journal
  let scope : Scope ω := ⟨settings, user, afterFetch.1⟩
  let ruled := ((byRules scope feature begun.1).run begun.2).run services afterFetch.2
  have fetchStore : store afterFetch.2.world = before :=
    (keeps.run_store (fetched_guarantees settings user feature) journal).trans same
  have ruledStore : store ruled.2.world = before :=
    (keeps.run_store (byRules_guarantees scope.asks_isQuestion feature begun.1 begun.2)
      afterFetch.2).trans fetchStore
  have shape : ended = (conclude featureKey user.id ruled.1.1).run services ruled.2 := by
    simp only [ended, ofFeature_eq, run_bind, begun, start_featureKey]
    rfl
  obtain ⟨decision, kept⟩ := conclude_run keeps featureKey user.id ruled.1.1 ruled.2
  rw [shape, decision, kept, ruledStore]
  exact .decided accepted anew found fetchStore rfl rfl

theorem decide_effect [Quantity ω] (keeps : services.KeepsRecords store)
    {settings : Settings ω} {featureKey : String} {user : User}
    (accepted : refusal? featureKey user = none) (journal : Journal σ) :
    let ended := (decide settings featureKey user).run services journal
    Effect services store settings featureKey user (store journal.world) ended.1
      (store ended.2.world) := by
  let afterRead := (recordOf featureKey user.id).run services journal
  have same : store afterRead.2.world = store journal.world :=
    keeps.run_store (guarantees_recordOf.mpr ⟨trivial, fun _ => trivial⟩ :
      (recordOf featureKey user.id).Guarantees Call.isQuestion fun _ => True) journal
  intro ended
  have resumed : Resumed services settings featureKey user (keptBy settings afterRead.1)
      afterRead.2 ended := decide_resumed services settings featureKey user journal
  rw [keeps.run_recordOf] at resumed
  clear_value ended
  cases resumed with
  | restored settled reported =>
    rw [reported.1, same]
    exact .kept accepted settled
  | missing unsettled missing reported =>
    rw [reported.1, same]
    exact .missing accepted unsettled missing
  | @decided feature asking unsettled found reported =>
    have sameStore : store asking.world = store journal.world := by rw [reported.1, same]
    exact ofFeature_effect keeps feature asking sameStore accepted unsettled found

/-- Whatever the lists and the gateway answer, an evaluation has one of these effects. -/
theorem evaluate_effect [Quantity ω] (keeps : services.KeepsRecords store)
    (settings : Settings ω) (featureKey : String) (user : User) (journal : Journal σ) :
    let ended := (evaluate settings featureKey user).run services journal
    Effect services store settings featureKey user (store journal.world) ended.1
      (store ended.2.world) := by
  cases accepted : refusal? featureKey user with
  | some error =>
    rw [evaluate_of_refused settings accepted]
    exact .refused accepted
  | none =>
    rw [evaluate_of_accepted settings accepted]
    exact decide_effect keeps accepted journal

end Served

end Evaluation

end FeatureFlags
