import FeatureFlags.Rules
import FeatureFlags.Decision

namespace FeatureFlags

variable {ω : Type} [Quantity ω]

namespace Evaluation

/-- What a kept record settles: the whole decision, a rollout that has let the user in, or
nothing. -/
inductive Kept (ω : Type) where
  | experiment (campaign : Campaign ω) (v : Variation ω)
  | rollout (campaign : Campaign ω) (v : Variation ω)
  | nothing

omit [Quantity ω] in
/-- A record that keeps an experiment's variation is about the experiment only; campaigns and
variations that no longer exist settle nothing. -/
def kept (settings : Settings ω) (record : Record) : Kept ω :=
  let found (named : Option (String × UInt64)) :=
    named.bind fun (key, variation) => settings.variationByKey? key variation
  if record.experimentVariation.isSome then
    match found record.experiment? with
    | some (campaign, v) => .experiment campaign v
    | none => .nothing
  else
    match found record.rollout? with
    | some (campaign, v) => .rollout campaign v
    | none => .nothing

omit [Quantity ω] in
/-- The gateway's data about the user, if there is anything to ask for. -/
def fetchGateway (user : User) (account : UInt64) : Inquiry (Option GatewayData) :=
  if user.agent?.isNone && user.ip?.isNone then pure none
  else .classify ⟨user.agent?, user.ip?, account⟩ pure

/-- The first rollout of some that lets the user pass. -/
def firstPassed? (scope : Scope ω) (feature : Feature ω) :
    List (Campaign ω) → StateT Session Inquiry (Option (Campaign ω))
  | [] => return none
  | c :: rest => do
    let outcome ← Rules.outcome scope feature c
    if outcome.passed then return some c else firstPassed? scope feature rest

/-- Grants a rollout to a decision: the first one that lets the user pass is remembered, and gives
its variation if the user takes part. -/
def grantRollout (scope : Scope ω) (feature : Feature ω) (decision : Decision) :
    StateT Session Inquiry Decision := do
  match ← firstPassed? scope feature feature.rollouts with
  | none => return decision
  | some c =>
    modify (·.withRollout feature.key ⟨c.id, c.key, c.variations.head?.map (·.id)⟩)
    match ← c.reportTraffic scope.settings.account scope.user.id with
    | none => return decision
    | some v =>
      return { decision with
        enabled := true, values := v.values, rollout := some (.of c v false) }

/-- Grants an experiment to a decision. The first experiment that lets the user pass settles it,
whether or not it has a variation for the user. -/
def grantExperiment (scope : Scope ω) (feature : Feature ω) (decision : Decision) :
    List (Campaign ω) → StateT Session Inquiry Decision
  | [] => return decision
  | c :: rest => do
    let outcome ← Rules.outcome scope feature c
    if outcome.passed then
      let granted : Option (Variation ω × Bool) ← match outcome.forced with
        | some v => pure (some (v, true))
        | none => do
          let v ← c.reportTraffic scope.settings.account scope.user.id
          pure (v.map fun v => (v, false))
      match granted with
      | some (v, forced) =>
        return { decision with
          enabled := true, values := v.values, experiment := some (.of c v forced) }
      | none => return decision
    else grantExperiment scope feature decision rest

/-- Decides a feature by its rules, starting from what a kept rollout has granted. With rollouts,
experiments are only for users whom a rollout has let in. -/
def byRules (scope : Scope ω) (feature : Feature ω) (start : Decision) :
    StateT Session Inquiry Decision := do
  let byRollout := !feature.rollouts.isEmpty && !start.enabled
  if feature.rollouts.isEmpty then Inquiry.report (.noRollouts start.featureKey)
  let decision ← if byRollout then grantRollout scope feature start else pure start
  if byRollout && !decision.enabled then return decision
  grantExperiment scope feature decision feature.experiments

/-- Decides a feature that the settings have, and keeps a decision that enables it. -/
def ofFeature (settings : Settings ω) (user : User) (feature : Feature ω) (start : Decision)
    (session : Session) : Inquiry Decision := do
  let fetched ← if feature.requiresGateway && user.gateway.isNone then
      fetchGateway user settings.account
    else pure none
  let (decision, _) ← (byRules ⟨settings, user, fetched⟩ feature start).run session
  if decision.enabled then .write (decision.record user.id) (pure decision)
  else return { featureKey := start.featureKey }

/-- Decides a feature for a user. An experiment that is kept stays as it is; a rollout that is kept
lets the user in. -/
def decide (settings : Settings ω) (featureKey : String) (user : User) : Inquiry Decision := do
  let record ← Inquiry.recordOf featureKey user.id
  let start : Decision := { featureKey := featureKey }
  let unknown : Inquiry Decision := .note (.featureMissing featureKey) (pure start)
  match record.elim .nothing (kept settings) with
  | .experiment c v =>
    Inquiry.report (.storedExperiment user.id c.key v)
    return { start with
      enabled := true, values := v.values, experiment := some (.of c v false) }
  | .rollout c v =>
    Inquiry.report (.storedRollout user.id c.key v)
    let start := { start with
      enabled := true, values := v.values, rollout := some (.of c v false) }
    let session : Session := Session.withRollout {} featureKey ⟨c.id, c.key, some v.id⟩
    match settings.feature? featureKey with
    | some feature => ofFeature settings user feature start session
    | none => unknown
  | .nothing =>
    match settings.feature? featureKey with
    | some feature => ofFeature settings user feature start {}
    | none => unknown

omit [Quantity ω] in
/-- Why a request is refused, if it is. -/
def refusal? (featureKey : String) (user : User) : Option RequestError :=
  if user.id.isEmpty then some .emptyUserId
  else if featureKey.isEmpty then some .emptyFeatureKey
  else none

/-- Decides a feature for a user, unless the request is refused. -/
def tryEvaluate (settings : Settings ω) (featureKey : String) (user : User) :
    Inquiry (Except RequestError Decision) :=
  match refusal? featureKey user with
  | some e => pure (.error e)
  | none => do
    let decision ← decide settings featureKey user
    return .ok decision

/-- Decides a feature for a user; a request that is refused leaves it disabled. -/
def evaluate (settings : Settings ω) (featureKey : String) (user : User) : Inquiry Decision := do
  match ← tryEvaluate settings featureKey user with
  | .ok decision => return decision
  | .error e => .note (.requestRefused featureKey e) (pure { featureKey := featureKey })

omit [Quantity ω] in
/-- Whether a user's custom variables meet a condition; without a condition everybody does. -/
def meets (settings : Settings ω) (dsl : Json) (user : User) : Inquiry Bool := do
  match ← Segment.compileReporting dsl with
  | none => return true
  | some segment => segment.holds ⟨settings, user, none⟩ ⟨user.customVariables, some user.id⟩

/-- The campaign that wins a group for a user, if a feature links it. -/
def groupWinner? (settings : Settings ω) (group : UInt64) (featureKey : String) (user : User) :
    Inquiry (Option UInt64) :=
  match settings.feature? featureKey with
  | none => pure none
  | some feature => do
    let scope : Scope ω := ⟨settings, user, none⟩
    let (winner, _) ← (Contest.winner? scope (Rules.rolloutPassed scope) group feature).run {}
    return winner.map (·.id)

end Evaluation

end FeatureFlags
