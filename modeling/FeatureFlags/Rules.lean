import FeatureFlags.Contest

namespace FeatureFlags

variable {ω : Type} [Quantity ω]

/-- What a rule says before traffic is looked at: whether the user may go on, and the variation that
is forced on the user, if any. -/
structure Outcome (ω : Type) where
  passed : Bool
  forced : Option (Variation ω)

namespace Rules

/-- The key under which the winner of a group is kept. -/
def groupKey (group : UInt64) : String := "_vwo_meta_meg_" ++ idText group

omit [Quantity ω] in
/-- The winner that is kept for a group. -/
def storedWinner? (scope : Scope ω) (group : UInt64) : Inquiry (Option GroupWinner) := do
  let record ← Inquiry.recordOf (groupKey group) scope.user.id
  match record with
  | none => return none
  | some r =>
    match r.experimentId, r.experimentKey with
    | some campaign, some key => do
      Inquiry.report (.storedWinner scope.user.id key group)
      return some (.ofStored scope.settings campaign r.experimentVariation)
    | _, _ => return none

omit [Quantity ω] in
/-- The first of some campaigns that the user may enter. -/
def firstEntered? (scope : Scope ω) : List (Campaign ω) → Inquiry (Option (Campaign ω))
  | [] => return none
  | c :: rest => do
    if ← c.mayEnter scope (scope.entryAttributes c) then return some c
    else firstEntered? scope rest

/-- Whether the user gets into a feature: a rollout has let the user in before, the feature has no
rollout, or the first rollout that the user may enter gives the user a variation. That rollout is
remembered. -/
def rolloutPassed (scope : Scope ω) (feature : Feature ω) : StateT Session Inquiry Bool := do
  let session ← get
  if (session.rollout? feature.key).isSome then return true
  if feature.rollouts.isEmpty then
    Inquiry.report (.gateWithoutRollouts feature.key)
    return true
  match ← firstEntered? scope feature.rollouts with
  | none => return false
  | some c =>
    match ← c.reportTraffic scope.settings.account scope.user.id with
    | none => return false
    | some v =>
      set (session.withRollout feature.key ⟨c.id, c.key, some v.id⟩)
      return true

/-- The variation that a comparison forces on the user. Other kinds of campaigns force none. -/
def forced? (scope : Scope ω) (campaign : Campaign ω) : Inquiry (Option (Variation ω)) :=
  match campaign.kind with
  | .ab =>
    if campaign.forcesVariations then campaign.forced? scope (scope.forcingAttributes campaign)
    else .note (.forcingSkipped scope.user.id campaign) (pure none)
  | .rollout | .personalize => pure none

/-- Remembers the winner of a group; a campaign passes if it is the winner. -/
def settle (group : UInt64) (campaign : Campaign ω) (winner : GroupWinner) :
    StateT Session Inquiry (Outcome ω) := do
  modify (·.withWinner group winner)
  return ⟨winner.admits campaign, none⟩

/-- What a rule says that links `campaign` to `feature`. A forced variation settles it. A campaign
of a group passes only as the winner of the group, once that is known; when it is not, the user
must be able to enter the campaign before the contest is held. -/
def outcome (scope : Scope ω) (feature : Feature ω) (campaign : Campaign ω) :
    StateT Session Inquiry (Outcome ω) := do
  match ← forced? scope campaign with
  | some v => return ⟨true, some v⟩
  | none =>
    match scope.settings.groupOf? campaign with
    | none =>
      let passed ← campaign.mayEnter scope (scope.entryAttributes campaign)
      return ⟨passed, none⟩
    | some group =>
      match (← get).winner? group with
      | some winner => return ⟨winner.admits campaign, none⟩
      | none =>
        match ← storedWinner? scope group with
        | some winner => settle group campaign winner
        | none =>
          if ← campaign.mayEnter scope (scope.entryAttributes campaign) then
            let winner ← Contest.winner? scope (rolloutPassed scope) group feature
            settle group campaign (winner.elim .nobody .of)
          else return ⟨false, none⟩

end Rules

end FeatureFlags
