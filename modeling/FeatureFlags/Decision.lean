import FeatureFlags.Settings.Basic
import FeatureFlags.Record

namespace FeatureFlags

/-- The variation that a campaign has given to a user. -/
structure Grant where
  campaign : UInt64
  campaignKey : String
  variation : UInt64
  variationKey : String
  forced : Bool
  deriving DecidableEq

namespace Grant

variable {ω : Type}

def of (campaign : Campaign ω) (v : Variation ω) (forced : Bool) : Grant :=
  ⟨campaign.id, campaign.key, v.id, v.key, forced⟩

end Grant

/-- What has been decided about a feature for a user. -/
structure Decision where
  featureKey : String
  enabled : Bool := false
  values : List Variable := []
  rollout : Option Grant := none
  experiment : Option Grant := none

namespace Decision

/-- The grant that counts: the experiment's, else the rollout's. -/
def grant? (decision : Decision) : Option Grant := decision.experiment <|> decision.rollout

/-- The value of the first variable with this key. -/
def valueOf? (decision : Decision) (key : String) : Option Json :=
  (decision.values.find? fun v => v.key = key).map (·.value)

/-- One line for people. -/
def text (decision : Decision) : String :=
  let state := if decision.enabled then "enabled" else "disabled"
  let granted := decision.grant?.elim "" fun g => " (" ++ g.campaignKey ++ "/" ++ g.variationKey ++ ")"
  decision.featureKey ++ ": " ++ state ++ granted

/-- What is kept of a decision. -/
def record (decision : Decision) (user : String) : Record where
  featureKey := decision.featureKey
  user := user
  rolloutId := decision.rollout.map (·.campaign)
  rolloutKey := decision.rollout.map (·.campaignKey)
  rolloutVariation := decision.rollout.map (·.variation)
  experimentId := decision.experiment.map (·.campaign)
  experimentKey := decision.experiment.map (·.campaignKey)
  experimentVariation := decision.experiment.map (·.variation)

end Decision

end FeatureFlags
