import FeatureFlags.Quantity
import FeatureFlags.Settings.Basic

namespace FeatureFlags

/-- A failure that a collaborator reports. -/
inductive ServiceError where
  | unavailable (reason : String)
  | malformed (reason : String)
  deriving DecidableEq

namespace ServiceError

def message : ServiceError → String
  | .unavailable reason => "service unavailable: " ++ reason
  | .malformed reason => "malformed service reply: " ++ reason

end ServiceError

/-- Why a request for a decision is refused. -/
inductive RequestError where
  | emptyUserId
  | emptyFeatureKey
  deriving DecidableEq

namespace RequestError

def message : RequestError → String
  | .emptyUserId => "user id must not be empty"
  | .emptyFeatureKey => "feature key must not be empty"

end RequestError

inductive Level where
  | debug
  | info
  | warn
  | error

namespace Level

def name : Level → String
  | .debug => "DEBUG"
  | .info => "INFO"
  | .warn => "WARN"
  | .error => "ERROR"

end Level

/-- What an event says about one of its fields. -/
inductive Detail where
  | text (s : String)
  | number (n : Nat)
  | flag (b : Bool)
  | double (x : Binary64)

/-- Something worth telling people who watch. Events are told in one wording each, fixed here. -/
structure Event where
  level : Level
  message : String
  details : List (String × Detail) := []

namespace Event

variable {ω : Type}

def recordUnreadable (featureKey user : String) (e : ServiceError) : Event :=
  ⟨.warn, "stored data unreadable, ignoring",
    [("feature_key", .text featureKey), ("user_id", .text user), ("err", .text e.message)]⟩

def toggleUnreadable (featureKey : String) (e : ServiceError) : Event :=
  ⟨.debug, "stored data unreadable", [("feature_key", .text featureKey), ("err", .text e.message)]⟩

def listFailed (list : String) (e : ServiceError) : Event :=
  ⟨.debug, "list membership lookup failed", [("list_id", .text list), ("err", .text e.message)]⟩

def gatewayFailed (e : ServiceError) : Event :=
  ⟨.warn, "gateway lookup failed", [("err", .text e.message)]⟩

def gatewayReplyUnreadable : Event := ⟨.warn, "gateway reply unreadable", []⟩

def notStored (featureKey user : String) (e : ServiceError) : Event :=
  ⟨.error, "storing_data_error",
    [("feature_key", .text featureKey), ("user_id", .text user), ("err", .text e.message)]⟩

def patternRejected (source : String) : Event :=
  ⟨.debug, "invalid regex operand", [("pattern", .text source)]⟩

def toggledFeatureMissing (feature : UInt64) : Event :=
  ⟨.debug, "feature not found for featureId leaf", [("feature_id", .number feature.toNat)]⟩

def addressMissing (user : String) : Event :=
  ⟨.debug, "no ip address for location targeting", [("user_id", .text user)]⟩

def agentMissing (user : String) : Event :=
  ⟨.debug, "no user agent for device targeting", [("user_id", .text user)]⟩

def inclusion (user : String) (campaign : Campaign ω) (bucket : Nat) (part : Bool) : Event :=
  ⟨.debug, "user_part_of_campaign",
    [("user_id", .text user), ("campaign_key", .text campaign.reportKey), ("bucket", .number bucket),
     ("part", .flag part)]⟩

def bucketing [Quantity ω] (user : String) (campaign : Campaign ω) (bucket : Nat) (hash : UInt32) :
    Event :=
  ⟨.debug, "user_bucket_to_variation",
    [("user_id", .text user), ("campaign_key", .text campaign.reportKey),
     ("percent_traffic", .double (Quantity.toBinary64 campaign.percentTraffic)),
     ("bucket", .number bucket), ("hash", .number hash.toNat)]⟩

def allotment (user : String) (campaign : Campaign ω) : Option (Variation ω) → Event
  | some v => ⟨.info, "user_campaign_bucket_info: got variation",
      [("user_id", .text user), ("campaign_key", .text campaign.reportKey),
       ("variation_key", .text v.key)]⟩
  | none => ⟨.info, "user_campaign_bucket_info: did not get any variation",
      [("user_id", .text user), ("campaign_key", .text campaign.label)]⟩

def statusText (passed : Bool) : String := if passed then "passed" else "failed"

def segmentationSkipped (user : String) (campaign : Campaign ω) : Event :=
  ⟨.info, "segmentation_skip", [("user_id", .text user), ("campaign_key", .text campaign.label)]⟩

def segmentation (user : String) (campaign : Campaign ω) (passed : Bool) : Event :=
  ⟨.info, "segmentation_status",
    [("user_id", .text user), ("campaign_key", .text campaign.label),
     ("status", .text (statusText passed))]⟩

def forcingSkipped (user : String) (campaign : Campaign ω) : Event :=
  ⟨.info, "whitelisting_skip", [("user_id", .text user), ("campaign_key", .text campaign.label)]⟩

def variationForcingSkipped (user : String) (campaign : Campaign ω) (v : Variation ω) : Event :=
  ⟨.info, "whitelisting_skip",
    [("user_id", .text user), ("campaign_key", .text campaign.label), ("variation_key", .text v.key)]⟩

def forcing (user : String) (campaign : Campaign ω) (forced : Option (Variation ω)) : Event :=
  ⟨.info, "whitelisting_status",
    [("user_id", .text user), ("campaign_key", .text campaign.label),
     ("status", .text (statusText forced.isSome)),
     ("variation_key", .text (forced.elim "" (·.key)))]⟩

def storedCandidate (user : String) (campaign : Campaign ω) : Event :=
  ⟨.info, "meg_campaign_found_in_storage",
    [("user_id", .text user), ("campaign_key", .text campaign.key)]⟩

def storedWinner (user key : String) (group : UInt64) : Event :=
  ⟨.info, "meg_campaign_found_in_storage",
    [("user_id", .text user), ("campaign_key", .text key), ("group_id", .number group.toNat)]⟩

def eligibleCandidate (user : String) (campaign : Campaign ω) : Event :=
  ⟨.info, "meg_campaign_eligible", [("user_id", .text user), ("campaign_key", .text campaign.key)]⟩

def groupMissing (group : UInt64) : Event :=
  ⟨.warn, "group not found in settings", [("group_id", .number group.toNat)]⟩

def groupWon (user : String) (id : UInt64) (group : Group ω) (campaign : Campaign ω) : Event :=
  ⟨.info, "meg_winner_campaign",
    [("group_id", .number id.toNat), ("user_id", .text user), ("campaign_key", .text campaign.key),
     ("algorithm", .text (match group.algorithm with
       | .random => "Random"
       | .advanced => "Advanced"))]⟩

def groupLost (user : String) (group : UInt64) : Event :=
  ⟨.info, "meg_winner_campaign: none", [("group_id", .number group.toNat), ("user_id", .text user)]⟩

def gateWithoutRollouts (featureKey : String) : Event :=
  ⟨.info, "meg_skip_rollout_evaluate_experiments", [("feature_key", .text featureKey)]⟩

def storedExperiment (user key : String) (v : Variation ω) : Event :=
  ⟨.info, "stored_variation_found: experiment",
    [("user_id", .text user), ("experiment_key", .text key), ("variation_key", .text v.key)]⟩

def storedRollout (user key : String) (v : Variation ω) : Event :=
  ⟨.info, "stored_variation_found: rollout",
    [("user_id", .text user), ("rollout_key", .text key), ("variation_key", .text v.key)]⟩

def featureMissing (featureKey : String) : Event :=
  ⟨.error, "feature_not_found", [("feature_key", .text featureKey)]⟩

def noRollouts (featureKey : String) : Event :=
  ⟨.debug, "experiments_evaluation_when_no_rollout_present", [("feature_key", .text featureKey)]⟩

def requestRefused (featureKey : String) (e : RequestError) : Event :=
  ⟨.error, "invalid evaluation request",
    [("feature_key", .text featureKey), ("err", .text e.message)]⟩

end Event

end FeatureFlags
