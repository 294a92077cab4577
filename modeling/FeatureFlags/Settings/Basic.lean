import FeatureFlags.Bucketing
import FeatureFlags.Segment.Compile

namespace FeatureFlags

/-- What a campaign is for: giving a feature to a share of the users, giving it to some users in one
form, or comparing forms. -/
inductive CampaignKind where
  | rollout
  | personalize
  | ab
  deriving DecidableEq

namespace CampaignKind

def name : CampaignKind → String
  | .rollout => "ROLLOUT"
  | .personalize => "PERSONALIZE"
  | .ab => "AB"

def all : List CampaignKind := [.rollout, .personalize, .ab]

def named? (name : String) : Option CampaignKind := all.find? fun kind => kind.name = name

end CampaignKind

/-- A value that a feature carries. -/
structure Variable where
  id : UInt64
  key : String
  type : String
  value : Json

/-- A form of a feature that users may get. Its range and its compiled targeting condition are
derived when settings are processed. -/
structure Variation (ω : Type) where
  id : UInt64
  key : String
  name : Option String
  weight : ω
  segments : Json
  values : List Variable
  salt : Option String
  range : Option BucketRange := none
  segment : Option Segment := none

/-- A campaign with its variations. Its compiled targeting condition is derived when settings are
processed. -/
structure Campaign (ω : Type) where
  id : UInt64
  key : String
  name : Option String
  kind : CampaignKind
  percentTraffic : ω
  segments : Json
  forcesVariations : Bool
  usesUserLists : Bool
  variations : List (Variation ω)
  salt : Option String
  ruleKey : Option String
  status : Option String
  segment : Option Segment := none

/-- A reference from a feature to a campaign, or to one variation of it. -/
structure Rule where
  campaign : UInt64
  variation : Option UInt64
  type : Option String
  ruleKey : Option String

/-- A feature with its rules. The campaigns they link, one for each rule, and the need of gateway
data are derived when settings are processed. -/
structure Feature (ω : Type) where
  id : UInt64
  key : String
  name : Option String
  rules : List Rule
  values : List Variable
  linked : List (Campaign ω) := []
  requiresGateway : Bool := false

/-- How the winner of a group is found among several candidates. -/
inductive GroupAlgorithm where
  | random
  | advanced
  deriving DecidableEq

/-- Campaigns of which a user takes part in at most one. Members are given by their identities. -/
structure Group (ω : Type) where
  name : Option String
  members : List String
  algorithmCode : Option Nat
  priorities : List String
  weights : List (String × ω)

/-- A snapshot of all features and campaigns of an account. -/
structure Settings (ω : Type) where
  features : List (Feature ω)
  campaigns : List (Campaign ω)
  groups : List (UInt64 × Group ω)
  campaignGroups : List (String × UInt64)
  account : UInt64
  sdkKey : Option String
  version : Option UInt64

/-- An id in decimal digits. -/
def idText (id : UInt64) : String := toString id.toNat

variable {ω : Type}

namespace Campaign

/-- The name of a campaign in groups: its id, and for a personalize campaign also the id of its
first variation. -/
def identity (campaign : Campaign ω) : String :=
  match campaign.kind, campaign.variations with
  | .personalize, v :: _ => idText campaign.id ++ "_" ++ idText v.id
  | _, _ => idText campaign.id

def variation? (campaign : Campaign ω) (id : UInt64) : Option (Variation ω) :=
  campaign.variations.find? fun v => v.id = id

/-- The condition for entering: the campaign's own for comparisons, else that of its first
variation. -/
def entrySegment? (campaign : Campaign ω) : Option Segment :=
  match campaign.kind with
  | .ab => campaign.segment
  | .rollout | .personalize => campaign.variations.head?.bind (·.segment)

/-- The key of the rule that linked the campaign, or the campaign's own. -/
def reportKey (campaign : Campaign ω) : String := campaign.ruleKey.getD campaign.key

/-- The name of the campaign in reports. -/
def label (campaign : Campaign ω) : String :=
  match campaign.kind with
  | .ab => campaign.key
  | .rollout | .personalize => campaign.name.getD campaign.key ++ "_" ++ campaign.reportKey

end Campaign

namespace Feature

def rollouts (feature : Feature ω) : List (Campaign ω) :=
  feature.linked.filter fun c => c.kind = .rollout

def experiments (feature : Feature ω) : List (Campaign ω) :=
  feature.linked.filter fun c => c.kind ≠ .rollout

end Feature

namespace Group

/-- Code 2 asks for priorities and weights; any other code, or none, for equal shares. -/
def algorithm (group : Group ω) : GroupAlgorithm :=
  if group.algorithmCode = some 2 then .advanced else .random

end Group

namespace Settings

/-- Settings without any feature. -/
def empty : Settings ω := ⟨[], [], [], [], 0, none, none⟩

def feature? (settings : Settings ω) (key : String) : Option (Feature ω) :=
  settings.features.find? fun f => f.key = key

def featureById? (settings : Settings ω) (id : UInt64) : Option (Feature ω) :=
  settings.features.find? fun f => f.id = id

def campaign? (settings : Settings ω) (id : UInt64) : Option (Campaign ω) :=
  settings.campaigns.find? fun c => c.id = id

def group? (settings : Settings ω) (id : UInt64) : Option (Group ω) := settings.groups.lookup id

/-- The first campaign with this key, with its variation of this id. -/
def variationByKey? (settings : Settings ω) (key : String) (id : UInt64) :
    Option (Campaign ω × Variation ω) := do
  let campaign ← settings.campaigns.find? fun c => c.key = key
  let variation ← campaign.variation? id
  some (campaign, variation)

/-- The id of the group that a campaign belongs to, if there is such a group. -/
def groupOf? (settings : Settings ω) (campaign : Campaign ω) : Option UInt64 := do
  let id ← settings.campaignGroups.lookup campaign.identity
  let _ ← settings.group? id
  some id

end Settings

end FeatureFlags
