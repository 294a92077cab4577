import FeatureFlags.Traffic
import FeatureFlags.Hash.NameUuid

namespace FeatureFlags

variable {ω : Type}

/-- The identity under which conditions of a campaign know the user: a listed name for campaigns
that use lists, else the user's id. -/
def Scope.identity (scope : Scope ω) (campaign : Campaign ω) : String :=
  if campaign.usesUserLists then NameUuid.listedUser scope.user.id scope.settings.account
  else scope.user.id

/-- What entry into a campaign is decided by. -/
def Scope.entryAttributes (scope : Scope ω) (campaign : Campaign ω) : Attributes :=
  ⟨scope.user.customVariables, some (scope.identity campaign)⟩

/-- What forced variations of a campaign are decided by. -/
def Scope.forcingAttributes (scope : Scope ω) (campaign : Campaign ω) : Attributes :=
  ⟨scope.user.targetingVariables, some (scope.identity campaign)⟩

/-- The rollout that has let a user into a feature. -/
structure PassedRollout where
  campaign : UInt64
  key : String
  variation : Option UInt64
  deriving DecidableEq

/-- Who has won a group: a campaign, a personalize campaign with one variation, or nobody. -/
inductive GroupWinner where
  | campaign (id : UInt64)
  | variation (campaign variation : UInt64)
  | nobody
  deriving DecidableEq

namespace GroupWinner

/-- The winner that a campaign is. -/
def of (campaign : Campaign ω) : GroupWinner :=
  match campaign.kind, campaign.variations with
  | .personalize, v :: _ => .variation campaign.id v.id
  | _, _ => .campaign campaign.id

/-- The winner that a stored campaign and variation stand for. -/
def ofStored (settings : Settings ω) (campaign : UInt64) (variation : Option UInt64) :
    GroupWinner :=
  let personalize := (settings.campaign? campaign).any fun c => c.kind = .personalize
  match variation with
  | some v => if personalize then .variation campaign v else .campaign campaign
  | none => .campaign campaign

/-- Whether a campaign is this winner. -/
def admits (winner : GroupWinner) (campaign : Campaign ω) : Bool := winner = of campaign

end GroupWinner

/-- What has been settled so far: the rollouts that have let the user in, by feature, and the winners
of groups. -/
structure Session where
  rollouts : List (String × PassedRollout) := []
  winners : List (UInt64 × GroupWinner) := []

namespace Session

def rollout? (session : Session) (featureKey : String) : Option PassedRollout :=
  session.rollouts.lookup featureKey

def withRollout (session : Session) (featureKey : String) (rollout : PassedRollout) : Session :=
  { session with rollouts := (featureKey, rollout) :: session.rollouts }

def winner? (session : Session) (group : UInt64) : Option GroupWinner :=
  session.winners.lookup group

def withWinner (session : Session) (group : UInt64) (winner : GroupWinner) : Session :=
  { session with winners := (group, winner) :: session.winners }

end Session

end FeatureFlags
