import FeatureFlags.Session

namespace FeatureFlags

/-! The contest within a group: at most one of its campaigns wins a user. -/

namespace Contest

variable {ω : Type}

/-- Whether a feature links the campaign with this identity. -/
def links (feature : Feature ω) (identity : String) : Bool :=
  feature.linked.any fun c => c.identity = identity

/-- The features, in the order of the settings, that link this member, without those of `known`
keys and each key once. -/
def newFeatures (member : String) (known : List String) : List (Feature ω) → List (Feature ω)
  | [] => []
  | f :: rest =>
    if links f member && !known.contains f.key then f :: newFeatures member (f.key :: known) rest
    else newFeatures member known rest

/-- The features that link a member: in the order of the members, then of the settings. -/
def features (all : List (Feature ω)) (known : List String) : List String → List (Feature ω)
  | [] => []
  | member :: rest =>
    let new := newFeatures member known all
    new ++ features all (known ++ new.map (·.key)) rest

/-- The campaigns among those given that are members and not `seen`, each identity once. -/
def newCandidates (members seen : List String) : List (Campaign ω) → List (Campaign ω)
  | [] => []
  | c :: rest =>
    if members.contains c.identity && !seen.contains c.identity then
      c :: newCandidates members (c.identity :: seen) rest
    else newCandidates members seen rest

/-- The candidates: for each feature that the gate lets through, in order, the members it links
that no feature before it has brought. -/
def candidates {s : Type} (gate : Feature ω → StateT s Inquiry Bool) (members seen : List String) :
    List (Feature ω) → StateT s Inquiry (List (Feature ω × Campaign ω))
  | [] => return []
  | f :: rest => do
    if ← gate f then
      let new := newCandidates members seen f.linked
      let others ← candidates gate members (seen ++ new.map (·.identity)) rest
      return new.map (fun c => (f, c)) ++ others
    else candidates gate members seen rest

/-- Whether a record keeps a decision for this campaign: under its key, for a variation that still
exists, and for a personalize campaign for the one that it is about. -/
def isNamedBy (settings : Settings ω) (record : Record) (campaign : Campaign ω) : Bool :=
  match record.experiment? with
  | none => false
  | some (key, variation) =>
    key = campaign.key && (settings.variationByKey? key variation).isSome &&
      match campaign.kind with
      | .personalize => campaign.variations.head?.any fun v => v.id = variation
      | .ab | .rollout => true

/-- The candidates for whom a decision is kept, and those of the others that the user may enter and
takes part in. -/
def sorted [Quantity ω] (scope : Scope ω) :
    List (Feature ω × Campaign ω) → Inquiry (List (Campaign ω) × List (Campaign ω))
  | [] => return ([], [])
  | (feature, campaign) :: rest => do
    let record ← Inquiry.recordOf feature.key scope.user.id
    if record.any fun r => isNamedBy scope.settings r campaign then
      Inquiry.report (.storedCandidate scope.user.id campaign)
      let (stored, eligible) ← sorted scope rest
      return (campaign :: stored, eligible)
    else
      let mayEnter ← campaign.mayEnter scope (scope.entryAttributes campaign)
      let part ← if mayEnter then campaign.reportInclusion scope.user.id else pure false
      if part then Inquiry.report (.eligibleCandidate scope.user.id campaign)
      let (stored, eligible) ← sorted scope rest
      return (stored, if part then campaign :: eligible else eligible)

/-- The bucket of a user in a group. -/
def bucket (group : UInt64) (user : String) : Nat := variationBucket (idText group ++ "_" ++ user)

/-- The campaign whose range holds the user's bucket. -/
def draw [Quantity ω] (group : UInt64) (user : String) (weighted : List (Campaign ω × ω)) :
    Option (Campaign ω) :=
  (findRange (allocateRanges (weighted.map (·.2))) (bucket group user)).bind
    ((weighted.map (·.1))[·]?)

/-- A draw with equal shares. -/
def randomWinner [Quantity ω] (group : UInt64) (user : String) (pool : List (Campaign ω)) :
    Option (Campaign ω) :=
  let share : ω := Quantity.ofNat 100 / Quantity.ofNat pool.length
  draw group user (pool.map fun c => (c, share))

/-- The weight of a campaign: that of its identity, else that of its plain id. -/
def weight? (group : Group ω) (campaign : Campaign ω) : Option ω :=
  group.weights.lookup campaign.identity <|> group.weights.lookup (idText campaign.id)

/-- The candidate that comes first in the priorities, else a draw among those with a weight. -/
def advancedWinner [Quantity ω] (id : UInt64) (group : Group ω) (user : String)
    (pool : List (Campaign ω)) : Option (Campaign ω) :=
  match group.priorities.findSome? fun p => pool.find? fun c => c.identity = p with
  | some c => some c
  | none => draw id user (pool.filterMap fun c => (weight? group c).map fun w => (c, w))

/-- The winner among those in the pool; one that is alone wins. -/
def poolWinner [Quantity ω] (id : UInt64) (group : Group ω) (user : String)
    (pool : List (Campaign ω)) : Option (Campaign ω) :=
  match pool with
  | [] => none
  | [c] => some c
  | many => match group.algorithm with
    | .random => randomWinner id user many
    | .advanced => advancedWinner id group user many

/-- The winner of a group as a feature sees it: another feature's winner is none. Kept decisions go
before all other candidates. The gate says which features the user gets into at all. -/
def winner? [Quantity ω] {s : Type} (scope : Scope ω) (gate : Feature ω → StateT s Inquiry Bool)
    (id : UInt64) (feature : Feature ω) : StateT s Inquiry (Option (Campaign ω)) := do
  match scope.settings.group? id with
  | none =>
    Inquiry.report (.groupMissing id)
    return none
  | some group =>
    let found ← candidates gate group.members [] (features scope.settings.features [] group.members)
    let (stored, eligible) ← sorted scope found
    match poolWinner id group scope.user.id (if stored.isEmpty then eligible else stored) with
    | none =>
      Inquiry.report (.groupLost scope.user.id id)
      return none
    | some c =>
      Inquiry.report (.groupWon scope.user.id id group c)
      return if links feature c.identity then some c else none

end Contest

end FeatureFlags
