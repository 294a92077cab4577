import FeatureFlags.Targeting

namespace FeatureFlags

variable {ω : Type} [Quantity ω]

namespace Campaign

/-- What stands for the campaign in the seed that decides who takes part: a salt, unless it is
empty, or the campaign's id. Only comparisons have a salt of their own; the others use that of
their first variation. -/
def entrySalt? (campaign : Campaign ω) : Option String :=
  nonEmpty? (match campaign.kind with
    | .ab => campaign.salt
    | .rollout | .personalize => campaign.variations.head?.bind (·.salt))

/-- The seed that decides who takes part. Within a group, the group stands for the campaign. -/
def entrySeed (campaign : Campaign ω) (user : String) (group : Option UInt64) : String :=
  match group with
  | some id => idText id ++ "_" ++ user
  | none => (campaign.entrySalt?.getD (idText campaign.id)) ++ "_" ++ user

/-- The seed that picks a variation. -/
def variationSeed (campaign : Campaign ω) (account : UInt64) (user : String) : String :=
  (nonEmpty? campaign.salt).getD (idText campaign.id) ++ "_" ++ idText account ++ "_" ++ user

/-- The share of users, in percent, that takes part. -/
def share (campaign : Campaign ω) : ω :=
  match campaign.kind with
  | .ab => campaign.percentTraffic
  | .rollout | .personalize =>
    match campaign.variations with
    | v :: _ => v.weight
    | [] => Quantity.ofNat 0

/-- The bucket that decides whether a user takes part. -/
def entryBucket (campaign : Campaign ω) (user : String) : Nat :=
  inclusionBucket (campaign.entrySeed user none)

/-- Whether a user takes part: the bucket is within the share. -/
def includes (campaign : Campaign ω) (user : String) : Bool :=
  let bucket := campaign.entryBucket user
  bucket ≠ 0 && Quantity.le (Quantity.ofNat bucket) campaign.share

/-- The bucket that picks a variation of a comparison; without traffic it is none of them. -/
def pickBucket (campaign : Campaign ω) (account : UInt64) (user : String) : Nat :=
  bucketValue (campaign.variationSeed account user) bucketSpace
    (.ofNat (if Quantity.isZero campaign.percentTraffic then 0 else 1))

/-- The variation whose range holds the user's bucket. -/
def picked? (campaign : Campaign ω) (account : UInt64) (user : String) : Option (Variation ω) :=
  (findRange (campaign.variations.map (·.range)) (campaign.pickBucket account user)).bind
    (campaign.variations[·]?)

/-- The variation that a user gets, if the user takes part. -/
def allotted? (campaign : Campaign ω) (account : UInt64) (user : String) : Option (Variation ω) :=
  if campaign.includes user then
    match campaign.kind with
    | .ab => campaign.picked? account user
    | .rollout | .personalize => campaign.variations.head?
  else none

/-- Whether a user takes part, with a report. -/
def reportInclusion (campaign : Campaign ω) (user : String) : Inquiry Bool :=
  let part := campaign.includes user
  .note (.inclusion user campaign (campaign.entryBucket user) part) (pure part)

/-- The variation whose range holds the user's bucket, with a report. -/
def reportPick (campaign : Campaign ω) (account : UInt64) (user : String) :
    Inquiry (Option (Variation ω)) :=
  let hash := seedHash (campaign.variationSeed account user)
  .note (.bucketing user campaign (campaign.pickBucket account user) hash)
    (pure (campaign.picked? account user))

/-- The variation that a user gets, with reports of the steps. -/
def reportAllotted (campaign : Campaign ω) (account : UInt64) (user : String) :
    Inquiry (Option (Variation ω)) := do
  let part ← campaign.reportInclusion user
  if part then
    match campaign.kind with
    | .ab => campaign.reportPick account user
    | .rollout | .personalize => return campaign.variations.head?
  else return none

/-- The variation that a user gets, with reports of the steps and of the outcome. -/
def reportTraffic (campaign : Campaign ω) (account : UInt64) (user : String) :
    Inquiry (Option (Variation ω)) := do
  let v ← campaign.reportAllotted account user
  Inquiry.report (.allotment user campaign v)
  return v

omit [Quantity ω] in
/-- Whether a user may enter; without a condition everybody may. -/
def mayEnter (campaign : Campaign ω) (scope : Scope ω) (attributes : Attributes) : Inquiry Bool :=
  match campaign.entrySegment? with
  | none => .note (.segmentationSkipped scope.user.id campaign) (pure true)
  | some segment => do
    let held ← segment.holds scope attributes
    Inquiry.report (.segmentation scope.user.id campaign held)
    return held

omit [Quantity ω] in
/-- The variations whose own condition holds. -/
def targetedVariations (campaign : Campaign ω) (scope : Scope ω) (attributes : Attributes) :
    List (Variation ω) → Inquiry (List (Variation ω))
  | [] => return []
  | v :: rest =>
    match v.segment with
    | none => do
      Inquiry.report (.variationForcingSkipped scope.user.id campaign v)
      campaign.targetedVariations scope attributes rest
    | some segment => do
      let held ← segment.holds scope attributes
      let others ← campaign.targetedVariations scope attributes rest
      return if held then v :: others else others

/-- One of the variations: the only one, or the one whose range holds the user's bucket when their
weights are scaled to share out everything. -/
def choice? (campaign : Campaign ω) (user : String) (targeted : List (Variation ω)) :
    Option (Variation ω) :=
  match targeted with
  | [] => none
  | [v] => some v
  | vs =>
    let ranges := rescaledRanges (vs.map (·.weight))
    (findRange ranges (variationBucket (campaign.entrySeed user none))).bind (vs[·]?)

/-- The variation that is forced on a user, if any. -/
def forced? (campaign : Campaign ω) (scope : Scope ω) (attributes : Attributes) :
    Inquiry (Option (Variation ω)) := do
  let targeted ← campaign.targetedVariations scope attributes campaign.variations
  let v := campaign.choice? scope.user.id targeted
  Inquiry.report (.forcing scope.user.id campaign v)
  return v

end Campaign

end FeatureFlags
