import FeatureFlags.Settings.Basic

namespace FeatureFlags

/-- Why a document gives no usable settings. -/
inductive SettingsError where
  | malformed
  | duplicateCampaign (id : UInt64)
  | unknownCampaign (feature : String) (campaign : UInt64)
  deriving DecidableEq

namespace SettingsError

/-- What people are told. What is wrong with a malformed document is not told. -/
def message? : SettingsError → Option String
  | .malformed => none
  | .duplicateCampaign id => some ("duplicate campaign id " ++ idText id)
  | .unknownCampaign feature id =>
    some ("feature '" ++ feature ++ "' references unknown campaign " ++ idText id)

end SettingsError

variable {ω : Type} [Quantity ω]

namespace Variation

/-- A variation with its range and its compiled condition. -/
def prepared (range : Option BucketRange) (v : Variation ω) : Variation ω :=
  { v with range := range, segment := Segment.compile? v.segments }

end Variation

namespace Campaign

/-- The ranges of the variations: side by side for comparisons, each from the first bucket on for
the other kinds. -/
def ranges (campaign : Campaign ω) : List (Option BucketRange) :=
  let weights := campaign.variations.map (·.weight)
  match campaign.kind with
  | .ab => allocateRanges weights
  | .rollout | .personalize => weights.map singleRange

/-- A campaign with ranges for its variations and compiled conditions. -/
def prepared (campaign : Campaign ω) : Campaign ω :=
  { campaign with
    segment := Segment.compile? campaign.segments
    variations := List.zipWith Variation.prepared campaign.ranges campaign.variations }

omit [Quantity ω] in
/-- Whether a condition of the campaign or of a variation needs gateway data. -/
def requiresGateway (campaign : Campaign ω) : Bool :=
  (campaign.segment.toList ++ campaign.variations.filterMap (·.segment)).any (·.requiresGateway)

omit [Quantity ω] in
/-- The copy of a campaign that a rule links: under the rule's key, if it has one, and with only the
variation that the rule names, if there is such a variation. -/
def narrowed (campaign : Campaign ω) (rule : Rule) : Campaign ω :=
  { campaign with
    ruleKey := rule.ruleKey <|> campaign.ruleKey
    variations := match rule.variation.bind campaign.variation? with
      | some v => [v]
      | none => campaign.variations }

end Campaign

namespace Feature

omit [Quantity ω] in
/-- The campaigns that the rules of a feature link. The first rule that names no campaign is
reported. -/
def link (feature : Feature ω) (campaigns : List (Campaign ω)) :
    List Rule → Except SettingsError (List (Campaign ω))
  | [] => .ok []
  | rule :: rest =>
    match campaigns.find? fun c => c.id = rule.campaign with
    | none => .error (.unknownCampaign feature.key rule.campaign)
    | some campaign =>
      match feature.link campaigns rest with
      | .ok linked => .ok (campaign.narrowed rule :: linked)
      | .error e => .error e

omit [Quantity ω] in
/-- A feature with its linked campaigns. -/
def prepared (feature : Feature ω) (campaigns : List (Campaign ω)) :
    Except SettingsError (Feature ω) :=
  match feature.link campaigns feature.rules with
  | .ok linked =>
    .ok { feature with linked := linked, requiresGateway := linked.any (·.requiresGateway) }
  | .error e => .error e

end Feature

/-- The first element that repeats an earlier one. -/
def firstRepeat? {α : Type} [DecidableEq α] (seen : List α) : List α → Option α
  | [] => none
  | a :: rest => if a ∈ seen then some a else firstRepeat? (a :: seen) rest

namespace Settings

omit [Quantity ω] in
/-- The features with their linked campaigns. -/
def linkAll (campaigns : List (Campaign ω)) :
    List (Feature ω) → Except SettingsError (List (Feature ω))
  | [] => .ok []
  | f :: rest =>
    match f.prepared campaigns with
    | .error e => .error e
    | .ok feature =>
      match linkAll campaigns rest with
      | .ok features => .ok (feature :: features)
      | .error e => .error e

/-- Derives ranges, compiled conditions and links. Campaign ids must differ, and rules must name
campaigns. -/
def process (settings : Settings ω) : Except SettingsError (Settings ω) :=
  match firstRepeat? [] (settings.campaigns.map (·.id)) with
  | some id => .error (.duplicateCampaign id)
  | none =>
    let campaigns := settings.campaigns.map (·.prepared)
    match linkAll campaigns settings.features with
    | .ok features => .ok { settings with features := features, campaigns := campaigns }
    | .error e => .error e

omit [Quantity ω] in
/-- The patterns that are not valid in the conditions that processing compiles: those of all
campaigns before one that repeats an id. -/
def rejects (settings : Settings ω) : List String :=
  (compiled [] settings.campaigns).flatMap fun c =>
    Segment.rejects c.segments ++ c.variations.flatMap fun v => Segment.rejects v.segments
where
  compiled (seen : List UInt64) : List (Campaign ω) → List (Campaign ω)
    | [] => []
    | c :: rest => if c.id ∈ seen then [] else c :: compiled (c.id :: seen) rest

end Settings

end FeatureFlags
