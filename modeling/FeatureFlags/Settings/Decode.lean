import FeatureFlags.Settings.Process
import FeatureFlags.Json.Decode

namespace FeatureFlags

open Json (Written)
open Json.Written (parts? nullable? natural? string? binary64? bool? list? dictionary? small? value?)

namespace CampaignKind

/-- A kind is given by its name, or by an object that maps the name to null. -/
def read? : Written → Option CampaignKind
  | .string name => named? name
  | .object [(name, .null)] => named? name
  | _ => none

end CampaignKind

namespace Variable

def read? (w : Written) : Option Variable := do
  let parts ← parts? ["id", "key", "type", "value"] w
  some {
    id := ← parts.required? "id" natural?
    key := ← parts.required? "key" string?
    type := ← parts.orElse? "type" "" string?
    value := ← parts.orElse? "value" .null value? }

end Variable

namespace Variation

def read? (w : Written) : Option (Variation Binary64) := do
  let parts ← parts? ["id", "key", "name", "weight", "segments", "variables", "salt"] w
  some {
    id := ← parts.required? "id" natural?
    key := ← parts.orElse? "key" "" string?
    name := ← parts.optional? "name" string?
    weight := ← parts.orElse? "weight" (.zero false) (nullable? (.zero false) binary64?)
    segments := ← parts.orElse? "segments" .null value?
    values := ← parts.orElse? "variables" [] (nullable? [] (list? Variable.read?))
    salt := ← parts.optional? "salt" string? }

end Variation

namespace Campaign

def read? (w : Written) : Option (Campaign Binary64) := do
  let parts ← parts? ["id", "key", "name", "type", "percentTraffic", "segments",
    "isForcedVariationEnabled", "isUserListEnabled", "variations", "salt", "ruleKey", "status"] w
  some {
    id := ← parts.required? "id" natural?
    key := ← parts.orElse? "key" "" string?
    name := ← parts.optional? "name" string?
    kind := ← parts.required? "type" CampaignKind.read?
    percentTraffic := ← parts.orElse? "percentTraffic" (.zero false) (nullable? (.zero false) binary64?)
    segments := ← parts.orElse? "segments" .null value?
    forcesVariations := ← parts.orElse? "isForcedVariationEnabled" false (nullable? false bool?)
    usesUserLists := ← parts.orElse? "isUserListEnabled" false (nullable? false bool?)
    variations := ← parts.orElse? "variations" [] (nullable? [] (list? Variation.read?))
    salt := ← parts.optional? "salt" string?
    ruleKey := ← parts.optional? "ruleKey" string?
    status := ← parts.optional? "status" string? }

end Campaign

namespace Rule

def read? (w : Written) : Option Rule := do
  let parts ← parts? ["campaignId", "variationId", "type", "ruleKey"] w
  some {
    campaign := ← parts.required? "campaignId" natural?
    variation := ← parts.optional? "variationId" natural?
    type := ← parts.optional? "type" string?
    ruleKey := ← parts.optional? "ruleKey" string? }

end Rule

namespace Feature

def read? (w : Written) : Option (Feature Binary64) := do
  let parts ← parts? ["id", "key", "name", "rules", "variables"] w
  some {
    id := ← parts.required? "id" natural?
    key := ← parts.required? "key" string?
    name := ← parts.optional? "name" string?
    rules := ← parts.orElse? "rules" [] (nullable? [] (list? Rule.read?))
    values := ← parts.orElse? "variables" [] (nullable? [] (list? Variable.read?)) }

end Feature

namespace Group

/-- Identities are texts or numbers; other items are passed over. -/
def identities? (w : Written) : Option (List String) :=
  (list? value? w).map fun items => items.filterMap fun
    | .string s => some s
    | .number n => some n.text
    | _ => none

def read? (w : Written) : Option (Group Binary64) := do
  let parts ← parts? ["name", "campaigns", "et", "p", "wt"] w
  some {
    name := ← parts.optional? "name" string?
    members := ← parts.orElse? "campaigns" [] (nullable? [] identities?)
    algorithmCode := ← parts.optional? "et" small?
    priorities := ← parts.orElse? "p" [] (nullable? [] identities?)
    weights := ← parts.orElse? "wt" [] (nullable? [] (dictionary? binary64?)) }

end Group

namespace Settings

/-- A group id as a key: a number as JSON writes it, without sign and leading zeros. -/
def groupKey? (key : String) : Option UInt64 :=
  (Text.natural? key.toList).bind fun id => if idText id = key then some id else none

/-- Puts a group into ascending order of the ids; a group with its id gives way. -/
def insertGroup {α : Type} (id : UInt64) (group : α) : List (UInt64 × α) → List (UInt64 × α)
  | [] => [(id, group)]
  | (k, g) :: rest =>
    if id = k then (id, group) :: rest
    else if id < k then (id, group) :: (k, g) :: rest
    else (k, g) :: insertGroup id group rest

def readGroups? : Written → Option (List (UInt64 × Group Binary64))
  | .object fields => do
    let groups ← fields.mapM fun (key, w) => do
      let id ← groupKey? key
      let group ← Group.read? w
      some (id, group)
    some (groups.foldl (fun sorted (id, group) => insertGroup id group sorted) [])
  | _ => none

def read? (w : Written) : Option (Settings Binary64) := do
  let parts ← parts? ["features", "campaigns", "groups", "campaignGroups", "accountId", "sdkKey",
    "version"] w
  some {
    features := ← parts.orElse? "features" [] (nullable? [] (list? Feature.read?))
    campaigns := ← parts.orElse? "campaigns" [] (nullable? [] (list? Campaign.read?))
    groups := ← parts.orElse? "groups" [] (nullable? [] readGroups?)
    campaignGroups := ← parts.orElse? "campaignGroups" [] (nullable? [] (dictionary? natural?))
    account := ← parts.orElse? "accountId" 0 (nullable? 0 natural?)
    sdkKey := ← parts.optional? "sdkKey" string?
    version := ← parts.optional? "version" natural? }

/-- The settings that a document's text describes, before they are processed. -/
def unprocessed? (text : String) : Option (Settings Binary64) :=
  (Written.ofText? text).bind read?

/-- Reads and processes a settings document. -/
def ofText (text : String) : Except SettingsError (Settings Binary64) :=
  match unprocessed? text with
  | some settings => settings.process
  | none => .error .malformed

/-- Why a file gives no usable settings. -/
inductive FileError where
  | notFound
  | notText
  | settings (error : SettingsError)

/-- Reads the settings from the bytes of a file, if it exists. -/
def ofFile : Option (List UInt8) → Except FileError (Settings Binary64)
  | none => .error .notFound
  | some bytes =>
    match Text.decode? bytes with
    | none => .error .notText
    | some cs =>
      match ofText (String.ofList cs) with
      | .ok settings => .ok settings
      | .error e => .error (.settings e)

end Settings

end FeatureFlags
