import FeatureFlags.Inquiry
import FeatureFlags.Text.Utf8

namespace FeatureFlags

/-- What one evaluation is about: a snapshot of settings, a user, and the gateway data that were
fetched for the user. -/
structure Scope (ω : Type) where
  settings : Settings ω
  user : User
  fetched : Option GatewayData := none

namespace Scope

variable {ω : Type}

/-- The user's own gateway data, or those that were fetched. -/
def gateway? (scope : Scope ω) : Option GatewayData := scope.user.gateway <|> scope.fetched

end Scope

/-- The name of the attribute that holds the user's identity. -/
def identityName : String := "_vwoUserId"

/-- The attributes that a condition is about; a given identity goes before an attribute of its
name. -/
structure Attributes where
  values : List (String × Attribute)
  identity : Option String := none

namespace Attributes

/-- The tag of an attribute, if there is such an attribute. -/
def tag? (attributes : Attributes) (name : String) : Option String :=
  let stored := (attributes.values.lookup name).map Attribute.tag
  if name = identityName then attributes.identity <|> stored else stored

end Attributes

/-- A text without the blanks around it, without a pair of quotes around that, and without the
blanks inside the quotes. -/
def unquote (cs : List Char) : List Char :=
  let trimmed := Text.trimChars cs
  Text.trimChars (((Text.after? ['"'] trimmed).bind (Text.before? ['"'])).getD trimmed)

namespace Segment

variable {ω : Type}

/-- Whether an attribute is in a list. Nothing is in a list without a name. -/
def inList (scope : Scope ω) (list tag : String) : Inquiry Bool :=
  if list.isEmpty then pure false
  else .isMember ⟨tag, list, scope.settings.account⟩ pure

def customVariableHolds (scope : Scope ω) (attributes : Attributes) (name : String)
    (operand : Operand) : Inquiry Bool :=
  match attributes.tag? name, operand with
  | none, _ => pure false
  | some tag, .inList list => inList scope list tag
  | some tag, operand => pure (operand.accepts tag)

def userIdsHold (attributes : Attributes) (ids : List String) : Bool :=
  (attributes.tag? identityName).any fun identity => ids.contains identity

def userListHolds (scope : Scope ω) (attributes : Attributes) (list : String) : Inquiry Bool :=
  match attributes.tag? identityName with
  | none => pure false
  | some identity => inList scope list identity

/-- A user agent in plain text: it may be written with plus signs for blanks and with percent
escapes. -/
def plainAgent (agent : String) : String :=
  String.ofList (Text.percentDecoded (agent.toList.map fun c => if c = '+' then ' ' else c))

def userAgentHolds (scope : Scope ω) (operand : Operand) : Bool :=
  scope.user.agent?.any fun agent => operand.accepts (plainAgent agent)

/-- Whether a decision of a feature is kept for the user, or none. Without the feature neither
holds. -/
def toggleHolds (scope : Scope ω) (feature : UInt64) (toggle : Toggle) : Inquiry Bool :=
  match scope.settings.featureById? feature with
  | none => .note (.toggledFeatureMissing feature) (pure false)
  | some f => .read .toggle f.key scope.user.id fun record =>
    let decided := record.any (·.hasDecision)
    pure (match toggle with
      | .on => decided
      | .off => !decided)

/-- Whether the user is known to be in all these places. -/
def locationsHold (scope : Scope ω) (expected : List (LocationKey × String)) : Inquiry Bool :=
  if scope.user.ip?.isNone then .note (.addressMissing scope.user.id) (pure false)
  else
    let location := (scope.gateway?.map (·.location)).getD []
    pure (!location.isEmpty && expected.all fun (key, value) =>
      (location.lookup key.name).any fun found => unquote found.toList = unquote value.toList)

/-- Whether something that is known about the device is among the values that are looked for. -/
def devicesHold (scope : Scope ω) (expected : List (DeviceKey × List DeviceMatcher)) :
    Inquiry Bool :=
  if scope.user.agent?.isNone then .note (.agentMissing scope.user.id) (pure false)
  else
    let device := (scope.gateway?.map (·.device)).getD []
    pure (device.any fun (name, actual) =>
      ((DeviceKey.named? name).bind fun key => expected.lookup key).any fun matchers =>
        matchers.any (·.accepts actual))

/-- Changes what is listed under a key, or lists the key with the rest if it is new. -/
def listed {κ α : Type} [DecidableEq κ] (key : κ) (change : Option α → α) :
    List (κ × α) → List (κ × α)
  | [] => [(key, change none)]
  | (k, a) :: rest =>
    if k = key then (k, change (some a)) :: rest else (k, a) :: listed key change rest

/-- Devices asked for so far, with the values of one more leaf under its key. -/
def withDevices (key : DeviceKey) (values : List DeviceMatcher)
    (devices : List (DeviceKey × List DeviceMatcher)) : List (DeviceKey × List DeviceMatcher) :=
  listed key (fun earlier => earlier.getD [] ++ values) devices

mutual

/-- Whether the user is in a segment. Places count only where a conjunction consists of them,
devices only where an alternative consists of them, and toggles only in an alternative. -/
def holds (scope : Scope ω) (attributes : Attributes) : Segment → Inquiry Bool
  | .not child => do
    let held ← holds scope attributes child
    return !held
  | .and children => everyHolds scope attributes children.length [] children
  | .or children => someHolds scope attributes children.length [] 0 children
  | .customVariable name operand => customVariableHolds scope attributes name operand
  | .userIds ids => pure (userIdsHold attributes ids)
  | .userList list => userListHolds scope attributes list
  | .userAgent operand => pure (userAgentHolds scope operand)
  | .location _ _ | .device _ _ | .featureToggle _ _ | .unknown _ => pure false

/-- Whether every one of `total` children holds, of which some are still to be seen; the first that
does not ends the search. Places are not asked one by one: as soon as there are as many different
`places` as children, these decide. -/
def everyHolds (scope : Scope ω) (attributes : Attributes) (total : Nat)
    (places : List (LocationKey × String)) : List Segment → Inquiry Bool
  | [] => pure true
  | .location key value :: rest =>
    let places := listed key (fun _ => value) places
    if places.length = total then locationsHold scope places
    else everyHolds scope attributes total places rest
  | child :: rest => do
    let held ← holds scope attributes child
    if held then everyHolds scope attributes total places rest else pure false

/-- Whether some of `total` children holds, of which some are still to be seen; the first that does
ends the search, and so does a toggle, which decides. As soon as as many device leaves were `seen`
as there are children, the `devices` they ask for decide. -/
def someHolds (scope : Scope ω) (attributes : Attributes) (total : Nat)
    (devices : List (DeviceKey × List DeviceMatcher)) (seen : Nat) : List Segment → Inquiry Bool
  | [] => pure false
  | .featureToggle feature toggle :: _ => toggleHolds scope feature toggle
  | .device key values :: rest =>
    let devices := withDevices key values devices
    if seen + 1 = total then devicesHold scope devices
    else someHolds scope attributes total devices (seen + 1) rest
  | child :: rest => do
    let held ← holds scope attributes child
    if held then pure true else someHolds scope attributes total devices seen rest

end

/-- Reads a targeting condition and reports the patterns in it that are not valid. -/
def compileReporting (dsl : Json) : Inquiry (Option Segment) := do
  (rejects dsl).forM fun source => Inquiry.report (.patternRejected source)
  return compile? dsl

end Segment

end FeatureFlags
