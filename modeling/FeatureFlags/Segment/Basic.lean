import FeatureFlags.Operand
import FeatureFlags.Json.Printer
import FeatureFlags.Text.Casing

namespace FeatureFlags

/-- What is known about a place. -/
inductive LocationKey where
  | country
  | region
  | city
  deriving DecidableEq

namespace LocationKey

def name : LocationKey → String
  | .country => "country"
  | .region => "region"
  | .city => "city"

def all : List LocationKey := [.country, .region, .city]

def named? (name : String) : Option LocationKey := all.find? fun key => key.name = name

end LocationKey

/-- What is known about a device. -/
inductive DeviceKey where
  | os
  | browser
  | deviceType
  | device
  deriving DecidableEq

namespace DeviceKey

def name : DeviceKey → String
  | .os => "os"
  | .browser => "browser_string"
  | .deviceType => "device_type"
  | .device => "device"

def all : List DeviceKey := [.os, .browser, .deviceType, .device]

def named? (name : String) : Option DeviceKey := all.find? fun key => key.name = name

end DeviceKey

/-- A value that a device may have; letter case does not count. -/
inductive DeviceMatcher where
  | exact (lower : String)
  | wildcard (pattern : Pattern)
  deriving DecidableEq

namespace DeviceMatcher

/-- The pattern of a wildcard's body: a star stands for any text, all else for itself. -/
def globSource (body : List Char) : List Char :=
  "(?i)".toList ++ Text.joined ['.', '*'] ((Text.pieces '*' body).map Pattern.escaped)

/-- Reads `wildcard(…)` as a wildcard, in any letter case, and other texts as they are. -/
def ofText (text : String) : DeviceMatcher :=
  let lower := Text.lowerChars text.toList
  match (Text.after? "wildcard(".toList lower).bind (Text.before? [')']) with
  | some body => .wildcard ⟨String.ofList (globSource body)⟩
  | none => .exact (String.ofList lower)

def accepts : DeviceMatcher → String → Bool
  | .exact lower, actual => lower.toList = Text.lowerChars (Text.trimChars actual.toList)
  | .wildcard pattern, actual => pattern.isFullMatch actual.toList

def rejectedPattern? : DeviceMatcher → Option String
  | .exact _ => none
  | .wildcard pattern => if pattern.isValid then none else some pattern.source

end DeviceMatcher

/-- Whether a stored decision of a feature is asked for, or the lack of one. -/
inductive Toggle where
  | on
  | off
  deriving DecidableEq

/-- A targeting condition. -/
inductive Segment where
  | and (children : List Segment)
  | or (children : List Segment)
  | not (child : Segment)
  | customVariable (name : String) (operand : Operand)
  | userIds (ids : List String)
  | userList (list : String)
  | userAgent (operand : Operand)
  | location (key : LocationKey) (value : String)
  | device (key : DeviceKey) (values : List DeviceMatcher)
  | featureToggle (feature : UInt64) (toggle : Toggle)
  /-- A node that means nothing; nobody is in it. -/
  | unknown (name : String)

namespace Segment

mutual

/-- Whether location or device data are needed. -/
def requiresGateway : Segment → Bool
  | .and children | .or children => anyRequiresGateway children
  | .not child => requiresGateway child
  | .location _ _ | .device _ _ => true
  | .customVariable _ _ | .userIds _ | .userList _ | .userAgent _ | .featureToggle _ _
  | .unknown _ => false

def anyRequiresGateway : List Segment → Bool
  | [] => false
  | s :: rest => requiresGateway s || anyRequiresGateway rest

end

end Segment

end FeatureFlags
