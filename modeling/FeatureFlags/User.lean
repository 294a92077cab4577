import FeatureFlags.Attribute
import FeatureFlags.Json.Decode
import FeatureFlags.Json.Printer

namespace FeatureFlags

open Json (Written)

/-- Where a user is and what device is used, as far as it is known. -/
structure GatewayData where
  location : List (String × String) := []
  device : List (String × String) := []

namespace GatewayData

/-- Texts stay as they are, null means that nothing is known, and other values keep their JSON
text. -/
def knownText? : Json → Option String
  | .null => none
  | .string s => some s
  | v => some v.text

def section? (w : Written) : Option (List (String × String)) :=
  (w.dictionary? Written.value?).map fun entries =>
    entries.filterMap fun (name, v) => (knownText? v).map fun text => (name, text)

def read? (w : Written) : Option GatewayData := do
  let parts ← w.parts? ["location", "userAgent"]
  some {
    location := ← parts.orElse? "location" [] (Written.nullable? [] section?)
    device := ← parts.orElse? "userAgent" [] (Written.nullable? [] section?) }

/-- Reads a reply of the gateway. -/
def ofText? (text : String) : Option GatewayData := (Written.ofText? text).bind read?

def withLocation (data : GatewayData) (name value : String) : GatewayData :=
  { data with location := Json.insertField name value data.location }

def withDevice (data : GatewayData) (name value : String) : GatewayData :=
  { data with device := Json.insertField name value data.device }

end GatewayData

/-- A text that is there and not empty. -/
def nonEmpty? : Option String → Option String
  | some text => if text.isEmpty then none else some text
  | none => none

/-- Everything known about the user for whom features are decided. -/
structure User where
  id : String
  /-- What campaigns ask for. -/
  customVariables : List (String × Attribute) := []
  /-- What forced variations ask for. -/
  targetingVariables : List (String × Attribute) := []
  ipAddress : Option String := none
  userAgent : Option String := none
  gateway : Option GatewayData := none

namespace User

/-- The address; an empty one is none. -/
def ip? (user : User) : Option String := nonEmpty? user.ipAddress

/-- The user agent; an empty one is none. -/
def agent? (user : User) : Option String := nonEmpty? user.userAgent

end User

end FeatureFlags
