import FeatureFlags.Segment.Basic
import FeatureFlags.Json.Parser

namespace FeatureFlags.Segment

/-- The text of a string, number or boolean. -/
def scalarText? : Json → Option String
  | .string s => some s
  | .number n => some n.text
  | .bool b => some (if b then "true" else "false")
  | _ => none

/-- The texts of an array's scalars, or of a single one. -/
def scalarTexts : Json → List String
  | .array items => items.filterMap scalarText?
  | v => (scalarText? v).toList

/-- The first field of an object. -/
def firstField? : Json → Option (String × Json)
  | .object (field :: _) => some field
  | _ => none

/-- The text of a `user` leaf; ids in an array are read as if written with commas. -/
def userText? : Json → Option String
  | .array items =>
    some (String.ofList (Text.joined [','] ((items.filterMap scalarText?).map String.toList)))
  | v => scalarText? v

/-- A `user` leaf names a list, or ids with commas between them. Quotes and blanks around ids do
not count. -/
def ofUserText (text : String) : Segment :=
  match Operand.ofText text with
  | .inList list => .userList list
  | _ => .userIds ((Text.pieces ',' text.toList).map fun id =>
      String.ofList (Text.trimChars (Text.unquotedChars id)))

/-- A leaf `featureId` maps the id of a feature to `on` or `off`. -/
def featureToggle? (value : Json) : Option Segment := do
  let (id, state) ← firstField? value
  let toggle ← match state with
    | .string "on" => some Toggle.on
    | .string "off" => some .off
    | _ => none
  let feature ← Text.natural? (Text.trimChars id.toList)
  some (.featureToggle feature toggle)

/-- A leaf `custom_variable` maps the name of an attribute to an operand. -/
def customVariable? (value : Json) : Option Segment := do
  let (name, operand) ← firstField? value
  let text ← scalarText? operand
  some (.customVariable name (.ofText text))

/-- The leaf with this key; keys that are none mean nothing. -/
def leaf (key : String) (value : Json) : Segment :=
  let known : Option Segment :=
    if key = "custom_variable" then customVariable? value
    else if key = "user" then (userText? value).map ofUserText
    else if key = "ua" then (scalarText? value).map fun text => .userAgent (.ofText text)
    else if key = "featureId" then featureToggle? value
    else match LocationKey.named? key with
      | some place => (scalarText? value).map (.location place)
      | none => (DeviceKey.named? key).map fun kind =>
          .device kind ((scalarTexts value).map DeviceMatcher.ofText)
  known.getD (.unknown key)

mutual

/-- Reads a node by its first key. A node that is no object, or an empty one, means nothing and
keeps its text. -/
def ofNode : Json → Segment
  | .object ((key, value) :: _) =>
    match key, value with
    | "and", .array nodes => .and (ofNodes nodes)
    | "or", .array nodes => .or (ofNodes nodes)
    | "not", .object fields => .not (ofNode (.object fields))
    | "and", _ | "or", _ | "not", _ => .unknown key
    | _, _ => leaf key value
  | node => .unknown node.text

def ofNodes : List Json → List Segment
  | [] => []
  | node :: rest => ofNode node :: ofNodes rest

end

/-- Reads a targeting condition; null and an empty object stand for none. -/
def compile? : Json → Option Segment
  | .null | .object [] => none
  | node => some (ofNode node)

/-- Sources of the patterns of a leaf that are not valid, in the order of reading. -/
def leafRejects (key : String) (value : Json) : List String :=
  if key = "user" then ((userText? value).map Operand.ofText |>.bind (·.rejectedPattern?)).toList
  else match leaf key value with
    | .customVariable _ operand | .userAgent operand => operand.rejectedPattern?.toList
    | .device _ values => values.filterMap (·.rejectedPattern?)
    | _ => []

mutual

/-- Sources of the patterns in a node that are not valid, in the order of reading. -/
def rejects : Json → List String
  | .object ((key, value) :: _) =>
    match key, value with
    | "and", .array nodes | "or", .array nodes => rejectsOfAll nodes
    | "not", .object fields => rejects (.object fields)
    | "and", _ | "or", _ | "not", _ => []
    | _, _ => leafRejects key value
  | _ => []

def rejectsOfAll : List Json → List String
  | [] => []
  | node :: rest => rejects node ++ rejectsOfAll rest

end

end FeatureFlags.Segment
