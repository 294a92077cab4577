import FeatureFlags.Attribute
import FeatureFlags.Pattern
import FeatureFlags.Text.Reader

namespace FeatureFlags

/-- How a number compares with a bound. -/
inductive Comparison where
  | gt
  | gte
  | lt
  | lte
  deriving DecidableEq

namespace Comparison

def name : Comparison → String
  | .gt => "gt"
  | .gte => "gte"
  | .lt => "lt"
  | .lte => "lte"

def holds (comparison : Comparison) (x bound : Binary64) : Bool :=
  match comparison with
  | .gt => bound.lt x
  | .gte => bound.le x
  | .lt => x.lt bound
  | .lte => x.le bound

end Comparison

/-- What a targeting leaf compares an attribute with. -/
inductive Operand where
  | equals (text : String)
  /-- Equal but for letter case. -/
  | lower (text : String)
  | contains (text : String)
  | startsWith (text : String)
  | endsWith (text : String)
  | regex (pattern : Pattern)
  | compare (comparison : Comparison) (bound : String)
  /-- Member of a list that a service keeps. -/
  | inList (list : String)
  deriving DecidableEq

namespace Operand

/-- The words that may stand before a parenthesis. -/
inductive Marker where
  | lower
  | wildcard
  | regex
  | compare (comparison : Comparison)
  | inList
  deriving DecidableEq

namespace Marker

def name : Marker → String
  | .lower => "lower"
  | .wildcard => "wildcard"
  | .regex => "regex"
  | .compare c => c.name
  | .inList => "inlist"

/-- In the order in which they are tried. A word that another one begins with comes behind it. -/
def all : List Marker :=
  [.lower, .wildcard, .regex, .compare .gte, .compare .gt, .compare .lte, .compare .lt, .inList]

end Marker

/-- Text without double quotes, in canonical form. -/
def clean (cs : List Char) : String := String.ofList (canonicalChars (Text.unquotedChars cs))

/-- Stars at the two ends of a wildcard's body say where the text may stand; stars within are
text. -/
def ofWildcard (body : List Char) : Operand :=
  let leading := body.head? == some '*'
  let trailing := body.getLast? == some '*'
  let inner := (Text.after? ['*'] body).getD body
  let text := clean ((Text.before? ['*'] inner).getD inner)
  match leading, trailing with
  | true, true => .contains text
  | true, false => .endsWith text
  | false, true => .startsWith text
  | false, false => .equals text

def ofMarked : Marker → List Char → Operand
  | .lower, body => .lower (clean body)
  | .wildcard, body => ofWildcard body
  | .regex, body => .regex ⟨clean body⟩
  | .compare c, body => .compare c (clean body)
  | .inList, body => .inList (String.ofList (Text.trimChars body))

/-- A marker and the parenthesis behind it. Once a word fits, no other one is tried. -/
def openedMarker : Text.Reader Marker :=
  Text.Reader.terminated
    (.firstOf (Marker.all.map fun marker =>
      (Text.Reader.word marker.name.toList).map fun _ => marker))
    (.word ['('])

/-- A marker and its body, which ends at the last closing parenthesis. What follows it is dropped. -/
def marked : Text.Reader (Marker × List Char) := fun cs => do
  let (marker, left) ← openedMarker cs
  let (body, left) ← Text.Reader.rest.verifyMap (Text.beforeLast? ')') left
  some ((marker, body), left)

/-- An operand with a marker, or else a text that must be matched exactly. -/
def reader : Text.Reader Operand :=
  .firstOf
    [marked.map fun (marker, body) => ofMarked marker body,
     Text.Reader.rest.map fun cs => .equals (clean cs)]

/-- Reads an operand; what is none must be matched exactly. -/
def ofText (text : String) : Operand :=
  (reader.whole? text.toList).getD (.equals (String.ofList (Text.trimChars text.toList)))

/-- Compares with a tag. Membership in a list is not decided here. -/
def accepts (operand : Operand) (tag : String) : Bool :=
  match operand with
  | .equals text => tag = text
  | .lower text => Text.lowerChars (Text.trimChars tag.toList) = Text.lowerChars text.toList
  | .contains text => Text.holds text.toList tag.toList
  | .startsWith text => (Text.after? text.toList tag.toList).isSome
  | .endsWith text => (Text.before? text.toList tag.toList).isSome
  | .regex pattern => pattern.isFullMatch tag.toList
  | .compare comparison bound =>
    match Binary64.ofChars? (Text.trimChars tag.toList), Binary64.ofText? bound with
    | some x, some y => comparison.holds x y
    | _, _ => false
  | .inList _ => false

/-- The source of the operand's pattern when it is not valid. -/
def rejectedPattern? : Operand → Option String
  | .regex pattern => if pattern.isValid then none else some pattern.source
  | _ => none

end Operand

end FeatureFlags
