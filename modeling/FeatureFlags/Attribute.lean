import FeatureFlags.Binary64.Notation
import FeatureFlags.Binary64.Decimal
import FeatureFlags.Text.Blank

namespace FeatureFlags

/-- Numbers are written as integers when they are whole and below `10^15`, else as plain text. -/
def Binary64.canonicalText (x : Binary64) : String :=
  match x.toInt? with
  | some n => if n.natAbs < Nat.pow 10 15 then toString n else x.plainText
  | none => x.plainText

/-- Characters of a number without words: digits, points, signs and exponent marks. -/
def isNumberChar (c : Char) : Bool :=
  Text.isDigit c || c = '.' || c = '-' || c = '+' || c = 'e' || c = 'E'

/-- A text without the blanks around it; a number is written in canonical form, so that `1.50`
and `1.5` are the same text. Words for infinity and NaN stay as they are. -/
def canonicalChars (cs : List Char) : List Char :=
  let trimmed := Text.trimChars cs
  if trimmed.isEmpty || !trimmed.all isNumberChar then trimmed
  else match Binary64.ofChars? trimmed with
    | some x => x.canonicalText.toList
    | none => trimmed

def canonicalText (text : String) : String := String.ofList (canonicalChars text.toList)

/-- A value that a caller attaches to a user. -/
inductive Attribute where
  | int (n : Int)
  | double (x : Binary64)
  | bool (b : Bool)
  | string (s : String)

namespace Attribute

/-- The text that targeting compares with. -/
def tag : Attribute → String
  | .int n => toString n
  | .double x => x.canonicalText
  | .bool b => if b then "true" else "false"
  | .string s => canonicalText s

/-- The text that people read; strings stand in quotes. -/
def display : Attribute → String
  | .int n => toString n
  | .double x => x.plainText
  | .bool b => if b then "true" else "false"
  | .string s => "\"" ++ s ++ "\""

end Attribute

end FeatureFlags
