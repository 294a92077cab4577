import FeatureFlags.Pattern.CharSet

namespace FeatureFlags.Pattern

open Text (Category Script)

/-- A name as names of properties are compared: without blanks, dashes and low lines, in lower
case, and without `is` in front. What is not ASCII is dropped. -/
def looseName (name : List Char) : String :=
  let lower := name.map Char.toLower
  let body := match lower with
    | 'i' :: 's' :: rest => rest
    | cs => cs
  let kept := body.filter fun c => c.toNat < 0x80 && c ≠ ' ' && c ≠ '_' && c ≠ '-'
  if kept = ['c'] && body.length < lower.length then "isc" else String.ofList kept

namespace CharSet

/-- Every character of one of the categories. -/
def categories (gs : List Category) : CharSet := unions (gs.map .category)

def assigned : CharSet := categories Category.all

/-- The set of a general category, of a group of categories, or of all characters. -/
def category? (name : String) : Option CharSet :=
  match name with
  | "any" => some (.property .any)
  | "ascii" => some (.range '\x00' '\x7f')
  | "assigned" => some assigned
  | "cn" | "unassigned" => some (.compl assigned)
  | "c" | "other" | "isc" =>
    some (.union (categories [.control, .format, .privateUse]) (.compl assigned))
  | "l" | "letter" => some (categories Category.letters)
  | "lc" | "casedletter" => some (categories [.uppercaseLetter, .lowercaseLetter, .titlecaseLetter])
  | "m" | "mark" | "combiningmark" => some (categories Category.marks)
  | "n" | "number" => some (categories Category.numbers)
  | "p" | "punctuation" | "punct" => some (categories
      [.connectorPunctuation, .dashPunctuation, .openPunctuation, .closePunctuation,
       .initialPunctuation, .finalPunctuation, .otherPunctuation])
  | "s" | "symbol" =>
    some (categories [.mathSymbol, .currencySymbol, .modifierSymbol, .otherSymbol])
  | "z" | "separator" =>
    some (categories [.spaceSeparator, .lineSeparator, .paragraphSeparator])
  | "digit" => some (.category .decimalNumber)
  | "cntrl" => some (.category .control)
  | _ => (Category.all.find? fun g => g.names.1 = name || g.names.2 = name).map .category

/-- The set of a property that a character has or has not. -/
def property? (name : String) : Option CharSet :=
  match name with
  | "alphabetic" | "alpha" => some (.property .alphabetic)
  | "lowercase" | "lower" => some (.property .lowercase)
  | "uppercase" | "upper" => some (.property .uppercase)
  | "whitespace" | "wspace" | "space" => some (.property .blank)
  | "cased" => some (.property .cased)
  | "caseignorable" | "ci" => some (.property .caseIgnorable)
  | "hexdigit" | "hex" => some (.property .hexDigit)
  | "asciihexdigit" | "ahex" => some (unions [asciiDigits, .range 'a' 'f', .range 'A' 'F'])
  | "joincontrol" | "joinc" => some (.range '\u200c' '\u200d')
  | _ => Option.none

/-- The set that a single name stands for. -/
def named? (name : List Char) : Option CharSet :=
  let name := looseName name
  property? name <|> category? name <|> (Script.named? name).map .table

/-- The set that a property's name and a value stand for. -/
def valued? (name value : List Char) : Option CharSet :=
  let value := looseName value
  match looseName name with
  | "generalcategory" | "gc" => category? value
  | "script" | "sc" | "scriptextensions" | "scx" => (Script.named? value).map .table
  | _ => Option.none

end CharSet

end FeatureFlags.Pattern
