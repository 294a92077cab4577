import FeatureFlags.Json.Basic

namespace FeatureFlags.Json

def Number.text : Number → String
  | .natural n => toString n.toNat
  | .negative n => "-" ++ toString n
  | .double x => x.jsonText

/-- A character inside a string. Quotes, backslashes and control characters are escaped, by a
letter where there is one. -/
def escaped (c : Char) : List Char :=
  match c with
  | '"' => ['\\', '"']
  | '\\' => ['\\', '\\']
  | '\x08' => ['\\', 'b']
  | '\x0c' => ['\\', 'f']
  | '\n' => ['\\', 'n']
  | '\r' => ['\\', 'r']
  | '\t' => ['\\', 't']
  | c =>
    if c.toNat < 0x20 then
      ['\\', 'u', '0', '0', Nat.digitChar (c.toNat / 16), Nat.digitChar (c.toNat % 16)]
    else [c]

/-- A text as a string with its quotes. -/
def quoted (s : String) : List Char := '"' :: s.toList.flatMap escaped ++ ['"']

mutual

/-- The text of a value, without blanks. -/
def printed : Json → List Char
  | .null => ['n', 'u', 'l', 'l']
  | .bool b => if b then ['t', 'r', 'u', 'e'] else ['f', 'a', 'l', 's', 'e']
  | .number n => n.text.toList
  | .string s => quoted s
  | .array items => '[' :: printedItems items ++ [']']
  | .object fields => '\x7b' :: printedFields fields ++ ['\x7d']

def printedItems : List Json → List Char
  | [] => []
  | [v] => printed v
  | v :: rest => printed v ++ ',' :: printedItems rest

def printedFields : List (String × Json) → List Char
  | [] => []
  | [(k, v)] => quoted k ++ ':' :: printed v
  | (k, v) :: rest => quoted k ++ ':' :: printed v ++ ',' :: printedFields rest

end

/-- The text of a value. -/
def text (v : Json) : String := String.ofList (printed v)

end FeatureFlags.Json
