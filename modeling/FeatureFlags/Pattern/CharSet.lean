import FeatureFlags.Text.Blank
import FeatureFlags.Text.Casing
import FeatureFlags.Text.Script

namespace FeatureFlags.Pattern

/-- Sets of characters that have a name of their own. -/
inductive Property where
  | any
  | alphabetic
  | lowercase
  | uppercase
  | cased
  | caseIgnorable
  | blank
  | word
  | hexDigit
  deriving DecidableEq

namespace Property

/-- The two characters that join letters without being seen. -/
def isJoiner (c : Char) : Bool := c.toNat = 0x200c || c.toNat = 0x200d

/-- Letters, marks, decimal digits, connectors and joiners. -/
def isWord (c : Char) : Bool :=
  if c.toNat < 0x80 then c.isAlphanum || c = '_'
  else Text.isAlphabetic c || isJoiner c ||
    (Text.Category.decimalNumber :: .connectorPunctuation :: Text.Category.marks).any (·.contains c)

def holds : Property → Char → Bool
  | .any, _ => true
  | .alphabetic, c => Text.isAlphabetic c
  | .lowercase, c => Text.isLowercase c
  | .uppercase, c => Text.isUppercase c
  | .cased, c => Text.isCased c
  | .caseIgnorable, c => Text.isCaseIgnorable c
  | .blank, c => Text.isBlank c
  | .word, c => isWord c
  | .hexDigit, c => (Text.hexValue? c).isSome ||
      (0xff10 ≤ c.toNat && c.toNat ≤ 0xff19) || (0xff21 ≤ c.toNat && c.toNat ≤ 0xff26) ||
      (0xff41 ≤ c.toNat && c.toNat ≤ 0xff46)

end Property

/-- The sets of characters that patterns can name. -/
inductive CharSet where
  | none
  | range (first last : Char)
  | property (p : Property)
  | category (g : Text.Category)
  | table (ranges : Text.Ranges)
  | union (a b : CharSet)
  | inter (a b : CharSet)
  | diff (a b : CharSet)
  | compl (a : CharSet)
  /-- All characters that differ from a member in letter case only. -/
  | caseless (a : CharSet)
  /-- The same among ASCII letters. -/
  | asciiCaseless (a : CharSet)

namespace CharSet

def contains : CharSet → Char → Bool
  | .none, _ => false
  | .range first last, c => first ≤ c && c ≤ last
  | .property p, c => p.holds c
  | .category g, c => g.contains c
  | .table ranges, c => ranges.contains c
  | .union a b, c => a.contains c || b.contains c
  | .inter a b, c => a.contains c && b.contains c
  | .diff a b, c => a.contains c && !b.contains c
  | .compl a, c => !a.contains c
  | .caseless a, c => (Text.caselessTwins c).any a.contains
  | .asciiCaseless a, c => a.contains c || a.contains c.toLower || a.contains c.toUpper

/-- The set of one character. -/
def single (c : Char) : CharSet := .range c c

def unions (sets : List CharSet) : CharSet := sets.foldr .union .none

/-- What is in one of the sets and not in the other. -/
def symmDiff (a b : CharSet) : CharSet := .union (.diff a b) (.diff b a)

def asciiDigits : CharSet := .range '0' '9'

def asciiLetters : CharSet := .union (.range 'a' 'z') (.range 'A' 'Z')

def asciiWord : CharSet := unions [asciiLetters, asciiDigits, single '_']

def asciiBlanks : CharSet := .union (.range '\t' '\r') (single ' ')

/-- The sets that are written `[:name:]`. -/
def asciiNamed? (name : String) : Option CharSet :=
  match name with
  | "alnum" => some (.union asciiLetters asciiDigits)
  | "alpha" => some asciiLetters
  | "ascii" => some (.range '\x00' '\x7f')
  | "blank" => some (.union (single '\t') (single ' '))
  | "cntrl" => some (.union (.range '\x00' '\x1f') (single '\x7f'))
  | "digit" => some asciiDigits
  | "graph" => some (.range '!' '~')
  | "lower" => some (.range 'a' 'z')
  | "print" => some (.range ' ' '~')
  | "punct" => some (unions [.range '!' '/', .range ':' '@', .range '[' '\x60', .range '\x7b' '~'])
  | "space" => some asciiBlanks
  | "upper" => some (.range 'A' 'Z')
  | "word" => some asciiWord
  | "xdigit" => some (unions [asciiDigits, .range 'a' 'f', .range 'A' 'F'])
  | _ => Option.none

/-- Room for the transitions of a table: a range beyond ASCII takes two bytes states of 32 bytes. -/
def tableRoom (ranges : Text.Ranges) : Nat :=
  ranges.items.foldl (fun room (first, last, step) =>
    room + if step = 1 then 64 else 40 * ((last - first) / step + 1)) 0

/-- Room in bytes that the automaton of a set takes: what a pattern may hold is bounded by it.
The automaton reads UTF-8, forwards and backwards, so sets beyond ASCII take many states. -/
def room : CharSet → Nat
  | .none => 0
  | .range first last => if last.toNat < 0x80 then 8 else if first = last then 64 else 160
  | .property p => match p with
    | .any => 930
    | .blank => 650
    | .hexDigit => 250
    | .word => 48130
    | .caseIgnorable => 24000
    | .cased => 9000
    | _ => 45000
  | .category g => tableRoom g.table
  | .table ranges => tableRoom ranges
  | .union a b => a.room + b.room
  | .inter a b => min a.room b.room
  | .diff a _ => a.room
  | .compl a => a.room + 960
  | .caseless a => 2 * a.room
  | .asciiCaseless a => 2 * a.room

end CharSet

end FeatureFlags.Pattern
