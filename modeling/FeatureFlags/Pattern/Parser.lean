import FeatureFlags.Pattern.Named
import FeatureFlags.Pattern.Tree

namespace FeatureFlags.Pattern

/-- How a part of a pattern is to be read. -/
structure Flags where
  /-- Letter case does not count. -/
  caseless : Bool := false
  /-- `^` and `$` also hold at lines. -/
  multiLine : Bool := false
  /-- The dot takes line ends too. -/
  dotAll : Bool := false
  /-- Lines may end with a carriage return. -/
  anyLineEnd : Bool := false
  /-- Names, classes and letter case are those of all scripts, not of ASCII only. -/
  unicode : Bool := true
  /-- Blanks and comments do not count. -/
  verbose : Bool := false

namespace Flags

/-- Sets the flag with this letter; the letter that swaps greedy and lazy repetition changes no
match. -/
def set? (flags : Flags) (letter : Char) (value : Bool) : Option Flags :=
  match letter with
  | 'i' => some { flags with caseless := value }
  | 'm' => some { flags with multiLine := value }
  | 's' => some { flags with dotAll := value }
  | 'R' => some { flags with anyLineEnd := value }
  | 'u' => some { flags with unicode := value }
  | 'x' => some { flags with verbose := value }
  | 'U' => some flags
  | _ => none

/-- A set without regard to letter case, if so flagged. -/
def folded (flags : Flags) (s : CharSet) : CharSet :=
  if !flags.caseless then s
  else if flags.unicode then .caseless s
  else .asciiCaseless s

/-- A folded set, or what is not in it. Without the characters of all scripts, the rest of a set
would hold bytes that are no characters. -/
def foldedSet? (flags : Flags) (negated : Bool) (s : CharSet) : Option CharSet :=
  if !negated then some (flags.folded s)
  else if flags.unicode then some (.compl (flags.folded s))
  else none

end Flags

/-- What follows the blanks and comments that do not count. -/
def skipVerbose : Bool → List Char → List Char
  | _, [] => []
  | inComment, c :: rest =>
    if inComment then skipVerbose (c ≠ '\n') rest
    else if Text.isBlank c then skipVerbose false rest
    else if c = '#' then skipVerbose true rest
    else c :: rest

def Flags.skip (flags : Flags) (cs : List Char) : List Char :=
  if flags.verbose then skipVerbose false cs else cs

/-- A part of a pattern that stands for one character, for one of a set, or for a place. -/
inductive Primitive where
  /-- A character; `asByte` when two hexadecimal digits give it. -/
  | literal (c : Char) (asByte : Bool)
  | named (s : CharSet) (negated : Bool)
  /-- A set with a letter of its own, with its members among ASCII. -/
  | lettered (s ascii : CharSet) (negated : Bool)
  | look (l : Look)

/-- The character with this code point. -/
def scalar? (n : Nat) : Option Char :=
  if n < 0xd800 ∨ 0xe000 ≤ n ∧ n < 0x110000 then some (Char.ofNat n) else none

/-- Reads exactly that many hexadecimal digits. -/
def hexDigits? (flags : Flags) : Nat → List Char → Option (List Char × List Char)
  | 0, cs => some ([], cs)
  | _ + 1, [] => none
  | count + 1, c :: rest =>
    if (Text.hexValue? c).isSome then
      (hexDigits? flags count (flags.skip rest)).map fun (ds, r) => (c :: ds, r)
    else none

/-- The characters that count up to a closing brace, and what follows it. A brace in a comment
closes nothing. -/
def upToBrace? (flags : Flags) : Bool → List Char → Option (List Char × List Char)
  | _, [] => none
  | inComment, c :: rest =>
    if inComment then upToBrace? flags (c ≠ '\n') rest
    else if flags.verbose && Text.isBlank c then upToBrace? flags false rest
    else if flags.verbose && c = '#' then upToBrace? flags true rest
    else if c = '\x7d' then some ([], rest)
    else (upToBrace? flags false rest).map fun (cs, r) => (c :: cs, r)

/-- Reads a character given by its code point, behind `x`, `u` or `U`. -/
def hex? (flags : Flags) (kind : Char) (cs : List Char) : Option (Primitive × List Char) :=
  match flags.skip cs with
  | '\x7b' :: rest => do
    let (digits, rest) ← upToBrace? flags false rest
    if digits.isEmpty || !digits.all fun c => (Text.hexValue? c).isSome then none
    else
      let c ← scalar? (Text.ofHexDigits digits)
      some (.literal c false, flags.skip rest)
  | cs => do
    let count := if kind = 'x' then 2 else if kind = 'u' then 4 else 8
    let (digits, rest) ← hexDigits? flags count cs
    let c ← scalar? (Text.ofHexDigits digits)
    some (.literal c (kind = 'x'), rest)

/-- Splits a text at the first place where `mark` stands. -/
def splitAt? (mark : List Char) : List Char → Option (List Char × List Char)
  | [] => none
  | c :: cs =>
    match Text.after? mark (c :: cs) with
    | some rest => some ([], rest)
    | none => (splitAt? mark cs).map fun (a, b) => (c :: a, b)

/-- The set that the text between braces names: a property, or a property and its value. -/
def braced? (negated : Bool) (name : List Char) : Option Primitive :=
  match splitAt? ['!', '='] name with
  | some (property, value) => (CharSet.valued? property value).map fun s => .named s (!negated)
  | none =>
    match splitAt? [':'] name <|> splitAt? ['='] name with
    | some (property, value) => (CharSet.valued? property value).map fun s => .named s negated
    | none => (CharSet.named? name).map fun s => .named s negated

/-- Reads a named set, behind `p` or `P`. -/
def named? (flags : Flags) (negated : Bool) (cs : List Char) : Option (Primitive × List Char) :=
  match flags.skip cs with
  | [] => none
  | '\x7b' :: rest => do
    let (inside, rest) ← upToBrace? flags false rest
    let primitive ← braced? negated inside
    some (primitive, rest)
  | c :: rest =>
    if c = '\\' then none
    else (CharSet.named? [c]).map fun s => (.named s negated, flags.skip rest)

/-- Characters of the names of word edges. -/
def isEdgeChar (c : Char) : Bool := c.isAlpha || c = '-'

/-- The edges of words that have a name. -/
def WordEdge.named? (name : String) : Option WordEdge :=
  match name with
  | "start" => some .start
  | "end" => some .finish
  | "start-half" => some .startHalf
  | "end-half" => some .finishHalf
  | _ => none

/-- Reads what may follow `\b`: the name of a word edge in braces. Other braces are left to be
read as a count. -/
def wordEdge? (flags : Flags) (cs : List Char) : Option (Primitive × List Char) :=
  let plain : Primitive := .look (.word .boundary (!flags.unicode))
  match cs with
  | '\x7b' :: inside =>
    match flags.skip inside with
    | [] => none
    | c :: rest =>
      if !isEdgeChar c then some (plain, cs)
      else do
        let (name, rest) ← upToBrace? flags false (c :: rest)
        let edge ← WordEdge.named? (String.ofList name)
        some (.look (.word edge (!flags.unicode)), rest)
  | _ => some (plain, cs)

/-- The sets that have a letter. -/
def lettered? (letter : Char) : Option (CharSet × CharSet) :=
  match letter.toLower with
  | 'd' => some (.category .decimalNumber, .asciiDigits)
  | 's' => some (.property .blank, .asciiBlanks)
  | 'w' => some (.property .word, .asciiWord)
  | _ => none

/-- Reads what follows a backslash. Letters and digits have a meaning or are refused; any other
ASCII character stands for itself, but for the two angle brackets. -/
def escape? (flags : Flags) : List Char → Option (Primitive × List Char)
  | [] => none
  | c :: rest =>
    if c = 'x' ∨ c = 'u' ∨ c = 'U' then hex? flags c rest
    else if c = 'p' ∨ c = 'P' then named? flags (c = 'P') rest
    else if c = 'b' then wordEdge? flags rest
    else match lettered? c with
      | some (s, ascii) => some (.lettered s ascii c.isUpper, rest)
      | none =>
        let ascii := !flags.unicode
        let primitive : Option Primitive := match c with
          | 'a' => some (.literal '\x07' false)
          | 'f' => some (.literal '\x0c' false)
          | 't' => some (.literal '\t' false)
          | 'n' => some (.literal '\n' false)
          | 'r' => some (.literal '\r' false)
          | 'v' => some (.literal '\x0b' false)
          | 'A' => some (.look .textStart)
          | 'z' => some (.look .textEnd)
          | 'B' => some (.look (.word .inside ascii))
          | '<' => some (.look (.word .start ascii))
          | '>' => some (.look (.word .finish ascii))
          | c => if c.toNat < 0x80 && !c.isAlphanum then some (.literal c false) else none
        primitive.map fun p => (p, rest)

/-- The set that a primitive stands for inside brackets. -/
def Primitive.member? (flags : Flags) : Primitive → Option CharSet
  | .literal c _ => if flags.unicode || c.toNat < 0x80 then some (.single c) else none
  | .named s negated => if flags.unicode then flags.foldedSet? negated s else none
  | .lettered s ascii negated =>
    if flags.unicode then some (if negated then .compl s else s)
    else if negated then none else some ascii
  | .look _ => none

/-- The tree that a primitive stands for outside brackets. -/
def Primitive.tree? (flags : Flags) : Primitive → Option Tree
  | .literal c asByte =>
    if flags.unicode || c.toNat < 0x80 then some (.set (flags.folded (.single c)) 0)
    else if asByte then none else some (.set (.single c) 0)
  | .look l => some (.look l)
  | p => (p.member? flags).map fun s => .set s 0

/-- The set of a dot. -/
def Flags.dot? (flags : Flags) : Option CharSet :=
  if !flags.unicode then none
  else if flags.dotAll then some (.property .any)
  else if flags.anyLineEnd then some (.compl (.union (.single '\n') (.single '\r')))
  else some (.compl (.single '\n'))

/-- Reads the name of a set in ASCII up to the `:]` that ends it. -/
def asciiName? (flags : Flags) (negated : Bool) (cs : List Char) :
    Option (Option CharSet × List Char) := do
  let rest ← Text.after? [':', ']'] (cs.dropWhile (· ≠ ':'))
  let s ← CharSet.asciiNamed? (String.ofList (cs.takeWhile (· ≠ ':')))
  some (flags.foldedSet? negated s, rest)

/-- Reads `:name:]` behind a bracket. -/
def asciiClass? (flags : Flags) (cs : List Char) : Option (Option CharSet × List Char) :=
  match cs with
  | ':' :: '^' :: rest => asciiName? flags true rest
  | ':' :: rest => asciiName? flags false rest
  | _ => none

/-- How two sets inside brackets are put together. -/
inductive SetOperator where
  | inter
  | diff
  | symmDiff

/-- Applies a pending operator to the items read behind it. -/
def combine (flags : Flags) (pending : Option (CharSet × SetOperator)) (s : CharSet) : CharSet :=
  match pending with
  | none => s
  | some (left, operator) =>
    let a := flags.folded left
    let b := flags.folded s
    match operator with
    | .inter => .inter a b
    | .diff => .diff a b
    | .symmDiff => .symmDiff a b

/-- Reads one end of a range inside brackets, or an item that is no range. -/
def bracketItem? (flags : Flags) : List Char → Option (Primitive × List Char)
  | [] => none
  | '\\' :: rest => escape? flags rest
  | c :: rest => some (.literal c false, rest)

/-- Reads an item inside brackets: a primitive, or two characters with a dash between them. A dash
before another dash or the closing bracket stands for itself. -/
def bracketRange? (flags : Flags) (cs : List Char) : Option (CharSet × List Char) := do
  let (first, rest) ← bracketItem? flags cs
  match flags.skip rest with
  | [] => none
  | '-' :: after =>
    match flags.skip after with
    | ']' :: _ | '-' :: _ => (first.member? flags).map fun s => (s, '-' :: after)
    | after => do
      let (last, rest) ← bracketItem? flags after
      match first, last with
      | .literal a _, .literal b _ =>
        let _ ← first.member? flags
        let _ ← last.member? flags
        if a ≤ b then some (.range a b, rest) else none
      | _, _ => none
  | rest => (first.member? flags).map fun s => (s, rest)

/-- The dashes that stand for themselves at the start of brackets. -/
def leadingMembers? (flags : Flags) : Nat → List Char → Option (List CharSet × List Char)
  | 0, _ => none
  | fuel + 1, cs =>
    match cs with
    | [] => none
    | '-' :: rest =>
      (leadingMembers? flags fuel (flags.skip rest)).map fun (ss, r) => (.single '-' :: ss, r)
    | cs => some ([], cs)

/-- Reads the members that stand for themselves only at the start of brackets. -/
def firstMembers? (flags : Flags) (cs : List Char) : Option (List CharSet × List Char) := do
  let (dashes, rest) ← leadingMembers? flags (cs.length + 1) cs
  match dashes, rest with
  | [], ']' :: rest => some ([.single ']'], flags.skip rest)
  | _, rest => some (dashes, rest)

/-- Whether a circumflex begins the brackets, and what follows it. -/
def negation (flags : Flags) (cs : List Char) : Bool × List Char :=
  match flags.skip cs with
  | '^' :: rest => (true, flags.skip rest)
  | rest => (false, rest)

mutual

/-- Reads a set behind its opening bracket: the set, how deep it is nested, and what follows. -/
def bracket? : Nat → Flags → List Char → Option (CharSet × Nat × List Char)
  | 0, _, _ => none
  | fuel + 1, flags, cs => do
    let (negated, cs) := negation flags cs
    let (members, cs) ← firstMembers? flags cs
    let (s, depth, rest) ← bracketBody? fuel flags none members 0 cs
    let s ← flags.foldedSet? negated s
    some (s, depth + 1, rest)

/-- Reads the rest of a set up to its closing bracket. `members` have been read since the last
operator, `depth` is that of the deepest set among them. -/
def bracketBody? : Nat → Flags → Option (CharSet × SetOperator) → List CharSet → Nat → List Char →
    Option (CharSet × Nat × List Char)
  | 0, _, _, _, _, _ => none
  | fuel + 1, flags, pending, members, depth, cs =>
    let operator (op : SetOperator) (rest : List Char) :=
      bracketBody? fuel flags (some (combine flags pending (.unions members), op)) [] depth rest
    match flags.skip cs with
    | [] => none
    | ']' :: rest => some (combine flags pending (.unions members), depth, rest)
    | '&' :: '&' :: rest => operator .inter rest
    | '-' :: '-' :: rest => operator .diff rest
    | '~' :: '~' :: rest => operator .symmDiff rest
    | '[' :: rest =>
      match asciiClass? flags rest with
      | some (s, rest) => do
        let s ← s
        bracketBody? fuel flags pending (members ++ [s]) depth rest
      | none => do
        let (s, inner, rest) ← bracket? fuel flags rest
        bracketBody? fuel flags pending (members ++ [s]) (max depth inner) rest
    | cs => do
      let (s, rest) ← bracketRange? flags cs
      bracketBody? fuel flags pending (members ++ [s]) depth rest

end

/-- Reads the flags of a group, from behind its question mark to the colon or parenthesis that ends
them: the flags, whether there was any, and the character at the end. No flag may come twice. -/
def groupFlags? (flags : Flags) (seen : List Char) (negated dangling : Bool) :
    List Char → Option (Flags × Bool × Char × List Char)
  | [] => none
  | c :: rest =>
    if c = ':' ∨ c = ')' then
      if dangling then none else some (flags, !seen.isEmpty, c, rest)
    else if c = '-' then
      if negated then none else groupFlags? flags seen true true rest
    else if seen.contains c then none
    else match flags.set? c (!negated) with
      | some flags => groupFlags? flags (c :: seen) negated false rest
      | none => none

/-- Whether a group's name may have this character. -/
def isNameChar (first : Bool) (c : Char) : Bool :=
  c = '_' || Text.isAlphabetic c ||
    (!first && (c = '.' || c = '[' || c = ']' || Text.isNumeric c))

/-- Reads a group's name up to its closing angle bracket. -/
def groupName? (cs : List Char) : Option (String × List Char) :=
  match cs.takeWhile (· ≠ '>'), (cs.dropWhile (· ≠ '>')).drop 1 with
  | [], _ => none
  | c :: name, rest =>
    if cs.contains '>' && isNameChar true c && name.all (isNameChar false) then
      some (String.ofList (c :: name), rest)
    else none

/-- What stands behind an opening parenthesis. -/
inductive Opening where
  | flags (flags : Flags)
  | group (captures : Bool) (name : Option String) (flags : Flags)

/-- Reads what stands behind an opening parenthesis. Flags without any letter are refused, and so is
looking ahead or behind: the marks for it are no flags and begin no name. -/
def opening? (flags : Flags) (cs : List Char) : Option (Opening × List Char) :=
  match flags.skip cs with
  | '?' :: 'P' :: '<' :: rest | '?' :: '<' :: rest =>
    (groupName? rest).map fun (name, r) => (.group true (some name) flags, r)
  | '?' :: rest =>
    match groupFlags? flags [] false false rest with
    | some (inner, any, c, rest) =>
      if c = ':' then some (.group false none inner, rest)
      else if any then some (.flags inner, rest)
      else none
    | none => none
  | rest => some (.group true none flags, rest)

/-- Reads a count; blanks around and, when they do not count anyway, inside it are skipped. The
count is none if there are no digits. -/
def count? (flags : Flags) (cs : List Char) : Option (Option Nat × List Char) :=
  let cs := cs.dropWhile Text.isBlank
  let (digits, rest) := digitRun cs.length cs
  let rest := flags.skip (rest.dropWhile Text.isBlank)
  if digits.isEmpty then some (none, rest)
  else
    let n := Text.ofDigits digits
    if n < UInt32.size then some (some n, rest) else none
where
  digitRun : Nat → List Char → List Char × List Char
    | 0, cs => ([], cs)
    | _ + 1, [] => ([], [])
    | fuel + 1, c :: rest =>
      if Text.isDigit c then
        let (ds, r) := digitRun fuel (flags.skip rest)
        (c :: ds, r)
      else ([], c :: rest)

/-- Reads the bounds of a counted repetition behind its opening brace. -/
def bounds? (flags : Flags) (cs : List Char) : Option (Nat × Option Nat × List Char) := do
  let (low, rest) ← count? flags (flags.skip cs)
  let low ← low
  match rest with
  | '\x7d' :: rest => some (low, some low, rest)
  | ',' :: rest =>
    match flags.skip rest with
    | '\x7d' :: rest => some (low, none, rest)
    | rest => do
      let (high, rest) ← count? flags rest
      let high ← high
      match rest with
      | '\x7d' :: rest => if low ≤ high then some (low, some high, rest) else none
      | _ => none
  | _ => none

/-- The question mark behind a repetition says which match to prefer, and is dropped. -/
def dropLazy : List Char → List Char
  | '?' :: rest => rest
  | cs => cs

/-- Repeats the last of the items read, which are newest first; there must be one that matches
something. -/
def repeatLast? (min : Nat) (max : Option Nat) : List Tree → Option (List Tree)
  | [] | .setting :: _ => none
  | t :: rest => some (.repeated t min max :: rest)

/-- Reads alternatives up to a closing parenthesis or the end, which it leaves. The branches and
the items of the current one come newest first. -/
def alternatives? : Nat → Flags → List Tree → List Tree → List Char → Option (Tree × List Char)
  | 0, _, _, _, _ => none
  | fuel + 1, flags, branches, items, cs =>
    let branch := Tree.ofItems items.reverse
    let finished := Tree.ofBranches (branch :: branches).reverse
    match flags.skip cs with
    | [] => some (finished, [])
    | ')' :: rest => some (finished, ')' :: rest)
    | '|' :: rest => alternatives? fuel flags (branch :: branches) [] rest
    | '(' :: rest =>
      match opening? flags rest with
      | none => none
      | some (.flags flags, rest) => alternatives? fuel flags branches (.setting :: items) rest
      | some (.group captures name inner, rest) =>
        match alternatives? fuel inner [] [] rest with
        | some (t, ')' :: rest) =>
          alternatives? fuel flags branches (.group captures name t :: items) rest
        | _ => none
    | '[' :: rest =>
      match bracket? fuel flags rest with
      | some (s, depth, rest) => alternatives? fuel flags branches (.set s depth :: items) rest
      | none => none
    | '?' :: rest => do
      alternatives? fuel flags branches (← repeatLast? 0 (some 1) items) (dropLazy rest)
    | '*' :: rest => do
      alternatives? fuel flags branches (← repeatLast? 0 none items) (dropLazy rest)
    | '+' :: rest => do
      alternatives? fuel flags branches (← repeatLast? 1 none items) (dropLazy rest)
    | '\x7b' :: rest => do
      let (low, high, rest) ← bounds? flags rest
      alternatives? fuel flags branches (← repeatLast? low high items) (dropLazy (flags.skip rest))
    | '\\' :: rest => do
      let (primitive, rest) ← escape? flags rest
      let t ← primitive.tree? flags
      alternatives? fuel flags branches (t :: items) rest
    | '.' :: rest => do
      let s ← flags.dot?
      alternatives? fuel flags branches (.set s 0 :: items) rest
    | '^' :: rest =>
      let l : Look := if !flags.multiLine then .textStart
        else if flags.anyLineEnd then .anyLineStart else .lineStart
      alternatives? fuel flags branches (.look l :: items) rest
    | '$' :: rest =>
      let l : Look := if !flags.multiLine then .textEnd
        else if flags.anyLineEnd then .anyLineEnd else .lineEnd
      alternatives? fuel flags branches (.look l :: items) rest
    | c :: rest => do
      let t ← (Primitive.literal c false).tree? flags
      alternatives? fuel flags branches (t :: items) rest

/-- Levels that a pattern may be nested. -/
def maxNesting : Nat := 250

/-- Bytes that the automaton of a pattern may take. -/
def maxRoom : Nat := 10 * 1024 * 1024

/-- Reads a whole pattern. Group names must differ, and neither nesting nor the automaton may
exceed their limits. -/
def Tree.ofChars? (cs : List Char) : Option Tree :=
  match alternatives? (cs.length + 1) {} [] [] cs with
  | some (t, []) =>
    if t.names.Nodup ∧ t.nesting ≤ maxNesting ∧ t.room ≤ maxRoom then some t else none
  | _ => none

end FeatureFlags.Pattern
