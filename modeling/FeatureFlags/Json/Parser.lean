import FeatureFlags.Json.Basic

namespace FeatureFlags.Json

open Text (spanDigits ofDigits)

/-! Reading of JSON texts. Every reader takes the text from where it stands and returns what
follows the part it has read. -/

def skipBlanks (cs : List Char) : List Char :=
  cs.dropWhile fun c => c = ' ' || c = '\n' || c = '\t' || c = '\r'

namespace Number

/-- Appends digits to a significand while it fits into 64 bits: the significand, and how many
digits went in. -/
def takeDigits (significand : Nat) : List Char → Nat × Nat
  | [] => (significand, 0)
  | c :: rest =>
    let next := 10 * significand + (c.toNat - 48)
    if next < UInt64.size then
      let (m, count) := takeDigits next rest
      (m, count + 1)
    else (significand, 0)

/-- `significand · 10^e` as a double. The significand is rounded first, then scaled by a power of
ten, and each step rounds; below `10^-308` it takes two steps. What exceeds the doubles is no
number. -/
def scaled? (significand : Nat) (e : Int) : Option Binary64 :=
  let x := Binary64.ofNat significand
  let power (k : Nat) := Binary64.ofDecimal false 1 k
  if significand = 0 then some x
  else if 308 < e then none
  else if 0 ≤ e then
    let y := x * power e.toNat
    if y = .infinite false then none else some y
  else if -308 ≤ e then some (x / power (-e).toNat)
  else if -616 ≤ e then some (x / power 308 / power (-e - 308).toNat)
  else some (Binary64.zero false)

/-- The number with these digits before and after the point and this exponent. Without point and
exponent it is an integer if it fits into 64 bits and is not a negative zero. -/
def ofParts? (negative : Bool) (whole : List Char) (fraction : Option (List Char))
    (exponent : Option Int) : Option Number :=
  let (significand, taken) := takeDigits 0 whole
  if fraction.isNone && exponent.isNone && taken = whole.length then
    if !negative then some (.natural significand.toUInt64)
    else if 0 < significand ∧ significand ≤ UInt64.size / 2 then some (.negative significand)
    else some (.double (-Binary64.ofNat significand))
  else
    let (significand, more) := takeDigits significand (fraction.getD [])
    let e : Int := (whole.length : Int) - taken - more + exponent.getD 0
    (scaled? significand e).map fun x => .double (if negative then -x else x)

end Number

/-- Reads the digits behind a point, if there is one. -/
def fraction? : List Char → Option (Option (List Char) × List Char)
  | '.' :: r =>
    let (digits, r) := spanDigits r
    if digits.isEmpty then none else some (some digits, r)
  | r => some (none, r)

/-- Reads an exponent and its sign, if there is one. -/
def exponent? : List Char → Option (Option Int × List Char)
  | [] => some (none, [])
  | c :: r =>
    if c = 'e' ∨ c = 'E' then
      let (minus, r) := match r with
        | '-' :: r => (true, r)
        | '+' :: r => (false, r)
        | r => (false, r)
      let (digits, r) := spanDigits r
      let e : Int := ofDigits digits
      if digits.isEmpty then none else some (some (if minus then -e else e), r)
    else some (none, c :: r)

/-- Reads a number: no leading zeros, and a digit on either side of a point. A number that is
too large is unreadable. -/
def number? (cs : List Char) : Option (Written × List Char) :=
  let (negative, cs) := match cs with
    | '-' :: r => (true, r)
    | r => (false, r)
  let (whole, cs) := spanDigits cs
  if whole.isEmpty || (whole.head? = some '0' && 1 < whole.length) then none
  else do
    let (fraction, cs) ← fraction? cs
    let (exponent, cs) ← exponent? cs
    match Number.ofParts? negative whole fraction exponent with
    | some n => some (.number n, cs)
    | none => some (.unreadable, cs)

/-- A part of a string: a character, or a 16-bit unit written as an escape. -/
inductive StringPart where
  | char (c : Char)
  | unit (n : Nat)

/-- The character behind a backslash that stands for a single one. -/
def simpleEscape? (c : Char) : Option Char :=
  match c with
  | '"' => some '"'
  | '\\' => some '\\'
  | '/' => some '/'
  | 'b' => some '\x08'
  | 'f' => some '\x0c'
  | 'n' => some '\n'
  | 'r' => some '\r'
  | 't' => some '\t'
  | _ => none

/-- Reads the parts of a string up to its closing quote. Control characters must be escaped. -/
def stringParts? : List Char → Option (List StringPart × List Char)
  | [] => none
  | '"' :: rest => some ([], rest)
  | '\\' :: 'u' :: a :: b :: c :: d :: rest =>
    if [a, b, c, d].all fun h => (Text.hexValue? h).isSome then
      (stringParts? rest).map fun (parts, r) => (.unit (Text.ofHexDigits [a, b, c, d]) :: parts, r)
    else none
  | '\\' :: c :: rest =>
    match simpleEscape? c with
    | some c => (stringParts? rest).map fun (parts, r) => (.char c :: parts, r)
    | none => none
  | c :: rest =>
    if c.toNat < 0x20 then none
    else (stringParts? rest).map fun (parts, r) => (.char c :: parts, r)

/-- Joins surrogate pairs; a unit of a pair that lacks the other one makes the string
unreadable. -/
def joinParts? : List StringPart → Option (List Char)
  | [] => some []
  | .char c :: rest => (joinParts? rest).map (c :: ·)
  | .unit n :: rest =>
    if n < 0xd800 ∨ 0xe000 ≤ n then (joinParts? rest).map (Char.ofNat n :: ·)
    else match rest with
      | .unit m :: rest =>
        if n < 0xdc00 ∧ 0xdc00 ≤ m ∧ m < 0xe000 then
          (joinParts? rest).map (Char.ofNat (0x10000 + (n - 0xd800) * 0x400 + (m - 0xdc00)) :: ·)
        else none
      | _ => none

/-- Reads a string behind its opening quote; the text is none if it is unreadable. -/
def string? (cs : List Char) : Option (Option String × List Char) :=
  (stringParts? cs).map fun (parts, rest) => ((joinParts? parts).map String.ofList, rest)

/-- The deepest level of arrays and objects. -/
def maxDepth : Nat := 127

mutual

/-- Reads a value; `room` levels of arrays and objects are left above the deepest one. The fuel
bounds the values, items and fields to come. -/
def written? : Nat → Nat → List Char → Option (Written × List Char)
  | 0, _, _ => none
  | fuel + 1, room, cs =>
    match skipBlanks cs with
    | 'n' :: 'u' :: 'l' :: 'l' :: rest => some (.null, rest)
    | 't' :: 'r' :: 'u' :: 'e' :: rest => some (.bool true, rest)
    | 'f' :: 'a' :: 'l' :: 's' :: 'e' :: rest => some (.bool false, rest)
    | '"' :: rest => (string? rest).map fun (s, r) => (s.elim .unreadable .string, r)
    | '[' :: rest =>
      let inner := match skipBlanks rest with
        | ']' :: r => some ([], r)
        | r => items? fuel (room - 1) r
      inner.map fun (items, r) => (if room = 0 then .unreadable else .array items, r)
    | '{' :: rest =>
      let inner := match skipBlanks rest with
        | '}' :: r => some (some [], r)
        | r => fields? fuel (room - 1) r
      inner.map fun (fields, r) =>
        (if room = 0 then .unreadable else fields.elim .unreadable .object, r)
    | rest => number? rest

/-- Reads the items of an array up to its closing bracket. -/
def items? : Nat → Nat → List Char → Option (List Written × List Char)
  | 0, _, _ => none
  | fuel + 1, room, cs =>
    match written? fuel room cs with
    | none => none
    | some (w, rest) =>
      match skipBlanks rest with
      | ',' :: rest => (items? fuel room rest).map fun (ws, r) => (w :: ws, r)
      | ']' :: rest => some ([w], rest)
      | _ => none

/-- Reads the fields of an object up to its closing brace; none if a key is unreadable. -/
def fields? : Nat → Nat → List Char → Option (Option (List (String × Written)) × List Char)
  | 0, _, _ => none
  | fuel + 1, room, cs =>
    match skipBlanks cs with
    | '"' :: rest =>
      match string? rest with
      | none => none
      | some (key, rest) =>
        match skipBlanks rest with
        | ':' :: rest =>
          match written? fuel room rest with
          | none => none
          | some (w, rest) =>
            let field := key.map fun k => (k, w)
            match skipBlanks rest with
            | ',' :: rest => (fields? fuel room rest).map fun (fs, r) =>
                (match field, fs with
                  | some f, some fs => some (f :: fs)
                  | _, _ => none, r)
            | '}' :: rest => some (field.map fun f => [f], rest)
            | _ => none
        | _ => none
    | _ => none

end

/-- Reads a whole text; nothing but blanks may follow the value. -/
def Written.ofText? (text : String) : Option Written :=
  let cs := text.toList
  match written? (2 * cs.length + 1) maxDepth cs with
  | some (w, rest) => if (skipBlanks rest).isEmpty then some w else none
  | none => none

/-- The value that a whole text writes. -/
def ofText? (text : String) : Option Json := (Written.ofText? text).bind Written.value?

end FeatureFlags.Json
