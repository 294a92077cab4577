import FeatureFlags.Text.Ranges

namespace FeatureFlags.Text

/-- The replacement character, which stands for what cannot be decoded. -/
def replacement : Char := '\ufffd'

/-- How many bytes follow a leading byte, and the bounds of the first of them: the narrower
bounds exclude overlong forms, surrogates and code points beyond the last one. -/
def continuation? (b : UInt8) : Option (Nat × UInt8 × UInt8) :=
  if 0xc2 ≤ b ∧ b ≤ 0xdf then some (1, 0x80, 0xbf)
  else if b = 0xe0 then some (2, 0xa0, 0xbf)
  else if b = 0xed then some (2, 0x80, 0x9f)
  else if 0xe1 ≤ b ∧ b ≤ 0xef then some (2, 0x80, 0xbf)
  else if b = 0xf0 then some (3, 0x90, 0xbf)
  else if 0xf1 ≤ b ∧ b ≤ 0xf3 then some (3, 0x80, 0xbf)
  else if b = 0xf4 then some (3, 0x80, 0x8f)
  else none

/-- Takes up to `count` continuation bytes, the first of them between `low` and `high`: the bytes
taken, and the rest. -/
def takeContinuation : Nat → UInt8 → UInt8 → List UInt8 → List UInt8 × List UInt8
  | 0, _, _, bytes => ([], bytes)
  | _ + 1, _, _, [] => ([], [])
  | count + 1, low, high, b :: rest =>
    if low ≤ b ∧ b ≤ high then
      let (taken, left) := takeContinuation count 0x80 0xbf rest
      (b :: taken, left)
    else ([], b :: rest)

/-- The code point that a leading byte with its continuation bytes encodes. -/
def codePoint (lead : UInt8) (tail : List UInt8) : Nat :=
  let top := match tail.length with
    | 1 => lead.toNat % 0x20
    | 2 => lead.toNat % 0x10
    | _ => lead.toNat % 0x08
  tail.foldl (fun n b => 64 * n + b.toNat % 0x40) top

/-- Decodes bytes; each longest beginning of a character that breaks off, and each byte that
begins none, decodes to nothing. The fuel bounds the characters. -/
def decodeFrom : Nat → List UInt8 → List (Option Char)
  | 0, _ | _, [] => []
  | fuel + 1, b :: rest =>
    if b < 0x80 then some (Char.ofNat b.toNat) :: decodeFrom fuel rest
    else match continuation? b with
      | none => none :: decodeFrom fuel rest
      | some (count, low, high) =>
        let (tail, left) := takeContinuation count low high rest
        let c := if tail.length = count then some (Char.ofNat (codePoint b tail)) else none
        c :: decodeFrom fuel left

/-- Decodes bytes as UTF-8, with replacement characters for what is malformed. -/
def decodeLossy (bytes : List UInt8) : List Char :=
  (decodeFrom bytes.length bytes).map (·.getD replacement)

/-- Decodes bytes as UTF-8 if none of them is malformed. -/
def decode? (bytes : List UInt8) : Option (List Char) :=
  (decodeFrom bytes.length bytes).mapM id

/-- The UTF-8 bytes of a text. -/
def utf8Bytes (cs : List Char) : List UInt8 := cs.flatMap String.utf8EncodeChar

/-- Replaces each `%` with two hexadecimal digits behind it by the byte they write; the fuel
bounds the bytes. -/
def percentDecodeFrom : Nat → List UInt8 → List UInt8
  | 0, _ | _, [] => []
  | fuel + 1, b :: rest =>
    match rest with
    | h :: l :: rest' =>
      match digit? h, digit? l with
      | some high, some low =>
        if b = 0x25 then (16 * high + low).toUInt8 :: percentDecodeFrom fuel rest'
        else b :: percentDecodeFrom fuel rest
      | _, _ => b :: percentDecodeFrom fuel rest
    | _ => b :: percentDecodeFrom fuel rest
where
  digit? (b : UInt8) : Option Nat := if b < 0x80 then hexValue? (Char.ofNat b.toNat) else none

/-- Decodes percent escapes; escapes that do not form characters become replacement
characters. -/
def percentDecoded (cs : List Char) : List Char :=
  let bytes := utf8Bytes cs
  decodeLossy (percentDecodeFrom bytes.length bytes)

end FeatureFlags.Text
