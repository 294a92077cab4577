import FeatureFlags.Binary64.Basic
import FeatureFlags.Text.Digits

namespace FeatureFlags

namespace Binary64

open Text (isDigit spanDigits ofDigits)

/-- The number nearest to `n · 10^e`. Powers beyond the range of the format are not computed:
above `10^400` everything is infinite and below `10^-400` everything is zero. -/
def ofDecimal (negative : Bool) (n : Nat) (e : Int) : Binary64 :=
  if n = 0 then zero negative
  else if 400 < e then .infinite negative
  else if e + (Nat.toDigits 10 n).length < -400 then zero negative
  else if 0 ≤ e then ofQuotient negative (n * Nat.pow 10 e.toNat) 1
  else ofQuotient negative n (Nat.pow 10 (-e).toNat)

/-- The exponent part `e+5` of a number's text; an empty text has exponent 0. -/
def exponentPart? : List Char → Option Int
  | [] => some 0
  | c :: rest =>
    if c = 'e' ∨ c = 'E' then
      match rest with
      | '-' :: ds => (digits? ds).map fun n => -(n : Int)
      | '+' :: ds => (digits? ds).map fun n => (n : Int)
      | ds => (digits? ds).map fun n => (n : Int)
    else none
where
  digits? (ds : List Char) : Option Nat :=
    if !ds.isEmpty && ds.all isDigit then some (ofDigits ds) else none

/-- Digits with at most one point among or around them, then maybe an exponent. A point needs a
digit on one side at least. -/
def unsigned? (negative : Bool) (cs : List Char) : Option Binary64 :=
  let (whole, rest) := spanDigits cs
  let (fraction, rest) := match rest with
    | '.' :: r => spanDigits r
    | r => ([], r)
  if whole.isEmpty && fraction.isEmpty then none
  else (exponentPart? rest).map fun e =>
    ofDecimal negative (ofDigits (whole ++ fraction)) (e - fraction.length)

/-- Reads a number's text: an optional sign, then digits as `unsigned?` takes them, or one of
the words `inf`, `infinity` and `nan` in any letter case. Blanks are not skipped. -/
def ofChars? (cs : List Char) : Option Binary64 :=
  let (negative, body) := match cs with
    | '-' :: r => (true, r)
    | '+' :: r => (false, r)
    | r => (false, r)
  let word := body.map Char.toLower
  if word = "inf".toList ∨ word = "infinity".toList then some (.infinite negative)
  else if word = "nan".toList then some .nan
  else unsigned? negative body

/-- Reads a number's text, rounding to the nearest number. -/
def ofText? (text : String) : Option Binary64 := ofChars? text.toList

end Binary64

end FeatureFlags
