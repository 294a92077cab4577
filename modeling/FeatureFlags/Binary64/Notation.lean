import FeatureFlags.Binary64.Shortest

namespace FeatureFlags

namespace Binary64

/-- Digits with the point at its place: zeros fill the gap on either side, and `whole` follows a
number that needs no point. -/
def positional (whole : List Char) (decimal : Decimal) : List Char :=
  let digits := decimal.digits
  if decimal.point ≤ 0 then
    ['0', '.'] ++ List.replicate (-decimal.point).toNat '0' ++ digits
  else
    let p := decimal.point.toNat
    if digits.length ≤ p then digits ++ List.replicate (p - digits.length) '0' ++ whole
    else digits.take p ++ '.' :: digits.drop p

/-- One digit before the point and an exponent with its sign. -/
def scientific (decimal : Decimal) : List Char :=
  let fraction := decimal.digits.drop 1
  let mantissa := decimal.digits.take 1 ++ (if fraction.isEmpty then [] else '.' :: fraction)
  let exponent := decimal.point - 1
  mantissa ++ ['e', if exponent < 0 then '-' else '+'] ++ Nat.toDigits 10 exponent.natAbs

/-- Plain text: the shortest digits, never an exponent, and no point after a whole number. -/
def plainText : Binary64 → String
  | .finite s m e =>
    let body := if m = 0 then ['0'] else positional [] (shortest .up m e)
    String.ofList (if s then '-' :: body else body)
  | .infinite s => if s then "-inf" else "inf"
  | .nan => "NaN"

/-- Text inside a JSON document: always with a point or an exponent, positional from `1e-5` up to
below `1e16`. JSON has no infinities and no NaN; they are written as `null`. -/
def jsonText : Binary64 → String
  | .finite s m e =>
    let body :=
      if m = 0 then ['0', '.', '0']
      else
        let decimal := shortest .even m e
        if -4 ≤ decimal.point ∧ decimal.point ≤ 16 then positional ['.', '0'] decimal
        else scientific decimal
    String.ofList (if s then '-' :: body else body)
  | .infinite _ | .nan => "null"

end Binary64

end FeatureFlags
