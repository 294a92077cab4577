import FeatureFlags.Binary64.Basic

namespace FeatureFlags

namespace Binary64

/-- What to do when two decimals of one length are equally near to a number. -/
inductive Tie where
  | up
  | even
  deriving DecidableEq

/-- The decimal `0.d₁d₂… · 10^point`; the digits have no zero at either end. -/
structure Decimal where
  digits : List Char
  point : Int

/-- `n / d · 2^e` as a quotient of natural numbers. -/
def pairAt (n d : Nat) (e : Int) : Nat × Nat :=
  if 0 ≤ e then (n * Nat.pow 2 e.toNat, d) else (n, d * Nat.pow 2 (-e).toNat)

/-- `n / d / 10^k` as a quotient of natural numbers. -/
def shiftTen (n d : Nat) (k : Int) : Nat × Nat :=
  if 0 ≤ k then (n, d * Nat.pow 10 k.toNat) else (n * Nat.pow 10 (-k).toNat, d)

/-- The position `p` of the point: `10^(p-1) ≤ n / d < 10^p`, for a positive quotient. -/
def pointOf (n d : Nat) : Int :=
  if d ≤ n then (Nat.toDigits 10 (n / d)).length
  else
    let inverse := (d + n - 1) / n
    1 - ((Nat.toDigits 10 (inverse - 1)).length : Int)

/-- The quotients that bound the reals which round to `m · 2^e`. The gap below a power of two
is half as wide as the gap above it. -/
def neighbours (m : Nat) (e : Int) : (Nat × Nat) × (Nat × Nat) :=
  let low :=
    if m = fullMantissa ∧ minExponent < e then pairAt (4 * m - 1) 1 (e - 2)
    else pairAt (2 * m - 1) 1 (e - 1)
  (low, pairAt (2 * m + 1) 1 (e - 1))

/-- Whether `c · 10^k` rounds to the number whose bounds are `low` and `high`; the bounds
themselves do exactly when the mantissa is even. -/
def roundsBack (even : Bool) (low high : Nat × Nat) (c : Nat) (k : Int) : Bool :=
  let (ln, ld) := shiftTen low.1 low.2 k
  let (hn, hd) := shiftTen high.1 high.2 k
  if even then decide (ln ≤ c * ld ∧ c * hd ≤ hn) else decide (ln < c * ld ∧ c * hd < hn)

/-- The multiple of `10^k` nearest to `n / d` among those next to it that round back. -/
def onGrid? (tie : Tie) (even : Bool) (low high : Nat × Nat) (n d : Nat) (k : Int) : Option Nat :=
  let (a, b) := shiftTen n d k
  let c := a / b
  let r := a % b
  match roundsBack even low high c k, roundsBack even low high (c + 1) k with
  | false, false => none
  | true, false => some c
  | false, true => some (c + 1)
  | true, true =>
    if 2 * r < b then some c
    else if b < 2 * r then some (c + 1)
    else match tie with
      | .up => some (c + 1)
      | .even => some (if c % 2 = 0 then c else c + 1)

/-- The first of the grids with `count`, `count + 1`, … digits that has a hit. Seventeen digits
always suffice; the fuel counts the grids left. -/
def search (tie : Tie) (even : Bool) (low high : Nat × Nat) (n d : Nat) (p : Int) :
    Nat → Nat → Nat × Int
  | 0, count => ((shiftTen n d (p - count)).1 / (shiftTen n d (p - count)).2, p - count)
  | fuel + 1, count =>
    match onGrid? tie even low high n d (p - count) with
    | some c => (c, p - count)
    | none => search tie even low high n d p fuel (count + 1)

/-- The shortest decimal that reads back as `m · 2^e`, for a positive mantissa: of those of the
least length, the one nearest to the number. -/
def shortest (tie : Tie) (m : Nat) (e : Int) : Decimal :=
  let (n, d) := pairAt m 1 e
  let (low, high) := neighbours m e
  let (c, k) := search tie (m % 2 = 0) low high n d (pointOf n d) 17 1
  let written := Nat.toDigits 10 c
  let digits := (written.reverse.dropWhile (· = '0')).reverse
  ⟨digits, k + written.length⟩

end Binary64

end FeatureFlags
