namespace FeatureFlags

/-- A double-precision number. The finite one is `mantissa · 2^exponent`, negated when
`negative`; zero keeps its sign, and every number that rounding gives has a mantissa below
`2^53` and the least exponent that allows it. -/
inductive Binary64 where
  | finite (negative : Bool) (mantissa : Nat) (exponent : Int)
  | infinite (negative : Bool)
  | nan
  deriving DecidableEq

namespace Binary64

/-- Exponent of the numbers next to zero. -/
def minExponent : Int := -1074

/-- Exponent of the largest finite numbers. -/
def maxExponent : Int := 971

/-- The least mantissa of full length, which is 53 bits. -/
def fullMantissa : Nat := Nat.pow 2 52

/-- Zero, with its sign. -/
def zero (negative : Bool) : Binary64 := .finite negative 0 minExponent

instance : Inhabited Binary64 := ⟨zero false⟩

/-- The exact value of a finite number. -/
def finiteValue (negative : Bool) (mantissa : Nat) (exponent : Int) : Rat :=
  let magnitude : Rat :=
    if 0 ≤ exponent then (mantissa : Rat) * (Nat.pow 2 exponent.toNat : Rat)
    else (mantissa : Rat) / (Nat.pow 2 (-exponent).toNat : Rat)
  if negative then -magnitude else magnitude

/-- The exact value; infinities and NaN have none. -/
def toRat? : Binary64 → Option Rat
  | .finite s m e => some (finiteValue s m e)
  | .infinite _ | .nan => none

/-- The quotient `n / d` as a whole number; a half goes to the even neighbour. -/
def halfEven (n d : Nat) : Nat :=
  let q := n / d
  let r := n % d
  if 2 * r < d then q
  else if d < 2 * r then q + 1
  else if q % 2 = 0 then q else q + 1

/-- Two numbers whose quotient is `n / d / 2^e`. -/
def scaled (n d : Nat) (e : Int) : Nat × Nat :=
  if 0 ≤ e then (n, d * Nat.pow 2 e.toNat) else (n * Nat.pow 2 (-e).toNat, d)

/-- The exponent at which the whole part of `n / d / 2^e` has 53 bits, or the least exponent
when that is smaller. The bit lengths of `n` and `d` settle it up to one. -/
def roundingExponent (n d : Nat) : Int :=
  let e : Int := (n.log2 : Int) - (d.log2 : Int) - 52
  let (a, b) := scaled n d e
  max minExponent (if a < b * fullMantissa then e - 1 else e)

/-- The number nearest to `n / d`, negated when `negative`; ties go to the even mantissa, and
what would need a larger exponent than there is becomes infinite. -/
def ofQuotient (negative : Bool) (n d : Nat) : Binary64 :=
  if n = 0 then zero negative
  else
    let e := roundingExponent n d
    let (a, b) := scaled n d e
    let m := halfEven a b
    let (m, e) := if m = 2 * fullMantissa then (fullMantissa, e + 1) else (m, e)
    if maxExponent < e then .infinite negative else .finite negative m e

/-- The number nearest to `q`; zero takes the sign `negative`. -/
def round (negative : Bool) (q : Rat) : Binary64 :=
  if q.num = 0 then zero negative else ofQuotient (decide (q.num < 0)) q.num.natAbs q.den

/-- The number nearest to a natural number. -/
def ofNat (n : Nat) : Binary64 := ofQuotient false n 1

instance (n : Nat) : OfNat Binary64 n := ⟨ofNat n⟩

def neg : Binary64 → Binary64
  | .finite s m e => .finite (!s) m e
  | .infinite s => .infinite (!s)
  | .nan => .nan

/-- Sums are rounded once; a sum that is exactly zero is negative only if both summands are. -/
def add : Binary64 → Binary64 → Binary64
  | .finite s m e, .finite t n f => round (s && t) (finiteValue s m e + finiteValue t n f)
  | .infinite s, .infinite t => if s = t then .infinite s else .nan
  | .infinite s, .finite .. => .infinite s
  | .finite .., .infinite t => .infinite t
  | .nan, _ | _, .nan => .nan

/-- Products are rounded once. -/
def mul : Binary64 → Binary64 → Binary64
  | .finite s m e, .finite t n f => round (s != t) (finiteValue s m e * finiteValue t n f)
  | .infinite s, .infinite t => .infinite (s != t)
  | .infinite s, .finite t n _ => if n = 0 then .nan else .infinite (s != t)
  | .finite s m _, .infinite t => if m = 0 then .nan else .infinite (s != t)
  | .nan, _ | _, .nan => .nan

/-- Quotients are rounded once; dividing by zero gives an infinity, except zero by zero. -/
def div : Binary64 → Binary64 → Binary64
  | .finite s m e, .finite t n f =>
    if n = 0 then if m = 0 then .nan else .infinite (s != t)
    else round (s != t) (finiteValue s m e / finiteValue t n f)
  | .infinite _, .infinite _ => .nan
  | .infinite s, .finite t _ _ => .infinite (s != t)
  | .finite s _ _, .infinite t => zero (s != t)
  | .nan, _ | _, .nan => .nan

instance : Neg Binary64 := ⟨neg⟩
instance : Add Binary64 := ⟨add⟩
instance : Mul Binary64 := ⟨mul⟩
instance : Div Binary64 := ⟨div⟩

/-- The order of values: the two zeros are equal, and NaN is comparable with nothing. -/
def le : Binary64 → Binary64 → Bool
  | .nan, _ | _, .nan => false
  | .infinite true, _ | _, .infinite false => true
  | .infinite false, _ | _, .infinite true => false
  | .finite s m e, .finite t n f => decide (finiteValue s m e ≤ finiteValue t n f)

/-- The strict order of values. -/
def lt (x y : Binary64) : Bool := x.le y && !y.le x

/-- The largest natural number that is at most `x` and at most `bound`, or 0 when there is
none. -/
def floorUpTo (bound : Nat) : Binary64 → Nat
  | .finite s m e => min bound (finiteValue s m e).floor.toNat
  | .infinite s => if s then 0 else bound
  | .nan => 0

/-- The least natural number that is at least `x`, cut off at `bound`; 0 for NaN. -/
def ceilUpTo (bound : Nat) : Binary64 → Nat
  | .finite s m e => min bound (finiteValue s m e).ceil.toNat
  | .infinite s => if s then 0 else bound
  | .nan => 0

/-- The integer a finite number is, when it is one. -/
def toInt? : Binary64 → Option Int
  | .finite s m e =>
    let q := finiteValue s m e
    if q.den = 1 then some q.num else none
  | .infinite _ | .nan => none

/-- The 64 bits of the interchange format: sign, 11 bits of exponent, 52 bits of fraction. NaN
has many; the quiet one without payload is given. -/
def toBits : Binary64 → UInt64
  | .finite s m e =>
    let magnitude :=
      if m < fullMantissa then m else (e + 1075).toNat * fullMantissa + (m - fullMantissa)
    sign s ||| magnitude.toUInt64
  | .infinite s => sign s ||| 0x7ff0000000000000
  | .nan => 0x7ff8000000000000
where
  sign (negative : Bool) : UInt64 := if negative then 0x8000000000000000 else 0

end Binary64

end FeatureFlags
