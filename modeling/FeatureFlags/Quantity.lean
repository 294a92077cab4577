import FeatureFlags.Binary64.Basic

namespace FeatureFlags

/-- A number system in which weights and shares of traffic are reckoned. Settings are read in
double precision; the rationals reckon the same shares without rounding. -/
class Quantity (ω : Type) extends Add ω, Mul ω, Div ω where
  ofNat : Nat → ω
  /-- At most; nothing that is not a number is at most anything. -/
  le : ω → ω → Bool
  /-- The whole part, from 0 to the bound. -/
  floorUpTo : Nat → ω → Nat
  /-- The least natural number that is large enough, cut off at the bound. -/
  ceilUpTo : Nat → ω → Nat
  /-- The nearest double, for reports. -/
  toBinary64 : ω → Binary64

instance : Quantity Binary64 where
  ofNat := Binary64.ofNat
  le := Binary64.le
  floorUpTo := Binary64.floorUpTo
  ceilUpTo := Binary64.ceilUpTo
  toBinary64 := id

instance : Quantity Rat where
  ofNat n := (n : Rat)
  le p q := decide (p ≤ q)
  floorUpTo bound q := min bound q.floor.toNat
  ceilUpTo bound q := min bound q.ceil.toNat
  toBinary64 := Binary64.round false

namespace Quantity

variable {ω : Type} [Quantity ω]

/-- Neither above nor below zero. -/
def isZero (x : ω) : Bool := le x (ofNat 0) && le (ofNat 0) x

def sum (xs : List ω) : ω := xs.foldl (· + ·) (ofNat 0)

end Quantity

end FeatureFlags
