namespace FeatureFlags

/-! MurmurHash3 in its 32-bit form. -/

namespace Murmur3

/-- Moves the bits `k` places up, and those that fall off to the bottom; `k` is from 1 to 31. -/
def rotate (x k : UInt32) : UInt32 := (x <<< k) ||| (x >>> (32 - k))

/-- Bytes as a number, the first byte lowest. -/
def word : List UInt8 → UInt32
  | [] => 0
  | b :: rest => b.toUInt32 ||| (word rest <<< 8)

/-- Spreads the bits of a word before it enters the state. -/
def spread (k : UInt32) : UInt32 := rotate (k * 0xcc9e2d51) 15 * 0x1b873593

/-- Takes a full word into the state. -/
def absorb (h k : UInt32) : UInt32 := rotate (h ^^^ spread k) 13 * 5 + 0xe6546b64

/-- Takes all bytes into the state, four at a time; up to three at the end form a shorter word
that is only mixed in. -/
def absorbAll (h : UInt32) : List UInt8 → UInt32
  | a :: b :: c :: d :: rest => absorbAll (absorb h (word [a, b, c, d])) rest
  | [] => h
  | tail => h ^^^ spread (word tail)

/-- Lets every bit of the state reach every bit of the result. -/
def finish (h : UInt32) : UInt32 :=
  let h := (h ^^^ (h >>> 16)) * 0x85ebca6b
  let h := (h ^^^ (h >>> 13)) * 0xc2b2ae35
  h ^^^ (h >>> 16)

/-- The hash of some bytes; their number counts modulo `2^32`. -/
def hash (seed : UInt32) (bytes : List UInt8) : UInt32 :=
  finish (absorbAll seed bytes ^^^ bytes.length.toUInt32)

end Murmur3

end FeatureFlags
