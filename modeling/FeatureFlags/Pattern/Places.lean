namespace FeatureFlags.Pattern

/-- A set of places of a text: bit `i` is set when the place before the character of index `i` is in
the set. The last place is behind all characters. -/
abbrev Places := Nat

namespace Places

/-- All places of a text. -/
def all (text : List Char) : Places := 1 <<< (text.length + 1) - 1

/-- The places at which a condition holds on the characters before and after it. The text is given
from the first place on, with the character `before` it. -/
def keep (holds : Option Char → Option Char → Bool) (before : Option Char) :
    List Char → Places → Places
  | [], places => (places.testBit 0 && holds before none).toNat
  | c :: rest, places =>
    (places.testBit 0 && holds before (some c)).toNat + 2 * keep holds (some c) rest (places / 2)

/-- The places behind the characters that follow a place of the set. -/
def next (places : Places) : Places := 2 * places

/-- The places that exactly `n` steps lead to. When a step changes nothing, no further one does. -/
def times (step : Places → Places) : Nat → Places → Places
  | 0, places => places
  | n + 1, places =>
    let after := step places
    if after = places then places else times step n after

/-- Adds to the places reached all that up to `n` more steps lead to; `fresh` are the places from
which no step has been taken. -/
def upTo (step : Places → Places) : Nat → Places → Places → Places
  | 0, reached, _ => reached
  | n + 1, reached, fresh =>
    let more := reached ||| step fresh
    if more = reached then reached else upTo step n more (more ^^^ reached)

end Places

end FeatureFlags.Pattern
