import FeatureFlags.Text.Digits
import FeatureFlags.Text.Pieces

namespace FeatureFlags.Text

/-- A set of characters: every `step`-th code point from `first` to `last`, for each item. -/
structure Ranges where
  items : List (Nat × Nat × Nat)

namespace Ranges

/-- One item of a table: `41`, `41-5a`, or `100-12e/2` for every second code point. -/
def item (word : List Char) : Nat × Nat × Nat :=
  let range := word.takeWhile (· ≠ '/')
  let step := (word.dropWhile (· ≠ '/')).drop 1
  let first := ofHexDigits (range.takeWhile (· ≠ '-'))
  let last := (range.dropWhile (· ≠ '-')).drop 1
  (first, if last.isEmpty then first else ofHexDigits last, if step.isEmpty then 1 else ofHexDigits step)

/-- Tables are written as items with blanks or line ends between them. -/
def ofText (text : String) : Ranges :=
  let words := (pieces '\n' text.toList).flatMap (pieces ' ')
  ⟨(words.filter fun word => !word.isEmpty).map item⟩

def contains (ranges : Ranges) (c : Char) : Bool :=
  let n := c.toNat
  ranges.items.any fun (first, last, step) => first ≤ n && n ≤ last && (n - first) % step = 0

end Ranges

end FeatureFlags.Text
