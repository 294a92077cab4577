import FeatureFlags.Text.Pieces

namespace FeatureFlags.Text

/-- Reads something at the front of a text and gives what is left of it, or fails. Who fails has taken
nothing. -/
abbrev Reader (α : Type) := List Char → Option (α × List Char)

namespace Reader

variable {α β : Type}

/-- Exactly this word. -/
def word (text : List Char) : Reader (List Char) := fun cs =>
  (after? text cs).map fun left => (text, left)

/-- All that is left. -/
def rest : Reader (List Char) := fun cs => some (cs, [])

/-- What the first of some readers gives that does not fail; each tries at the same place. -/
def firstOf (readers : List (Reader α)) : Reader α := fun cs => readers.findSome? fun reader => reader cs

/-- One reader after the other, of which the second only has to succeed. -/
def terminated (first : Reader α) (second : Reader β) : Reader α := fun cs => do
  let (a, left) ← first cs
  let (_, left) ← second left
  some (a, left)

/-- Fails also where nothing can be made of what has been read. -/
def verifyMap (reader : Reader α) (f : α → Option β) : Reader β := fun cs => do
  let (a, left) ← reader cs
  let b ← f a
  some (b, left)

def map (reader : Reader α) (f : α → β) : Reader β := reader.verifyMap fun a => some (f a)

/-- Reads a whole text, of which nothing may be left. -/
def whole? (reader : Reader α) (cs : List Char) : Option α :=
  match reader cs with
  | some (a, []) => some a
  | _ => none

end Reader

end FeatureFlags.Text
