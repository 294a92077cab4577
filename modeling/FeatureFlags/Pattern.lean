import FeatureFlags.Pattern.Parser

namespace FeatureFlags

/-- A regular expression that a whole text must match. Two are the same when they are written the
same. -/
structure Pattern where
  source : String
  deriving DecidableEq

namespace Pattern

/-- The source between anchors for both ends of the text. It is put there as text, so a parenthesis
that the source leaves open or closes too much pairs with those around it. -/
def anchored (pattern : Pattern) : List Char :=
  "^(?:".toList ++ pattern.source.toList ++ ")$".toList

/-- The structure of a pattern, if it has one. -/
def tree? (pattern : Pattern) : Option Tree := Tree.ofChars? pattern.anchored

def isValid (pattern : Pattern) : Bool := pattern.tree?.isSome

/-- Whether a text matches; nothing matches what is not valid. -/
def isFullMatch (pattern : Pattern) (candidate : List Char) : Bool :=
  pattern.tree?.any (·.matchesIn candidate)

/-- Characters that mean something to a pattern somewhere; a backslash before one makes it stand
for itself. -/
def metaChars : List Char :=
  ['\\', '.', '+', '*', '?', '(', ')', '|', '[', ']', '\x7b', '\x7d', '^', '$', '#', '&', '-', '~']

/-- The source of a pattern that only the text itself matches. -/
def escaped (cs : List Char) : List Char :=
  cs.flatMap fun c => if metaChars.contains c then ['\\', c] else [c]

end Pattern

end FeatureFlags
