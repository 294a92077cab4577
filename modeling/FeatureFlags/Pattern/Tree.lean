import FeatureFlags.Pattern.CharSet
import FeatureFlags.Pattern.Places

namespace FeatureFlags.Pattern

/-- What a place is asked about a word that begins or ends there. -/
inductive WordEdge where
  | boundary
  | inside
  | start
  | finish
  | startHalf
  | finishHalf
  deriving DecidableEq

/-- A condition on a place. -/
inductive Look where
  | textStart
  | textEnd
  | lineStart
  | lineEnd
  /-- Lines that end with a carriage return, a line feed, or both in this order. -/
  | anyLineStart
  | anyLineEnd
  /-- Words consist of ASCII letters, digits and low lines, or of all word characters. -/
  | word (edge : WordEdge) (ascii : Bool)
  deriving DecidableEq

namespace Look

/-- Whether the condition holds between two characters; at an end of the text there is none. -/
def holds (look : Look) (before after : Option Char) : Bool :=
  match look with
  | .textStart => before.isNone
  | .textEnd => after.isNone
  | .lineStart => before.isNone || before = some '\n'
  | .lineEnd => after.isNone || after = some '\n'
  | .anyLineStart => before.isNone || before = some '\n' || (before = some '\r' && after ≠ some '\n')
  | .anyLineEnd => after.isNone || after = some '\r' || (after = some '\n' && before ≠ some '\r')
  | .word edge ascii =>
    let isWord (c : Option Char) :=
      c.any fun c => if ascii then CharSet.asciiWord.contains c else Property.isWord c
    let left := isWord before
    let right := isWord after
    match edge with
    | .boundary => left != right
    | .inside => left == right
    | .start => !left && right
    | .finish => left && !right
    | .startHalf => !left
    | .finishHalf => !right

end Look

/-- The structure of a pattern. Whether a repetition prefers few or many rounds decides only which
of several matches comes first, so it is not kept. -/
inductive Tree where
  | empty
  /-- A change of the flags for what follows in its group; it matches nothing by itself. -/
  | setting
  /-- One character of a set, which takes `nesting` levels of brackets to write. -/
  | set (s : CharSet) (nesting : Nat)
  | look (l : Look)
  | cat (items : List Tree)
  | alt (branches : List Tree)
  /-- Parentheses; what capturing ones match is never asked for, but names must differ. -/
  | group (captures : Bool) (name : Option String) (inner : Tree)
  | repeated (inner : Tree) (min : Nat) (max : Option Nat)

namespace Tree

/-- Items in a row. -/
def ofItems : List Tree → Tree
  | [] => .empty
  | [t] => t
  | ts => .cat ts

/-- Alternatives; a single one stands for itself. -/
def ofBranches : List Tree → Tree
  | [t] => t
  | ts => .alt ts

mutual

/-- The places of a text to which matches of the tree lead that begin at one of some places. -/
def ends (text : List Char) : Tree → Places → Places
  | .empty, places | .setting, places => places
  | .set s _, places => (Places.keep (fun _ after => after.any s.contains) none text places).next
  | .look l, places => Places.keep l.holds none text places
  | .cat items, places => endsInTurn text items places
  | .alt branches, places => endsOfAny text branches places
  | .group _ _ inner, places => ends text inner places
  | .repeated inner min max, places =>
    let first := Places.times (ends text inner) min places
    let more := max.elim (text.length + 1) (· - min)
    Places.upTo (ends text inner) more first first

/-- The places to which matches of the items lead, one item after the other. -/
def endsInTurn (text : List Char) : List Tree → Places → Places
  | [], places => places
  | t :: rest, places => endsInTurn text rest (ends text t places)

/-- The places to which a match of some alternative leads. -/
def endsOfAny (text : List Char) : List Tree → Places → Places
  | [], _ => 0
  | t :: rest, places => ends text t places ||| endsOfAny text rest places

end

/-- Whether the tree matches somewhere in a text. -/
def matchesIn (t : Tree) (text : List Char) : Bool := ends text t (Places.all text) ≠ 0

mutual

/-- How deep groups, repetitions, rows, alternatives and brackets are nested. -/
def nesting : Tree → Nat
  | .empty | .setting | .look _ => 0
  | .set _ n => n
  | .cat items => nestingOfAll items + 1
  | .alt branches => nestingOfAll branches + 1
  | .group _ _ inner => nesting inner + 1
  | .repeated inner _ _ => nesting inner + 1

def nestingOfAll : List Tree → Nat
  | [] => 0
  | t :: rest => max (nesting t) (nestingOfAll rest)

end

mutual

/-- The names of the groups. -/
def names : Tree → List String
  | .empty | .setting | .look _ | .set _ _ => []
  | .cat items => namesOfAll items
  | .alt branches => namesOfAll branches
  | .group _ name inner => name.toList ++ names inner
  | .repeated inner _ _ => names inner

def namesOfAll : List Tree → List String
  | [] => []
  | t :: rest => names t ++ namesOfAll rest

end

mutual

/-- Whether the tree matches nothing but empty texts. -/
def isWidthless : Tree → Bool
  | .empty | .setting | .look _ => true
  | .set _ _ => false
  | .cat items => areWidthless items
  | .alt branches => areWidthless branches
  | .group _ _ inner => isWidthless inner
  | .repeated inner _ max => isWidthless inner || max = some 0

def areWidthless : List Tree → Bool
  | [] => true
  | t :: rest => isWidthless t && areWidthless rest

end

/-- Room in bytes of one state. -/
def stateRoom : Nat := 32

mutual

/-- Room in bytes of the automaton. A repetition holds a copy for each round that it counts; of
something without width one round is as good as many. -/
def room : Tree → Nat
  | .empty | .look _ => stateRoom
  | .setting => 0
  | .set (.range first last) _ =>
    if first = last then stateRoom * first.utf8Size else stateRoom + (CharSet.range first last).room
  | .set s _ => stateRoom + s.room
  | .cat items => max stateRoom (roomOfAll items)
  | .alt branches => roomOfAll branches + 4 * branches.length + 2 * stateRoom
  | .group captures _ inner => room inner + if captures then 2 * stateRoom else 0
  | .repeated inner min max =>
    let widthless := isWidthless inner
    let bound (n : Nat) := if widthless then Nat.min n 1 else n
    let copy := room inner
    match max with
    | none => Nat.max 1 (bound min) * copy + 40
    | some n => bound min * copy + stateRoom + (bound n - bound min) * (copy + 40)

def roomOfAll : List Tree → Nat
  | [] => 0
  | t :: rest => room t + roomOfAll rest

end

end Tree

end FeatureFlags.Pattern
