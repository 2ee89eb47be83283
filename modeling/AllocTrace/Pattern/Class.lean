import AllocTrace.Pattern.Atom

/-! Classes of characters in brackets: members, ranges, classes inside classes, and what two sets
have in common, one has beyond the other or only one of them has.
-/

namespace AllocTrace.Pattern

/-- How deep parts nest that stand side by side: a part alone as deep as it is, more of them one
deeper than the deepest.
-/
def depthOf : List Nat → Nat
  | [] => 0
  | [depth] => depth
  | depths => 1 + depths.foldl max 0

/-- An open bracket: how deep the set in front of its last operator nests, and each member after
that. It is fresh while it holds nothing but the hyphens at its start, which mean themselves.
-/
structure Bracket where
  operand : Option Nat
  members : List Nat
  isFresh : Bool
deriving DecidableEq, Repr

namespace Bracket

def empty : Bracket :=
  { operand := none, members := [], isFresh := true }

def add (bracket : Bracket) (depth : Nat) : Bracket :=
  { bracket with members := depth :: bracket.members, isFresh := false }

def depth (bracket : Bracket) : Nat :=
  match bracket.operand with
  | none => depthOf bracket.members
  | some operand => 1 + max operand (depthOf bracket.members)

/-- An operator, whose first set is all that the bracket holds so far. -/
def operate (bracket : Bracket) : Bracket :=
  { operand := some bracket.depth, members := [], isFresh := false }

/-- The hyphen, or the closing bracket in front of any member, that means itself because the
bracket has only begun, taken from the text.
-/
def literal? (bracket : Bracket) (cs : List Char) : Option (Bracket × List Char) :=
  match bracket.isFresh, bracket.members, cs with
  | true, members, '-' :: rest => some ({ bracket with members := 0 :: members }, rest)
  | true, [], ']' :: rest => some (bracket.add 0, rest)
  | _, _, _ => none

end Bracket

def posixNames : List String :=
  [
    "alnum", "alpha", "ascii", "blank", "cntrl", "digit", "graph", "lower", "print", "punct",
    "space", "upper", "word", "xdigit"
  ]

/-- A class named between colons, from after its opening bracket: whether it is negated, and what
follows it.
-/
def posixClass? : List Char → Option (Bool × List Char)
  | ':' :: cs =>
    let (negated, cs) := match cs with
      | '^' :: rest => (true, rest)
      | cs => (false, cs)
    let name := cs.takeWhile (· != ':')
    match cs.drop name.length with
    | ':' :: ']' :: rest =>
      if String.ofList name ∈ posixNames then some (negated, rest) else none
    | _ => none
  | _ => none

/-- The mode admits a class named between colons. -/
def Mode.admitsPosix (mode : Mode) (negated : Bool) : Bool :=
  if mode.unicode then !mode.ignoresCase else !negated

/-- What follows a caret at the start of a class, if the mode admits one, or all of the text. -/
def afterCaret? (mode : Mode) (cs : List Char) : Option (List Char) :=
  match mode.skip cs with
  | '^' :: rest => if mode.unicode then some rest else none
  | cs => some cs

/-- The atoms are the ends of a range. -/
def isRange : Atom → Atom → Bool
  | .char low _, .char high _ => low ≤ high
  | _, _ => false

/-- What follows the member at the start of a text. A hyphen between two characters makes a range,
which may not be empty.
-/
def afterMember? (mode : Mode) (cs : List Char) : Option (List Char) := do
  let (first, rest) ← unit? mode cs
  guard (mode.admitsMember first)
  let afterFirst := mode.skip rest
  match afterFirst with
  | '-' :: rest =>
    if mode.ahead rest == some ']' || mode.ahead rest == some '-' then return afterFirst
    else
      let (last, rest) ← unit? mode (mode.skip rest)
      guard (mode.admitsMember last && isRange first last)
      return rest
  | _ => return afterFirst

/-- How deep a class nests and what follows it, from inside its innermost open bracket. The other
open brackets follow from the inside out.
-/
def class? (mode : Mode) : Nat → Bracket → List Bracket → List Char → Option (Nat × List Char)
  | 0, _, _, _ => none
  | fuel + 1, inner, outer, cs =>
    let text := mode.skip cs
    match inner.literal? text, text with
    | some (inner, rest), _ =>
      if mode.admitsMember (.char '-' false) then class? mode fuel inner outer rest else none
    | none, [] => none
    | none, '[' :: rest =>
      match posixClass? rest with
      | some (negated, rest) =>
        if mode.admitsPosix negated then class? mode fuel (inner.add 0) outer rest else none
      | none => (afterCaret? mode rest).bind (class? mode fuel .empty (inner :: outer))
    | none, ']' :: rest =>
      match outer with
      | [] => some (1 + inner.depth, rest)
      | next :: outer => class? mode fuel (next.add (1 + inner.depth)) outer rest
    | none, '&' :: '&' :: rest => class? mode fuel inner.operate outer rest
    | none, '-' :: '-' :: rest => class? mode fuel inner.operate outer rest
    | none, '~' :: '~' :: rest => class? mode fuel inner.operate outer rest
    | none, _ => (afterMember? mode text).bind (class? mode fuel (inner.add 0) outer)

end AllocTrace.Pattern
