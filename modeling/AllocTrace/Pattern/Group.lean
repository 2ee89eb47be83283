import AllocTrace.Pattern.Class
import AllocTrace.Text.Alphanumeric

/-! Regular expressions that a log filter may give for the value of a field. Only whether a text
is one matters. Counted repetitions cannot be written in a filter, because a closing brace ends
the field.
-/

namespace AllocTrace.Pattern

/-- How a group opens: under flags, with a name, or as nothing but flags for what follows. -/
inductive Opening where
  | group (flags : List Char)
  | named (name : List Char)
  | directive (flags : List Char)
deriving DecidableEq, Repr

def isGroupName : List Char → Bool
  | [] => false
  | c :: cs =>
    (c == '_' || Text.isAlphabetic c)
      && cs.all fun c => Text.isAlphanumeric c || "_.[]".toList.contains c

/-- The name of a group, up to the closing angle bracket. -/
def namedGroup? (cs : List Char) : Option (Opening × List Char) :=
  let name := cs.takeWhile (· != '>')
  match cs.drop name.length with
  | _ :: rest => if isGroupName name then some (.named name, rest) else none
  | [] => none

/-- Flags, each at most once, with at most one minus sign, which a flag has to follow. -/
def areFlags (cs : List Char) : Bool :=
  cs.all ("imsUuRx-".toList.contains ·) && decide cs.Nodup && cs.getLast? != some '-'

/-- What stands after an opening parenthesis, and what follows it. -/
def opening? : List Char → Option (Opening × List Char)
  | '?' :: 'P' :: '<' :: cs => namedGroup? cs
  | '?' :: '<' :: cs => namedGroup? cs
  | '?' :: cs =>
    let flags := cs.takeWhile fun c => c != ':' && c != ')'
    match cs.drop flags.length with
    | ':' :: rest => if areFlags flags then some (.group flags, rest) else none
    | ')' :: rest =>
      if areFlags flags && !flags.isEmpty then some (.directive flags, rest) else none
    | _ => none
  | cs => some (.group [], cs)

/-- An open group, or the pattern around all groups: the mode at its end so far, how deep each
branch but the last nests, and each item of the last. Flags are items that nothing can repeat.
-/
structure Group where
  mode : Mode
  branches : List Nat
  items : List (Option Nat)
deriving DecidableEq, Repr

namespace Group

def empty (mode : Mode) : Group :=
  { mode := mode, branches := [], items := [] }

def add (group : Group) (depth : Nat) : Group :=
  { group with items := some depth :: group.items }

def direct (group : Group) (flags : List Char) : Group :=
  { group with mode := group.mode.set flags, items := none :: group.items }

/-- The last item is repeated, if it can be. -/
def repeat? (group : Group) : Option Group :=
  match group.items with
  | some depth :: items => some { group with items := some (depth + 1) :: items }
  | _ => none

def branchDepth (group : Group) : Nat :=
  depthOf (group.items.map fun item => item.getD 0)

/-- Another branch starts. -/
def branch (group : Group) : Group :=
  { group with branches := group.branchDepth :: group.branches, items := [] }

def depth (group : Group) : Nat :=
  depthOf (group.branchDepth :: group.branches)

end Group

/-- How deep a pattern may nest. -/
def maxDepth : Nat := 250

/-- The text goes on as a pattern from inside its innermost open group. The other open groups
follow from the inside out, then the names of groups so far.
-/
def goesOn : Nat → Group → List Group → List (List Char) → List Char → Bool
  | 0, _, _, _, _ => false
  | fuel + 1, inner, outer, names, cs =>
    let mode := inner.mode
    match mode.skip cs with
    | [] => outer.isEmpty && decide (inner.depth ≤ maxDepth)
    | '(' :: rest =>
      match opening? (mode.skip rest) with
      | none => false
      | some (.directive flags, rest) => goesOn fuel (inner.direct flags) outer names rest
      | some (.group flags, rest) =>
        goesOn fuel (.empty (mode.set flags)) (inner :: outer) names rest
      | some (.named name, rest) =>
        name ∉ names && goesOn fuel (.empty mode) (inner :: outer) (name :: names) rest
    | ')' :: rest =>
      match outer with
      | [] => false
      | next :: outer => goesOn fuel (next.add (1 + inner.depth)) outer names rest
    | '|' :: rest => goesOn fuel inner.branch outer names rest
    | '[' :: rest =>
      match (afterCaret? mode rest).bind (class? mode (rest.length + 1) .empty []) with
      | none => false
      | some (depth, rest) => goesOn fuel (inner.add depth) outer names rest
    | '\x7b' :: _ => false
    | c :: rest =>
      if c == '?' || c == '*' || c == '+' then
        let rest := match rest with
          | '?' :: rest => rest
          | rest => rest
        inner.repeat?.any fun inner => goesOn fuel inner outer names rest
      else
        match atom? mode (c :: rest) with
        | none => false
        | some (atom, rest) => mode.admits atom && goesOn fuel (inner.add 0) outer names rest

/-- The text is a regular expression. -/
def isPattern (cs : List Char) : Bool :=
  goesOn (cs.length + 1) (.empty .default) [] [] cs

end AllocTrace.Pattern
