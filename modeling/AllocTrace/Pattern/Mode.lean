import AllocTrace.Text.White

/-! The flags under which a part of a regular expression stands, as far as they decide what may be
written there, and the space that they let a reader pass over.
-/

namespace AllocTrace.Pattern

structure Mode where
  ignoresCase : Bool
  unicode : Bool
  spaced : Bool
deriving DecidableEq, Repr

namespace Mode

/-- The mode at the start of a pattern. -/
def default : Mode :=
  { ignoresCase := false, unicode := true, spaced := false }

/-- The mode under more flags: those in front of the minus sign go on, those after it off. -/
def set (mode : Mode) (flags : List Char) : Mode :=
  let on := flags.takeWhile (· != '-')
  let turned (flag : Char) (before : Bool) : Bool :=
    if flags.contains flag then on.contains flag else before
  {
    ignoresCase := turned 'i' mode.ignoresCase
    unicode := turned 'u' mode.unicode
    spaced := turned 'x' mode.spaced
  }

end Mode

/-- The text goes on without the white space and the comments in front of it. A comment starts at
a number sign and ends with its line.
-/
def skipSpace (inComment : Bool) : List Char → List Char
  | [] => []
  | c :: cs =>
    if c == '\n' then skipSpace false cs
    else if inComment || Text.isWhite c then skipSpace inComment cs
    else if c == '#' then skipSpace true cs
    else c :: cs

namespace Mode

/-- The text goes on without what the mode lets a reader pass over. -/
def skip (mode : Mode) (cs : List Char) : List Char :=
  if mode.spaced then skipSpace false cs else cs

/-- The character that tells what a hyphen in front of the text means. Comments do not count as
space here: only one number sign is passed over.
-/
def ahead (mode : Mode) (cs : List Char) : Option Char :=
  if mode.spaced then
    match cs.dropWhile Text.isWhite with
    | '#' :: rest => (rest.dropWhile Text.isWhite).head?
    | rest => rest.head?
  else cs.head?

/-- As many characters, each without the space in front of it, and what follows them. -/
def take? (mode : Mode) : Nat → List Char → Option (List Char × List Char)
  | 0, cs => some ([], cs)
  | n + 1, cs =>
    match mode.skip cs with
    | [] => none
    | c :: rest => (mode.take? n rest).map fun (taken, rest) => (c :: taken, rest)

end Mode

end AllocTrace.Pattern
