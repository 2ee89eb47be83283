/-! Positions in a YAML text and the characters that end a word or a line. -/

namespace AllocTrace.Yaml

/-- A position in a text, counted from zero: the bytes before it in UTF-8, the line, and the
characters before it on the line.
-/
structure Mark where
  index : Nat
  line : Nat
  column : Nat
deriving DecidableEq

def Mark.start : Mark :=
  { index := 0, line := 0, column := 0 }

/-- The position after these characters of the line. -/
def Mark.forward (mark : Mark) (cs : List Char) : Mark :=
  {
    mark with
    index := cs.foldl (fun index c => index + c.utf8Size) mark.index
    column := mark.column + cs.length
  }

/-- The first position of the next line, after a break of so many bytes. -/
def Mark.down (mark : Mark) (bytes : Nat) : Mark :=
  { index := mark.index + bytes, line := mark.line + 1, column := 0 }

/-- The position where a text ends counts as the start of a new line. -/
def Mark.ended (mark : Mark) : Mark :=
  if mark.column = 0 then mark else mark.down 0

def isBlank (c : Char) : Bool :=
  c == ' ' || c == '\t'

/-- Carriage return, line feed, next line, line separator and paragraph separator. -/
def isBreak (c : Char) : Bool :=
  c == '\n' || c == '\r' || c == '\u0085' || c == '\u2028' || c == '\u2029'

/-- A character of names: an ASCII letter or digit, a hyphen or an underscore. -/
def isWordChar (c : Char) : Bool :=
  c.isAlphanum || c == '-' || c == '_'

/-- The character may occur in a YAML text. -/
def isAllowed (c : Char) : Bool :=
  let n := c.toNat
  n == 0x9 || n == 0xa || n == 0xd || (0x20 ≤ n && n ≤ 0x7e) || n == 0x85
    || (0xa0 ≤ n && n ≤ 0xfffd) || 0x10000 ≤ n

/-- The text still to be read and the position of its first character. -/
structure Cursor where
  rest : List Char
  mark : Mark
deriving DecidableEq

namespace Cursor

def ofText (text : List Char) : Cursor :=
  { rest := text, mark := .start }

/-- The character so many places ahead. -/
def ahead (cursor : Cursor) (n : Nat) : Option Char :=
  cursor.rest[n]?

/-- The text goes on with these characters. -/
def sees (cursor : Cursor) (cs : List Char) : Bool :=
  cs.isPrefixOf cursor.rest

/-- A line break or the end stands here. -/
def seesBreakOrEnd (cursor : Cursor) : Bool :=
  (cursor.ahead 0).all isBreak

/-- A blank, a line break or the end stands so many places ahead. -/
def seesGap (cursor : Cursor) (n : Nat) : Bool :=
  (cursor.ahead n).all fun c => isBlank c || isBreak c

/-- Past so many characters of the line. -/
def skip (cursor : Cursor) (n : Nat) : Cursor :=
  { rest := cursor.rest.drop n, mark := cursor.mark.forward (cursor.rest.take n) }

/-- The characters of the line up to the first that does not qualify, and the cursor there. -/
def span (cursor : Cursor) (p : Char → Bool) : List Char × Cursor :=
  let taken := cursor.rest.takeWhile p
  (taken, cursor.skip taken.length)

def skipWhile (cursor : Cursor) (p : Char → Bool) : Cursor :=
  (cursor.span p).2

/-- The line break ahead as content, and the cursor on the next line. The two separators are
kept; every other break reads as a line feed.
-/
def lineBreak? (cursor : Cursor) : Option (Char × Cursor) :=
  match cursor.rest with
  | '\r' :: '\n' :: rest => some ('\n', { rest := rest, mark := cursor.mark.down 2 })
  | c :: rest =>
    if isBreak c then
      let content := if c == '\u2028' || c == '\u2029' then c else '\n'
      some (content, { rest := rest, mark := cursor.mark.down c.utf8Size })
    else none
  | [] => none

/-- Past blanks and a comment to the end of the line, if nothing else stands on it. -/
def restOfLine? (cursor : Cursor) : Option Cursor :=
  let cursor := cursor.skipWhile isBlank
  let cursor := if cursor.sees ['#'] then cursor.skipWhile fun c => !isBreak c else cursor
  if cursor.seesBreakOrEnd then
    some ((cursor.lineBreak?.map Prod.snd).getD cursor)
  else none

/-- Three of the character at the start of a line, with a gap after them. -/
def seesMarker (cursor : Cursor) (c : Char) : Bool :=
  cursor.mark.column == 0 && cursor.sees [c, c, c] && cursor.seesGap 3

/-- The start of a document or its end is marked here. -/
def seesDocumentMarker (cursor : Cursor) : Bool :=
  cursor.seesMarker '-' || cursor.seesMarker '.'

end Cursor

end AllocTrace.Yaml
