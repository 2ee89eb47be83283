import AllocTrace.Yaml.Cursor

/-! The text of YAML scalars: quoted, plain and block. Line breaks inside quoted and plain scalars
are folded: a single one reads as a space, and of several the first is dropped. No result means
that the text is malformed.
-/

namespace AllocTrace.Yaml

/-- How a scalar is written. -/
inductive Style where
  | plain
  | quoted
  | literal
  | folded
deriving DecidableEq

/-- White space between two words of a scalar: blanks before any line break, the first break,
the breaks after it, and whether the line was broken.
-/
structure Gap where
  blanks : List Char
  first : Option Char
  later : List Char
  broken : Bool
deriving DecidableEq

namespace Gap

def empty : Gap :=
  { blanks := [], first := none, later := [], broken := false }

/-- A line break was escaped, so that nothing stands for it. -/
def escaped : Gap :=
  { empty with broken := true }

/-- What folding leaves of the gap. -/
def folded (gap : Gap) : List Char :=
  if gap.broken then
    match gap.first with
    | some '\n' => if gap.later.isEmpty then [' '] else gap.later
    | some c => c :: gap.later
    | none => gap.later
  else gap.blanks

/-- Reads on to the next word. Within a plain scalar in block context a tab may not stand before
the column `floor` of a new line.
-/
def read (floor : Nat) : Nat → Cursor → Gap → Option (Gap × Cursor)
  | 0, _, _ => none
  | fuel + 1, cursor, gap =>
    match cursor.lineBreak? with
    | some (c, next) =>
      if gap.broken then
        read floor fuel next { gap with later := gap.later ++ [c] }
      else read floor fuel next { gap with blanks := [], first := some c, broken := true }
    | none =>
      match cursor.ahead 0 with
      | none => some (gap, cursor)
      | some c =>
        if !isBlank c then some (gap, cursor)
        else if gap.broken then
          if c == '\t' && cursor.mark.column < floor then none
          else read floor fuel (cursor.skip 1) gap
        else read floor fuel (cursor.skip 1) { gap with blanks := gap.blanks ++ [c] }

end Gap

/-- The value of hexadecimal digits. -/
def hexadecimal? (cs : List Char) : Option Nat :=
  cs.foldlM
    (fun n c =>
      if c.isDigit then some (16 * n + (c.toNat - 0x30))
      else if 'a' ≤ c ∧ c ≤ 'f' then some (16 * n + (c.toNat - 0x57))
      else if 'A' ≤ c ∧ c ≤ 'F' then some (16 * n + (c.toNat - 0x37))
      else none)
    0

/-- The character that a letter after a backslash stands for. -/
def namedEscape? : Char → Option Char
  | '0' => some '\x00'
  | 'a' => some '\x07'
  | 'b' => some '\x08'
  | 't' => some '\t'
  | '\t' => some '\t'
  | 'n' => some '\n'
  | 'v' => some '\x0b'
  | 'f' => some '\x0c'
  | 'r' => some '\r'
  | 'e' => some '\x1b'
  | ' ' => some ' '
  | '\x22' => some '\x22'
  | '/' => some '/'
  | '\\' => some '\\'
  | 'N' => some '\u0085'
  | '_' => some '\u00a0'
  | 'L' => some '\u2028'
  | 'P' => some '\u2029'
  | _ => none

/-- How many hexadecimal digits follow such a letter. -/
def codeLength? : Char → Option Nat
  | 'x' => some 2
  | 'u' => some 4
  | 'U' => some 8
  | _ => none

/-- The character of a code point, if it is one of Unicode's scalar values. -/
def scalarValue? (n : Nat) : Option Char :=
  if n.isValidChar then some (Char.ofNat n) else none

/-- The character that the escape under the cursor stands for, and the cursor after it. -/
def escape? (cursor : Cursor) : Option (Char × Cursor) := do
  let letter ← cursor.ahead 1
  match codeLength? letter with
  | none => return (← namedEscape? letter, cursor.skip 2)
  | some length =>
    let digits := (cursor.rest.drop 2).take length
    if digits.length < length then none
    else return (← scalarValue? (← hexadecimal? digits), cursor.skip (2 + length))

/-- One word of a quoted scalar: its characters, the gap that an escaped line break opens after
it, and the cursor where it ends.
-/
def quotedWord (single : Bool) : Nat → Cursor → List Char → Option (List Char × Gap × Cursor)
  | 0, _, _ => none
  | fuel + 1, cursor, word =>
    match cursor.ahead 0 with
    | none => some (word, .empty, cursor)
    | some c =>
      if isBlank c || isBreak c then some (word, .empty, cursor)
      else if single then
        if cursor.sees ['\x27', '\x27'] then quotedWord single fuel (cursor.skip 2) (word ++ [c])
        else if c == '\x27' then some (word, .empty, cursor)
        else quotedWord single fuel (cursor.skip 1) (word ++ [c])
      else if c == '\x22' then some (word, .empty, cursor)
      else if c == '\\' then
        match (cursor.skip 1).lineBreak? with
        | some (_, next) => some (word, .escaped, next)
        | none =>
          match escape? cursor with
          | some (escaped, next) => quotedWord single fuel next (word ++ [escaped])
          | none => none
      else quotedWord single fuel (cursor.skip 1) (word ++ [c])

/-- The words and gaps of a quoted scalar up to its closing quote, and the cursor after it. -/
def quotedWords (single : Bool) : Nat → Cursor → List Char → Option (List Char × Cursor)
  | 0, _, _ => none
  | fuel + 1, cursor, text =>
    if cursor.seesDocumentMarker || cursor.rest.isEmpty then none
    else
      match quotedWord single (cursor.rest.length + 1) cursor text with
      | none => none
      | some (text, opened, cursor) =>
        if cursor.sees [if single then '\x27' else '\x22'] then some (text, cursor.skip 1)
        else
          match opened.read 0 (cursor.rest.length + 1) cursor with
          | none => none
          | some (gap, cursor) => quotedWords single fuel cursor (text ++ gap.folded)

/-- The scalar whose opening quote is under the cursor, and the cursor after its closing one. -/
def quotedScalar (single : Bool) (cursor : Cursor) : Option (List Char × Cursor) :=
  quotedWords single (cursor.rest.length + 1) (cursor.skip 1) []

def isFlowIndicator (c : Char) : Bool :=
  c == ',' || c == '[' || c == ']' || c == '\x7b' || c == '\x7d'

/-- One word of a plain scalar. A colon ends it before a gap and, in flow context, may not stand
before an indicator.
-/
def plainWord (flow : Bool) : Nat → Cursor → List Char → Option (List Char × Cursor)
  | 0, _, _ => none
  | fuel + 1, cursor, word =>
    match cursor.ahead 0 with
    | none => some (word, cursor)
    | some c =>
      if isBlank c || isBreak c then some (word, cursor)
      else if flow && c == ':' && (cursor.ahead 1).any (fun d => isFlowIndicator d || d == '?')
      then none
      else if (c == ':' && cursor.seesGap 1) || (flow && isFlowIndicator c) then
        some (word, cursor)
      else plainWord flow fuel (cursor.skip 1) (word ++ [c])

/-- The words of a plain scalar after the given text and gap. Also tells whether a line break
follows the last word.
-/
def plainWords (flow : Bool) (floor : Nat)
    : Nat → Cursor → List Char → Gap → Option (List Char × Cursor × Bool)
  | 0, _, _, _ => none
  | fuel + 1, cursor, text, gap =>
    if cursor.seesDocumentMarker || cursor.sees ['#'] then some (text, cursor, gap.broken)
    else
      match plainWord flow (cursor.rest.length + 1) cursor [] with
      | none => none
      | some ([], cursor) => some (text, cursor, gap.broken)
      | some (word, cursor) =>
        let text := text ++ gap.folded ++ word
        if !cursor.seesGap 0 || cursor.rest.isEmpty then some (text, cursor, false)
        else
          match Gap.empty.read floor (cursor.rest.length + 1) cursor with
          | none => none
          | some (gap, cursor) =>
            if !flow && cursor.mark.column < floor then some (text, cursor, gap.broken)
            else plainWords flow floor fuel cursor text gap

/-- The plain scalar under the cursor, the cursor after it and whether a line break follows it.
On a new line in block context it goes on from the column `floor`.
-/
def plainScalar (flow : Bool) (floor : Nat) (cursor : Cursor)
    : Option (List Char × Cursor × Bool) :=
  plainWords flow floor (cursor.rest.length + 1) cursor [] .empty

/-- What becomes of the line breaks at the end of a block scalar. -/
inductive Chomp where
  | strip
  | clip
  | keep
deriving DecidableEq

def chomp? (cursor : Cursor) : Option (Chomp × Cursor) :=
  match cursor.ahead 0 with
  | some '+' => some (.keep, cursor.skip 1)
  | some '-' => some (.strip, cursor.skip 1)
  | _ => none

def indentDigit? (cursor : Cursor) : Option (Nat × Cursor) :=
  match cursor.ahead 0 with
  | some c => if c.isDigit then some (c.toNat - 0x30, cursor.skip 1) else none
  | none => none

/-- The indicators after the one that opens a block scalar, in either order. An indentation of
zero is none at all and may not be written.
-/
def blockHeader (cursor : Cursor) : Option (Chomp × Option Nat × Cursor) :=
  let (chomp, indent, cursor) :=
    match chomp? cursor with
    | some (chomp, cursor) =>
      match indentDigit? cursor with
      | some (n, cursor) => (chomp, some n, cursor)
      | none => (chomp, none, cursor)
    | none =>
      match indentDigit? cursor with
      | some (n, cursor) =>
        match chomp? cursor with
        | some (chomp, cursor) => (chomp, some n, cursor)
        | none => (.clip, some n, cursor)
      | none => (.clip, none, cursor)
  if indent = some 0 then none
  else cursor.restOfLine?.map fun cursor => (chomp, indent, cursor)

/-- Empty lines of a block scalar: the breaks, the greatest column reached and the cursor on the
first line that is not empty. With the indentation not known yet, every space counts to it.
-/
def blockBreaks (indent : Option Nat) (leastIndent : Nat)
    : Nat → Cursor → List Char → Nat → Option (List Char × Nat × Cursor)
  | 0, _, _, _ => none
  | fuel + 1, cursor, breaks, deepest =>
    let spaces := (cursor.rest.takeWhile (· == ' ')).length
    let room := (indent.map fun n => n - cursor.mark.column).getD spaces
    let cursor := cursor.skip (min spaces room)
    let deepest := max deepest cursor.mark.column
    if indent.all (cursor.mark.column < ·) && cursor.sees ['\t'] then none
    else
      match cursor.lineBreak? with
      | some (c, next) => blockBreaks indent leastIndent fuel next (breaks ++ [c]) deepest
      | none => some (breaks, indent.getD (max deepest leastIndent), cursor)

/-- The lines of a block scalar at its indentation. `held` is the break of the line before and
`blankBefore` tells whether that line starts with a blank; folding joins two lines that do not.
-/
def blockLines (folds : Bool) (indent : Nat)
    : Nat → Cursor → List Char → Option Char → List Char → Bool
      → Option (List Char × Option Char × List Char × Cursor)
  | 0, _, _, _, _, _ => none
  | fuel + 1, cursor, text, held, breaks, blankBefore =>
    if cursor.mark.column ≠ indent ∨ cursor.rest.isEmpty then some (text, held, breaks, cursor)
    else
      let blank := (cursor.ahead 0).any isBlank
      let joint :=
        if folds && held == some '\n' && !blankBefore && !blank then
          if breaks.isEmpty then [' '] else []
        else held.toList
      let (line, cursor) := cursor.span fun c => !isBreak c
      let text := text ++ joint ++ breaks ++ line
      let (held, cursor) :=
        match cursor.lineBreak? with
        | some (c, next) => (some c, next)
        | none => (none, cursor)
      match blockBreaks (some indent) indent (cursor.rest.length + 1) cursor [] 0 with
      | none => none
      | some (breaks, _, cursor) => blockLines folds indent fuel cursor text held breaks blank

/-- The block scalar whose opening indicator is under the cursor, inside a block at column
`outer`, which is -1 outside any block.
-/
def blockScalar (folds : Bool) (outer : Int) (cursor : Cursor)
    : Option (List Char × Cursor) := do
  let (chomp, increment, cursor) ← blockHeader (cursor.skip 1)
  let indent := increment.map fun n => (max outer 0).toNat + n
  let least := max 1 (outer + 1).toNat
  let (breaks, indent, cursor) ←
    blockBreaks indent least (cursor.rest.length + 1) cursor [] 0
  let (text, held, breaks, cursor) ←
    blockLines folds indent (cursor.rest.length + 1) cursor [] none breaks false
  match chomp with
  | .strip => return (text, cursor)
  | .clip => return (text ++ held.toList, cursor)
  | .keep => return (text ++ held.toList ++ breaks, cursor)

end AllocTrace.Yaml
