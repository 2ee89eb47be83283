import AllocTrace.Yaml.Scalar
import AllocTrace.Yaml.Tag

/-! The tokens of a YAML text. Indentation becomes tokens that open and close blocks. Whether a
scalar is a key shows only at the colon after it, so each place that may start a key is kept
until then, and the key token goes in there. No result means that the text is malformed.
-/

namespace AllocTrace.Yaml

inductive TokenKind where
  | streamEnd
  | versionDirective (major minor : Nat)
  | tagDirective (handle : List Char) (lead : Tag)
  | documentStart
  | documentEnd
  | blockSequenceStart
  | blockMappingStart
  | blockEnd
  | flowSequenceStart
  | flowSequenceEnd
  | flowMappingStart
  | flowMappingEnd
  | blockEntry
  | flowEntry
  | key
  | value
  | alias (name : List Char)
  | anchor (name : List Char)
  | tag (handle : List Char) (suffix : Tag)
  | scalar (text : List Char) (style : Style)
deriving DecidableEq

structure Token where
  kind : TokenKind
  first : Mark
  last : Mark
deriving DecidableEq

/-- A place that may turn out to start a key: how many tokens come before it, whether nothing
but a key may stand there, and its position.
-/
structure PossibleKey where
  before : Nat
  required : Bool
  mark : Mark
deriving DecidableEq

/-- Progress through a text: the column of the open block and of those around it, whether a key
may start here, the possible key of this flow level and of those around it, and the tokens so
far.
-/
structure Lexer where
  cursor : Cursor
  indent : Int
  outerIndents : List Int
  keyAllowed : Bool
  possible : Option PossibleKey
  outerKeys : List (Option PossibleKey)
  tokens : List Token
deriving DecidableEq

namespace Lexer

def ofText (text : List Char) : Lexer :=
  {
    cursor := .ofText text
    indent := -1
    outerIndents := []
    keyAllowed := true
    possible := none
    outerKeys := []
    tokens := []
  }

def inFlow (lexer : Lexer) : Bool :=
  !lexer.outerKeys.isEmpty

def column (lexer : Lexer) : Int :=
  lexer.cursor.mark.column

def emit (lexer : Lexer) (kind : TokenKind) (first last : Mark) : Lexer :=
  { lexer with tokens := lexer.tokens ++ [{ kind := kind, first := first, last := last }] }

/-- A token where the cursor stands, without extent. -/
def emitHere (lexer : Lexer) (kind : TokenKind) : Lexer :=
  lexer.emit kind lexer.cursor.mark lexer.cursor.mark

/-- A token of so many characters of the line. -/
def emitNext (lexer : Lexer) (kind : TokenKind) (length : Nat) : Lexer :=
  let next := lexer.cursor.skip length
  { lexer.emit kind lexer.cursor.mark next.mark with cursor := next }

/-- Puts a token in after so many others. -/
def insert (lexer : Lexer) (before : Nat) (kind : TokenKind) (mark : Mark) : Lexer :=
  {
    lexer with
    tokens :=
      lexer.tokens.take before ++ [{ kind := kind, first := mark, last := mark }]
        ++ lexer.tokens.drop before
  }

/-- Past white space, comments and byte-order marks at the start of a line. A tab does not count
as white space where a block may start.
-/
def skipSpace : Nat → Lexer → Lexer
  | 0, lexer => lexer
  | fuel + 1, lexer =>
    let cursor := lexer.cursor
    let cursor :=
      if cursor.mark.column == 0 && cursor.sees ['\ufeff'] then cursor.skip 1 else cursor
    let tabs := lexer.inFlow || !lexer.keyAllowed
    let cursor := cursor.skipWhile fun c => c == ' ' || (tabs && c == '\t')
    let cursor := if cursor.sees ['#'] then cursor.skipWhile fun c => !isBreak c else cursor
    match cursor.lineBreak? with
    | some (_, next) =>
      skipSpace fuel
        { lexer with cursor := next, keyAllowed := lexer.keyAllowed || !lexer.inFlow }
    | none => { lexer with cursor := cursor }

/-- A possible key is off once its line is left or it gets longer than 1024 bytes. -/
def expire? (mark : Mark) : Option PossibleKey → Option (Option PossibleKey)
  | none => some none
  | some key =>
    if key.mark.line < mark.line ∨ key.mark.index + 1024 < mark.index then
      if key.required then none else some none
    else some (some key)

def expireKeys (lexer : Lexer) : Option Lexer := do
  let possible ← expire? lexer.cursor.mark lexer.possible
  let outerKeys ← lexer.outerKeys.mapM (expire? lexer.cursor.mark)
  return { lexer with possible := possible, outerKeys := outerKeys }

/-- Gives up the possible key of this flow level. -/
def dropKey (lexer : Lexer) : Option Lexer :=
  if lexer.possible.any (·.required) then none else some { lexer with possible := none }

/-- Keeps the cursor's place as a possible key, if a key may start here. -/
def keepKey (lexer : Lexer) : Option Lexer :=
  if lexer.keyAllowed then do
    let lexer ← lexer.dropKey
    return {
      lexer with
      possible :=
        some
          {
            before := lexer.tokens.length
            required := !lexer.inFlow && lexer.indent == lexer.column
            mark := lexer.cursor.mark
          }
    }
  else some lexer

/-- Opens a block at a column further right than the open one; `before` tells where its token
goes in if not at the end.
-/
def openBlock (lexer : Lexer) (column : Int) (before : Option Nat) (kind : TokenKind)
    (mark : Mark) : Lexer :=
  if lexer.inFlow || column ≤ lexer.indent then lexer
  else
    let lexer :=
      { lexer with outerIndents := lexer.indent :: lexer.outerIndents, indent := column }
    match before with
    | some before => lexer.insert before kind mark
    | none => lexer.emit kind mark mark

/-- Closes the blocks further right than a column. -/
def closeBlocks (lexer : Lexer) (column : Int) : Lexer :=
  if lexer.inFlow then lexer else close lexer.outerIndents lexer
where
  close : List Int → Lexer → Lexer
    | [], lexer => lexer
    | outer :: rest, lexer =>
      if column < lexer.indent then
        close rest { lexer.emitHere .blockEnd with indent := outer, outerIndents := rest }
      else lexer

def fetchStreamEnd (lexer : Lexer) : Option Lexer := do
  let cursor := { lexer.cursor with mark := lexer.cursor.mark.ended }
  let lexer ← ({ lexer with cursor := cursor }.closeBlocks (-1)).dropKey
  return { lexer with keyAllowed := false }.emitHere .streamEnd

def fetchDocumentMarker (lexer : Lexer) (kind : TokenKind) : Option Lexer := do
  let lexer ← (lexer.closeBlocks (-1)).dropKey
  return { lexer with keyAllowed := false }.emitNext kind 3

def number? (cursor : Cursor) : Option (Nat × Cursor) :=
  let (digits, next) := cursor.span Char.isDigit
  if digits.isEmpty ∨ 9 < digits.length then none
  else some (Nat.ofDigitChars 10 digits 0, next)

/-- A tag handle: an exclamation mark, or a word between two of them. In a directive only these
two forms are allowed; elsewhere the word may also be the start of a longer tag.
-/
def tagHandle? (directive : Bool) (cursor : Cursor) : Option (List Char × Cursor) :=
  if !cursor.sees ['!'] then none
  else
    let (word, next) := (cursor.skip 1).span isWordChar
    if next.sees ['!'] then some ('!' :: word ++ ['!'], next.skip 1)
    else if directive && !word.isEmpty then none
    else some ('!' :: word, next)

def isUriChar (verbatim : Bool) (c : Char) : Bool :=
  isWordChar c || ";/?:@&=+$.!~*\x27()".toList.contains c
    || (verbatim && (c == ',' || c == '[' || c == ']'))

/-- How many octets of UTF-8 the first of them announces. -/
def octetCount? (octet : Nat) : Option Nat :=
  if octet < 0x80 then some 1
  else if octet / 32 = 6 then some 2
  else if octet / 16 = 14 then some 3
  else if octet / 8 = 30 then some 4
  else none

/-- An octet written as a percent sign and two hexadecimal digits. -/
def percentOctet? (cursor : Cursor) : Option (Nat × Cursor) :=
  let digits := (cursor.rest.drop 1).take 2
  if cursor.sees ['%'] ∧ digits.length = 2 then
    (hexadecimal? digits).map fun n => (n, cursor.skip 3)
  else none

/-- So many further octets of one character after those already read. -/
def trailingOctets? : Nat → Tag → Cursor → Option (Tag × Cursor)
  | 0, octets, cursor => some (octets, cursor)
  | count + 1, octets, cursor =>
    match percentOctet? cursor with
    | none => none
    | some (octet, next) =>
      if octet / 64 = 2 then trailingOctets? count (octets ++ [UInt8.ofNat octet]) next else none

/-- The octets of one character, each percent-encoded. Their number and kind have to agree, but
they need not be valid UTF-8.
-/
def percentChar? (cursor : Cursor) : Option (Tag × Cursor) := do
  let (octet, next) ← percentOctet? cursor
  let count ← octetCount? octet
  trailingOctets? (count - 1) [UInt8.ofNat octet] next

def uriOctets (verbatim : Bool) : Nat → Cursor → Tag → Option (Tag × Cursor)
  | 0, _, _ => none
  | fuel + 1, cursor, octets =>
    match cursor.ahead 0 with
    | none => some (octets, cursor)
    | some c =>
      if c == '%' then
        match percentChar? cursor with
        | some (encoded, next) => uriOctets verbatim fuel next (octets ++ encoded)
        | none => none
      else if isUriChar verbatim c then
        uriOctets verbatim fuel (cursor.skip 1) (octets ++ Tag.ofAscii [c])
      else some (octets, cursor)

/-- The rest of a tag after the part already read, which loses its exclamation mark. A tag
needs at least one octet, and the first that is zero ends it.
-/
def tagUri? (verbatim : Bool) (head : List Char) (cursor : Cursor) : Option (Tag × Cursor) := do
  let (octets, next) ←
    uriOctets verbatim (cursor.rest.length + 1) cursor (Tag.ofAscii (head.drop 1))
  if head.isEmpty ∧ octets.isEmpty then none else return (octets.takeWhile (· ≠ 0), next)

def versionDirective? (cursor : Cursor) : Option (TokenKind × Cursor) := do
  let (major, next) ← number? (cursor.skipWhile isBlank)
  if !next.sees ['.'] then none
  else
    let (minor, next) ← number? (next.skip 1)
    return (.versionDirective major minor, next)

def tagDirective? (cursor : Cursor) : Option (TokenKind × Cursor) := do
  let (handle, next) ← tagHandle? true (cursor.skipWhile isBlank)
  if !(next.ahead 0).any isBlank then none
  else
    let (lead, next) ← tagUri? true [] (next.skipWhile isBlank)
    if !next.seesGap 0 then none else return (.tagDirective handle lead, next)

/-- A directive takes its whole line. -/
def fetchDirective (lexer : Lexer) : Option Lexer := do
  let lexer ← (lexer.closeBlocks (-1)).dropKey
  let mark := lexer.cursor.mark
  let (name, next) := (lexer.cursor.skip 1).span isWordChar
  if !next.seesGap 0 then none
  else
    let (kind, next) ←
      if name = "YAML".toList then versionDirective? next
      else if name = "TAG".toList then tagDirective? next
      else none
    let lexer := { lexer with keyAllowed := false }.emit kind mark next.mark
    return { lexer with cursor := ← next.restOfLine? }

def fetchFlowStart (lexer : Lexer) (kind : TokenKind) : Option Lexer := do
  let lexer ← lexer.keepKey
  return {
    lexer with
    outerKeys := lexer.possible :: lexer.outerKeys
    possible := none
    keyAllowed := true
  }.emitNext kind 1

def fetchFlowEnd (lexer : Lexer) (kind : TokenKind) : Option Lexer := do
  let lexer ← lexer.dropKey
  return {
    lexer with
    possible := lexer.outerKeys.headD none
    outerKeys := lexer.outerKeys.drop 1
    keyAllowed := false
  }.emitNext kind 1

def fetchFlowEntry (lexer : Lexer) : Option Lexer := do
  let lexer ← lexer.dropKey
  return { lexer with keyAllowed := true }.emitNext .flowEntry 1

/-- In block context an entry, a key or a value may open a block where keys may start. -/
def openHere (lexer : Lexer) (kind : TokenKind) : Option Lexer :=
  if lexer.inFlow then some lexer
  else if lexer.keyAllowed then
    some (lexer.openBlock lexer.column none kind lexer.cursor.mark)
  else none

def fetchBlockEntry (lexer : Lexer) : Option Lexer := do
  let lexer ← (← lexer.openHere .blockSequenceStart).dropKey
  return { lexer with keyAllowed := true }.emitNext .blockEntry 1

def fetchKey (lexer : Lexer) : Option Lexer := do
  let lexer ← (← lexer.openHere .blockMappingStart).dropKey
  return { lexer with keyAllowed := !lexer.inFlow }.emitNext .key 1

def fetchValue (lexer : Lexer) : Option Lexer := do
  match lexer.possible with
  | some key =>
    let lexer := lexer.insert key.before .key key.mark
    let lexer :=
      lexer.openBlock key.mark.column (some key.before) .blockMappingStart key.mark
    return { lexer with possible := none, keyAllowed := false }.emitNext .value 1
  | none =>
    let lexer ← lexer.openHere .blockMappingStart
    return { lexer with keyAllowed := !lexer.inFlow }.emitNext .value 1

/-- The name of an anchor or alias, with nothing after it but a gap or an indicator. -/
def fetchName (lexer : Lexer) (kind : List Char → TokenKind) : Option Lexer := do
  let lexer ← lexer.keepKey
  let (name, next) := (lexer.cursor.skip 1).span isWordChar
  let ended :=
    next.seesGap 0 || (next.ahead 0).any fun c => "?:,]\x7d%@\x60".toList.contains c
  if name.isEmpty || !ended then none
  else
    return {
      { lexer with keyAllowed := false }.emit (kind name) lexer.cursor.mark next.mark with
      cursor := next
    }

/-- A tag is verbatim in angle brackets, or a handle and the rest; the lone exclamation mark has
no handle.
-/
def tag? (cursor : Cursor) : Option (TokenKind × Cursor) := do
  if cursor.sees ['!', '<'] then
    let (suffix, next) ← tagUri? true [] (cursor.skip 2)
    if next.sees ['>'] then return (.tag [] suffix, next.skip 1) else none
  else
    let (handle, next) ← tagHandle? false cursor
    if 2 ≤ handle.length ∧ handle.getLast? = some '!' then
      let (suffix, next) ← tagUri? false [] next
      return (.tag handle suffix, next)
    else
      let (suffix, next) ← tagUri? false handle next
      return (if suffix.isEmpty then .tag [] .lone else .tag ['!'] suffix, next)

def fetchTag (lexer : Lexer) : Option Lexer := do
  let lexer ← lexer.keepKey
  let (kind, next) ← tag? lexer.cursor
  if next.seesGap 0 || (lexer.inFlow && next.sees [',']) then
    return {
      { lexer with keyAllowed := false }.emit kind lexer.cursor.mark next.mark with
      cursor := next
    }
  else none

def fetchBlockScalar (lexer : Lexer) (folds : Bool) : Option Lexer := do
  let lexer ← lexer.dropKey
  let (text, next) ← blockScalar folds lexer.indent lexer.cursor
  let style := if folds then Style.folded else Style.literal
  return {
    { lexer with keyAllowed := true }.emit (.scalar text style) lexer.cursor.mark next.mark with
    cursor := next
  }

def fetchQuoted (lexer : Lexer) (single : Bool) : Option Lexer := do
  let lexer ← lexer.keepKey
  let (text, next) ← quotedScalar single lexer.cursor
  return {
    { lexer with keyAllowed := false }.emit (.scalar text .quoted) lexer.cursor.mark next.mark with
    cursor := next
  }

/-- After a plain scalar a key may start only on a new line. -/
def fetchPlain (lexer : Lexer) : Option Lexer := do
  let lexer ← lexer.keepKey
  let (text, next, broken) ← plainScalar lexer.inFlow (lexer.indent + 1).toNat lexer.cursor
  return {
    { lexer with keyAllowed := broken }.emit (.scalar text .plain) lexer.cursor.mark next.mark with
    cursor := next
  }

/-- The character may start a plain scalar wherever it stands. -/
def startsPlain (c : Char) : Bool :=
  !("-?:,[]\x7b\x7d#&*!|>\x27\x22%@\x60".toList.contains c) && !isBlank c && !isBreak c

/-- Reads the token that starts with the character under the cursor. -/
def fetchAt (lexer : Lexer) (c : Char) : Option Lexer :=
  let cursor := lexer.cursor
  let indicates := lexer.inFlow || cursor.seesGap 1
  if cursor.mark.column == 0 && c == '%' then lexer.fetchDirective
  else if cursor.seesMarker '-' then lexer.fetchDocumentMarker .documentStart
  else if cursor.seesMarker '.' then lexer.fetchDocumentMarker .documentEnd
  else if c == '[' then lexer.fetchFlowStart .flowSequenceStart
  else if c == '\x7b' then lexer.fetchFlowStart .flowMappingStart
  else if c == ']' then lexer.fetchFlowEnd .flowSequenceEnd
  else if c == '\x7d' then lexer.fetchFlowEnd .flowMappingEnd
  else if c == ',' then lexer.fetchFlowEntry
  else if c == '-' && cursor.seesGap 1 then lexer.fetchBlockEntry
  else if c == '?' && indicates then lexer.fetchKey
  else if c == ':' && indicates then lexer.fetchValue
  else if c == '*' then lexer.fetchName .alias
  else if c == '&' then lexer.fetchName .anchor
  else if c == '!' then lexer.fetchTag
  else if c == '|' && !lexer.inFlow then lexer.fetchBlockScalar false
  else if c == '>' && !lexer.inFlow then lexer.fetchBlockScalar true
  else if c == '\x27' then lexer.fetchQuoted true
  else if c == '\x22' then lexer.fetchQuoted false
  else if startsPlain c || c == '-' || c == '?' || c == ':' then lexer.fetchPlain
  else none

/-- Reads tokens to the end of the stream. -/
def run : Nat → Lexer → Option (List Token)
  | 0, _ => none
  | fuel + 1, lexer => do
    let lexer ← (lexer.skipSpace (lexer.cursor.rest.length + 1)).expireKeys
    let lexer := lexer.closeBlocks lexer.column
    match lexer.cursor.ahead 0 with
    | none => return (← lexer.fetchStreamEnd).tokens
    | some c => run fuel (← lexer.fetchAt c)

end Lexer

/-- The tokens of a text, the last of them the end of the stream. -/
def tokens? (text : List Char) : Option (List Token) :=
  if text.all isAllowed then (Lexer.ofText text).run (text.length + 1) else none

end AllocTrace.Yaml
