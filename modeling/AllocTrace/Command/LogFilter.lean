import AllocTrace.Pattern.Group
import AllocTrace.Text.Fraction
import AllocTrace.Text.Utf8
import AllocTrace.Text.White

/-! Log filters: directives separated by commas. A directive is a level, or a target, a span in
brackets with fields in braces, or both, and then perhaps an equals sign and a level. White space
around a directive is passed over, but its parts are cut at the offsets that they have without it.
So white space in front spoils the later parts, and a cut may fall inside a character.
-/

namespace AllocTrace.LogFilter

/-- The names of levels in lower case. -/
def levelNames : List (List Char) :=
  [
    "off".toList, "error".toList, "warn".toList, "info".toList, "debug".toList,
    "trace".toList
  ]

/-- The text is the name of a level in any case, or the number of one, up to five. -/
def isLevel (cs : List Char) : Bool :=
  let digits := match cs with
    | '+' :: digits => digits
    | digits => digits
  levelNames.contains (cs.map Char.toLower) || (Text.natural? digits).any (· ≤ 5)

/-- The text is a number with a plus sign. -/
def isPositive (cs : List Char) : Bool :=
  match cs with
  | '+' :: cs =>
    (Text.fraction? cs).isSome
      || ["inf".toList, "infinity".toList, "nan".toList].contains (cs.map Char.toLower)
  | _ => false

/-- The text is a field: a name, and perhaps an equals sign and a value, which is a number or a
regular expression. A second equals sign ends the value.
-/
def isField (cs : List Char) : Bool :=
  !cs.isEmpty
    && match cs.dropWhile (· ≠ '=') with
      | [] => true
      | _ :: rest =>
        let value := rest.takeWhile (· ≠ '=')
        isPositive value || Pattern.isPattern value

/-- How far a directive is read, with the offset where its open part starts. -/
inductive Stage where
  | start
  | levelOrTarget
  | span (first : Nat)
  | field (first : Nat)
  | fields
  | closed
  | level (first : Nat)
deriving DecidableEq

/-- Why a text is no directive. -/
inductive Fault where
  | malformed
  | cutCharacter
deriving DecidableEq, Repr

/-- The offset does not fall inside a character of text in UTF-8. -/
def isBoundary (bytes : List UInt8) (offset : Nat) : Bool :=
  bytes[offset]?.all fun b => b < 0x80 || 0xc0 ≤ b

/-- The part of a text between two offsets in bytes. -/
def part (bytes : List UInt8) (first last : Nat) : Except Fault (List Char) :=
  if isBoundary bytes first && isBoundary bytes last then
    match Text.decode? ((bytes.drop first).take (last - first)) with
    | some part => .ok part.toList
    | none => .error .cutCharacter
  else .error .cutCharacter

/-- The stage that follows if the condition holds. -/
def Stage.only (stage : Stage) (condition : Bool) : Except Fault Stage :=
  if condition then .ok stage else .error .malformed

/-- The stage after one more character, which stands at an offset. A target, a span and a field
are cut out where they end.
-/
def Stage.next (bytes : List UInt8) (stage : Stage) (offset : Nat) (c : Char)
    : Except Fault Stage :=
  match stage with
  | .start =>
    if c == '[' then .ok (.span (offset + 1))
    else Stage.only .levelOrTarget (c == '-' || c == ':' || c == '_' || Text.isAlphanumeric c)
  | .levelOrTarget =>
    if c == '=' then (part bytes 0 offset).map fun _ => .level (offset + 1)
    else if c == '[' then (part bytes 0 offset).map fun _ => .span (offset + 1)
    else .ok .levelOrTarget
  | .span first =>
    if c == ']' then (part bytes first offset).map fun _ => .closed
    else if c == '\x7b' then (part bytes first offset).map fun _ => .field (offset + 1)
    else .ok (.span first)
  | .field first =>
    if c == '\x7d' then do Stage.only .fields (isField (← part bytes first offset))
    else .ok (.field first)
  | .fields => Stage.only .closed (c == ']')
  | .closed => Stage.only (.level (offset + 1)) (c == '=')
  | .level first => .ok (.level first)

/-- The directive may end at the stage. -/
def Stage.finish (bytes : List UInt8) : Stage → Except Fault Unit
  | .levelOrTarget => .ok ()
  | .closed => .ok ()
  | .level first => do
    let level ← part bytes first bytes.length
    if level.isEmpty || isLevel level then .ok () else .error .malformed
  | _ => .error .malformed

/-- The characters with the offsets at which they start in UTF-8, counted from `offset`. -/
def offsets (offset : Nat) : List Char → List (Nat × Char)
  | [] => []
  | c :: cs => (offset, c) :: offsets (offset + c.utf8Size) cs

/-- The text is a directive, or why it is none. -/
def checkDirective (cs : List Char) : Except Fault Unit := do
  let bytes := (String.ofList cs).toUTF8.toList
  let stage ← (offsets 0 (Text.strip cs)).foldlM
    (fun stage (offset, c) => stage.next bytes offset c)
    Stage.start
  stage.finish bytes

/-- The parts of a text between commas. -/
def directives (cs : List Char) : List (List Char) :=
  cs.foldr
    (fun c parts =>
      match parts with
      | part :: rest => if c = ',' then [] :: part :: rest else (c :: part) :: rest
      | [] => [[c]])
    [[]]

/-- The text is a filter, that is, every part that is not empty is a directive, or why it is none:
the first fault counts.
-/
def check (s : String) : Except Fault Unit :=
  (directives s.toList).forM fun part => if part.isEmpty then .ok () else checkDirective part

end AllocTrace.LogFilter
