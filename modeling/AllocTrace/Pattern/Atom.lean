import AllocTrace.Pattern.Mode
import AllocTrace.Yaml.Scalar

/-! The smallest parts of a regular expression, how a backslash writes them and which of them a
mode admits. What rests on tables of characters is not supported: ignoring the case of letters
other than those of ASCII, and classes and word boundaries that know them. A pattern also has to
match whole characters, so what would match single bytes of one is refused.
-/

namespace AllocTrace.Pattern

inductive Atom where
  /-- A character, and whether a code of two digits gives it. -/
  | char (c : Char) (asByte : Bool)
  /-- Any character. -/
  | any
  /-- A class that a letter names, or all characters outside it. -/
  | named (negated : Bool)
  /-- An end of the text or of a line. -/
  | position
  | wordBoundary
deriving DecidableEq, Repr

/-- The mode admits the atom outside a class. -/
def Mode.admits (mode : Mode) : Atom → Bool
  | .char c asByte => if mode.unicode then !mode.ignoresCase else !asByte || c.toNat < 0x80
  | .any => mode.unicode
  | .named negated => !mode.unicode && !negated
  | .position => true
  | .wordBoundary => !mode.unicode

/-- The mode admits the atom as a member of a class. -/
def Mode.admitsMember (mode : Mode) : Atom → Bool
  | .char c _ => if mode.unicode then !mode.ignoresCase else c.toNat < 0x80
  | .named negated => !mode.unicode && !negated
  | _ => false

/-- A character that means itself after a backslash. -/
def isEscapable (c : Char) : Bool :=
  c.toNat < 0x80 && !c.isAlphanum && c != '<' && c != '>'

/-- What a letter or an angle bracket after a backslash stands for. -/
def letter? : Char → Option Atom
  | 'a' => some (.char '\x07' false)
  | 'f' => some (.char '\x0c' false)
  | 't' => some (.char '\t' false)
  | 'n' => some (.char '\n' false)
  | 'r' => some (.char '\r' false)
  | 'v' => some (.char '\x0b' false)
  | 'd' => some (.named false)
  | 's' => some (.named false)
  | 'w' => some (.named false)
  | 'D' => some (.named true)
  | 'S' => some (.named true)
  | 'W' => some (.named true)
  | 'A' => some .position
  | 'z' => some .position
  | 'b' => some .wordBoundary
  | 'B' => some .wordBoundary
  | '<' => some .wordBoundary
  | '>' => some .wordBoundary
  | _ => none

/-- The atom that follows a backslash, and what follows it. -/
def escape? (mode : Mode) : List Char → Option (Atom × List Char)
  | [] => none
  | c :: cs =>
    match Yaml.codeLength? c with
    | some length => do
      let (digits, rest) ← mode.take? length cs
      let c ← Yaml.scalarValue? (← Yaml.hexadecimal? digits)
      return (.char c (length == 2), rest)
    | none =>
      if isEscapable c then some (.char c false, cs) else (letter? c).map fun atom => (atom, cs)

/-- The character or escape at the start, and what follows it. -/
def unit? (mode : Mode) : List Char → Option (Atom × List Char)
  | [] => none
  | '\\' :: cs => escape? mode cs
  | c :: cs => some (.char c false, cs)

/-- The atom at the start of a text outside a class, and what follows it. -/
def atom? (mode : Mode) : List Char → Option (Atom × List Char)
  | '.' :: cs => some (.any, cs)
  | '^' :: cs => some (.position, cs)
  | '$' :: cs => some (.position, cs)
  | cs => unit? mode cs

end AllocTrace.Pattern
