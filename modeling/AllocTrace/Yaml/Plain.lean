import AllocTrace.Text.Fraction
import AllocTrace.Yaml.Scalar

/-! What a plain scalar denotes: nothing, a truth value, an integer, a floating-point number or,
failing these, its own text.
-/

namespace AllocTrace.Yaml.Plain

def isNull (s : String) : Bool :=
  s == "null" || s == "Null" || s == "NULL" || s == "~"

def boolean? (s : String) : Option Bool :=
  if s == "true" || s == "True" || s == "TRUE" then some true
  else if s == "false" || s == "False" || s == "FALSE" then some false
  else none

/-- The value of a digit, letters going on from ten in either case. -/
def digitValue? (c : Char) : Option Nat :=
  if c.isDigit then some (c.toNat - 0x30)
  else if 'a' ≤ c ∧ c ≤ 'z' then some (c.toNat - 0x57)
  else if 'A' ≤ c ∧ c ≤ 'Z' then some (c.toNat - 0x37)
  else none

/-- The value of one or more digits to a base. -/
def digits? (base : Nat) (cs : List Char) : Option Nat :=
  if cs.isEmpty then none
  else
    cs.foldlM
      (fun n c => (digitValue? c).bind fun d => if d < base then some (base * n + d) else none)
      0

/-- The magnitude of digits with their base written before them. -/
def based? : List Char → Option Nat
  | '0' :: 'x' :: cs => digits? 16 cs
  | '0' :: 'o' :: cs => digits? 8 cs
  | '0' :: 'b' :: cs => digits? 2 cs
  | _ => none

/-- Decimal digits with superfluous zeros before them are no number. -/
def hasSpareZero (cs : List Char) : Bool :=
  cs.head? == some '0' && 1 < cs.length && cs.all Char.isDigit

/-- The magnitude of an integer without its sign. -/
def magnitude? (cs : List Char) : Option Nat :=
  (based? cs).or (if hasSpareZero cs then none else digits? 10 cs)

/-- The integer that the text denotes, and whether it has a minus sign. -/
def signed? (s : String) : Option (Bool × Nat) :=
  match s.toList with
  | '+' :: cs => (magnitude? cs).map ((false, ·))
  | '-' :: cs => (magnitude? cs).map ((true, ·))
  | cs => (magnitude? cs).map ((false, ·))

/-- The text is digits with superfluous zeros before them, after an optional sign. -/
def isSpareDigits (s : String) : Bool :=
  match s.toList with
  | '+' :: cs => hasSpareZero cs
  | '-' :: cs => hasSpareZero cs
  | cs => hasSpareZero cs

/-- The integer below a bound that the text denotes without a minus sign. -/
def unsigned? (bound : Nat) (s : String) : Option Nat :=
  (signed? s).bind fun (negative, n) => if negative ∨ bound ≤ n then none else some n

/-- The written form of the floating-point number that the text denotes, which may have
superfluous zeros before it.
-/
def floatText? (s : String) : Option String :=
  if s == ".nan" || s == ".NaN" || s == ".NAN" then some "NaN"
  else
    let (sign, cs) :=
      match s.toList with
      | '+' :: cs => ([], cs)
      | '-' :: cs => (['-'], cs)
      | cs => ([], cs)
    let body := String.ofList cs
    if body == ".inf" || body == ".Inf" || body == ".INF" then
      some (String.ofList (sign ++ "inf".toList))
    else
      ((Text.fraction? cs).bind Text.Fraction.binary?).map fun binary =>
        String.ofList (sign ++ binary.positional)

end AllocTrace.Yaml.Plain
