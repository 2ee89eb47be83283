import AllocTrace.Text.Decimal
import AllocTrace.Text.Shortest

/-! Decimal numbers with a point or a power of ten, and the floating-point numbers nearest to
them.
-/

namespace AllocTrace.Text

/-- A decimal number in parts: digits before and after the point, and the power of ten. -/
structure Fraction where
  digits : List Char
  places : Nat
  power : Int
deriving DecidableEq

/-- A power of ten after its mark, with an optional sign. -/
def power? : List Char → Option Int
  | [] => some 0
  | c :: cs => if c == 'e' || c == 'E' then integer? cs else none

/-- Digits with an optional point among them, at least one digit, and an optional power. -/
def fraction? (cs : List Char) : Option Fraction :=
  let whole := cs.takeWhile Char.isDigit
  let (places, rest) :=
    match cs.dropWhile Char.isDigit with
    | '.' :: rest => (rest.takeWhile Char.isDigit, rest.dropWhile Char.isDigit)
    | rest => ([], rest)
  if whole.isEmpty && places.isEmpty then none
  else
    (power? rest).map fun power =>
      { digits := whole ++ places, places := places.length, power := power }

/-- The nearest floating-point number, if it is finite. Powers far past the range are not
computed.
-/
def Fraction.binary? (f : Fraction) : Option Binary :=
  let zero : Binary := { mantissa := 0, exponent := 0, narrowBelow := false }
  let n := Nat.ofDigitChars 10 f.digits 0
  let power := f.power - f.places
  let leading := power + (Nat.toDigits 10 n).length
  if n = 0 ∨ leading < -330 then some zero
  else if 310 < leading then none
  else Binary.nearest? (raised n 10 power) (raised 1 10 (-power))

end AllocTrace.Text
