/-! The fewest decimal digits that read back as the same binary floating-point number. A positive
number is m · 2^q; the reals that round to it form an interval around it whose ends belong to it
if m is even. For one digit, two digits and so on, the two neighbours of the number on that
decimal grid are tried, and the first grid with a hit wins; of two hits, the nearer, and the
greater if both are as near.
-/

namespace AllocTrace.Text

/-- The magnitude `mantissa * 2 ^ exponent` of a floating-point number. -/
structure Binary where
  mantissa : Nat
  exponent : Int
  /-- The number below is half as far away as the number above. -/
  narrowBelow : Bool
deriving DecidableEq

/-- A decimal number `digits * 10 ^ exponent`. -/
structure Decimal where
  digits : Nat
  exponent : Int
deriving DecidableEq

/-- The number times a power of the base; a negative exponent leaves the number as it is. -/
def raised (n base : Nat) (exponent : Int) : Nat :=
  n * Nat.pow base exponent.toNat

namespace Binary

/-- The least mantissa of full precision, 2^52. -/
def leadingBit : Nat := 4503599627370496

/-- The magnitude of a finite number; zero has the mantissa zero. -/
def ofFloat (x : Float) : Binary :=
  let bits : Nat := x.toBits.toNat
  let fraction : Nat := bits % leadingBit
  let biased : Nat := bits / leadingBit % 2048
  if biased = 0 then { mantissa := fraction, exponent := -1074, narrowBelow := false }
  else
    {
      mantissa := fraction + leadingBit
      exponent := (biased : Int) - 1075
      narrowBelow := fraction = 0 ∧ 1 < biased
    }

/-- The quotient rounded to an integer, a half going to the even neighbour. -/
def roundHalfEven (num den : Nat) : Nat :=
  let whole := num / den
  let rest := 2 * (num % den)
  if rest < den ∨ (rest = den ∧ whole % 2 = 0) then whole else whole + 1

/-- The number nearest to a positive quotient, of two the one with the even mantissa. A mantissa
of zero means that zero is nearest; no result, that the quotient is past all finite numbers.
-/
def nearest? (num den : Nat) : Option Binary :=
  let guess : Int := (num.log2 : Int) - den.log2
  let fits := raised den 2 guess ≤ raised num 2 (-guess)
  let exponent := max (-1074) ((if fits then guess else guess - 1) - 52)
  let mantissa := roundHalfEven (raised num 2 (-exponent)) (raised den 2 exponent)
  let (mantissa, exponent) :=
    if mantissa = 2 * leadingBit then (leadingBit, exponent + 1) else (mantissa, exponent)
  if 971 < exponent then none
  else
    some
      {
        mantissa := mantissa
        exponent := exponent
        narrowBelow := mantissa = leadingBit ∧ -1074 < exponent
      }

/-- Numerator and denominator of the number. -/
def ratio (b : Binary) : Nat × Nat :=
  (raised b.mantissa 2 b.exponent, raised 1 2 (-b.exponent))

/-- The exponent of the leading decimal digit. -/
def leading (b : Binary) : Int :=
  let (num, den) := b.ratio
  if den ≤ num then ((Nat.toDigits 10 (num / den)).length : Int) - 1
  else
    let places := (Nat.toDigits 10 (den / num)).length
    if den ≤ raised num 10 (places - 1) then -((places : Int) - 1) else -(places : Int)

/-- The decimal reads back as the number. -/
def accepts (b : Binary) (d : Decimal) : Bool :=
  let (num, den) := b.ratio
  let scaled := raised d.digits 10 d.exponent * den
  let number := raised num 10 (-d.exponent)
  let m := b.mantissa
  let below := if b.narrowBelow then (4 * m - 1, 4 * m) else (2 * m - 1, 2 * m)
  if m % 2 = 0 then
    number * below.1 ≤ scaled * below.2 && scaled * (2 * m) ≤ number * (2 * m + 1)
  else
    number * below.1 < scaled * below.2 && scaled * (2 * m) < number * (2 * m + 1)

/-- The nearer of the two neighbours with so many digits, if it reads back as the number; halfway
between them, the greater is preferred.
-/
def onGrid? (b : Binary) (count : Nat) : Option Decimal :=
  let (num, den) := b.ratio
  let exponent := b.leading - count + 1
  let number := raised num 10 (-exponent)
  let unit := raised den 10 exponent
  let below : Decimal := { digits := number / unit, exponent := exponent }
  let above : Decimal := { digits := number / unit + 1, exponent := exponent }
  let (near, far) := if 2 * (number % unit) < unit then (below, above) else (above, below)
  if b.accepts near then some near else if b.accepts far then some far else none

/-- Seventeen digits tell any two numbers apart, so a grid of at most so many has a hit. -/
def shortest (b : Binary) : Decimal :=
  ((List.range 17).findSome? fun n => b.onGrid? (n + 1)).getD { digits := 0, exponent := 0 }

end Binary

namespace Decimal

/-- Moves zeros at the end of the digits into the exponent, at most `fuel` of them. -/
def stripZeros : Nat → Decimal → Decimal
  | 0, d => d
  | fuel + 1, d =>
    if d.digits ≠ 0 ∧ d.digits % 10 = 0 then
      stripZeros fuel { digits := d.digits / 10, exponent := d.exponent + 1 }
    else d

/-- No zero stands at the end of the digits. -/
def normal (d : Decimal) : Decimal :=
  stripZeros d.digits.log2 d

def zeros (n : Nat) : List Char :=
  List.replicate n '0'

/-- All places written out, at least one of them after the point. -/
def positional (d : Decimal) : List Char :=
  let digits := Nat.toDigits 10 d.digits
  let places := (-d.exponent).toNat
  if places = 0 then digits ++ zeros d.exponent.toNat ++ ['.', '0']
  else
    let padded := zeros (places + 1 - digits.length) ++ digits
    padded.take (padded.length - places) ++ ['.'] ++ padded.drop (padded.length - places)

/-- One digit before the point, the point only if digits follow, and a power of ten. -/
def scientific (d : Decimal) : List Char :=
  let digits := Nat.toDigits 10 d.digits
  let power := d.exponent + digits.length - 1
  digits.take 1 ++ (if digits.length ≤ 1 then [] else '.' :: digits.drop 1)
    ++ ['e'] ++ (if power < 0 then ['-'] else []) ++ Nat.toDigits 10 power.natAbs

end Decimal

/-- The magnitude, all its places written out. -/
def Binary.positional (b : Binary) : List Char :=
  if b.mantissa = 0 then ['0', '.', '0'] else b.shortest.normal.positional

end AllocTrace.Text
