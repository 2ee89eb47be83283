import AllocTrace.Text.Alphabetic
import AllocTrace.Text.Numeric

/-! Letters and numerals of all scripts. -/

namespace AllocTrace.Text

/-- The character is a letter or a numeral of any script. -/
def isAlphanumeric (c : Char) : Bool :=
  isAlphabetic c || isNumeric c

end AllocTrace.Text
