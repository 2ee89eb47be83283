/-! White space as the Unicode property White_Space defines it, and its removal at both ends of
a text.
-/

namespace AllocTrace.Text

/-- The character has the property White_Space. -/
def isWhite (c : Char) : Bool :=
  let n := c.toNat
  (0x9 ≤ n && n ≤ 0xd) || n == 0x20 || n == 0x85 || n == 0xa0 || n == 0x1680
    || (0x2000 ≤ n && n ≤ 0x200a) || n == 0x2028 || n == 0x2029 || n == 0x202f || n == 0x205f
    || n == 0x3000

/-- The characters without the white space at either end. -/
def strip (cs : List Char) : List Char :=
  ((cs.dropWhile isWhite).reverse.dropWhile isWhite).reverse

/-- The text without the white space at either end. -/
def trim (s : String) : String :=
  String.ofList (strip s.toList)

end AllocTrace.Text
