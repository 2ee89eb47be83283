/-! Sets of code points as ranges, ascending and disjoint. -/

namespace AllocTrace.Text

/-- The code point lies in one of the ranges, each given by its first and last code point. -/
def inRanges (ranges : List (Nat × Nat)) (n : Nat) : Bool :=
  match ranges.dropWhile (fun range => range.2 < n) with
  | [] => false
  | range :: _ => range.1 ≤ n

end AllocTrace.Text
