/-! Where the parts of a chart stand. Coordinates are integers of 32 bits and wrap around, so an
image of any size has a layout.
-/

namespace AllocTrace.Chart

/-- A rectangle of pixels; right and bottom are the first ones outside it. -/
structure Region where
  left : Int32
  right : Int32
  top : Int32
  bottom : Int32
deriving DecidableEq, Repr

/-- The distance of two coordinates, the first of which comes first. -/
def extent (first last : Int32) : UInt32 :=
  (last - first).toUInt32

/-- The middle between two coordinates, the first of which comes first. -/
def middle (first last : Int32) : Int32 :=
  first + (extent first last / 2).toInt32

namespace Region

def width (region : Region) : UInt32 :=
  extent region.left region.right

def height (region : Region) : UInt32 :=
  extent region.top region.bottom

/-- The region, if it has a pixel. -/
def occupied? (region : Region) : Option Region :=
  if region.width = 0 || region.height = 0 then none else some region

/-- The coordinate of the region that is nearest to a horizontal one. -/
def clampX (region : Region) (x : Int32) : Int32 :=
  max (min x region.right) region.left

def clampY (region : Region) (y : Int32) : Int32 :=
  max (min y region.bottom) region.top

end Region

/-- Four coordinates in ascending order, which cut three spans. -/
structure Cuts where
  first : Int32
  second : Int32
  third : Int32
  fourth : Int32
deriving DecidableEq, Repr

def Cuts.ofAny (a b c d : Int32) : Cuts :=
  let inner := max (min a b) (min c d)
  let other := min (max a b) (max c d)
  {
    first := min (min a b) (min c d)
    second := min inner other
    third := max inner other
    fourth := max (max a b) (max c d)
  }

/-- The height that the title takes. -/
def titleHeight : Int32 := 25

/-- The upper edge of a panel, and the lower edge of the one before it: panels share the height
below the title, the first ones taking one pixel more if it does not divide evenly. A height
below zero counts as its complement of 64 bits.
-/
def edge (height count index : Nat) : Int32 :=
  let shared := (Int32.ofNat height - titleHeight).toInt64.toUInt64.toNat
  titleHeight + Int32.ofNat index * Int32.ofNat (shared / count)
    + Int32.ofNat (min index (shared % count))

/-- The margin around a panel. -/
def margin : Int32 := 6

/-- The width for labels beside a panel. -/
def sideWidth : Int32 := 72

/-- The height for labels below a panel, most for the last one. -/
def footHeight (isLast : Bool) : Int32 :=
  if isLast then 40 else 8

/-- The parts of a panel: the plotting area and what is left for labels on each side of it. -/
structure Parts where
  plot : Region
  leftSide : Region
  rightSide : Region
  above : Region
  below : Region
deriving DecidableEq, Repr

/-- The parts that cuts from left to right and from top to bottom make. -/
def Parts.ofCuts (x y : Cuts) : Parts :=
  {
    plot := { left := x.second, right := x.third, top := y.second, bottom := y.third }
    leftSide := { left := x.first, right := x.second, top := y.second, bottom := y.third }
    rightSide := { left := x.third, right := x.fourth, top := y.second, bottom := y.third }
    above := { left := x.second, right := x.third, top := y.first, bottom := y.second }
    below := { left := x.second, right := x.third, top := y.third, bottom := y.fourth }
  }

/-- The parts of the panel at an index of so many. Room is cut off on the left and below; where
there is too little of it, the cut falls outside the panel and labels go to the other side too.
-/
def Parts.ofPanel (width height count index : Nat) : Parts :=
  let left := margin
  let right := Int32.ofNat width - margin
  let top := edge height count index + margin
  let bottom := edge height count (index + 1) - margin
  .ofCuts (.ofAny left right (left + sideWidth) right)
    (.ofAny top bottom top (bottom - footHeight (index + 1 = count)))

end AllocTrace.Chart
