/-! Chart axes in pixels: where a value stands on a linear or logarithmic axis, and at which values
an axis has ticks.
-/

namespace AllocTrace.Chart

/-- The pixel of a fraction of the way from `first` to `last`, rounded towards `first` with a
thousandth of a pixel to spare.
-/
def pixel (first last : Int32) (fraction : Float) : Int32 :=
  let span := last - first
  let way := span.toFloat * fraction
  if span = 0 then last
  else if 0 < span then first + (way + 0.001).floor.toInt32
  else first + (way - 0.001).ceil.toInt32

/-- A linear axis over the integers from 0 to `limit`. -/
structure LinearAxis where
  limit : Nat
  first : Int32
  last : Int32
deriving DecidableEq

def LinearAxis.pixel (axis : LinearAxis) (position : Nat) : Int32 :=
  Chart.pixel axis.first axis.last (Float.ofNat position / Float.ofNat axis.limit)

/-- The number of steps of a size that cover a length. -/
def steps (length size : Nat) : Nat :=
  (length + size - 1) / size

/-- The tick distance among 1, 2, 5, 10, 20, … that leaves few enough ticks: from each power of
ten on, the first multiple that leaves fewer ticks than asked for is taken.
-/
def tickDistance (length ticks : Nat) : Nat → Nat → Nat
  | 0, size => size
  | fuel + 1, size =>
    if steps length size ≤ ticks then size
    else
      match [2 * size, 5 * size, 10 * size].find? fun next => steps length next < ticks with
      | some next => next
      | none => tickDistance length ticks fuel (10 * size)

/-- The ticks of an axis on which so many are asked for. -/
def LinearAxis.ticks (axis : LinearAxis) (count : Nat) : List Nat :=
  let distance := tickDistance axis.limit count axis.limit 1
  (List.range (axis.limit / distance + 1)).map (· * distance)

/-- A logarithmic axis over the values from 1 to `limit`. -/
structure LogAxis where
  limit : Float
  first : Int32
  last : Int32

namespace LogAxis

def pixel (axis : LogAxis) (value : Float) : Int32 :=
  Chart.pixel axis.first axis.last
    ((value.log - Float.log 1.0) / (axis.limit.log - Float.log 1.0))

/-- The powers of ten that the axis spans, at least one. -/
def decades (axis : LogAxis) : Nat :=
  max 1 (axis.limit.log / Float.log 10.0).floor.toUInt64.toNat

/-- The greatest power of ten up to `n`, for a positive `n`. -/
def powerOfTen (n : Nat) : Nat :=
  Nat.pow 10 ((Nat.toDigits 10 n).length - 1)

/-- How many ticks stand between two main ticks if so many are asked for in all. -/
def density (decades count : Nat) : Nat :=
  if count < decades then 0 else powerOfTen (1 + (count - decades) / decades) - 1

/-- The least `c` for which every `c`-th of the decades can have a main tick. -/
def stride (decades count : Nat) : Nat :=
  ((List.range decades).find? fun c => decades / (c + 1) ≤ count).getD 0 + 1

/-- The ticks from one main tick to before the next, as far as the axis goes. -/
def ticksFrom (axis : LogAxis) (density : Nat) (factor value : Float) : List Float :=
  let between := (List.range density).map fun i =>
    value * (1.0 + factor / Float.ofNat (density + 1) * Float.ofNat (i + 1))
  value :: between.takeWhile (· ≤ axis.limit)

/-- The ticks from a main tick on, for at most `fuel` main ticks. -/
def ticksUpward (axis : LogAxis) (density : Nat) (factor : Float) : Nat → Float → List Float
  | 0, _ => []
  | fuel + 1, value =>
    if value ≤ axis.limit then
      axis.ticksFrom density factor value
        ++ ticksUpward axis density factor fuel (value * factor)
    else []

/-- The ticks of an axis on which so many are asked for. Main ticks stand a factor of ten or more
apart, so there are no more of them than decades and one.
-/
def ticks (axis : LogAxis) (count : Nat) : List Float :=
  let factor := Float.ofNat (Nat.pow 10 (stride axis.decades count))
  axis.ticksUpward (density axis.decades count) factor (axis.decades + 2) 1.0

end LogAxis

end AllocTrace.Chart
