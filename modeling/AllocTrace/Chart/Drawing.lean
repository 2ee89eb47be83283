import AllocTrace.Chart.Axis
import AllocTrace.Chart.Layout
import AllocTrace.Summary
import AllocTrace.Text.Shortest

/-! A chart of a series as a drawing in pixels: stacked panels, one per metric, each with a bar for
every point over a logarithmic axis. Bars and ticks are placed by the same two axes, so equal
values stand at equal pixels.
-/

namespace AllocTrace

/-- A series to be drawn for a layout. -/
structure Chart where
  schema : Schema
  points : List SeriesPoint
deriving DecidableEq

namespace Chart

def ofSummary {s : Schema} (summary : Summary s) : Chart :=
  { schema := summary.schema, points := summary.series }

/-- The measures of the image and how many categories may carry a label. -/
structure Frame where
  width : Nat
  height : Nat
  maxTickLabels : Nat
deriving DecidableEq

/-- The distance of labelled categories that `maxLabels` suggests. -/
def tickInterval (points maxLabels : Nat) : Nat :=
  max 1 (points / max 1 maxLabels)

/-- How many labels to ask for, at least one. -/
def labelCount (points maxLabels : Nat) : Nat :=
  max 1 (steps points (tickInterval points maxLabels))

/-- A metric: its name and its value at each point. -/
structure Panel where
  label : String
  values : List Amount
deriving DecidableEq

def title : Schema → String
  | .stride => "STRIDE PRESSURE BY PHASE"
  | .proxy => "RAW / STRIDE TRACE BY PHASE"

def sizeLabel : Schema → String
  | .stride => "STRIDE SIZE (BYTES)"
  | .proxy => "RAW SIZE (BYTES)"

def bytePanels (chart : Chart) : List Panel :=
  match chart.schema with
  | .stride => [{ label := "RAW BYTES", values := chart.points.map (·.rawBytes) }]
  | .proxy =>
    [
      { label := "RAW TOTAL BYTES", values := chart.points.map (·.rawBytes) },
      {
        label := "STRIDE TOTAL BYTES"
        values := chart.points.map fun point => point.strideBytes.getD 0
      }
    ]

/-- The metrics from top to bottom. -/
def panels (chart : Chart) : List Panel :=
  [{ label := "ALLOCATION COUNT", values := chart.points.map (·.count) }]
    ++ chart.bytePanels
    ++ [{ label := "PEAK MEMORY PRESSURE", values := chart.points.map (·.peak) }]

/-- Text at a pixel. -/
structure Label where
  x : Int32
  y : Int32
  text : String
deriving DecidableEq

/-- A rectangle by its upper left pixel and its extent. -/
structure Bar where
  x : Int32
  y : Int32
  width : Int32
  height : Int32
deriving DecidableEq

/-- The rectangle that two opposite corners span. -/
def Bar.ofCorners (x₁ y₁ x₂ y₂ : Int32) : Bar :=
  {
    x := min x₁ x₂
    y := min y₁ y₂
    width := max x₁ x₂ - min x₁ x₂
    height := max y₁ y₂ - min y₁ y₂
  }

/-- The labels of an axis: the ticks and the name, if the axis has one. -/
structure AxisLabels where
  ticks : List Label
  name : Option Label
deriving DecidableEq

/-- One panel as drawn. Only a panel with little room has labels of its axis above the area. -/
structure PanelDrawing where
  label : Option Label
  lightLines : List Int32
  boldLines : List Int32
  gridLeft : Int32
  gridRight : Int32
  yTicks : List Label
  above : AxisLabels
  below : AxisLabels
  bars : List Bar
deriving DecidableEq

/-- A chart as drawn. -/
structure Drawing where
  width : Nat
  height : Nat
  title : Label
  panels : List PanelDrawing
deriving DecidableEq

/-- A value with the sign and zero taken off, since a logarithmic axis starts at one. -/
def magnitude (value : Amount) : Float :=
  Float.ofInt (max value.val 1)

/-- The axis of a metric ends at twice its greatest value. -/
def valueAxis (plot : Region) (values : List Amount) : LogAxis :=
  {
    limit := magnitude (values.foldl max 0) * 2.0
    first := plot.bottom - 1
    last := plot.top
  }

/-- Every point takes one unit; without points the axis still has one. -/
def pointAxis (plot : Region) (count : Nat) : LinearAxis :=
  { limit := max count 1, first := plot.left, last := plot.right - 1 }

/-- The bar of one point stands between its position and the next, from one up to its value, and
keeps to the plotting area.
-/
def bar (plot : Region) (x : LinearAxis) (y : LogAxis) (value : Amount) (position : Nat) : Bar :=
  .ofCorners (plot.clampX (x.pixel position)) (plot.clampY (y.pixel (magnitude 0)))
    (plot.clampX (x.pixel (position + 1))) (plot.clampY (y.pixel (magnitude value)))

/-- The text of a tick: positional below 10^16, a power of ten from there on. -/
def tickText (value : Float) : String :=
  let binary := Text.Binary.ofFloat value
  String.ofList
    (if value < 1e16 then binary.positional else binary.shortest.normal.scientific)

/-- How far labels stand from the area: a twentieth of its shorter side, up to five, doubled. -/
def labelGap (plot : Region) : Int32 :=
  2 * min 5 ((min plot.width plot.height).toFloat * 0.05).round.toInt32

/-- The width of text in labels as far as it is known beforehand: seven tenths of the height of
its letters for each byte.
-/
def textWidth (text : String) : Nat :=
  (11.0 / 1.24 / 1.24 * 0.7 * Float.ofNat text.utf8ByteSize).round.toUInt64.toNat

/-- The width to which texts are aligned on the right: the greatest one that is less than twice
the least.
-/
def alignedWidth (texts : List String) : Nat :=
  let widths := texts.map textWidth
  let least := max 1 (widths.min?.getD 1)
  ((widths.filter (· < 2 * least)).max?).getD least

/-- Labels of values to the left of an area. -/
def ticksLeft (plot : Region) (gap : Int32) (ticks : List (Int32 × String)) : List Label :=
  ticks.map fun (y, text) => { x := plot.left - gap, y := y, text := text }

/-- Labels of values to the right of an area. Those that are narrower than the aligned width end
there, the others start at the area.
-/
def ticksRight (plot : Region) (gap : Int32) (ticks : List (Int32 × String)) : List Label :=
  let aligned := alignedWidth (ticks.map Prod.snd)
  ticks.map fun (y, text) =>
    let shift := if aligned ≤ textWidth text then 0 else Int32.ofNat aligned
    { x := plot.right + gap + shift, y := y, text := text }

/-- Labels of an axis in a region, if it has room for them: ticks and the name at given heights. -/
def axisLabels (region : Region) (tickY nameY : Int32) (ticks : List (Int32 × String))
    (name : Option String) : AxisLabels :=
  match region.occupied? with
  | none => { ticks := [], name := none }
  | some region =>
    {
      ticks := ticks.map fun (x, text) => { x := x, y := tickY, text := text }
      name := name.map fun text =>
        { x := middle region.left region.right, y := nameY, text := text }
    }

/-- The name of a metric stands at the outer edge of the labels, rather on the right. -/
def sideLabel? (parts : Parts) (text : String) : Option Label :=
  let y := middle parts.plot.top parts.plot.bottom
  match parts.rightSide.occupied?, parts.leftSide.occupied? with
  | some right, _ => some { x := right.right, y := y, text := text }
  | none, some left => some { x := left.left, y := y, text := text }
  | none, none => none

/-- The size of the point at a position of the axis, nothing past the last point. -/
def sizeAt (points : List SeriesPoint) (position : Nat) : String :=
  (points[position]?.map fun point => point.size.text).getD ""

/-- The panel at an index of so many. Only the last shows sizes below its axis. -/
def drawPanel (chart : Chart) (frame : Frame) (count index : Nat) (panel : Panel)
    : PanelDrawing :=
  let parts := Parts.ofPanel frame.width frame.height count index
  let plot := parts.plot
  let isLast : Bool := index + 1 = count
  let x := pointAxis plot chart.points.length
  let y := valueAxis plot panel.values
  let gap := labelGap plot
  let xCount := if isLast then labelCount chart.points.length frame.maxTickLabels else 1
  let values := (y.ticks 11).map fun value => (y.pixel value, tickText value)
  let sizes := (x.ticks xCount).map fun position =>
    (x.pixel position, if isLast then sizeAt chart.points position else "")
  let name := if isLast then some (sizeLabel chart.schema) else none
  {
    label := sideLabel? parts panel.label
    lightLines := (y.ticks 110).map y.pixel
    boldLines := values.map Prod.fst
    gridLeft := plot.left
    gridRight := plot.right - 1
    yTicks :=
      (parts.leftSide.occupied?.elim [] fun _ => ticksLeft plot gap values)
        ++ (parts.rightSide.occupied?.elim [] fun _ => ticksRight plot gap values)
    above := axisLabels parts.above (plot.top - gap) parts.above.top sizes name
    below := axisLabels parts.below (plot.bottom + gap) parts.below.bottom sizes name
    bars := panel.values.mapIdx fun position value => bar plot x y value position
  }

/-- The chart in a frame. -/
def draw (chart : Chart) (frame : Frame) : Drawing :=
  {
    width := frame.width
    height := frame.height
    title := { x := Int32.ofNat frame.width / 2, y := 5, text := title chart.schema }
    panels := chart.panels.mapIdx (chart.drawPanel frame chart.panels.length)
  }

end Chart

end AllocTrace
