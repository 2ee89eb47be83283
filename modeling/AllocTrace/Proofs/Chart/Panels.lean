import AllocTrace.Chart.Rendering
import AllocTrace.Proofs.Amount.Totals
import AllocTrace.Proofs.Chart.Layout
import AllocTrace.Proofs.Chart.Ticks
import Mathlib.Data.List.Forall2

/-! What a chart shows. Main statement: a rendered chart has the panels of its layout in order, each
with a bar for every point between the point's position and the next, and sizes stand at their
positions below the last panel only.
-/

namespace AllocTrace.Chart

-----------------------------------------------------------------------------------------
-- Metrics
-----------------------------------------------------------------------------------------

/-- What a panel is about. -/
inductive Metric where
  | count
  | rawBytes
  | strideBytes
  | peak
deriving DecidableEq

namespace Metric

/-- The metrics of a layout from top to bottom. -/
def ofSchema : Schema → List Metric
  | .stride => [.count, .rawBytes, .peak]
  | .proxy => [.count, .rawBytes, .strideBytes, .peak]

def name : Schema → Metric → String
  | _, .count => "ALLOCATION COUNT"
  | .stride, .rawBytes => "RAW BYTES"
  | .proxy, .rawBytes => "RAW TOTAL BYTES"
  | _, .strideBytes => "STRIDE TOTAL BYTES"
  | _, .peak => "PEAK MEMORY PRESSURE"

/-- The figure of a point, if it has one. -/
def figure? : Metric → SeriesPoint → Option Amount
  | .count, point => some point.count
  | .rawBytes, point => some point.rawBytes
  | .strideBytes, point => point.strideBytes
  | .peak, point => some point.peak

/-- A figure that a point does not have counts as zero. -/
def value (metric : Metric) (point : SeriesPoint) : Amount :=
  (metric.figure? point).getD 0

def values (metric : Metric) (points : List SeriesPoint) : List Amount :=
  points.map metric.value

end Metric

theorem panels_eq (chart : Chart)
    : chart.panels
      = (Metric.ofSchema chart.schema).map fun metric =>
          { label := metric.name chart.schema, values := metric.values chart.points } := by
  obtain ⟨schema, points⟩ := chart
  cases schema <;> rfl

-----------------------------------------------------------------------------------------
-- Axes
-----------------------------------------------------------------------------------------

/-- The greatest of the values, but at least one, where their axis starts. -/
def topValue (values : List Amount) : Int :=
  max (Amount.greatest values).val 1

/-- How far the axes for a list of values reach. Positions run from zero to the one behind the last
value, and values from one to twice the greatest, so both ends of every bar are on the axes.
-/
structure AxesReach (plot : Region) (values : List Amount) : Prop where
  lastPosition : (pointAxis plot values.length).limit = max values.length 1
  across : ∀ j < values.length, j + 1 ≤ (pointAxis plot values.length).limit
  lastValue : (valueAxis plot values).limit = Float.ofInt (topValue values) * 2.0
  upward : ∀ value ∈ values, max value.val 1 ≤ topValue values
  attained : 1 < topValue values → ∃ value ∈ values, value.val = topValue values

theorem axes_reach (plot : Region) (values : List Amount)
    : AxesReach plot values where
  lastPosition := rfl
  across j inside := by
    simp only [pointAxis]
    omega
  lastValue := rfl
  upward value member := by
    have below := Amount.le_greatest member
    rw [topValue]
    omega
  attained above := by
    by_contra! missed
    have top : topValue values = (Amount.greatest values).val := by
      rw [topValue] at above ⊢
      omega
    have lower : (Amount.greatest values).val ≤ topValue values - 1 := by
      refine Amount.greatest_le_iff.mpr ⟨by omega, fun value member => ?_⟩
      have below := Amount.le_greatest member
      have other := missed value member
      omega
    omega

-----------------------------------------------------------------------------------------
-- Bars
-----------------------------------------------------------------------------------------

/-- The sides and the ends of the bar are at these pixels. -/
structure Bar.Spans (bar : Bar) (left right base top : Int32) : Prop where
  leftSide : bar.x = min left right
  rightSide : bar.x + bar.width = max left right
  upperEnd : bar.y = min base top
  lowerEnd : bar.y + bar.height = max base top

theorem Bar.spans_ofCorners (left base right top : Int32)
    : (Bar.ofCorners left base right top).Spans left right base top where
  leftSide := rfl
  rightSide := by rw [Int32.add_comm]; exact Int32.sub_add_cancel _ _
  upperEnd := rfl
  lowerEnd := by rw [Int32.add_comm]; exact Int32.sub_add_cancel _ _

/-- A bar that ends where it begins has no height. -/
theorem Bar.Spans.flat {bar : Bar} {left right base : Int32}
    (spans : bar.Spans left right base base)
    : bar.height = 0 ∧ bar.y = base := by
  have upper : bar.y = base := spans.upperEnd.trans (ite_self base)
  have lower : bar.y + bar.height = base := spans.lowerEnd.trans (ite_self base)
  rw [upper, Int32.add_eq_left] at lower
  exact ⟨lower, upper⟩

/-- The pixel at which a position of the point axis meets the plotting area. -/
def Region.across (plot : Region) (points : List SeriesPoint) (position : Nat) : Int32 :=
  plot.clampX ((pointAxis plot points.length).pixel position)

/-- The pixel at which a value meets it, on the axis for a list of values. -/
def Region.upward (plot : Region) (values : List Amount) (value : Int) : Int32 :=
  plot.clampY ((valueAxis plot values).pixel (Float.ofInt value))

/-- There is a bar for each point, from its position to the next and from one up to its value. A
value of one or less leaves the bar flat, and so does a figure that the point does not have.
-/
structure ShowsBars (plot : Region) (points : List SeriesPoint) (metric : Metric)
    (bars : List Bar)
    : Prop where
  length : bars.length = points.length
  spans (j : Nat) (point : SeriesPoint) (bar : Bar)
    : points[j]? = some point
      → bars[j]? = some bar
      → bar.Spans (plot.across points j) (plot.across points (j + 1))
          (plot.upward (metric.values points) 1)
          (plot.upward (metric.values points) (max (metric.value point).val 1))
  flat (j : Nat) (point : SeriesPoint) (bar : Bar)
    : points[j]? = some point
      → bars[j]? = some bar
      → (∀ figure ∈ metric.figure? point, figure.val ≤ 1)
      → bar.height = 0 ∧ bar.y = plot.upward (metric.values points) 1

namespace Metric

variable {metric : Metric} {plot : Region} {points : List SeriesPoint}

theorem value_le_one {point : SeriesPoint} (low : ∀ figure ∈ metric.figure? point, figure.val ≤ 1)
    : (metric.value point).val ≤ 1 := by
  rw [value]
  cases present : metric.figure? point with
  | none => decide
  | some figure => exact low figure present

/-- The bars that a panel draws for the metric. -/
def bars (metric : Metric) (plot : Region) (points : List SeriesPoint) : List Bar :=
  (metric.values points).mapIdx fun position value =>
    bar plot (pointAxis plot points.length) (valueAxis plot (metric.values points)) value position

theorem bars_spans {j : Nat} {point : SeriesPoint} {bar : Bar} (here : points[j]? = some point)
    (drawn : (metric.bars plot points)[j]? = some bar)
    : bar.Spans (plot.across points j) (plot.across points (j + 1))
        (plot.upward (metric.values points) 1)
        (plot.upward (metric.values points) (max (metric.value point).val 1)) := by
  rw [bars, List.getElem?_mapIdx, values, List.getElem?_map, here, Option.map_some, Option.map_some,
    Option.some.injEq] at drawn
  rw [← drawn]
  exact Bar.spans_ofCorners _ _ _ _

theorem showsBars_bars (metric : Metric) (plot : Region) (points : List SeriesPoint)
    : ShowsBars plot points metric (metric.bars plot points) where
  length := by rw [bars, List.length_mapIdx, values, List.length_map]
  spans _ _ _ here drawn := bars_spans here drawn
  flat j point bar here drawn low := by
    have spans := bars_spans here drawn
    rw [max_eq_right (value_le_one low)] at spans
    exact spans.flat

end Metric

-----------------------------------------------------------------------------------------
-- Labels
-----------------------------------------------------------------------------------------

/-- What is written at a position of the point axis: the size of the point there, and nothing behind
the last point.
-/
inductive Captions (points : List SeriesPoint) : Nat → String → Prop where
  | size {position : Nat} {point : SeriesPoint} (here : points[position]? = some point)
    : Captions points position (String.ofList (Text.decimal point.size.val))
  | behind {position : Nat} (past : points.length ≤ position) : Captions points position ""

theorem captions_sizeAt (points : List SeriesPoint) (position : Nat)
    : Captions points position (sizeAt points position) := by
  rw [sizeAt]
  cases here : points[position]? with
  | none => exact .behind (List.getElem?_eq_none_iff.mp here)
  | some point => exact .size here

/-- The labels stand at these positions of the axis, one at each, and say what is written there. -/
def Labelled (axis : LinearAxis) (positions : List Nat) (written : Nat → String → Prop)
    (labels : List Label)
    : Prop :=
  List.Forall₂ (fun position label => label.x = axis.pixel position ∧ written position label.text)
    positions labels

/-- A region with a pixel has the labels of all positions, any other has none. -/
inductive ShowsLabels (region : Region) (axis : LinearAxis) (positions : List Nat)
    (written : Nat → String → Prop) (labels : List Label)
    : Prop
  | occupied (room : region.occupied?.isSome = true)
    (labelled : Labelled axis positions written labels)
    : ShowsLabels region axis positions written labels
  | vacant (none : region.occupied? = none) (empty : labels = [])
    : ShowsLabels region axis positions written labels

namespace ShowsLabels

variable {region : Region} {axis : LinearAxis} {positions : List Nat} {labels : List Label}
variable {written : Nat → String → Prop}

theorem labelled_of_room (shows : ShowsLabels region axis positions written labels)
    (room : region.occupied?.isSome = true)
    : Labelled axis positions written labels := by
  cases shows with
  | occupied _ labelled => exact labelled
  | vacant none _ => rw [none] at room; cases room

theorem eq_nil_of_none (shows : ShowsLabels region axis positions written labels)
    (none : region.occupied? = none)
    : labels = [] := by
  cases shows with
  | occupied room _ => rw [none] at room; cases room
  | vacant _ empty => exact empty

/-- Whatever is written at every position is written on every label. -/
theorem forall_mem {always : String → Prop}
    (shows : ShowsLabels region axis positions (fun _ => always) labels)
    : ∀ label ∈ labels, always label.text := by
  cases shows with
  | occupied _ labelled =>
      induction labelled with
      | nil => exact List.forall_mem_nil _
      | cons first _ ih => exact List.forall_mem_cons.mpr ⟨first.2, ih⟩
  | vacant _ empty =>
      rw [empty]
      exact List.forall_mem_nil _

theorem ofAxisLabels (region : Region) (axis : LinearAxis) (positions : List Nat)
    (text : Nat → String) (fits : ∀ position, written position (text position))
    (tickY nameY : Int32) (name : Option String)
    : ShowsLabels region axis positions written
        (axisLabels region tickY nameY
          (positions.map fun position => (axis.pixel position, text position)) name).ticks := by
  rw [axisLabels]
  cases room : region.occupied? with
  | none => exact .vacant room rfl
  | some _ =>
      refine .occupied (by rw [room]; rfl) ?_
      rw [Labelled, List.map_map, List.forall₂_map_right_iff, List.forall₂_same]
      exact fun position _ => ⟨rfl, fits position⟩

end ShowsLabels

-----------------------------------------------------------------------------------------
-- Panels of a drawing
-----------------------------------------------------------------------------------------

variable {chart : Chart} {frame : Frame} {metric : Metric} {index : Nat}

/-- Where the panel at an index stands. -/
def parts (chart : Chart) (frame : Frame) (index : Nat) : Parts :=
  .ofPanel frame.width frame.height (Metric.ofSchema chart.schema).length index

/-- The axis of the points in the panel at an index. -/
def sizeAxis (chart : Chart) (frame : Frame) (index : Nat) : LinearAxis :=
  pointAxis (chart.parts frame index).plot chart.points.length

/-- The positions that have a label on it. -/
def labelledPositions (chart : Chart) (frame : Frame) (index : Nat) : List Nat :=
  (chart.sizeAxis frame index).ticks (labelCount chart.points.length frame.maxTickLabels)

/-- The panel at an index shows a metric of the points. Labels of its point axis are empty, except
on the last panel, where they are the sizes of the points at their positions. In a roomy image the
panel has its name, and the last one has its labels below.
-/
structure PanelDrawing.Shows (panel : PanelDrawing) (chart : Chart) (frame : Frame) (index : Nat)
    (metric : Metric)
    : Prop where
  name (label : Label) : panel.label = some label → label.text = metric.name chart.schema
  bars : ShowsBars (chart.parts frame index).plot chart.points metric panel.bars
  blank
    : index + 1 ≠ (Metric.ofSchema chart.schema).length
      → ∀ label ∈ panel.above.ticks ++ panel.below.ticks, label.text = ""
  sizes
    : index + 1 = (Metric.ofSchema chart.schema).length
      → ShowsLabels (chart.parts frame index).above (chart.sizeAxis frame index)
          (chart.labelledPositions frame index) (Captions chart.points) panel.above.ticks
        ∧ ShowsLabels (chart.parts frame index).below (chart.sizeAxis frame index)
          (chart.labelledPositions frame index) (Captions chart.points) panel.below.ticks
  named
    : Roomy frame.width frame.height (Metric.ofSchema chart.schema).length
      → panel.label.isSome
  labelled
    : Roomy frame.width frame.height (Metric.ofSchema chart.schema).length
      → index + 1 = (Metric.ofSchema chart.schema).length
      → panel.above.ticks = []
        ∧ Labelled (chart.sizeAxis frame index) (chart.labelledPositions frame index)
          (Captions chart.points) panel.below.ticks

/-- The drawing has a panel for each metric of the chart's layout, in their order. -/
structure Drawing.Shows (drawing : Drawing) (chart : Chart) (frame : Frame) : Prop where
  length : drawing.panels.length = (Metric.ofSchema chart.schema).length
  panels (index : Nat) (metric : Metric) (panel : PanelDrawing)
    : (Metric.ofSchema chart.schema)[index]? = some metric
      → drawing.panels[index]? = some panel
      → panel.Shows chart frame index metric

theorem text_sideLabel? {parts : Parts} {text : String} {label : Label}
    (named : sideLabel? parts text = some label)
    : label.text = text := by
  rw [sideLabel?] at named
  split at named <;> cases named <;> rfl

theorem isSome_sideLabel? {parts : Parts} (ordinary : parts.Ordinary) (text : String)
    : (sideLabel? parts text).isSome := by
  obtain ⟨left, here⟩ := Option.isSome_iff_exists.mp ordinary.leftSide
  simp only [sideLabel?, ordinary.rightSide, here, Option.isSome_some]

theorem label_drawPanel (chart : Chart) (frame : Frame) (count index : Nat) (panel : Panel)
    : (chart.drawPanel frame count index panel).label
      = sideLabel? (.ofPanel frame.width frame.height count index) panel.label := by
  rw [drawPanel]

/-- Panels above another print nothing at the positions of their axis. -/
theorem drawPanel_blank (chart : Chart) (frame : Frame) (panel : Panel) {count : Nat}
    (early : index + 1 ≠ count)
    : let drawn := chart.drawPanel frame count index panel
      ∀ label ∈ drawn.above.ticks ++ drawn.below.ticks, label.text = "" := by
  intro drawn
  have empty (region : Region) (axis : LinearAxis) (positions : List Nat) (tickY nameY : Int32)
      (name : Option String)
      : ShowsLabels region axis positions (fun _ text => text = "")
          (axisLabels region tickY nameY
            (positions.map fun position => (axis.pixel position, "")) name).ticks := by
    apply ShowsLabels.ofAxisLabels
    exact fun _ => rfl
  simp only [drawn, drawPanel, decide_eq_false early, Bool.false_eq_true, if_false,
    List.forall_mem_append]
  exact ⟨(empty _ _ _ _ _ _).forall_mem, (empty _ _ _ _ _ _).forall_mem⟩

/-- The last panel prints the sizes. -/
theorem drawPanel_sizes (chart : Chart) (frame : Frame) (panel : Panel)
    (last : index + 1 = (Metric.ofSchema chart.schema).length)
    : let drawn := chart.drawPanel frame (Metric.ofSchema chart.schema).length index panel
      ShowsLabels (chart.parts frame index).above (chart.sizeAxis frame index)
          (chart.labelledPositions frame index) (Captions chart.points) drawn.above.ticks
        ∧ ShowsLabels (chart.parts frame index).below (chart.sizeAxis frame index)
          (chart.labelledPositions frame index) (Captions chart.points) drawn.below.ticks := by
  intro drawn
  simp only [drawn, drawPanel, decide_eq_true last, if_true]
  have captions := captions_sizeAt chart.points
  exact ⟨ShowsLabels.ofAxisLabels _ _ _ _ captions _ _ _,
    ShowsLabels.ofAxisLabels _ _ _ _ captions _ _ _⟩

theorem drawPanel_shows (inside : index < (Metric.ofSchema chart.schema).length)
    : (chart.drawPanel frame (Metric.ofSchema chart.schema).length index
        { label := metric.name chart.schema, values := metric.values chart.points }).Shows
        chart frame index metric where
  name label named := by
    rw [label_drawPanel] at named
    exact text_sideLabel? named
  bars := metric.showsBars_bars _ _
  blank := drawPanel_blank chart frame _
  sizes := drawPanel_sizes chart frame _
  named roomy := by
    rw [label_drawPanel]
    exact isSome_sideLabel? (Parts.ordinary_of_roomy roomy inside) _
  labelled roomy last := by
    have ordinary := Parts.ordinary_of_roomy roomy inside
    obtain ⟨above, below⟩ := drawPanel_sizes chart frame
      { label := metric.name chart.schema, values := metric.values chart.points } last
    exact ⟨above.eq_nil_of_none ordinary.above, below.labelled_of_room ordinary.below⟩

theorem draw_shows (chart : Chart) (frame : Frame)
    : (chart.draw frame).Shows chart frame where
  length := by rw [draw, List.length_mapIdx, panels_eq, List.length_map]
  panels index metric panel here drawn := by
    obtain ⟨inside, -⟩ := List.getElem?_eq_some_iff.mp here
    rw [draw, List.getElem?_mapIdx, panels_eq, List.getElem?_map, here, List.length_map,
      Option.map_some, Option.map_some, Option.some.injEq] at drawn
    rw [← drawn]
    exact drawPanel_shows inside

/-- There is a drawing exactly if the points are not too many for an axis and the file can be
created.
-/
theorem render_eq_ok_iff {path : String} {creatable : Bool} {drawing : Drawing}
    : chart.render frame path creatable = .ok drawing
      ↔ (chart.points.length ≤ 2147483647 ∧ creatable = true) ∧ chart.draw frame = drawing := by
  rw [render, maxPoints]
  split
  · next fits => rw [Except.ok.injEq, and_iff_right fits]
  · next fails => exact iff_of_false (fun failed => nomatch failed) fun both => fails both.1

/-- A rendered chart shows every point once in every panel of its layout. -/
theorem render_shows {path : String} {creatable : Bool} {drawing : Drawing}
    (rendered : chart.render frame path creatable = .ok drawing)
    : drawing.Shows chart frame := by
  obtain ⟨-, rfl⟩ := render_eq_ok_iff.mp rendered
  exact draw_shows chart frame

/-- Sizes with a negative count, with none at all and with a positive one. -/
def signedPoints : Chart :=
  let point (size figure : Int) (strideBytes : Option Int) : SeriesPoint :=
    {
      size := .clamp size
      count := .clamp figure
      rawBytes := .clamp figure
      strideBytes := strideBytes.map .clamp
      peak := .clamp figure
    }
  { schema := .proxy, points := [point 8 (-3) (some (-3)), point 16 0 none, point 32 7 (some 7)] }

/-- Where the stride bytes are absent their bar is flat, and the last panel has every size. -/
theorem signedPoints_shown
    : let frame : Frame := { width := 1200, height := 1000, maxTickLabels := 32 }
      ∃ drawing,
        signedPoints.render frame "alloc_trace.svg" true = .ok drawing
        ∧ drawing.Shows signedPoints frame
        ∧ (∀ panel bar,
            drawing.panels[2]? = some panel → panel.bars[1]? = some bar → bar.height = 0)
        ∧ drawing.panels.map (fun panel => panel.below.ticks.map (·.text))
          = [[""], [""], [""], ["8", "16", "32", ""]] := by
  intro frame
  have rendered : signedPoints.render frame "alloc_trace.svg" true
      = .ok (signedPoints.draw frame) :=
    render_eq_ok_iff.mpr ⟨⟨by decide, rfl⟩, rfl⟩
  have shows := render_shows rendered
  refine ⟨_, rendered, shows, ?_, by decide +kernel⟩
  intro panel bar third second
  obtain ⟨point, here, absent⟩ : ∃ point,
      signedPoints.points[1]? = some point ∧ point.strideBytes = none := ⟨_, rfl, rfl⟩
  have low : ∀ figure ∈ Metric.strideBytes.figure? point, figure.val ≤ 1 := by
    intro figure member
    rw [Metric.figure?, absent] at member
    cases member
  exact ((shows.panels 2 .strideBytes panel rfl third).bars.flat 1 point bar here second low).1

end AllocTrace.Chart
