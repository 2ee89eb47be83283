import AllocTrace.Chart.Drawing
import AllocTrace.Text.Decimal

/-! A drawing as an SVG image: white on black, main grid lines dimmed, bars in outline. -/

namespace AllocTrace.Chart

namespace Svg

/-- Text content with the characters that markup reserves written as entities. -/
def escape (s : String) : String :=
  String.join
    (s.toList.map fun c =>
      if c = '&' then "&amp;"
      else if c = '<' then "&lt;"
      else if c = '>' then "&gt;"
      else c.toString)

def number (n : Int) : String :=
  String.ofList (Text.decimal n)

def field (name value : String) : String :=
  " " ++ name ++ "=\"" ++ value ++ "\""

def numbers (fields : List (String × Int)) : String :=
  String.join (fields.map fun (name, n) => field name (number n))

def pixels (fields : List (String × Int32)) : String :=
  numbers (fields.map fun (name, n) => (name, n.toInt))

def texts (fields : List (String × String)) : String :=
  String.join (fields.map fun (name, value) => field name value)

def fill (width height : Nat) : String :=
  "<rect" ++ numbers [("x", 0), ("y", 0), ("width", width), ("height", height)]
    ++ texts [("fill", "#000000"), ("stroke", "none")] ++ "/>\n"

def line (x₁ x₂ y : Int32) (opacity color : String) : String :=
  "<line" ++ pixels [("x1", x₁), ("y1", y), ("x2", x₂), ("y2", y)]
    ++ texts [("opacity", opacity), ("stroke", color), ("stroke-width", "1")] ++ "/>\n"

def bar (b : Bar) : String :=
  "<rect" ++ pixels [("x", b.x), ("y", b.y), ("width", b.width), ("height", b.height)]
    ++ texts [("fill", "none"), ("stroke", "#FFFFFF"), ("stroke-width", "1")] ++ "/>\n"

/-- Text placed by an anchor, a shift of the baseline and a font size; `turn` holds a
transformation, if there is one.
-/
def label (l : Label) (anchor shift size turn : String) : String :=
  "<text" ++ pixels [("x", l.x), ("y", l.y)]
    ++ texts
      [("dy", shift), ("text-anchor", anchor), ("font-family", "sans-serif"),
        ("font-size", size), ("fill", "#FFFFFF")]
    ++ turn ++ ">\n" ++ escape l.text ++ "\n</text>\n"

/-- A quarter turn to the left about the anchor of a label. -/
def leftward (l : Label) : String :=
  field "transform" ("rotate(270, " ++ number l.x.toInt ++ ", " ++ number l.y.toInt ++ ")")

def axisLabels (l : AxisLabels) (tickShift nameShift : String) : String :=
  String.join (l.ticks.map fun l => label l "middle" tickShift "9" "")
    ++ String.join (l.name.toList.map fun l => label l "middle" nameShift "9" "")

def panel (p : PanelDrawing) : String :=
  String.join (p.lightLines.map fun y => line p.gridLeft p.gridRight y "1" "#000000")
    ++ String.join (p.boldLines.map fun y => line p.gridLeft p.gridRight y "0.3" "#FFFFFF")
    ++ axisLabels p.above "-0.5ex" "0.76em"
    ++ String.join (p.yTicks.map fun l => label l "end" "0.5ex" "9" "")
    ++ String.join (p.label.toList.map fun l => label l "middle" "0.76em" "9" (leftward l))
    ++ axisLabels p.below "0.76em" "-0.5ex"
    ++ String.join (p.bars.map bar)

end Svg

/-- The image as text. -/
def Drawing.svg (drawing : Drawing) : String :=
  "<svg" ++ Svg.numbers [("width", drawing.width), ("height", drawing.height)]
    ++ Svg.field "viewBox"
      ("0 0 " ++ Svg.number drawing.width ++ " " ++ Svg.number drawing.height)
    ++ Svg.field "xmlns" "http://www.w3.org/2000/svg" ++ ">\n"
    ++ Svg.fill drawing.width drawing.height
    ++ Svg.label drawing.title "middle" "0.76em" "14" ""
    ++ String.join (drawing.panels.map Svg.panel)
    ++ "</svg>\n"

end AllocTrace.Chart
