import AllocTrace.Chart.Drawing

/-! Rendering a chart to a file: the drawing, unless the file cannot be created or the points are
too many for an axis.
-/

namespace AllocTrace.Chart

/-- The chart could not be rendered to the file at a path. -/
structure RenderError where
  path : String
deriving DecidableEq

def RenderError.message (error : RenderError) : String :=
  "rendering chart to " ++ error.path

/-- The most points that an axis has positions for. -/
def maxPoints : Nat := 2147483647

/-- The drawing for the file at a path, which can be created or not. -/
def render (chart : Chart) (frame : Frame) (path : String) (creatable : Bool)
    : Except RenderError Drawing :=
  if chart.points.length ≤ maxPoints ∧ creatable then .ok (chart.draw frame)
  else .error { path := path }

end AllocTrace.Chart
