import AllocTrace.Chart.Drawing
import AllocTrace.Config.Basic
import Mathlib.Algebra.Order.Floor.Div

/-! How many categories of a chart are labelled. Main statement: up to the limit every category has
its label, and above it the number asked for exceeds the limit unless it divides the number of
categories, though it never reaches twice the limit.
-/

namespace AllocTrace.Chart

-----------------------------------------------------------------------------------------
-- Steps that cover a length
-----------------------------------------------------------------------------------------

variable {length size count ticks : Nat}

theorem steps_eq_ceilDiv (length size : Nat)
    : steps length size = length ⌈/⌉ size :=
  rfl

theorem steps_le_iff (positive : 0 < size)
    : steps length size ≤ count ↔ length ≤ size * count := by
  rw [steps_eq_ceilDiv, ceilDiv_le_iff_le_mul positive]

theorem lt_steps_iff (positive : 0 < size)
    : count < steps length size ↔ size * count < length := by
  rw [← not_le, steps_le_iff positive, not_le]

@[simp]
theorem steps_one (length : Nat)
    : steps length 1 = length := by
  simp [steps]

theorem steps_eq_zero_iff (positive : 0 < size)
    : steps length size = 0 ↔ length = 0 := by
  rw [← Nat.le_zero, steps_le_iff positive, Nat.mul_zero, Nat.le_zero]

/-- No more steps than the length, since each is one long at least. -/
theorem steps_le (positive : 0 < size)
    : steps length size ≤ length := by
  rw [steps_le_iff positive]
  exact Nat.le_mul_of_pos_left length positive

/-- Whole steps in front of a length are counted one by one. -/
theorem steps_mul_add (positive : 0 < size)
    : steps (size * count + length) size = count + steps length size := by
  have behind : size * count + length + size - 1 = size * count + (length + size - 1) := by omega
  rw [steps, behind, Nat.mul_add_div positive, steps]

-----------------------------------------------------------------------------------------
-- Ticks of an axis
-----------------------------------------------------------------------------------------

theorem tickDistance_pos {fuel : Nat} (positive : 0 < size)
    : 0 < tickDistance length ticks fuel size := by
  induction fuel generalizing size with
  | zero => exact positive
  | succ fuel ih =>
      rw [tickDistance]
      split
      · exact positive
      · split
        · next found =>
          have member := List.mem_of_find?_eq_some found
          simp only [List.mem_cons, List.not_mem_nil, or_false] at member
          omega
        · exact ih (by omega)

/-- At the distance found no more ticks than asked for cover the length, by induction on the powers
of ten that are tried: the last of them covers it at once.
-/
theorem steps_tickDistance_le {fuel : Nat} (asked : 0 < ticks) (positive : 0 < size)
    (enough : length ≤ size * 10 ^ fuel)
    : steps length (tickDistance length ticks fuel size) ≤ ticks := by
  induction fuel generalizing size with
  | zero =>
      rw [tickDistance, steps_le_iff positive]
      rw [Nat.pow_zero] at enough
      exact enough.trans (Nat.mul_le_mul_left size asked)
  | succ fuel ih =>
      rw [tickDistance]
      split
      · assumption
      · split
        · next found =>
          have fewer := List.find?_some found
          exact Nat.le_of_lt (of_decide_eq_true fewer)
        · refine ih (by omega) ?_
          rwa [Nat.pow_succ', ← Nat.mul_assoc, Nat.mul_comm size 10] at enough

/-- If as many ticks are asked for as the length has units, every unit has one. -/
theorem tickDistance_of_le {fuel : Nat} (fits : length ≤ ticks)
    : tickDistance length ticks fuel 1 = 1 := by
  cases fuel with
  | zero => rfl
  | succ fuel => rw [tickDistance, steps_one, if_pos fits]

namespace LinearAxis

variable (axis : LinearAxis)

/-- The distance of the ticks of an axis on which so many are asked for. -/
def distance (count : Nat) : Nat :=
  tickDistance axis.limit count axis.limit 1

theorem distance_pos (count : Nat)
    : 0 < axis.distance count :=
  tickDistance_pos Nat.one_pos

theorem ticks_eq (count : Nat)
    : axis.ticks count
      = (List.range (axis.limit / axis.distance count + 1)).map (· * axis.distance count) :=
  rfl

theorem mem_ticks_iff {position : Nat}
    : position ∈ axis.ticks count
      ↔ position ≤ axis.limit ∧ axis.distance count ∣ position := by
  have positive := axis.distance_pos count
  simp only [ticks_eq, List.mem_map, List.mem_range, Nat.lt_succ_iff,
    Nat.le_div_iff_mul_le positive]
  constructor
  · rintro ⟨k, inside, rfl⟩
    exact ⟨inside, Nat.dvd_mul_left _ k⟩
  · rintro ⟨inside, k, rfl⟩
    rw [Nat.mul_comm] at inside
    exact ⟨k, inside, Nat.mul_comm k _⟩

theorem ticks_ascending (count : Nat)
    : (axis.ticks count).Pairwise (· < ·) := by
  rw [ticks_eq, List.pairwise_map]
  exact List.pairwise_lt_range.imp fun less =>
    Nat.mul_lt_mul_of_pos_right less (axis.distance_pos count)

/-- All positions have a tick if no more units are on the axis than ticks asked for. -/
theorem ticks_of_le (fits : axis.limit ≤ count)
    : axis.ticks count = List.range (axis.limit + 1) := by
  simp [ticks, tickDistance_of_le fits]

/-- The ticks are far enough apart to be no more than asked for: a power of ten with the limit for
its exponent is beyond the limit.
-/
theorem steps_distance_le (asked : 0 < count)
    : steps axis.limit (axis.distance count) ≤ count := by
  refine steps_tickDistance_le asked Nat.one_pos ?_
  rw [Nat.one_mul]
  exact Nat.le_of_lt (Nat.lt_pow_self (by decide))

/-- Before a position of the axis are no more ticks than asked for. -/
theorem length_ticks_before_le {position : Nat} (asked : 0 < count)
    (inside : position ≤ axis.limit)
    : ((axis.ticks count).filter (· < position)).length ≤ count := by
  have positive := axis.distance_pos count
  have before : (axis.ticks count).filter (· < position)
      ⊆ (List.range (steps axis.limit (axis.distance count))).map (· * axis.distance count) := by
    intro tick member
    obtain ⟨tick, earlier⟩ := List.mem_filter.mp member
    obtain ⟨-, k, rfl⟩ := axis.mem_ticks_iff.mp tick
    refine List.mem_map.mpr ⟨k, ?_, Nat.mul_comm k _⟩
    rw [List.mem_range, lt_steps_iff positive]
    exact (of_decide_eq_true earlier).trans_le inside
  have distinct : ((axis.ticks count).filter (· < position)).Nodup :=
    ((axis.ticks_ascending count).imp Nat.ne_of_lt).filter _
  have size := (List.subperm_of_subset distinct before).length_le
  rw [List.length_map, List.length_range] at size
  exact size.trans (axis.steps_distance_le asked)

end LinearAxis

-----------------------------------------------------------------------------------------
-- Labels asked for
-----------------------------------------------------------------------------------------

variable {points limit : Nat}

/-- Below the limit a label is asked for each category. -/
theorem labelCount_of_lt (few : points < limit)
    : labelCount points limit = max 1 points := by
  have none : points / max 1 limit = 0 := Nat.div_eq_of_lt (by omega)
  rw [labelCount, tickInterval, none, Nat.max_eq_left (Nat.zero_le 1), steps_one]

/-- From the limit on as many labels as it says are asked for, and more for the categories that are
left over when they are shared out evenly.
-/
theorem labelCount_of_le (positive : 0 < limit) (many : limit ≤ points)
    : labelCount points limit = limit + steps (points % limit) (points / limit) := by
  have interval : 0 < points / limit := Nat.div_pos many positive
  have shared : steps points (points / limit)
      = limit + steps (points % limit) (points / limit) := by
    rw [← steps_mul_add interval, Nat.mul_comm, Nat.div_add_mod]
  rw [labelCount, tickInterval, Nat.max_eq_right positive, Nat.max_eq_right interval, shared]
  exact Nat.max_eq_right (by omega)

theorem labelCount_pos (points limit : Nat)
    : 0 < labelCount points limit :=
  Nat.le_max_left 1 _

theorem labelCount_le_iff (positive : 0 < limit)
    : labelCount points limit ≤ limit ↔ points ≤ limit ∨ limit ∣ points := by
  rcases Nat.lt_or_ge points limit with few | many
  · rw [labelCount_of_lt few]
    omega
  · have interval : 0 < points / limit := Nat.div_pos many positive
    have even : steps (points % limit) (points / limit) = 0 ↔ limit ∣ points := by
      rw [steps_eq_zero_iff interval, Nat.dvd_iff_mod_eq_zero]
    have alone : points = limit → limit ∣ points := fun same => same ▸ Nat.dvd_refl _
    rw [labelCount_of_le positive many]
    omega

/-- Fewer categories are left over than the limit says, so the labels stay below twice the limit. -/
theorem labelCount_lt (positive : 0 < limit)
    : labelCount points limit < 2 * limit := by
  rcases Nat.lt_or_ge points limit with few | many
  · rw [labelCount_of_lt few]
    omega
  · have interval : 0 < points / limit := Nat.div_pos many positive
    have left := Nat.mod_lt points positive
    have extra : steps (points % limit) (points / limit) ≤ points % limit := steps_le interval
    rw [labelCount_of_le positive many]
    omega

theorem labelCount_eq_iff (positive : 0 < limit)
    : labelCount points limit = points ↔ 0 < points ∧ points < 2 * limit := by
  have some := labelCount_pos points limit
  have bound : labelCount points limit < 2 * limit := labelCount_lt positive
  refine ⟨by omega, fun ⟨filled, twice⟩ => ?_⟩
  rcases Nat.lt_or_ge points limit with few | many
  · rw [labelCount_of_lt few]
    omega
  · have once : points / limit = 1 := Nat.div_eq_of_lt_le (by omega) (by omega)
    have left : points % limit = points - limit := by
      rw [Nat.mod_eq_sub_mod many, Nat.mod_eq_of_lt (by omega)]
    rw [labelCount_of_le positive many, once, steps_one]
    omega

/-- What so many labels asked for mean for so many categories under a limit. -/
structure LabelBudget (points limit asked : Nat) : Prop where
  positive : 1 ≤ asked
  shared
    : asked
      = if points < limit then max 1 points else limit + steps (points % limit) (points / limit)
  within_iff : asked ≤ limit ↔ points ≤ limit ∨ limit ∣ points
  below_twice : asked < 2 * limit
  whole_iff : asked = points ↔ 1 ≤ points ∧ points < 2 * limit
  labelled (plot : Region)
    : points < 2 * limit
      → ∀ position < points, position ∈ (pointAxis plot points).ticks asked
  drawn (plot : Region)
    : (((pointAxis plot points).ticks asked).filter (· < points)).length ≤ asked

/-- Under a limit every category has its label up to twice the limit, and the labels asked for are
within the limit just for no more categories than it says and for multiples of it.
-/
theorem labelCount_budget (positive : 0 < limit)
    : LabelBudget points limit (labelCount points limit) where
  positive := labelCount_pos points limit
  shared := by
    split
    · next few => exact labelCount_of_lt few
    · next many => exact labelCount_of_le positive (Nat.le_of_not_lt many)
  within_iff := labelCount_le_iff positive
  below_twice := labelCount_lt positive
  whole_iff := labelCount_eq_iff positive
  labelled plot few position inside := by
    have whole := (labelCount_eq_iff positive).mpr ⟨by omega, few⟩
    rw [whole, LinearAxis.ticks_of_le, List.mem_range]
    · simp only [pointAxis]
      omega
    · simp only [pointAxis]
      omega
  drawn plot :=
    (pointAxis plot points).length_ticks_before_le (labelCount_pos points limit)
      (Nat.le_max_left points 1)

/-- A hundred categories under the default limit. -/
theorem labelCount_budget_hundred
    : 0 < RenderConfig.default.maxTickLabels
      ∧ LabelBudget 100 RenderConfig.default.maxTickLabels 34
      ∧ ¬34 ≤ RenderConfig.default.maxTickLabels := by
  have positive : 0 < RenderConfig.default.maxTickLabels := by decide
  have asked : labelCount 100 RenderConfig.default.maxTickLabels = 34 := by decide
  refine ⟨positive, ?_, by decide⟩
  rw [← asked]
  exact labelCount_budget positive

/-- Three sizes. -/
def threePoints : Chart :=
  let point (size : Amount) : SeriesPoint :=
    { size := size, count := 0, rawBytes := 0, strideBytes := none, peak := 0 }
  { schema := .stride, points := [point (.clamp 8), point (.clamp 16), point (.clamp 24)] }

/-- A limit of two labels is a usable one, and all of three sizes are labelled under it. -/
theorem threePoints_overlabelled
    : let config : Config :=
        { Config.default with render := { RenderConfig.default with maxTickLabels := 2 } }
      let frame : Frame := { width := 1200, height := 1000, maxTickLabels := 2 }
      config.validate = .ok ()
      ∧ frame.maxTickLabels = config.render.maxTickLabels
      ∧ config.render.maxTickLabels
        < labelCount threePoints.points.length config.render.maxTickLabels
      ∧ ((threePoints.draw frame).panels.getLast?.map fun panel =>
          panel.below.ticks.map (·.text))
        = some ["8", "16", "24", ""] :=
  ⟨rfl, rfl, by decide, rfl⟩

end AllocTrace.Chart
