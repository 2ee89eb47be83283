import AllocTrace.Chart.Layout

/-! Where panels stand in an image with room for them. Main statement: from some width and height on
every panel has an area to plot on, with labels to the left and below and none on the other sides.
-/

namespace AllocTrace.Chart

-----------------------------------------------------------------------------------------
-- Coordinates
-----------------------------------------------------------------------------------------

/-- The first number that is no coordinate. -/
def coordinateBound : Nat := 2147483648

variable {a b c : Nat}

theorem min_ofNat (left : a < coordinateBound) (right : b < coordinateBound)
    : min (Int32.ofNat a) (Int32.ofNat b) = Int32.ofNat (min a b) := by
  change (if Int32.ofNat a ≤ Int32.ofNat b then Int32.ofNat a else Int32.ofNat b) = _
  have ordered := Int32.ofNat_le_iff_le left right
  by_cases less : a ≤ b
  · rw [if_pos (ordered.mpr less), Nat.min_eq_left less]
  · rw [if_neg (mt ordered.mp less), Nat.min_eq_right (by omega)]

theorem max_ofNat (left : a < coordinateBound) (right : b < coordinateBound)
    : max (Int32.ofNat a) (Int32.ofNat b) = Int32.ofNat (max a b) := by
  change (if Int32.ofNat a ≤ Int32.ofNat b then Int32.ofNat b else Int32.ofNat a) = _
  have ordered := Int32.ofNat_le_iff_le left right
  by_cases less : a ≤ b
  · rw [if_pos (ordered.mpr less), Nat.max_eq_right less]
  · rw [if_neg (mt ordered.mp less), Nat.max_eq_left (by omega)]

theorem extent_ofNat (ordered : a ≤ b)
    : extent (Int32.ofNat a) (Int32.ofNat b) = UInt32.ofNat (b - a) := by
  rw [extent, ← Int32.ofNat_sub b a ordered, Int32.toUInt32_ofNat']

theorem extent_eq_zero_iff (ordered : a ≤ b) (inside : b < coordinateBound)
    : extent (Int32.ofNat a) (Int32.ofNat b) = 0 ↔ a = b := by
  have small : b - a < UInt32.size := by
    have : b < UInt32.size := Nat.lt_trans inside (by decide)
    omega
  rw [extent_ofNat ordered, ← UInt32.toNat_inj, UInt32.toNat_ofNat_of_lt' small, UInt32.toNat_zero]
  omega

/-- The region between natural coordinates. -/
def Region.ofNat (left right top bottom : Nat) : Region :=
  {
    left := Int32.ofNat left
    right := Int32.ofNat right
    top := Int32.ofNat top
    bottom := Int32.ofNat bottom
  }

theorem Region.occupied?_ofNat {left right top bottom : Nat} (across : left ≤ right)
    (width : right < coordinateBound) (down : top ≤ bottom) (height : bottom < coordinateBound)
    : (ofNat left right top bottom).occupied?
      = if left < right ∧ top < bottom then some (ofNat left right top bottom) else none := by
  have narrow : (ofNat left right top bottom).width = 0 ↔ left = right :=
    extent_eq_zero_iff across width
  have flat : (ofNat left right top bottom).height = 0 ↔ top = bottom :=
    extent_eq_zero_iff down height
  simp only [occupied?, Bool.or_eq_true, decide_eq_true_eq, narrow, flat]
  by_cases room : left < right ∧ top < bottom
  · rw [if_pos room, if_neg (by omega)]
  · rw [if_neg room, if_pos (by omega)]

-----------------------------------------------------------------------------------------
-- Cuts
-----------------------------------------------------------------------------------------

/-- The sides of labels on the left: nothing is left over on the right. -/
theorem Cuts.ofAny_left (first : a ≤ b) (second : b ≤ c) (inside : c < coordinateBound)
    : Cuts.ofAny (Int32.ofNat a) (Int32.ofNat c) (Int32.ofNat b) (Int32.ofNat c)
      = ⟨Int32.ofNat a, Int32.ofNat b, Int32.ofNat c, Int32.ofNat c⟩ := by
  simp (disch := omega) only [Cuts.ofAny, min_ofNat, max_ofNat, Nat.min_eq_left, Nat.max_eq_left,
    Nat.max_eq_right]

/-- The sides of labels below: nothing is left over above. -/
theorem Cuts.ofAny_below (first : a ≤ b) (second : b ≤ c) (inside : c < coordinateBound)
    : Cuts.ofAny (Int32.ofNat a) (Int32.ofNat c) (Int32.ofNat a) (Int32.ofNat b)
      = ⟨Int32.ofNat a, Int32.ofNat a, Int32.ofNat b, Int32.ofNat c⟩ := by
  simp (disch := omega) only [Cuts.ofAny, min_ofNat, max_ofNat, Nat.min_eq_left, Nat.min_eq_right,
    Nat.max_eq_left, Nat.max_eq_right]

-----------------------------------------------------------------------------------------
-- Panels
-----------------------------------------------------------------------------------------

variable {width height count index : Nat}

/-- The upper edge of a panel as a natural number. -/
def naturalEdge (height count index : Nat) : Nat :=
  25 + index * ((height - 25) / count) + min index ((height - 25) % count)

theorem edge_eq (title : 25 ≤ height) (inside : height < coordinateBound)
    : edge height count index = Int32.ofNat (naturalEdge height count index) := by
  have below : Int32.ofNat height - titleHeight = Int32.ofNat (height - 25) :=
    (Int32.ofNat_sub height 25 title).symm
  have small : height - 25 < 2 ^ 31 := Nat.lt_of_le_of_lt (Nat.sub_le height 25) inside
  have shared : (Int32.ofNat height - titleHeight).toInt64.toUInt64.toNat = height - 25 := by
    have positive : 0 ≤ (Int32.ofNat (height - 25)).toInt64 := by
      rw [Int64.le_iff_toInt_le, Int32.toInt_toInt64, Int32.toInt_ofNat_of_lt small]
      exact Int.natCast_nonneg _
    rw [below, Int64.toNat_toUInt64_of_le positive, Int32.toNatClampNeg_toInt64,
      Int32.toNatClampNeg_ofNat_of_lt small]
  rw [edge, shared, naturalEdge, Int32.ofNat_add, Int32.ofNat_add, Int32.ofNat_mul]
  rfl

/-- No edge lies below the image. -/
theorem naturalEdge_le (title : 25 ≤ height) (inside : index ≤ count)
    : naturalEdge height count index ≤ height := by
  have whole := Nat.mul_le_mul_right ((height - 25) / count) inside
  have shares := Nat.div_add_mod (height - 25) count
  rw [naturalEdge]
  omega

theorem naturalEdge_succ (height count index : Nat)
    : naturalEdge height count index + (height - 25) / count
      ≤ naturalEdge height count (index + 1) := by
  rw [naturalEdge, naturalEdge, Nat.succ_mul]
  omega

/-- An image of this width and height has room for so many panels and the labels around them. -/
structure Roomy (width height count : Nat) : Prop where
  wide : 85 ≤ width
  narrow : width < coordinateBound
  tall : 25 + 53 * count ≤ height
  short : height < coordinateBound

/-- Every panel of a roomy image is higher than its labels and the margins. -/
theorem naturalEdge_lt (roomy : Roomy width height count) (inside : index < count)
    : naturalEdge height count index + 52 < naturalEdge height count (index + 1)
      ∧ naturalEdge height count (index + 1) < coordinateBound := by
  obtain ⟨-, -, tall, short⟩ := roomy
  have share : 53 ≤ (height - 25) / count := by
    rw [Nat.le_div_iff_mul_le (by omega)]
    omega
  have next := naturalEdge_succ height count index
  have last : naturalEdge height count (index + 1) ≤ height := naturalEdge_le (by omega) inside
  omega

/-- The area to plot on reaches from behind the labels on the left to the margin on the right, and
from the margin above to the labels below.
-/
theorem Parts.exists_of_roomy (roomy : Roomy width height count) (inside : index < count)
    : ∃ upper foot lower,
        upper < foot
        ∧ foot < lower
        ∧ lower < coordinateBound
        ∧ Parts.ofPanel width height count index
          = {
              plot := .ofNat 78 (width - 6) upper foot
              leftSide := .ofNat 6 78 upper foot
              rightSide := .ofNat (width - 6) (width - 6) upper foot
              above := .ofNat 78 (width - 6) upper upper
              below := .ofNat 78 (width - 6) foot lower
            } := by
  obtain ⟨next, inside⟩ := naturalEdge_lt roomy inside
  obtain ⟨wide, narrow, tall, short⟩ := roomy
  obtain ⟨labels, some, few, footed⟩ : ∃ labels, 0 < labels ∧ labels ≤ 40
      ∧ footHeight (index + 1 = count) = Int32.ofNat labels := by
    rw [footHeight]
    split
    · exact ⟨40, by decide, by decide, rfl⟩
    · exact ⟨8, by decide, by decide, rfl⟩
  have right : Int32.ofNat width - margin = Int32.ofNat (width - 6) :=
    (Int32.ofNat_sub width 6 (by omega)).symm
  have top : edge height count index + margin
      = Int32.ofNat (naturalEdge height count index + 6) := by
    rw [edge_eq (by omega) short]
    exact (Int32.ofNat_add _ 6).symm
  have bottom : edge height count (index + 1) - margin
      = Int32.ofNat (naturalEdge height count (index + 1) - 6) := by
    rw [edge_eq (by omega) short]
    exact (Int32.ofNat_sub _ 6 (by omega)).symm
  refine ⟨naturalEdge height count index + 6, naturalEdge height count (index + 1) - 6 - labels,
    naturalEdge height count (index + 1) - 6, by omega, by omega, by omega, ?_⟩
  rw [ofPanel, right, top, bottom, footed, ← Int32.ofNat_sub _ _ (by omega),
    Cuts.ofAny_below (by omega) (by omega) (by omega)]
  -- the margin is the literal 6, and the labels on the left end at the literal sum 6 + 72
  change Parts.ofCuts (Cuts.ofAny (Int32.ofNat 6) _ (Int32.ofNat 78) _) _ = _
  rw [Cuts.ofAny_left (by decide) (by omega) (by omega)]
  rfl

/-- The panel has an area to plot on, labels on the left of it and below, and none elsewhere. -/
structure Parts.Ordinary (parts : Parts) : Prop where
  plot : parts.plot.occupied?.isSome = true
  leftSide : parts.leftSide.occupied?.isSome = true
  below : parts.below.occupied?.isSome = true
  rightSide : parts.rightSide.occupied? = none
  above : parts.above.occupied? = none

theorem Parts.ordinary_of_roomy (roomy : Roomy width height count) (inside : index < count)
    : (Parts.ofPanel width height count index).Ordinary := by
  obtain ⟨upper, foot, lower, plotted, footed, short, parts⟩ := Parts.exists_of_roomy roomy inside
  obtain ⟨wide, narrow, -, -⟩ := roomy
  rw [parts]
  constructor <;> rw [Region.occupied?_ofNat (by omega) (by omega) (by omega) (by omega)]
  · rw [if_pos (by omega), Option.isSome_some]
  · rw [if_pos (by omega), Option.isSome_some]
  · rw [if_pos (by omega), Option.isSome_some]
  · rw [if_neg (by omega)]
  · rw [if_neg (by omega)]

end AllocTrace.Chart
