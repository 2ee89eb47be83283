/-! Signed 64-bit amounts: sizes, counts and byte totals of a trace. Sums saturate at the two
bounds, so an amount is always an integer of the range and addition is clamped integer addition.
-/

namespace AllocTrace

/-- A signed 64-bit quantity. -/
structure Amount where
  val : Int
  lower : -9223372036854775808 ≤ val
  upper : val ≤ 9223372036854775807
deriving DecidableEq

namespace Amount

@[ext]
theorem ext {a b : Amount} (h : a.val = b.val)
    : a = b := by
  cases a
  cases b
  simp_all

/-- The integer itself inside the range, the nearer bound outside it. -/
def clamp (n : Int) : Amount where
  val := max (-9223372036854775808) (min n 9223372036854775807)
  lower := by omega
  upper := by omega

/-- The integer as an amount, if it lies in the range. -/
def ofInt? (n : Int) : Option Amount :=
  if h : -9223372036854775808 ≤ n ∧ n ≤ 9223372036854775807 then some ⟨n, h.1, h.2⟩ else none

instance : OfNat Amount 0 := ⟨⟨0, by decide, by decide⟩⟩

instance : Inhabited Amount := ⟨0⟩

/-- Saturating addition: an overrun stays at the bound it ran over. -/
instance : Add Amount := ⟨fun a b => clamp (a.val + b.val)⟩

instance : LE Amount := ⟨fun a b => a.val ≤ b.val⟩

instance : LT Amount := ⟨fun a b => a.val < b.val⟩

instance (a b : Amount) : Decidable (a ≤ b) := inferInstanceAs (Decidable (a.val ≤ b.val))

instance (a b : Amount) : Decidable (a < b) := inferInstanceAs (Decidable (a.val < b.val))

instance : Max Amount := ⟨fun a b => if a ≤ b then b else a⟩

instance : Ord Amount := ⟨fun a b => compare a.val b.val⟩

@[simp]
theorem val_zero : (0 : Amount).val = 0 := rfl

theorem val_add (a b : Amount)
    : (a + b).val = max (-9223372036854775808) (min (a.val + b.val) 9223372036854775807) :=
  rfl

theorem val_max (a b : Amount)
    : (max a b).val = max a.val b.val := by
  change (if a.val ≤ b.val then b else a).val = _
  split <;> omega

theorem compare_def (a b : Amount)
    : compare a b = compare a.val b.val :=
  rfl

theorem ofInt?_val (a : Amount)
    : ofInt? a.val = some a := by
  simp [ofInt?, a.lower, a.upper]

theorem clamp_val (a : Amount)
    : clamp a.val = a := by
  have := a.lower
  have := a.upper
  ext
  simp only [clamp]
  omega

instance : Std.TransOrd Amount where
  eq_swap {a b} := (Std.OrientedOrd.eq_swap : compare a.val b.val = _)
  isLE_trans {a _ c} h k := (Std.TransOrd.isLE_trans h k : (compare a.val c.val).isLE = true)

instance : Std.LawfulEqOrd Amount where
  eq_of_compare h := Amount.ext (Std.LawfulEqOrd.eq_of_compare h)

end Amount

end AllocTrace
