import AllocTrace.Proofs.Table.Accesses

/-! The quantities that tables add up, and when their sums do not depend on the order of accesses.
Keys, peaks and the number of phases never do.
-/

namespace AllocTrace

variable {s : Schema}

/-- What adds up over the records of a key. -/
inductive Quantity where
  | count
  | rawBytes
  | strideBytes
  | fallbacks
deriving DecidableEq

namespace Quantity

/-- The amount that a record adds, if its layout has the quantity. -/
def ofTotals (totals : Totals) : Quantity → Option Amount
  | count => some totals.count
  | rawBytes => some totals.rawBytes
  | strideBytes => totals.strideBytes
  | fallbacks => totals.fallbacks

/-- The sum that the figures show, if they show the quantity. -/
def ofFigures (figures : Figures) : Quantity → Option Amount
  | count => some figures.count
  | rawBytes => some figures.rawBytes
  | strideBytes => figures.strideBytes
  | fallbacks => figures.fallbacks

/-- The layout has the quantity. -/
def Shown (s : Schema) : Quantity → Prop
  | count => True
  | rawBytes => True
  | strideBytes => s = .proxy
  | fallbacks => s = .proxy

instance (s : Schema) : (quantity : Quantity) → Decidable (quantity.Shown s)
  | count | rawBytes => inferInstanceAs (Decidable True)
  | strideBytes | fallbacks => inferInstanceAs (Decidable (s = .proxy))

/-- The amounts that the records of a key add, in order. -/
def amounts (quantity : Quantity) (records : List (Record s)) (key : Key s) : List Amount :=
  (records.filter (·.key = key)).filterMap fun record => quantity.ofTotals record.totals

theorem amounts_perm (quantity : Quantity) {left right : List (Record s)}
    (h : left.Perm right) (key : Key s)
    : (quantity.amounts left key).Perm (quantity.amounts right key) :=
  (h.filter _).filterMap _

/-- A tally shows the saturating sum of each quantity of the layout, by cases on both. -/
theorem ofFigures_of (quantity : Quantity) (records : List (Record s))
    (subtotals : List Amount)
    : quantity.ofFigures ((Tally.of records subtotals).figures s)
      = if quantity.Shown s then
          some (.total (records.filterMap fun record => quantity.ofTotals record.totals))
        else none := by
  cases quantity <;> cases s <;>
    simp [ofFigures, ofTotals, Tally.figures, Tally.of, Shown, Schema.hasStrideBytes,
      Schema.hasFallbacks]

/-- Figures with the same sums and the same peak are the same. -/
theorem figures_ext {left right : Figures}
    (sums : ∀ quantity : Quantity, quantity.ofFigures left = quantity.ofFigures right)
    (peaks : left.peak = right.peak)
    : left = right := by
  have count := sums .count
  have rawBytes := sums .rawBytes
  have strideBytes := sums .strideBytes
  have fallbacks := sums .fallbacks
  simp only [ofFigures, Option.some.injEq] at count rawBytes strideBytes fallbacks
  cases left
  cases right
  simp_all

end Quantity

namespace Table

/-- The sum of the quantity that the table shows under the key. -/
def sum? (table : Table s) (key : Key s) (quantity : Quantity) : Option Amount :=
  (table.get? key).bind fun entry => quantity.ofFigures entry.figures

/-- The peak that the table shows under the key. -/
def peak? (table : Table s) (key : Key s) : Option Amount :=
  (table.get? key).map fun entry => entry.figures.peak

/-- A key that is not in the table has no peak, as an empty tally has none. -/
theorem getD_peak? (table : Table s) (key : Key s)
    : (table.peak? key).getD 0 = (table.tally key).peak := by
  rw [peak?, get?_eq]
  split
  · rfl
  · rw [tally, Std.ExtTreeMap.getElem?_eq_none ‹_›]
    rfl

end Table

namespace Trace

variable {left right : Trace s}

instance (trace : Trace s) (key : Key s) : Decidable (trace.Touches key) :=
  inferInstanceAs (Decidable (_ ∨ _))

theorem get?_table (trace : Trace s) (key : Key s)
    : trace.table.get? key
      = if trace.Touches key then some ((trace.tally key).entry key) else none := by
  rw [Table.get?_eq]
  simp only [mem_table, tally_table]

theorem sum?_table (trace : Trace s) (key : Key s) (quantity : Quantity)
    : trace.table.sum? key quantity
      = if trace.Touches key ∧ quantity.Shown s then
          some (.total (quantity.amounts trace.records key))
        else none := by
  rw [Table.sum?, get?_table]
  by_cases touched : trace.Touches key
  · simpa [touched, Tally.entry, tally, Quantity.amounts] using quantity.ofFigures_of _ _
  · simp [touched]

theorem peak?_table (trace : Trace s) (key : Key s)
    : trace.table.peak? key
      = if trace.Touches key then some (trace.tally key).peak else none := by
  rw [Table.peak?, get?_table]
  split <;> rfl

theorem touches_perm (h : left.Perm right) (key : Key s)
    : left.Touches key ↔ right.Touches key := by
  simp only [Touches, records, subtotals, (h.filterMap _).mem_iff]

/-- The keys of a table do not depend on the order of the accesses. -/
theorem mem_table_perm (h : left.Perm right) (key : Key s)
    : key ∈ left.table.tallies ↔ key ∈ right.table.tallies := by
  rw [mem_table, mem_table, touches_perm h]

theorem isSome_get?_perm (h : left.Perm right) (key : Key s)
    : (left.table.get? key).isSome = (right.table.get? key).isSome := by
  simp only [get?_table, touches_perm h]
  split <;> rfl

/-- The number of keys does not depend on the order of the accesses. -/
theorem size_table_perm (h : left.Perm right)
    : left.table.size = right.table.size := by
  have same : left.table.tallies.keys.Perm right.table.tallies.keys := by
    apply (List.perm_ext_iff_of_nodup Std.ExtTreeMap.nodup_keys Std.ExtTreeMap.nodup_keys).mpr
    intro key
    rw [Std.ExtTreeMap.mem_keys, Std.ExtTreeMap.mem_keys, mem_table_perm h]
  simpa [Table.size] using same.length_eq

/-- Peaks do not depend on the order of the accesses, as maxima commute. -/
theorem peak?_perm (h : left.Perm right) (key : Key s)
    : left.table.peak? key = right.table.peak? key := by
  have same : (left.tally key).peak = (right.tally key).peak :=
    Amount.greatest_perm (((h.filterMap _).filter _).map _)
  simp only [peak?_table, touches_perm h, same]

theorem phases_perm (h : left.Perm right)
    : left.table.phases = right.table.phases := by
  rw [phases_table, phases_table, counted, counted, h.countP_eq]

/-- The sum of amounts that add up alike in every order does not depend on the order of the
accesses.
-/
theorem sum?_perm (h : left.Perm right) (key : Key s) (quantity : Quantity)
    (steady : Amount.OneSigned (quantity.amounts left.records key)
      ∨ Amount.Contained (quantity.amounts left.records key))
    : left.table.sum? key quantity = right.table.sum? key quantity := by
  have same := Amount.total_perm (quantity.amounts_perm (h.filterMap _) key) steady
  simp only [sum?_table, touches_perm h]
  split
  · exact congrArg some same
  · rfl

/-- If no sum depends on the order of the accesses, nothing that is listed does. -/
theorem entries_perm (h : left.Perm right)
    (steady
      : ∀ key (quantity : Quantity),
          Amount.OneSigned (quantity.amounts left.records key)
          ∨ Amount.Contained (quantity.amounts left.records key))
    : left.table.entries = right.table.entries := by
  refine Table.entries_ext fun key => ?_
  have sums (quantity : Quantity) := sum?_perm h key quantity (steady key quantity)
  have peaks := peak?_perm h key
  simp only [Table.sum?, Table.peak?, get?_table, touches_perm h] at sums peaks ⊢
  split
  · rename_i touched
    simp only [if_pos touched, Option.bind_some, Option.map_some, Option.some.injEq] at sums peaks
    have figures := Quantity.figures_ext sums peaks
    exact congrArg (fun figures => some (Entry.mk key figures)) figures
  · rfl

end Trace

end AllocTrace
