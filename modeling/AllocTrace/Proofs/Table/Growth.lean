import AllocTrace.Proofs.Table.Histories
import AllocTrace.Proofs.Table.Quantities

/-! What further calls change in a table, and what they leave. Main statement: keys stay, peaks only
rise, sums do so as well while nothing negative is added, a key that the calls do not mention keeps
its entry, and of the sums and the peaks each kind of call changes only its own.
-/

namespace AllocTrace

variable {s : Schema}

-----------------------------------------------------------------------------------------
-- Accesses after others
-----------------------------------------------------------------------------------------

theorem Quantity.amounts_append (quantity : Quantity) (left right : List (Record s)) (key : Key s)
    : quantity.amounts (left ++ right) key
      = quantity.amounts left key ++ quantity.amounts right key := by
  simp [amounts]

namespace Trace

theorem touches_append (left right : Trace s) (key : Key s)
    : (left ++ right).Touches key ↔ left.Touches key ∨ right.Touches key := by
  simp only [Touches, records_append, subtotals_append, List.mem_append, or_and_right, exists_or]
  exact or_or_or_comm

theorem Touches.append {trace : Trace s} {key : Key s} (touched : trace.Touches key)
    (later : Trace s)
    : (trace ++ later).Touches key :=
  (touches_append trace later key).mpr (Or.inl touched)

variable {trace : Trace s} (later : Trace s) {key : Key s} {quantity : Quantity}
  {peak sum : Amount}

/-- A key stays once it is in the table. -/
theorem isSome_get?_append (present : (trace.table.get? key).isSome)
    : ((trace ++ later).table.get? key).isSome := by
  simp only [get?_table, Option.isSome_ite] at present ⊢
  exact present.append later

/-- Accesses to other keys leave the entry of a key. -/
theorem get?_append_of_not_touches {later : Trace s} (apart : ¬later.Touches key)
    : (trace ++ later).table.get? key = trace.table.get? key := by
  obtain ⟨unfolded, unraised⟩ := not_or.mp apart
  have records : later.records.filter (·.key = key) = [] :=
    List.filter_eq_nil_iff.mpr fun record member => by
      simpa using fun same => unfolded ⟨record, member, same⟩
  have subtotals : later.subtotals.filter (·.1 = key) = [] :=
    List.filter_eq_nil_iff.mpr fun entry member => by
      simpa using fun same => unraised ⟨entry, member, same⟩
  have same : (trace ++ later).tally key = trace.tally key := by
    rw [tally, records_append, subtotals_append, List.filter_append, List.filter_append, records,
      subtotals, List.append_nil, List.append_nil, tally]
  simp only [get?_table, touches_append, apart, or_false, same]

theorem peak?_nonneg (shown : trace.table.peak? key = some peak)
    : 0 ≤ peak.val := by
  rw [peak?_table, Option.ite_none_right_eq_some] at shown
  rw [← Option.some.inj shown.2]
  exact Amount.greatest_nonneg _

/-- Peaks are raised and never lowered. -/
theorem peak?_append_le (shown : trace.table.peak? key = some peak)
    : ∃ raised, (trace ++ later).table.peak? key = some raised ∧ peak.val ≤ raised.val := by
  rw [peak?_table, Option.ite_none_right_eq_some] at shown
  obtain ⟨touched, same⟩ := shown
  refine ⟨_, by rw [peak?_table, if_pos (touched.append later)], ?_⟩
  rw [← Option.some.inj same]
  simp only [tally, Tally.of, subtotals_append, List.filter_append, List.map_append]
  exact Amount.greatest_le_append _ _

/-- Where no subtotal is merged, peaks stay as they are. -/
theorem peak?_append_of_unraised {later : Trace s} (unraised : later.subtotals = [])
    (shown : trace.table.peak? key = some peak)
    : (trace ++ later).table.peak? key = some peak := by
  rw [peak?_table, Option.ite_none_right_eq_some] at shown
  rw [peak?_table, if_pos (shown.1.append later), ← shown.2]
  simp only [tally, Tally.of, subtotals_append, unraised, List.append_nil]

/-- Where no record is added, the sums of a known key stay as they are. -/
theorem sum?_append_of_unadded {later : Trace s} (unadded : later.records = [])
    (present : (trace.table.get? key).isSome)
    : (trace ++ later).table.sum? key quantity = trace.table.sum? key quantity := by
  simp only [get?_table, Option.isSome_ite] at present
  simp only [sum?_table, records_append, unadded, List.append_nil, present,
    present.append later]

/-- Where nothing negative is added to it, a sum never falls. -/
theorem sum?_append_le (nonneg : ∀ a ∈ quantity.amounts later.records key, 0 ≤ a.val)
    (shown : trace.table.sum? key quantity = some sum)
    : ∃ risen, (trace ++ later).table.sum? key quantity = some risen ∧ sum.val ≤ risen.val := by
  rw [sum?_table, Option.ite_none_right_eq_some] at shown
  obtain ⟨⟨touched, has⟩, same⟩ := shown
  refine ⟨_, by rw [sum?_table, if_pos ⟨touched.append later, has⟩], ?_⟩
  rw [← Option.some.inj same, records_append, Quantity.amounts_append]
  exact Amount.total_le_append _ nonneg

end Trace

-----------------------------------------------------------------------------------------
-- Calls on a table
-----------------------------------------------------------------------------------------

namespace History

variable (calls : History s)

theorem touches_trace (key : Key s)
    : calls.trace.Touches key ↔ calls.Mentions key := by
  rw [← Trace.mem_table, ← table_eq, mem_table]

/-- Calls on a table that accesses have left put their own accesses behind these. -/
theorem foldl_table (trace : Trace s)
    : calls.foldl Call.apply trace.table = Trace.table (trace ++ calls.trace) := by
  rw [foldl_apply, Trace.table, Trace.table, List.foldl_append]

end History

/-- What further calls make of a table, be it one or many: calls that merge nothing only fold, and
calls that fold nothing only merge.
-/
structure Table.Grows (before after : Table s) (calls : History s) : Prop where
  keys : ∀ key, (before.get? key).isSome → (after.get? key).isSome
  peaks_nonneg : ∀ key peak, after.peak? key = some peak → 0 ≤ peak.val
  peaks
    : ∀ key peak,
        before.peak? key = some peak
        → 0 ≤ peak.val ∧ ∃ later, after.peak? key = some later ∧ peak.val ≤ later.val
  frame : ∀ key, ¬calls.Mentions key → after.get? key = before.get? key
  folds
    : calls.merged = []
      → ∀ key peak, before.peak? key = some peak → after.peak? key = some peak
  merges
    : calls.folded = []
      → ∀ key quantity,
          (before.get? key).isSome → after.sum? key quantity = before.sum? key quantity
  phases : after.phases = before.phases + calls.merged.length
  sums
    : ∀ key quantity,
        (∀ a ∈ quantity.amounts calls.folded key, 0 ≤ a.val)
        → ∀ sum,
          before.sum? key quantity = some sum
          → ∃ later, after.sum? key quantity = some later ∧ sum.val ≤ later.val

/-- A table that any accesses have left, of whole calls or of calls still under way, grows by
further calls.
-/
theorem Trace.grows (trace : Trace s) (calls : History s)
    : trace.table.Grows (calls.foldl Call.apply trace.table) calls := by
  rw [calls.foldl_table]
  refine {
    keys := fun _ present => isSome_get?_append calls.trace present
    peaks_nonneg := fun _ _ shown => peak?_nonneg shown
    peaks := fun _ _ shown => ⟨peak?_nonneg shown, peak?_append_le calls.trace shown⟩
    frame := ?_
    folds := ?_
    merges := ?_
    phases := ?_
    sums := ?_
  }
  · intro key other
    exact get?_append_of_not_touches ((not_congr (calls.touches_trace key)).mpr other)
  · intro unmerged key peak shown
    have unraised : calls.trace.subtotals = [] := by
      rw [calls.subtotals_trace, unmerged, List.flatMap_nil]
    exact peak?_append_of_unraised unraised shown
  · intro unfolded key quantity present
    exact sum?_append_of_unadded (calls.records_trace.trans unfolded) present
  · rw [phases_table, phases_table, counted_append, calls.counted_trace]
  · intro key quantity nonneg sum shown
    rw [← calls.records_trace] at nonneg
    exact sum?_append_le calls.trace nonneg shown

end AllocTrace
