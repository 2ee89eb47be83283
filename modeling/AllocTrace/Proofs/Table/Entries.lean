import AllocTrace.Proofs.Amount.Grouping
import AllocTrace.Proofs.Summary.Series
import AllocTrace.Proofs.Table.Schedules

/-! The entries of a table, and the points of its chart, against the records behind them. Main
statements: whole phases leave one entry for each key of their records; and where gains and losses
fit the range, entries and points add up to exactly what the records add up to.
-/

namespace AllocTrace

variable {s : Schema}

-----------------------------------------------------------------------------------------
-- Quantities of records, entries and points
-----------------------------------------------------------------------------------------

namespace Quantity

variable {quantity : Quantity}

/-- The amounts that records add, in order. -/
def ofRecords (quantity : Quantity) (records : List (Record s)) : List Amount :=
  records.filterMap fun record => quantity.ofTotals record.totals

/-- The sum that a point shows, if it shows the quantity. -/
def ofPoint (point : SeriesPoint) : Quantity → Option Amount
  | count => some point.count
  | rawBytes => some point.rawBytes
  | strideBytes => point.strideBytes
  | fallbacks => none

/-- The amount that a record adds, zero where its layout lacks the quantity. -/
def amount (quantity : Quantity) (record : Record s) : Amount :=
  (quantity.ofTotals record.totals).getD 0

/-- The sum that an entry shows, zero where its layout lacks the quantity. -/
def sum (quantity : Quantity) (entry : Entry s) : Amount :=
  (quantity.ofFigures entry.figures).getD 0

theorem ofTotals_eq (quantity : Quantity) (record : Record s)
    : quantity.ofTotals record.totals
      = if quantity.Shown s then some (quantity.amount record) else none := by
  cases record <;> cases quantity <;> simp [ofTotals, amount, Record.totals, Shown]

theorem ofRecords_eq (quantity : Quantity) (records : List (Record s))
    : quantity.ofRecords records
      = if quantity.Shown s then records.map quantity.amount else [] := by
  simp only [ofRecords, ofTotals_eq]
  split
  · rw [List.filterMap_eq_map']
  · simp

theorem ofRecords_perm (quantity : Quantity) {left right : List (Record s)}
    (h : left.Perm right)
    : (quantity.ofRecords left).Perm (quantity.ofRecords right) :=
  h.filterMap _

/-- Rows that all show a quantity, or all lack it, make a point that shows their sum, or lacks it.
-/
theorem ofPoint_of {shown : Prop} [Decidable shown] (charted : quantity ≠ .fallbacks)
    {rows : List (Entry s)} (present : rows ≠ [])
    (h : ∀ row ∈ rows,
      quantity.ofFigures row.figures = if shown then some (quantity.sum row) else none)
    (size : Amount)
    : quantity.ofPoint (.of size (rows.map (·.figures)))
      = if shown then some (.total (rows.map quantity.sum)) else none := by
  obtain ⟨first, rest, rfl⟩ := List.exists_cons_of_ne_nil present
  have head := h first List.mem_cons_self
  cases quantity with
  | fallbacks => exact absurd rfl charted
  | count =>
      have always : shown := by
        by_contra never
        simp [ofFigures, never] at head
      rw [if_pos always]
      exact congrArg (fun amounts => some (Amount.total amounts)) List.map_map
  | rawBytes =>
      have always : shown := by
        by_contra never
        simp [ofFigures, never] at head
      rw [if_pos always]
      exact congrArg (fun amounts => some (Amount.total amounts)) List.map_map
  | strideBytes =>
      by_cases all : shown
      · simp only [ofFigures, if_pos all] at head h
        have sums : (first :: rest).filterMap (·.figures.strideBytes)
            = (first :: rest).map (sum .strideBytes) :=
           List.filterMap_eq_map_iff_forall_eq_some.mpr h
        rw [if_pos all, ofPoint, SeriesPoint.of, List.filterMap_map, List.map_cons, List.head?_cons,
          Option.bind_some, head, Option.map_some, ← sums]
        rfl
      · simp only [ofFigures, if_neg all] at head
        simp [all, ofPoint, SeriesPoint.of, head]

end Quantity

-----------------------------------------------------------------------------------------
-- Keys
-----------------------------------------------------------------------------------------

namespace Table

theorem keys_entries (table : Table s)
    : table.entries.map (·.key) = table.tallies.keys := by
  rw [entries, List.map_map, ← Std.ExtTreeMap.map_fst_toList_eq_keys]
  rfl

theorem nodup_keys (table : Table s)
    : (table.entries.map (·.key)).Nodup := by
  rw [keys_entries]
  exact Std.ExtTreeMap.nodup_keys

/-- The entries of one size. -/
def entriesOf (table : Table s) (size : Amount) : List (Entry s) :=
  table.entries.filter (·.key.size = size)

theorem mem_entriesOf {table : Table s} {size : Amount} {entry : Entry s}
    : entry ∈ table.entriesOf size ↔ entry ∈ table.entries ∧ entry.key.size = size := by
  simp [entriesOf]

theorem nodup_keys_entriesOf (table : Table s) (size : Amount)
    : ((table.entriesOf size).map (·.key)).Nodup :=
  table.nodup_keys.sublist (List.filter_sublist.map _)

end Table

namespace Trace

variable {trace : Trace s} {phases : List (List (Record s))}

theorem subtotals_phases (phases : List (List (Record s)))
    : Trace.subtotals (phases.flatMap Trace.ofPhase)
      = phases.flatMap fun records => (Subtotals.ofRecords records).toList := by
  simp only [subtotals, List.filterMap_flatMap]
  exact List.flatMap_congr fun records _ => subtotals_ofPhase records

theorem records_perm (h : trace.Perm (phases.flatMap Trace.ofPhase))
    : trace.records.Perm phases.flatten := by
  rw [← records_phases]
  exact h.filterMap Access.record?

/-- The subtotals of whole phases stand under keys of their records. -/
theorem touches_phases (h : trace.Perm (phases.flatMap Trace.ofPhase)) (key : Key s)
    : trace.Touches key ↔ ∃ record ∈ trace.records, record.key = key := by
  constructor
  · rintro (known | ⟨⟨name, bytes⟩, raised, rfl⟩)
    · exact known
    · have member : (name, bytes) ∈ Trace.subtotals (phases.flatMap Trace.ofPhase) :=
        (h.filterMap Access.subtotal?).mem_iff.mp raised
      rw [subtotals_phases] at member
      obtain ⟨records, phase, listed⟩ := List.mem_flatMap.mp member
      have found := Subtotals.mem_toList.mp listed
      rw [Subtotals.get?_ofRecords, Option.ite_none_right_eq_some] at found
      obtain ⟨⟨record, held, same⟩, -⟩ := found
      exact ⟨record, (records_perm h).mem_iff.mpr (List.mem_flatten_of_mem phase held), same⟩
  · exact Or.inl

/-- The keys are the distinct keys of the records. -/
theorem size_table_phases (h : trace.Perm (phases.flatMap Trace.ofPhase))
    : trace.table.size = (phases.flatten.map (·.key)).dedup.length := by
  have same : trace.table.tallies.keys.Perm (phases.flatten.map (·.key)).dedup := by
    apply (List.perm_ext_iff_of_nodup Std.ExtTreeMap.nodup_keys (List.nodup_dedup _)).mpr
    intro key
    rw [Std.ExtTreeMap.mem_keys, mem_table, touches_phases h, List.mem_dedup, List.mem_map]
    simp only [(records_perm h).mem_iff]
  rw [← same.length_eq, Std.ExtTreeMap.length_keys, Table.size]

theorem mem_entries_keys (h : trace.Perm (phases.flatMap Trace.ofPhase)) (key : Key s)
    : key ∈ trace.table.entries.map (·.key) ↔ ∃ record ∈ phases.flatten, record.key = key := by
  rw [Table.keys_entries, Std.ExtTreeMap.mem_keys, mem_table, touches_phases h]
  simp only [(records_perm h).mem_iff]

/-- The series has the sizes of the records. -/
theorem mem_series_sizes (h : trace.Perm (phases.flatMap Trace.ofPhase)) {size : Amount}
    : size ∈ (Summary.ofTable trace.table).series.map (·.size)
      ↔ ∃ record ∈ phases.flatten, record.key.size = size := by
  rw [Summary.mem_series_sizes]
  constructor
  · rintro ⟨entry, member, same⟩
    obtain ⟨record, held, key⟩ := (mem_entries_keys h _).mp (List.mem_map_of_mem member)
    exact ⟨record, held, by rw [key, same]⟩
  · rintro ⟨record, held, same⟩
    obtain ⟨entry, member, key⟩ :=
      List.mem_map.mp ((mem_entries_keys h record.key).mpr ⟨record, held, rfl⟩)
    exact ⟨entry, member, by rw [key, same]⟩

/-- The keys of one size cover the records of that size. -/
theorem mem_keys_entriesOf (h : trace.Perm (phases.flatMap Trace.ofPhase)) {record : Record s}
    (member : record ∈ phases.flatten)
    : record.key ∈ (trace.table.entriesOf record.key.size).map (·.key) := by
  obtain ⟨entry, listed, under⟩ :=
    List.mem_map.mp ((mem_entries_keys h record.key).mpr ⟨record, member, rfl⟩)
  exact List.mem_map.mpr ⟨entry, Table.mem_entriesOf.mpr ⟨listed, by rw [under]⟩, under⟩

-----------------------------------------------------------------------------------------
-- Sums
-----------------------------------------------------------------------------------------

/-- An entry shows the sum of its records, taken in the order in which they were added. -/
theorem ofFigures_entries (trace : Trace s) (quantity : Quantity) {entry : Entry s}
    (member : entry ∈ trace.table.entries)
    : quantity.ofFigures entry.figures
      = if quantity.Shown s then some (.total (quantity.amounts trace.records entry.key))
        else none := by
  have found := (trace.table.listed.mem_iff entry).mp member
  have touched : trace.Touches entry.key := by
    rw [get?_table, Option.ite_none_right_eq_some] at found
    exact found.1
  have shown := trace.sum?_table entry.key quantity
  rw [Table.sum?, found, Option.bind_some] at shown
  simpa only [touched, true_and] using shown

/-- An entry holds the total of the records of its key. -/
theorem sum_entry (trace : Trace s) {quantity : Quantity} (shown : quantity.Shown s)
    {entry : Entry s} (member : entry ∈ trace.table.entries)
    : quantity.sum entry
      = .total ((trace.records.filter (·.key = entry.key)).map quantity.amount) := by
  have amounts : quantity.amounts trace.records entry.key
      = (trace.records.filter (·.key = entry.key)).map quantity.amount := by
    have added := quantity.ofRecords_eq (trace.records.filter (·.key = entry.key))
    rwa [if_pos shown] at added
  rw [Quantity.sum, ofFigures_entries trace quantity member, if_pos shown, amounts,
    Option.getD_some]

/-- The entries hold the totals of the records, grouped by key. -/
theorem sums_entries (trace : Trace s) {quantity : Quantity} (shown : quantity.Shown s)
    : trace.table.entries.map quantity.sum
      = Amount.groupTotals Record.key quantity.amount trace.records
          (trace.table.entries.map (·.key)) := by
  rw [Amount.groupTotals, List.map_map]
  exact List.map_congr_left fun entry member => sum_entry trace shown member

/-- A point shows the total of the entries of its size. -/
theorem ofPoint_series (trace : Trace s) {quantity : Quantity} (charted : quantity ≠ .fallbacks)
    {point : SeriesPoint} (member : point ∈ (Summary.ofTable trace.table).series)
    : quantity.ofPoint point
      = if quantity.Shown s then
          some (.total ((trace.table.entriesOf point.size).map quantity.sum))
        else none := by
  obtain ⟨⟨row, listed, same⟩, whole⟩ := Summary.mem_series.mp member
  have present : trace.table.entriesOf point.size ≠ [] :=
    List.ne_nil_of_mem (Table.mem_entriesOf.mpr ⟨listed, same⟩)
  rw [whole]
  refine Quantity.ofPoint_of charted present ?_ point.size
  intro row held
  rw [Quantity.sum, ofFigures_entries trace quantity (Table.mem_entriesOf.mp held).1]
  split <;> rfl

/-- Where the records of a size add amounts of one sign, its point shows their total, as if they had
not been added up by key before.
-/
theorem ofPoint_oneSigned (h : trace.Perm (phases.flatMap Trace.ofPhase)) {quantity : Quantity}
    (charted : quantity ≠ .fallbacks) {point : SeriesPoint}
    (member : point ∈ (Summary.ofTable trace.table).series)
    (one : Amount.OneSigned
      ((phases.flatten.filter (·.key.size = point.size)).map quantity.amount))
    : quantity.ofPoint point
      = if quantity.Shown s then
          some (.total ((phases.flatten.filter (·.key.size = point.size)).map quantity.amount))
        else none := by
  rw [ofPoint_series trace charted member]
  refine if_ctx_congr Iff.rfl (fun shown => congrArg some ?_) fun _ => rfl
  have same := ((records_perm h).filter (·.key.size = point.size)).map quantity.amount
  have grouped : (trace.table.entriesOf point.size).map quantity.sum
      = Amount.groupTotals Record.key quantity.amount
          (trace.records.filter (·.key.size = point.size))
          ((trace.table.entriesOf point.size).map (·.key)) := by
    rw [Amount.groupTotals, List.map_map]
    refine List.map_congr_left fun entry held => ?_
    obtain ⟨listed, sized⟩ := Table.mem_entriesOf.mp held
    rw [sum_entry trace shown listed, Function.comp_apply, List.filter_filter]
    have kept : trace.records.filter (·.key = entry.key)
        = trace.records.filter fun record =>
          decide (record.key = entry.key) && decide (record.key.size = point.size) := by
      refine List.filter_congr fun record _ => ?_
      by_cases under : record.key = entry.key
      · simpa [under] using sized
      · simp [under]
    rw [kept]
  have covered : ∀ record ∈ trace.records.filter (·.key.size = point.size),
      record.key ∈ (trace.table.entriesOf point.size).map (·.key) := by
    intro record held
    obtain ⟨added, sized⟩ := List.mem_filter.mp held
    have known := mem_keys_entriesOf h ((records_perm h).mem_iff.mp added)
    rwa [of_decide_eq_true sized] at known
  rw [grouped, Amount.total_groupTotals (trace.table.nodup_keys_entriesOf _) covered
    (one.perm same.symm), Amount.total_perm same (Or.inl (one.perm same.symm))]

/-- The points hold the totals of the entries, grouped by size. -/
theorem sums_points (trace : Trace s) {quantity : Quantity} (charted : quantity ≠ .fallbacks)
    : (Summary.ofTable trace.table).series.filterMap quantity.ofPoint
      = if quantity.Shown s then
          Amount.groupTotals (·.key.size) quantity.sum trace.table.entries
            ((Summary.ofTable trace.table).series.map (·.size))
        else [] := by
  rw [List.filterMap_congr fun point member => ofPoint_series trace charted member]
  split
  · rw [List.filterMap_eq_map', Amount.groupTotals, List.map_map]
    rfl
  · simp

/-- If all gains and all losses of the records fit the range, the points add up to exactly what the
records add up to: summing by key and then by size loses nothing and counts nothing twice.
-/
theorem exactTotal_points (h : trace.Perm (phases.flatMap Trace.ofPhase)) {quantity : Quantity}
    (charted : quantity ≠ .fallbacks)
    (contained : Amount.Contained (quantity.ofRecords phases.flatten))
    : Amount.exactTotal ((Summary.ofTable trace.table).series.filterMap quantity.ofPoint)
      = Amount.exactTotal (quantity.ofRecords phases.flatten) := by
  have same := quantity.ofRecords_perm (records_perm h)
  have steady := contained.perm same.symm
  rw [← Amount.exactTotal_perm same, sums_points trace charted]
  by_cases shown : quantity.Shown s
  · -- Grouping by key leaves entries that fit the range as the records do, so grouping by size is
    -- exact again.
    rw [Quantity.ofRecords_eq, if_pos shown] at steady ⊢
    rw [if_pos shown]
    have known : ∀ record ∈ trace.records,
        record.key ∈ trace.table.entries.map (·.key) := by
      intro record member
      exact (mem_entries_keys h _).mpr ⟨record, (records_perm h).mem_iff.mp member, rfl⟩
    have sized : ∀ entry ∈ trace.table.entries,
        entry.key.size ∈ (Summary.ofTable trace.table).series.map (·.size) :=
      fun entry member => Summary.mem_series_sizes.mpr ⟨entry, member, rfl⟩
    obtain ⟨keyed, byKey⟩ :=
      Amount.groupTotals_contained (Table.nodup_keys trace.table) known steady
    rw [← sums_entries trace shown] at keyed byKey
    obtain ⟨-, bySize⟩ := Amount.groupTotals_contained
      (Summary.series_sizes_nodup (.ofTable trace.table)) sized keyed
    exact bySize.trans byKey
  · rw [Quantity.ofRecords_eq, if_neg shown, if_neg shown]

end Trace

end AllocTrace
