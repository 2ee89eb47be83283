import AllocTrace.Phase
import AllocTrace.Proofs.Csv.Splitting
import AllocTrace.Proofs.Text.Stripping

/-! What a phase reader delivers. Main statements: a row holds the record whose fields stand under
the names of their columns, and the reader delivers the records of its rows in order and accounts
for every row.
-/

namespace AllocTrace

variable {s : Schema}

-----------------------------------------------------------------------------------------
-- Rows
-----------------------------------------------------------------------------------------

theorem Schema.two_le_length_columns (s : Schema)
    : 2 ≤ s.columns.length := by
  cases s <;> decide

namespace ColumnIndex

/-- A required column is looked up among the stripped names. -/
theorem position?_ofHeader (header : List String) {required : List String} {column : String}
    (h : column ∈ required)
    : (ofHeader header required).position? column = (header.map Text.trim).idxOf? column := by
  unfold ofHeader position?
  dsimp only
  induction required with
  | nil => simp at h
  | cons name rest ih =>
      by_cases same : column = name
      · subst same
        simp
      · have differ : (column == name) = false := beq_false_of_ne same
        simpa only [List.map_cons, List.lookup_cons, differ]
          using ih ((List.mem_cons.mp h).resolve_left same)

theorem ofHeader_trimmed (header required : List String)
    : ofHeader (header.map Text.trim) required = ofHeader header required := by
  simp [ofHeader, Function.comp_def, Text.trim_trim]

/-- A row has an integer in a column if the cell under its name holds one. -/
theorem integer_eq_ok_iff {index : ColumnIndex} {row : List String} {column : String} {a : Amount}
    : index.integer row column = .ok a
      ↔ ∃ position cell,
          index.position? column = some position
          ∧ row[position]? = some cell
          ∧ readInteger column cell = .ok a := by
  unfold integer
  cases index.position? column with
  | none => simp
  | some position =>
      cases shown : row[position]? <;> simp [shown]

end ColumnIndex

namespace Record

/-- The field of the record in a column. -/
def value? (record : Record s) (column : String) : Option Amount :=
  (s.columns.zip record.fields).lookup column

theorem bind_eq_ok_iff {ε α β : Type} {first : Except ε α} {next : α → Except ε β} {b : β}
    : (first >>= next) = .ok b ↔ ∃ a, first = .ok a ∧ next a = .ok b := by
  cases first <;> simp [bind, Except.bind]

theorem map_eq_ok_iff {ε α β : Type} {first : Except ε α} {f : α → β} {b : β}
    : f <$> first = .ok b ↔ ∃ a, first = .ok a ∧ f a = b := by
  cases first <;> simp [Functor.map, Except.map]

/-- A row is read as a record exactly if every required column holds the record's field. -/
theorem ofRow_eq_ok_iff {index : ColumnIndex} {row : List String} {record : Record s}
    : ofRow s index row = .ok record
      ↔ ∀ column ∈ s.columns,
          ∃ a, record.value? column = some a ∧ index.integer row column = .ok a := by
  cases record with
  | stride bucket count rawBytes =>
      simp [ofRow, bind_eq_ok_iff, map_eq_ok_iff, value?, fields, Schema.columns, List.lookup_cons]
  | proxy rawSize alignment proxyIndex count fallbacks rawTotal strideTotal =>
      simp [ofRow, bind_eq_ok_iff, map_eq_ok_iff, value?, fields, Schema.columns, List.lookup_cons]

/-- A row with an integer in every required column is a record. -/
theorem exists_ofRow {index : ColumnIndex} {row : List String}
    (h : ∀ column ∈ s.columns, ∃ a, index.integer row column = .ok a)
    : ∃ record : Record s, ofRow s index row = .ok record := by
  cases s with
  | stride =>
      simp only [Schema.columns, List.forall_mem_cons] at h
      obtain ⟨⟨bucket, hasBucket⟩, ⟨count, hasCount⟩, ⟨rawBytes, hasRawBytes⟩, -⟩ := h
      refine ⟨.stride bucket count rawBytes, ofRow_eq_ok_iff.mpr ?_⟩
      simp [value?, fields, Schema.columns, List.lookup_cons, hasBucket, hasCount, hasRawBytes]
  | proxy =>
      simp only [Schema.columns, List.forall_mem_cons] at h
      obtain ⟨⟨rawSize, hasRawSize⟩, ⟨alignment, hasAlignment⟩, ⟨proxyIndex, hasProxyIndex⟩,
        ⟨count, hasCount⟩, ⟨fallbacks, hasFallbacks⟩, ⟨rawTotal, hasRawTotal⟩,
        ⟨strideTotal, hasStrideTotal⟩, -⟩ := h
      refine ⟨.proxy rawSize alignment proxyIndex count fallbacks rawTotal strideTotal,
        ofRow_eq_ok_iff.mpr ?_⟩
      simp [value?, fields, Schema.columns, List.lookup_cons, hasRawSize, hasAlignment,
        hasProxyIndex, hasCount, hasFallbacks, hasRawTotal, hasStrideTotal]

end Record

-----------------------------------------------------------------------------------------
-- Records and counters
-----------------------------------------------------------------------------------------

namespace PhaseReader

/-- The item holds no record. -/
def isVoid (s : Schema) (index : ColumnIndex) (item : Csv.Item) : Bool :=
  (decode? (s := s) index item).isNone

/-- The reader with its next `n` items counted and behind it. -/
def past (reader : PhaseReader s) (n : Nat) : PhaseReader s :=
  {
    index := reader.index
    pending := reader.pending.drop n
    count :=
      {
        rows := reader.count.rows + (reader.pending.take n).length
        skipped := reader.count.skipped + (reader.pending.take n).countP (isVoid s reader.index)
      }
  }

@[simp]
theorem past_zero (reader : PhaseReader s)
    : reader.past 0 = reader :=
  rfl

theorem past_past (reader : PhaseReader s) (m n : Nat)
    : (reader.past m).past n = reader.past (m + n) := by
  simp [past, List.take_add, Nat.add_assoc]

/-- One more item behind the reader, by whether it holds a record. -/
theorem past_cons (index : ColumnIndex) (item : Csv.Item) (rest : List Csv.Item)
    (count : RowCount) (n : Nat)
    : (PhaseReader.mk (s := s) index (item :: rest) count).past (n + 1)
      = (PhaseReader.mk index rest
          {
            rows := count.rows + 1
            skipped := count.skipped + if isVoid s index item then 1 else 0
          }).past n := by
  simp only [past, List.drop_succ_cons, List.take_succ_cons, List.length_cons, List.countP_cons,
    PhaseReader.mk.injEq, RowCount.mk.injEq, true_and]
  omega

/-- A call puts items behind the reader up to the first that holds a record, or all of them. By
induction on the items.
-/
theorem next_past (reader : PhaseReader s)
    : ∃ n ≤ reader.pending.length,
        reader.next.2 = reader.past n
        ∧ (reader.pending.take n).filterMap (decode? reader.index) = reader.next.1.toList
        ∧ (reader.next.1 = none → n = reader.pending.length) := by
  obtain ⟨index, items, count⟩ := reader
  induction items generalizing count with
  | nil => exact ⟨0, Nat.le_refl 0, rfl, rfl, fun _ => rfl⟩
  | cons item rest ih =>
      cases h : decode? (s := s) index item with
      | some record =>
          have next : (PhaseReader.mk index (item :: rest) count).next
              = (some record, .mk index rest { count with rows := count.rows + 1 }) := by
            simp only [PhaseReader.next, advance, h]
          have after : (PhaseReader.mk (s := s) index (item :: rest) count).past 1
              = .mk index rest { count with rows := count.rows + 1 } := by
            rw [past_cons, past_zero]
            simp [isVoid, h]
          rw [next]
          exact ⟨1, by simp, after.symm, by simp [h], by simp⟩
      | none =>
          have next : (PhaseReader.mk index (item :: rest) count).next
              = (PhaseReader.mk (s := s) index rest
                  { rows := count.rows + 1, skipped := count.skipped + 1 }).next := by
            simp only [PhaseReader.next, advance, h]
          rw [next]
          obtain ⟨n, within, after, found, ended⟩ :=
            ih { rows := count.rows + 1, skipped := count.skipped + 1 }
          refine ⟨n + 1, Nat.succ_le_succ within, ?_, ?_, ?_⟩
          · rw [past_cons, after]
            simp [isVoid, h]
          · rw [List.take_succ_cons, List.filterMap_cons_none h]
            exact found
          · exact fun none => congrArg Nat.succ (ended none)

/-- Every item holds a record or is void. -/
theorem length_held_add_void (s : Schema) (index : ColumnIndex) (items : List Csv.Item)
    : (items.filterMap (decode? (s := s) index)).length + items.countP (isVoid s index)
      = items.length := by
  rw [List.length_filterMap_eq_countP, List.length_eq_countP_add_countP
    (fun item => (decode? (s := s) index item).isSome)]
  congr 2
  funext item
  cases h : decode? (s := s) index item <;> simp [isVoid, h]

/-- A reader comes to a record or to the end. It loses no record on the way, counts every row that
it passes, and counts as skipped every one but the record's.
-/
structure Passed (reader : PhaseReader s) (found : Option (Record s)) (after : PhaseReader s)
    : Prop where
  index : after.index = reader.index
  records
    : reader.pending.filterMap (decode? reader.index)
      = found.toList ++ after.pending.filterMap (decode? reader.index)
  rows : after.count.rows + after.pending.length = reader.count.rows + reader.pending.length
  skipped
    : after.count.skipped + after.pending.length + found.toList.length
      = reader.count.skipped + reader.pending.length
  ended : found = none → after.pending = []

/-- Each call passes over the rows without a record. -/
theorem passed (reader : PhaseReader s)
    : Passed reader reader.next.1 reader.next.2 := by
  obtain ⟨n, within, after, found, ended⟩ := reader.next_past
  have whole := List.take_append_drop n reader.pending
  have lengths := congrArg List.length whole
  have split := length_held_add_void s reader.index (reader.pending.take n)
  rw [found] at split
  rw [List.length_append] at lengths
  rw [after]
  refine {
    index := rfl
    records := ?_
    rows := ?_
    skipped := ?_
    ended := ?_
  }
  · rw [← found, past, ← List.filterMap_append, whole]
  · simp only [past]
    omega
  · simp only [past]
    omega
  · intro none
    rw [past, ended none, List.drop_length]

theorem deliveries_none {reader : PhaseReader s} (h : reader.next.1 = none)
    : reader.deliveries = ([], reader.next.2) := by
  rw [deliveries]
  split <;> simp_all

theorem deliveries_some {reader : PhaseReader s} {record : Record s}
    (h : reader.next.1 = some record)
    : reader.deliveries
      = ((record, reader.next.2.count) :: reader.next.2.deliveries.1, reader.next.2.deliveries.2)
    := by
  rw [deliveries]
  split <;> simp_all

/-- A reader delivers the records of its rows, in order, and in the end has counted every row, the
rows without a record as skipped. By induction on the deliveries.
-/
theorem delivered (reader : PhaseReader s)
    : reader.records = reader.pending.filterMap (decode? reader.index)
      ∧ reader.total.rows = reader.count.rows + reader.pending.length
      ∧ reader.total.skipped + reader.records.length
        = reader.count.skipped + reader.pending.length := by
  induction reader using deliveries.induct with
  | case1 reader h =>
      obtain ⟨-, found, rows, skipped, ended⟩ := reader.passed
      rw [ended h] at found rows skipped
      rw [h] at found skipped
      rw [records, total, deliveries_none h, found, ← rows, ← skipped]
      exact ⟨rfl, rfl, rfl⟩
  | case2 reader record h _ _ _ ih =>
      obtain ⟨index, found, rows, skipped, -⟩ := reader.passed
      rw [index] at ih
      rw [h] at found skipped
      have records : reader.records = record :: reader.next.2.records := by
        rw [PhaseReader.records, deliveries_some h]
        rfl
      have total : reader.total = reader.next.2.total := by
        rw [PhaseReader.total, deliveries_some h]
        rfl
      rw [records, total, found, ← rows, ← skipped]
      refine ⟨congrArg (List.cons record) ih.1, ih.2.1, ?_⟩
      simp only [List.length_cons, Option.toList_some, List.length_nil]
      omega

-----------------------------------------------------------------------------------------
-- Records of a source
-----------------------------------------------------------------------------------------

/-- The record that a row of undecoded fields holds. -/
def read? (index : ColumnIndex) (raw : Csv.RawRecord) : Option (Record s) :=
  decode? index (Csv.Item.ofRecord raw).trimmed

theorem read?_eq_some_iff {index : ColumnIndex} {raw : Csv.RawRecord} {record : Record s}
    : read? index raw = some record
      ↔ ∃ cells,
          raw.cells? = some cells
          ∧ Record.ofRow s index (cells.map Text.trim) = .ok record := by
  unfold read? Csv.Item.ofRecord
  cases raw.cells? with
  | none => simp [Csv.Item.trimmed, decode?]
  | some cells =>
      cases h : Record.ofRow s index (cells.map Text.trim) <;>
        simp [Csv.Item.trimmed, decode?, Except.toOption, h]

/-- The first record of a source names the columns, and every later one is a row. -/
theorem ofSource_eq {source : Csv.Source} (h : source.fails = false) {names : Csv.RawRecord}
    {rows : List Csv.RawRecord} (shown : Csv.split source.text = names :: rows)
    : ofSource s source
      = {
        index := ColumnIndex.ofHeader (names.cells?.getD []) s.columns
        pending := rows.map fun raw => (Csv.Item.ofRecord raw).trimmed
        count := { rows := 0, skipped := 0 }
      } := by
  rw [ofSource, ofContents, Csv.Source.contents, Csv.Source.records_eq h, shown]
  simp [Csv.Contents.trimmed, ColumnIndex.ofHeader_trimmed]

/-- A source delivers the records of its rows, in order, and counts every row. -/
theorem delivered_ofSource {source : Csv.Source} (h : source.fails = false)
    {names : Csv.RawRecord} {rows : List Csv.RawRecord}
    (shown : Csv.split source.text = names :: rows)
    : (ofSource s source).records
        = rows.filterMap (read? (ColumnIndex.ofHeader (names.cells?.getD []) s.columns))
      ∧ (ofSource s source).total.rows = rows.length
      ∧ (ofSource s source).total.skipped + (ofSource s source).records.length = rows.length := by
  obtain ⟨records, total, skipped⟩ := (ofSource s source).delivered
  rw [ofSource_eq h shown] at records total skipped ⊢
  refine ⟨?_, by simpa using total, by simpa using skipped⟩
  rw [records, List.filterMap_map]
  rfl

end PhaseReader

end AllocTrace
