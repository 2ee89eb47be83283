import AllocTrace.Proofs.Phase.Reading

/-! The account of a phase reader, call by call. Main statement: calls yield the records of the items
in order and then nothing, after each of them the counters tell exactly which items lie behind the
reader, and items that hold no record change the counters alone.
-/

namespace AllocTrace

variable {s : Schema}

namespace PhaseReader

-----------------------------------------------------------------------------------------
-- Calls one after the other
-----------------------------------------------------------------------------------------

/-- The records still to come. -/
def held (reader : PhaseReader s) : List (Record s) :=
  reader.pending.filterMap (decode? reader.index)

/-- What a number of calls yield, and the reader after them. -/
def calls (reader : PhaseReader s) : Nat → List (Option (Record s)) × PhaseReader s
  | 0 => ([], reader)
  | n + 1 => (reader.next.1 :: (reader.next.2.calls n).1, (reader.next.2.calls n).2)

theorem calls_add (reader : PhaseReader s) (m n : Nat)
    : reader.calls (m + n)
      = ((reader.calls m).1 ++ ((reader.calls m).2.calls n).1, ((reader.calls m).2.calls n).2) := by
  induction m generalizing reader with
  | zero => simp [calls]
  | succ m ih => simp only [Nat.succ_add, calls, ih, List.cons_append]

theorem held_next (reader : PhaseReader s)
    : reader.held = reader.next.1.toList ++ reader.next.2.held := by
  have passed := reader.passed
  rw [held, passed.records, held, passed.index]

theorem held_of_next_none {reader : PhaseReader s} (h : reader.next.1 = none)
    : reader.held = [] ∧ reader.next.2.held = [] := by
  have nothing : reader.next.2.held = [] := by rw [held, reader.passed.ended h, List.filterMap_nil]
  exact ⟨by rw [held_next, h, nothing]; rfl, nothing⟩

/-- The calls yield the records in order and then nothing, by induction on the calls. -/
theorem yielded_calls (reader : PhaseReader s) (n : Nat)
    : (reader.calls n).1
      = (reader.held.take n).map some ++ List.replicate (n - reader.held.length) none := by
  induction n generalizing reader with
  | zero => simp [calls]
  | succ n ih =>
      rw [calls, ih]
      cases found : reader.next.1 with
      | none =>
          obtain ⟨before, after⟩ := held_of_next_none found
          simp [before, after, List.replicate_succ]
      | some record =>
          have split : reader.held = record :: reader.next.2.held := by
            rw [held_next, found]
            rfl
          simp [split]

/-- A call yields nothing once all records are yielded, and not before. -/
theorem none_mem_calls_iff {reader : PhaseReader s} {n : Nat}
    : none ∈ (reader.calls n).1 ↔ reader.held.length < n := by
  have held : none ∉ (reader.held.take n).map some := by
    intro member
    obtain ⟨record, -, same⟩ := List.mem_map.mp member
    cases same
  rw [yielded_calls, List.mem_append, or_iff_right held, List.mem_replicate]
  simp [Nat.sub_eq_zero_iff_le]

theorem filterMap_calls (reader : PhaseReader s) (n : Nat)
    : (reader.calls n).1.filterMap id = reader.held.take n := by
  rw [yielded_calls, List.filterMap_append, List.filterMap_map, List.filterMap_replicate]
  simp

/-- After any calls some of the items lie behind the reader: those up to the last record yielded, and
all of them once a call has yielded nothing. By induction on the calls.
-/
theorem calls_past (reader : PhaseReader s) (n : Nat)
    : ∃ consumed ≤ reader.pending.length,
        (reader.calls n).2 = reader.past consumed
        ∧ (reader.pending.take consumed).filterMap (decode? reader.index) = reader.held.take n
        ∧ (reader.held.length < n → consumed = reader.pending.length) := by
  induction n generalizing reader with
  | zero => exact ⟨0, Nat.zero_le _, rfl, rfl, fun h => absurd h (Nat.not_lt_zero _)⟩
  | succ n ih =>
      obtain ⟨first, within, after, found, ended⟩ := reader.next_past
      obtain ⟨others, bounded, final, later, last⟩ := ih reader.next.2
      have rest : reader.next.2.pending = reader.pending.drop first := by rw [after]; rfl
      have index : reader.next.2.index = reader.index := by rw [after]; rfl
      rw [rest, List.length_drop] at bounded last
      rw [index, rest] at later
      refine ⟨first + others, by omega, ?_, ?_, ?_⟩
      · rw [calls, final, after, past_past]
      · rw [List.take_add, List.filterMap_append, found, later, reader.held_next]
        cases known : reader.next.1 with
        | none => simp [(held_of_next_none known).2]
        | some record => simp
      · intro short
        rw [held_next, List.length_append] at short
        cases known : reader.next.1 with
        | none =>
            have := ended known
            omega
        | some record =>
            rw [known, Option.toList_some, List.length_singleton] at short
            have := last (by omega)
            omega

theorem calls_of_pending_nil {reader : PhaseReader s} (h : reader.pending = []) (n : Nat)
    : reader.calls n = (List.replicate n none, reader) := by
  obtain ⟨index, items, count⟩ := reader
  obtain rfl : items = [] := h
  induction n with
  | zero => rfl
  | succ n ih =>
      have next : (PhaseReader.mk (s := s) index [] count).next = (none, .mk index [] count) := rfl
      rw [calls, next, ih, List.replicate_succ]

-----------------------------------------------------------------------------------------
-- Reading to the end
-----------------------------------------------------------------------------------------

/-- In the end every item lies behind the reader, by induction on the deliveries. -/
theorem deliveries_past (reader : PhaseReader s)
    : reader.deliveries.2 = reader.past reader.pending.length := by
  induction reader using deliveries.induct with
  | case1 reader h =>
      obtain ⟨n, -, after, -, ended⟩ := reader.next_past
      rw [deliveries_none h, after, ended h]
  | case2 reader record h _ _ _ ih =>
      obtain ⟨n, within, after, -, -⟩ := reader.next_past
      have rest : reader.next.2.pending.length = reader.pending.length - n := by
        rw [after, past, List.length_drop]
      rw [deliveries_some h, ih, rest, after, past_past, Nat.add_sub_cancel' within]

theorem total_past (reader : PhaseReader s)
    : reader.total = (reader.past reader.pending.length).count := by
  rw [total, deliveries_past]

theorem records_eq_held (reader : PhaseReader s)
    : reader.records = reader.held :=
  reader.delivered.1

/-- Once the records are yielded, every call yields nothing and the counters are the final ones. -/
theorem calls_ended (reader : PhaseReader s) {n : Nat} (h : reader.held.length < n)
    : (reader.calls n).1
        = reader.records.map some ++ List.replicate (n - reader.records.length) none
      ∧ (reader.calls n).2.count = reader.total := by
  obtain ⟨consumed, -, after, -, ended⟩ := reader.calls_past n
  refine ⟨?_, ?_⟩
  · rw [yielded_calls, records_eq_held, List.take_of_length_le (Nat.le_of_lt h)]
  · rw [after, ended h, total_past]

-----------------------------------------------------------------------------------------
-- Items without a record
-----------------------------------------------------------------------------------------

/-- The second items are the first with a number of items put in anywhere that hold no record. -/
inductive Interspersed (s : Schema) (index : ColumnIndex)
    : List Csv.Item → List Csv.Item → Nat → Prop
  | nil : Interspersed s index [] [] 0
  | keep (item : Csv.Item) {items listing : List Csv.Item} {added : Nat}
    (rest : Interspersed s index items listing added)
    : Interspersed s index (item :: items) (item :: listing) added
  | insert (item : Csv.Item) (void : decode? (s := s) index item = none)
    {items listing : List Csv.Item} {added : Nat}
    (rest : Interspersed s index items listing added)
    : Interspersed s index items (item :: listing) (added + 1)

/-- Items put in that hold no record leave the records as they are, by induction on the items. -/
theorem Interspersed.records {index : ColumnIndex} {items listing : List Csv.Item} {added : Nat}
    (h : Interspersed s index items listing added)
    : listing.filterMap (decode? (s := s) index) = items.filterMap (decode? index)
      ∧ listing.length = items.length + added := by
  induction h with
  | nil => exact ⟨rfl, rfl⟩
  | keep item rest ih =>
      obtain ⟨same, lengths⟩ := ih
      refine ⟨?_, ?_⟩
      · rw [List.filterMap_cons, List.filterMap_cons, same]
      · simp only [List.length_cons, lengths]
        omega
  | insert item void rest ih =>
      obtain ⟨same, lengths⟩ := ih
      refine ⟨?_, ?_⟩
      · rw [List.filterMap_cons_none void, same]
      · simp only [List.length_cons, lengths]
        omega

/-- No item holds a record below a header that lacks a required column. -/
theorem decode?_of_lacking {header : List String} {column : String} (required : column ∈ s.columns)
    (absent : column ∉ header.map Text.trim) (item : Csv.Item)
    : decode? (s := s) (ColumnIndex.ofHeader header s.columns) item = none := by
  cases item with
  | undecodable => rfl
  | row cells =>
      cases read : Record.ofRow s (ColumnIndex.ofHeader header s.columns) cells with
      | error error => simp [decode?, read, Except.toOption]
      | ok record =>
          obtain ⟨a, -, shown⟩ := Record.ofRow_eq_ok_iff.mp read column required
          obtain ⟨position, cell, found, -⟩ := ColumnIndex.integer_eq_ok_iff.mp shown
          rw [ColumnIndex.position?_ofHeader header required] at found
          rw [List.idxOf?_eq_none_iff.mpr absent] at found
          cases found

-----------------------------------------------------------------------------------------
-- The account of a fresh reader
-----------------------------------------------------------------------------------------

/-- What a number of calls yield, and what the counters say after them. -/
structure Accounted (reader : PhaseReader s) (n consumed : Nat) : Prop where
  within : consumed ≤ reader.pending.length
  yielded
    : (reader.calls n).1
      = (reader.held.take n).map some ++ List.replicate (n - reader.held.length) none
  pending : (reader.calls n).2.pending = reader.pending.drop consumed
  rows : (reader.calls n).2.count.rows = consumed
  skipped
    : (reader.calls n).2.count.skipped
      = (reader.pending.take consumed).countP (isVoid s reader.index)
  bounded : (reader.calls n).2.count.skipped ≤ (reader.calls n).2.count.rows
  records : (reader.calls n).2.count.records = ((reader.calls n).1.filterMap id).length
  ended
    : none ∈ (reader.calls n).1
      → consumed = reader.pending.length
        ∧ ∀ m,
            reader.calls (n + m)
            = ((reader.calls n).1 ++ List.replicate m none, (reader.calls n).2)

/-- A reader that has counted nothing gives the account of any number of its calls. -/
theorem accounted {reader : PhaseReader s} (fresh : reader.count = { rows := 0, skipped := 0 })
    (n : Nat)
    : ∃ consumed, reader.Accounted n consumed := by
  obtain ⟨consumed, within, after, found, ended⟩ := reader.calls_past n
  have rows : (reader.calls n).2.count.rows = consumed := by
    rw [after, past, fresh]
    simp [within]
  have skipped : (reader.calls n).2.count.skipped
      = (reader.pending.take consumed).countP (isVoid s reader.index) := by
    rw [after, past, fresh]
    simp
  have split := length_held_add_void s reader.index (reader.pending.take consumed)
  rw [found, List.length_take_of_le within] at split
  refine ⟨consumed, {
    within := within
    yielded := reader.yielded_calls n
    pending := by rw [after, past]
    rows := rows
    skipped := skipped
    bounded := by omega
    records := ?_
    ended := ?_
  }⟩
  · rw [filterMap_calls, RowCount.records]
    omega
  · intro silent
    have short := none_mem_calls_iff.mp silent
    have none : (reader.calls n).2.pending = [] := by
      rw [after, past, ended short, List.drop_length]
    refine ⟨ended short, fun m => ?_⟩
    rw [calls_add, calls_of_pending_nil none]

/-- A reader of the items below a header, which names no column if it does not decode. -/
def ofItems (s : Schema) (header : Option (List String)) (items : List Csv.Item) : PhaseReader s :=
  ofContents s { header := header.getD [], items := items }

/-- What a reader finds in a source: the first record is the header, the others are items. -/
theorem ofSource_eq_ofItems (s : Schema) (source : Csv.Source)
    : ofSource s source
      = ofItems s ((source.records.head?.bind Csv.RawRecord.cells?).map (·.map Text.trim))
          (source.records.tail.map fun raw => (Csv.Item.ofRecord raw).trimmed) := by
  unfold ofSource ofItems Csv.Source.contents
  cases source.records with
  | nil => rfl
  | cons names rows => cases h : names.cells? <;> simp [Csv.Contents.trimmed, h, Function.comp_def]

/-- A header that does not decode lacks a column like one that does without it. -/
theorem exists_lacking {header : Option (List String)}
    (h : ∀ names, header = some names → ∃ column ∈ s.columns, column ∉ names.map Text.trim)
    : ∃ column ∈ s.columns, column ∉ (header.getD []).map Text.trim := by
  cases header with
  | some names => exact h names rfl
  | none =>
      have some := List.length_pos_iff.mp (Nat.lt_of_lt_of_le Nat.two_pos s.two_le_length_columns)
      obtain ⟨column, required⟩ := List.exists_mem_of_ne_nil _ some
      exact ⟨column, required, List.not_mem_nil⟩

/-- The account of the items below a header: call by call, at the end, with void items put in, and
below a header without all columns.
-/
structure Accounts (s : Schema) (header : Option (List String)) (items : List Csv.Item) : Prop where
  calls : ∀ n, ∃ consumed, (ofItems s header items).Accounted n consumed
  total
    : ∀ n,
        (ofItems s header items).held.length < n
        → none ∈ ((ofItems s header items).calls n).1
          ∧ ((ofItems s header items).calls n).2.count = (ofItems s header items).total
  interspersed
    : ∀ listing added,
        Interspersed s (ofItems s header items).index items listing added
        → (ofItems s header listing).records = (ofItems s header items).records
          ∧ (ofItems s header listing).total.rows = (ofItems s header items).total.rows + added
          ∧ (ofItems s header listing).total.skipped
            = (ofItems s header items).total.skipped + added
  lacking
    : (∀ names, header = some names → ∃ column ∈ s.columns, column ∉ names.map Text.trim)
      → (ofItems s header items).records = []
        ∧ (ofItems s header items).total.skipped = (ofItems s header items).total.rows

theorem ofItems_accounts (s : Schema) (header : Option (List String)) (items : List Csv.Item)
    : Accounts s header items := by
  refine {
    calls := fun n => accounted rfl n
    total := ?_
    interspersed := ?_
    lacking := ?_
  }
  · intro n short
    exact ⟨none_mem_calls_iff.mpr short, ((ofItems s header items).calls_ended short).2⟩
  · intro listing added put
    obtain ⟨same, lengths⟩ := put.records
    obtain ⟨records, rows, skipped⟩ := (ofItems s header items).delivered
    obtain ⟨fuller, allRows, allSkipped⟩ := (ofItems s header listing).delivered
    have kept : (ofItems s header listing).records = (ofItems s header items).records := by
      rw [fuller, records]
      exact same
    rw [kept] at allSkipped
    simp only [ofItems, ofContents] at *
    refine ⟨kept, by omega, by omega⟩
  · intro lacks
    obtain ⟨column, required, absent⟩ := exists_lacking lacks
    have nothing : (ofItems s header items).records = [] := by
      rw [records_eq_held, held, List.filterMap_eq_nil_iff]
      exact fun item _ => decode?_of_lacking required absent item
    obtain ⟨-, rows, skipped⟩ := (ofItems s header items).delivered
    rw [nothing, List.length_nil] at skipped
    exact ⟨nothing, by rw [rows]; exact skipped⟩

/-- The first call passes over a short row and one that does not decode. -/
example
    : (ofItems .stride (some ["bucket", "count", "raw_bytes"])
        [.row ["16"], .undecodable, .row ["16", "3", "48"], .row ["8"]]).next
      = (some (.stride (.clamp 16) (.clamp 3) (.clamp 48)),
        {
          index := .ofHeader ["bucket", "count", "raw_bytes"] Schema.stride.columns
          pending := [.row ["8"]]
          count := { rows := 3, skipped := 2 }
        }) := by
  decide +kernel

end PhaseReader

end AllocTrace
