import AllocTrace.Csv
import AllocTrace.Record

/-! A phase file read record by record. A row that does not decode is counted and passed over, so
at every moment the counters tell how many rows were read and how many of them were skipped.
-/

namespace AllocTrace

/-- How many rows were read, and how many of them held no record. -/
structure RowCount where
  rows : Nat
  skipped : Nat
deriving DecidableEq

def RowCount.records (count : RowCount) : Nat :=
  count.rows - count.skipped

/-- The columns found in the header, the items still to come and the rows counted so far. -/
structure PhaseReader (s : Schema) where
  index : ColumnIndex
  pending : List Csv.Item
  count : RowCount
deriving DecidableEq

namespace PhaseReader

variable {s : Schema}

/-- A reader before its first row. -/
def ofContents (s : Schema) (contents : Csv.Contents) : PhaseReader s :=
  {
    index := ColumnIndex.ofHeader contents.header s.columns
    pending := contents.items
    count := { rows := 0, skipped := 0 }
  }

/-- Names and cells of a phase file are read without surrounding white space. -/
def ofSource (s : Schema) (source : Csv.Source) : PhaseReader s :=
  ofContents s source.contents.trimmed

/-- The record of one item, if it holds one. -/
def decode? (index : ColumnIndex) : Csv.Item → Option (Record s)
  | .row cells => (Record.ofRow s index cells).toOption
  | .undecodable => none

/-- Passes over items up to and including the first that holds a record. A failure of the source is
no item: the items end before it, so it is neither counted nor met again.
-/
def advance (index : ColumnIndex)
    : List Csv.Item → RowCount → Option (Record s) × List Csv.Item × RowCount
  | [], count => (none, [], count)
  | item :: rest, count =>
    match decode? index item with
    | some record => (some record, rest, { count with rows := count.rows + 1 })
    | none => advance index rest { rows := count.rows + 1, skipped := count.skipped + 1 }

/-- The next record, if there is one, and the reader after it. -/
def next (reader : PhaseReader s) : Option (Record s) × PhaseReader s :=
  let (record, pending, count) := advance reader.index reader.pending reader.count
  (record, { reader with pending := pending, count := count })

theorem advance_pending_lt {index : ColumnIndex} {items : List Csv.Item} {count : RowCount}
    {record : Record s} (h : (advance index items count).1 = some record)
    : (advance (s := s) index items count).2.1.length < items.length := by
  induction items generalizing count with
  | nil => simp [advance] at h
  | cons item rest ih =>
      simp only [advance] at h ⊢
      split at h
      · simp
      · exact Nat.lt_succ_of_lt (ih h)

theorem next_pending_lt {reader : PhaseReader s} {record : Record s}
    (h : reader.next.1 = some record)
    : reader.next.2.pending.length < reader.pending.length :=
  advance_pending_lt h

/-- Each record with the counters as they stood when it was delivered, and the reader after the
last of them.
-/
def deliveries (reader : PhaseReader s) : List (Record s × RowCount) × PhaseReader s :=
  match _h : reader.next.1 with
  | none => ([], reader.next.2)
  | some record =>
    let (later, final) := reader.next.2.deliveries
    ((record, reader.next.2.count) :: later, final)
termination_by reader.pending.length
decreasing_by exact next_pending_lt ‹_›

/-- The records in file order. -/
def records (reader : PhaseReader s) : List (Record s) :=
  reader.deliveries.1.map Prod.fst

/-- The counters once every row was read. -/
def total (reader : PhaseReader s) : RowCount :=
  reader.deliveries.2.count

end PhaseReader

namespace Schema

/-- The layout that the header of a phase file shows. -/
def detect (source : Csv.Source) : Schema :=
  ofHeader source.contents.header

end Schema

end AllocTrace
