import AllocTrace.Phase
import AllocTrace.Tally
import Std.Data.ExtTreeMap

/-! Aggregation of phases. Folding a phase adds its records to the cumulative sums and yields the
subtotals of the phase; merging subtotals raises the peaks and counts the phase. The two are
separate steps, so phases may be folded in any order and merged late.
-/

namespace AllocTrace

/-- The bytes of one phase under each of its keys. -/
structure Subtotals (s : Schema) where
  bytes : Std.ExtTreeMap (Key s) Amount

namespace Subtotals

variable {s : Schema}

def empty : Subtotals s :=
  { bytes := ∅ }

def add (subtotals : Subtotals s) (key : Key s) (bytes : Amount) : Subtotals s :=
  { bytes := subtotals.bytes.alter key fun present => some (present.getD 0 + bytes) }

def get? (subtotals : Subtotals s) (key : Key s) : Option Amount :=
  subtotals.bytes[key]?

/-- How many keys the phase has. -/
def size (subtotals : Subtotals s) : Nat :=
  subtotals.bytes.size

def isEmpty (subtotals : Subtotals s) : Bool :=
  subtotals.bytes.isEmpty

/-- Keys and bytes, ascending by key. -/
def toList (subtotals : Subtotals s) : List (Key s × Amount) :=
  subtotals.bytes.toList

end Subtotals

/-- The tally of every key seen, and how many phases were merged. -/
structure Table (s : Schema) where
  tallies : Std.ExtTreeMap (Key s) Tally
  phases : Nat

namespace Table

variable {s : Schema}

def empty : Table s :=
  { tallies := ∅, phases := 0 }

/-- Changes the tally under the key, starting from the empty one if the key is new. -/
def update (table : Table s) (key : Key s) (change : Tally → Tally) : Table s :=
  {
    tallies := table.tallies.alter key fun present => some (change (present.getD .empty))
    phases := table.phases
  }

/-- Adds one record to the cumulative sums of its key. -/
def add (table : Table s) (record : Record s) : Table s :=
  table.update record.key (·.add record.totals)

/-- Raises the peak of the key to a phase subtotal. -/
def raisePeak (table : Table s) (key : Key s) (subtotal : Amount) : Table s :=
  table.update key (·.raisePeak subtotal)

def countPhase (table : Table s) : Table s :=
  { table with phases := table.phases + 1 }

/-- The table and the subtotals after one more record of the phase. -/
def foldStep (state : Table s × Subtotals s) (record : Record s) : Table s × Subtotals s :=
  (state.1.add record, state.2.add record.key record.phaseBytes)

/-- Adds the records of a phase and collects its subtotals; peaks stay as they are. -/
def fold (table : Table s) (records : List (Record s)) : Table s × Subtotals s :=
  records.foldl foldStep (table, .empty)

/-- Raises the peaks to the subtotals of a phase, and counts the phase. -/
def merge (table : Table s) (subtotals : Subtotals s) : Table s :=
  (subtotals.toList.foldl (fun table entry => table.raisePeak entry.1 entry.2) table).countPhase

/-- Folds a phase and merges its subtotals; also yields the number of keys in the phase. -/
def ingest (table : Table s) (records : List (Record s)) : Table s × Nat :=
  let (folded, subtotals) := table.fold records
  (folded.merge subtotals, subtotals.size)

def get? (table : Table s) (key : Key s) : Option (Entry s) :=
  table.tallies[key]?.map (·.entry key)

def size (table : Table s) : Nat :=
  table.tallies.size

def isEmpty (table : Table s) : Bool :=
  table.tallies.isEmpty

/-- Every entry, ascending by key. -/
def entries (table : Table s) : List (Entry s) :=
  table.tallies.toList.map fun (key, tally) => tally.entry key

end Table

end AllocTrace
