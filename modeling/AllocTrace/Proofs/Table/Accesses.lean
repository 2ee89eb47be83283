import AllocTrace.Proofs.Table.Lookup

/-! Tables under a sequence of accesses. Folding and merging come down to three accesses: a record
is added, the peak of a key is raised, a phase is counted. Main statement: after any sequence of
them the table shows, under every key, the records added and the subtotals raised there.
-/

namespace AllocTrace

variable {s : Schema}

/-- The tally of these records, added in this order, and of these subtotals. -/
def Tally.of (records : List (Record s)) (subtotals : List Amount) : Tally :=
  {
    count := .total (records.map (·.totals.count))
    rawBytes := .total (records.map (·.totals.rawBytes))
    strideBytes := .total (records.filterMap (·.totals.strideBytes))
    fallbacks := .total (records.filterMap (·.totals.fallbacks))
    peak := .greatest subtotals
  }

namespace Tally

theorem of_nil
    : of ([] : List (Record s)) [] = empty :=
  rfl

/-- Adding a record to a tally adds it last, present fields and absent ones alike. -/
theorem add_of (records : List (Record s)) (subtotals : List Amount) (record : Record s)
    : (of records subtotals).add record.totals = of (records ++ [record]) subtotals := by
  cases hs : record.totals.strideBytes <;> cases hf : record.totals.fallbacks <;>
    simp [of, add, hs, hf, Amount.total_concat]

theorem raisePeak_of (records : List (Record s)) (subtotals : List Amount) (bytes : Amount)
    : (of records subtotals).raisePeak bytes = of records (subtotals ++ [bytes]) := by
  simp [of, raisePeak, Amount.greatest_concat]

end Tally

/-- One access to a table. -/
inductive Access (s : Schema) where
  | add (record : Record s)
  | raise (key : Key s) (subtotal : Amount)
  | count

namespace Access

def apply (table : Table s) : Access s → Table s
  | add record => table.add record
  | raise key subtotal => table.raisePeak key subtotal
  | count => table.countPhase

def record? : Access s → Option (Record s)
  | add record => some record
  | _ => none

def subtotal? : Access s → Option (Key s × Amount)
  | raise key subtotal => some (key, subtotal)
  | _ => none

def isCount : Access s → Bool
  | count => true
  | _ => false

/-- The accesses that merge these subtotals, in this order. -/
def merging (order : List (Key s × Amount)) : List (Access s) :=
  order.map (fun entry => raise entry.1 entry.2) ++ [count]

end Access

/-- Accesses to one table, the first one first. -/
abbrev Trace (s : Schema) := List (Access s)

namespace Trace

/-- The records added, in order. -/
def records (trace : Trace s) : List (Record s) :=
  trace.filterMap Access.record?

/-- The subtotals that peaks were raised to, in order, with their keys. -/
def subtotals (trace : Trace s) : List (Key s × Amount) :=
  trace.filterMap Access.subtotal?

/-- How many phases were counted. -/
def counted (trace : Trace s) : Nat :=
  trace.countP Access.isCount

/-- The fresh table after the accesses. -/
def table (trace : Trace s) : Table s :=
  trace.foldl Access.apply .empty

/-- The accesses of ingesting a phase: its records are added, then its subtotals merged. -/
def ofPhase (records : List (Record s)) : Trace s :=
  records.map .add ++ Access.merging (Subtotals.ofRecords records).toList

/-- Some access is to the key. -/
def Touches (trace : Trace s) (key : Key s) : Prop :=
  (∃ record ∈ trace.records, record.key = key) ∨ ∃ entry ∈ trace.subtotals, entry.1 = key

/-- The tally of what the accesses did under the key. -/
def tally (trace : Trace s) (key : Key s) : Tally :=
  .of (trace.records.filter (·.key = key))
    ((trace.subtotals.filter (·.1 = key)).map (·.2))

theorem table_concat (trace : Trace s) (access : Access s)
    : table (trace ++ [access]) = access.apply trace.table := by
  simp [table]

theorem records_concat (trace : Trace s) (access : Access s)
    : records (trace ++ [access]) = trace.records ++ access.record?.toList := by
  cases access <;> simp [records, Access.record?]

theorem subtotals_concat (trace : Trace s) (access : Access s)
    : subtotals (trace ++ [access]) = trace.subtotals ++ access.subtotal?.toList := by
  cases access <;> simp [subtotals, Access.subtotal?]

theorem counted_concat (trace : Trace s) (access : Access s)
    : counted (trace ++ [access]) = trace.counted + if access.isCount then 1 else 0 := by
  simp [counted, List.countP_append, List.countP_singleton]

theorem records_append (left right : Trace s)
    : records (left ++ right) = left.records ++ right.records := by
  simp [records]

theorem subtotals_append (left right : Trace s)
    : subtotals (left ++ right) = left.subtotals ++ right.subtotals := by
  simp [subtotals]

theorem counted_append (left right : Trace s)
    : counted (left ++ right) = left.counted + right.counted := by
  simp [counted]

theorem records_adding (records : List (Record s))
    : Trace.records (records.map Access.add) = records := by
  induction records with
  | nil => rfl
  | cons record rest ih => exact congrArg (List.cons record) ih

theorem subtotals_adding (records : List (Record s))
    : Trace.subtotals (records.map Access.add) = [] := by
  simp [subtotals, Access.subtotal?]

theorem counted_adding (records : List (Record s))
    : Trace.counted (records.map Access.add) = 0 := by
  simp [counted, Access.isCount]

theorem records_merging (order : List (Key s × Amount))
    : Trace.records (Access.merging order) = [] := by
  simp [records, Access.merging, Access.record?]

theorem subtotals_merging (order : List (Key s × Amount))
    : Trace.subtotals (Access.merging order) = order := by
  induction order with
  | nil => rfl
  | cons entry rest ih => exact congrArg (List.cons entry) ih

theorem counted_merging (order : List (Key s × Amount))
    : Trace.counted (Access.merging order) = 1 := by
  simp [counted, Access.merging, Access.isCount]

theorem records_ofPhase (records : List (Record s))
    : (ofPhase records).records = records := by
  simp [ofPhase, records_append, records_adding, records_merging]

theorem subtotals_ofPhase (records : List (Record s))
    : (ofPhase records).subtotals = (Subtotals.ofRecords records).toList := by
  simp [ofPhase, subtotals_append, subtotals_adding, subtotals_merging]

theorem counted_ofPhase (records : List (Record s))
    : (ofPhase records).counted = 1 := by
  simp [ofPhase, counted_append, counted_adding, counted_merging]

/-- The table has exactly the keys that were accessed, by induction from the last access. -/
theorem mem_table (trace : Trace s) (key : Key s)
    : key ∈ trace.table.tallies ↔ trace.Touches key := by
  induction trace using List.reverseRecOn with
  | nil => simp [table, Table.empty, Touches, records, subtotals]
  | append_singleton rest access ih =>
      unfold Touches at ih ⊢
      rw [table_concat, records_concat, subtotals_concat]
      cases access with
      | add record =>
          rw [Access.apply, Table.add, Table.mem_update, ih]
          simp only [Access.record?, Access.subtotal?, Option.toList_some, Option.toList_none,
            List.append_nil, List.mem_append, List.mem_singleton, or_and_right, exists_or,
            exists_eq_left]
          exact or_left_comm.trans or_assoc.symm
      | raise name bytes =>
          rw [Access.apply, Table.raisePeak, Table.mem_update, ih]
          simp only [Access.record?, Access.subtotal?, Option.toList_some, Option.toList_none,
            List.append_nil, List.mem_append, List.mem_singleton, or_and_right, exists_or,
            exists_eq_left]
          exact or_comm.trans or_assoc
      | count =>
          simpa [Access.apply, Table.countPhase, Access.record?, Access.subtotal?] using ih

/-- Under every key the table has the tally of the accesses to it, by induction from the last
access; only an access to the key itself changes the tally.
-/
theorem tally_table (trace : Trace s) (key : Key s)
    : trace.table.tally key = trace.tally key := by
  induction trace using List.reverseRecOn with
  | nil => simp [table, Table.empty, Table.tally, tally, records, subtotals, Tally.of_nil]
  | append_singleton rest access ih =>
      unfold tally at ih ⊢
      rw [table_concat, records_concat, subtotals_concat]
      cases access with
      | add record =>
          rw [Access.apply, Table.add, Table.tally_update]
          by_cases h : record.key = key
          · subst h
            simp [ih, Access.record?, Access.subtotal?, Tally.add_of]
          · simp [h, ih, Access.record?, Access.subtotal?]
      | raise name bytes =>
          rw [Access.apply, Table.raisePeak, Table.tally_update]
          by_cases h : name = key
          · subst h
            simp [ih, Access.record?, Access.subtotal?, Tally.raisePeak_of]
          · simp [h, ih, Access.record?, Access.subtotal?]
      | count =>
          change (table rest).tally key = _
          simpa [Access.record?, Access.subtotal?] using ih

/-- The table counts the phases that were counted, by induction from the last access. -/
theorem phases_table (trace : Trace s)
    : trace.table.phases = trace.counted := by
  induction trace using List.reverseRecOn with
  | nil => rfl
  | append_singleton rest access ih =>
      rw [table_concat, counted_concat, ← ih]
      cases access <;> rfl

end Trace

namespace Table

/-- Folding a phase adds its records one by one; the subtotals come from the records alone. By
induction on the records.
-/
theorem fold_eq (table : Table s) (records : List (Record s))
    : table.fold records
      = ((records.map Access.add).foldl Access.apply table, .ofRecords records) := by
  unfold fold Subtotals.ofRecords
  generalize Subtotals.empty = subtotals
  induction records generalizing table subtotals with
  | nil => rfl
  | cons record rest ih => simpa [foldStep, Access.apply] using ih _ _

/-- Merging subtotals raises one peak after the other and counts the phase. -/
theorem merge_eq (table : Table s) (subtotals : Subtotals s)
    : table.merge subtotals
      = (Access.merging subtotals.toList).foldl Access.apply table := by
  simp [merge, Access.merging, List.foldl_map, Access.apply]

/-- Ingesting a phase folds it, merges its own subtotals and tells how many keys it has. -/
theorem ingest_eq (table : Table s) (records : List (Record s))
    : table.ingest records
      = ((Trace.ofPhase records).foldl Access.apply table,
          (Subtotals.ofRecords records).size) := by
  simp [ingest, fold_eq, merge_eq, Trace.ofPhase]

end Table

end AllocTrace
