import AllocTrace.Proofs.Table.Accesses

/-! Tables after any history of calls. Phases may be folded without being merged, and subtotals
may be merged late, repeatedly or from elsewhere. Main statement: the table is exactly what the
folded records and the merged subtotals say, and a fold yields subtotals of its records alone.
-/

namespace AllocTrace

variable {s : Schema}

/-- One call on a table. -/
inductive Call (s : Schema) where
  | fold (records : List (Record s))
  | merge (subtotals : Subtotals s)
  | ingest (records : List (Record s))

namespace Call

def apply (table : Table s) : Call s → Table s
  | fold records => (table.fold records).1
  | merge subtotals => table.merge subtotals
  | ingest records => (table.ingest records).1

/-- The records that the call folds. -/
def folded : Call s → List (Record s)
  | fold records => records
  | merge _ => []
  | ingest records => records

/-- The subtotals that the call merges, if it merges any. -/
def merged : Call s → List (Subtotals s)
  | fold _ => []
  | merge subtotals => [subtotals]
  | ingest records => [.ofRecords records]

/-- The accesses to the table that the call makes. -/
def trace : Call s → Trace s
  | fold records => records.map .add
  | merge subtotals => Access.merging subtotals.toList
  | ingest records => .ofPhase records

theorem apply_eq (table : Table s) (call : Call s)
    : call.apply table = call.trace.foldl Access.apply table := by
  cases call with
  | fold records => rw [apply, trace, Table.fold_eq]
  | merge subtotals => rw [apply, trace, Table.merge_eq]
  | ingest records => rw [apply, trace, Table.ingest_eq]

end Call

/-- Calls on a fresh table, the first one first. -/
abbrev History (s : Schema) := List (Call s)

namespace History

/-- The table after the calls. -/
def table (history : History s) : Table s :=
  history.foldl Call.apply .empty

/-- The records folded, in order. -/
def folded (history : History s) : List (Record s) :=
  history.flatMap Call.folded

/-- The subtotals merged, in order. -/
def merged (history : History s) : List (Subtotals s) :=
  history.flatMap Call.merged

/-- The key is that of a folded record or occurs in merged subtotals. -/
def Mentions (history : History s) (key : Key s) : Prop :=
  (∃ record ∈ history.folded, record.key = key)
  ∨ ∃ subtotals ∈ history.merged, (subtotals.get? key).isSome = true

instance (history : History s) (key : Key s) : Decidable (history.Mentions key) :=
  inferInstanceAs (Decidable (_ ∨ _))

/-- What the history puts under a key: saturating sums over the records folded there, in order,
and the greatest of the subtotals merged for it.
-/
def figures (history : History s) (key : Key s) : Figures :=
  let records := history.folded.filter (·.key = key)
  {
    count := .total (records.map (·.totals.count))
    rawBytes := .total (records.map (·.totals.rawBytes))
    strideBytes :=
      if s = .proxy then some (.total (records.filterMap (·.totals.strideBytes))) else none
    fallbacks :=
      if s = .proxy then some (.total (records.filterMap (·.totals.fallbacks))) else none
    peak := .greatest (history.merged.filterMap (·.get? key))
  }

/-- The accesses that the calls make to the table. -/
def trace (history : History s) : Trace s :=
  history.flatMap Call.trace

/-- Calls act on a table through their accesses only, by induction on the calls. -/
theorem foldl_apply (history : History s) (start : Table s)
    : history.foldl Call.apply start = history.trace.foldl Access.apply start := by
  induction history generalizing start with
  | nil => rfl
  | cons call rest ih => simpa [trace, Call.apply_eq] using ih _

theorem table_eq (history : History s)
    : history.table = history.trace.table :=
  history.foldl_apply .empty

theorem records_trace (history : History s)
    : history.trace.records = history.folded := by
  induction history with
  | nil => rfl
  | cons call rest ih =>
      change Trace.records (call.trace ++ trace rest) = call.folded ++ folded rest
      rw [Trace.records_append, ih]
      cases call <;>
        simp [Call.trace, Call.folded, Trace.records_adding, Trace.records_merging,
          Trace.records_ofPhase]

theorem subtotals_trace (history : History s)
    : history.trace.subtotals = history.merged.flatMap Subtotals.toList := by
  induction history with
  | nil => rfl
  | cons call rest ih =>
      change Trace.subtotals (call.trace ++ trace rest)
        = (call.merged ++ merged rest).flatMap Subtotals.toList
      rw [Trace.subtotals_append, ih]
      cases call <;>
        simp [Call.trace, Call.merged, Trace.subtotals_adding, Trace.subtotals_merging,
          Trace.subtotals_ofPhase]

theorem counted_trace (history : History s)
    : history.trace.counted = history.merged.length := by
  induction history with
  | nil => rfl
  | cons call rest ih =>
      change Trace.counted (call.trace ++ trace rest) = (call.merged ++ merged rest).length
      rw [Trace.counted_append, ih]
      cases call <;>
        simp [Call.trace, Call.merged, Trace.counted_adding, Trace.counted_merging,
          Trace.counted_ofPhase, Nat.add_comm]

/-- The subtotals merged for a key, in order, are what its peak was raised to. -/
theorem subtotals_under (history : History s) (key : Key s)
    : (history.trace.subtotals.filter (·.1 = key)).map (·.2)
      = history.merged.filterMap (·.get? key) := by
  rw [subtotals_trace, Subtotals.filter_flatMap_toList]

/-- The table has exactly the keys that the history mentions. -/
theorem mem_table (history : History s) (key : Key s)
    : key ∈ history.table.tallies ↔ history.Mentions key := by
  rw [table_eq, Trace.mem_table, Trace.Touches, Mentions, records_trace, subtotals_trace]
  refine or_congr_right ?_
  constructor
  · rintro ⟨⟨name, bytes⟩, member, rfl⟩
    obtain ⟨subtotals, found, listed⟩ := List.mem_flatMap.mp member
    exact ⟨subtotals, found, by simp [Subtotals.mem_toList.mp listed]⟩
  · rintro ⟨subtotals, found, shown⟩
    obtain ⟨bytes, listed⟩ := Option.isSome_iff_exists.mp shown
    exact ⟨(key, bytes), List.mem_flatMap.mpr ⟨_, found, Subtotals.mem_toList.mpr listed⟩, rfl⟩

/-- A layout shows stride bytes and fallbacks only if it is the proxy layout. -/
theorem figures_table (history : History s) (key : Key s)
    : (history.table.tally key).figures s = history.figures key := by
  rw [table_eq, Trace.tally_table, Trace.tally, records_trace, subtotals_under]
  cases s <;> simp [Tally.figures, Tally.of, figures, Schema.hasStrideBytes, Schema.hasFallbacks]

/-- After any history of calls the table shows exactly what the history says: under a mentioned
key the saturating sums over the records folded there and the greatest subtotal merged there,
nothing under any other key, and as many phases as were merged; it lists these entries once
each, ascending. The subtotals that a fold yields, and the number of keys that ingesting tells,
depend on the records of the phase and not on the table.
-/
theorem table_exact (history : History s)
    : (∀ key,
        history.table.get? key
          = if history.Mentions key then some { key := key, figures := history.figures key }
            else none)
      ∧ history.table.phases = history.merged.length
      ∧ history.table.Listed
      ∧ ∀ (table : Table s) (records : List (Record s)),
          (∀ key,
            (table.fold records).2.get? key
              = if ∃ record ∈ records, record.key = key then
                  some (.total ((records.filter (·.key = key)).map (·.phaseBytes)))
                else none)
          ∧ (table.fold records).2.size = (records.map (·.key)).dedup.length
          ∧ (table.ingest records).2 = (records.map (·.key)).dedup.length := by
  refine ⟨?_, ?_, history.table.listed, ?_⟩
  · intro key
    rw [Table.get?_eq]
    simp only [mem_table, Tally.entry, figures_table]
  · rw [table_eq, Trace.phases_table, counted_trace]
  · intro table records
    rw [Table.fold_eq, Table.ingest_eq]
    exact ⟨Subtotals.get?_ofRecords records, Subtotals.size_ofRecords records,
      Subtotals.size_ofRecords records⟩

end History

end AllocTrace
