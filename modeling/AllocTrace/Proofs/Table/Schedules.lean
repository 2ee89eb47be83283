import AllocTrace.Pipeline
import AllocTrace.Proofs.Table.Quantities
import Mathlib.Logic.Relation

/-! Phases ingested at the same time. Each phase is a process that adds its records to the shared
table one by one, then raises the peaks of its keys in some order and counts itself; the steps of
different phases interleave freely. Main statement: every interleaving ends with the table of
ingesting one phase after the other, sums that saturate both ways apart.
-/

namespace AllocTrace

variable {s : Schema}

-----------------------------------------------------------------------------------------
-- Processes and their interleavings
-----------------------------------------------------------------------------------------

/-- What a phase has still to do: records to add beside the subtotals collected so far, or
subtotals to merge.
-/
inductive Process (s : Schema) where
  | folding (pending : List (Record s)) (subtotals : Subtotals s)
  | merging (pending : List (Key s × Amount))
  | finished

/-- One step of a phase, with the access to the shared table that it makes, if any. Complete
subtotals are merged in any order.
-/
inductive Process.Step : Process s → Option (Access s) → Process s → Prop
  | add (record : Record s) (rest : List (Record s)) (subtotals : Subtotals s)
    : Step (.folding (record :: rest) subtotals) (some (.add record))
        (.folding rest (subtotals.add record.key record.phaseBytes))
  | complete (subtotals : Subtotals s) (order : List (Key s × Amount))
    (h : order.Perm subtotals.toList)
    : Step (.folding [] subtotals) none (.merging order)
  | raise (entry : Key s × Amount) (rest : List (Key s × Amount))
    : Step (.merging (entry :: rest)) (some (.raise entry.1 entry.2)) (.merging rest)
  | count : Step (.merging []) (some .count) .finished

/-- The processes of all phases and the table they share. -/
structure Run (s : Schema) where
  processes : List (Process s)
  table : Table s

namespace Run

/-- No phase has begun. -/
def start (phases : List (List (Record s))) : Run s :=
  { processes := phases.map (.folding · .empty), table := .empty }

/-- Any one process makes its next step. -/
inductive Step : Run s → Run s → Prop
  | step (before after : List (Process s)) {process next : Process s}
    {access : Option (Access s)} (table : Table s) (h : process.Step access next)
    : Step { processes := before ++ process :: after, table := table }
        {
          processes := before ++ next :: after
          table := access.elim table (Access.apply table)
        }

def Finished (run : Run s) : Prop :=
  ∀ process ∈ run.processes, process = .finished

end Run

-----------------------------------------------------------------------------------------
-- What a process has done so far
-----------------------------------------------------------------------------------------

/-- The accesses that a process has made for the records of its phase. Its private subtotals are
those of the records added so far.
-/
inductive Process.Did (records : List (Record s)) : Process s → Trace s → Prop
  | folding (added pending : List (Record s)) (h : added ++ pending = records)
    : Did records (.folding pending (.ofRecords added)) (added.map .add)
  | merging (raised pending : List (Key s × Amount))
    (h : (raised ++ pending).Perm (Subtotals.ofRecords records).toList)
    : Did records (.merging pending)
        (records.map .add ++ raised.map fun entry => .raise entry.1 entry.2)
  | finished (order : List (Key s × Amount))
    (h : order.Perm (Subtotals.ofRecords records).toList)
    : Did records .finished (records.map .add ++ Access.merging order)

/-- A step extends what its process did by the access it makes, by cases on the step. -/
theorem Process.Did.step {records : List (Record s)} {process next : Process s}
    {trace : Trace s} {access : Option (Access s)} (did : process.Did records trace)
    (h : process.Step access next)
    : next.Did records (trace ++ access.toList) := by
  cases h with
  | add record rest subtotals =>
      cases did with
      | folding added _ whole =>
          have later := Process.Did.folding (added ++ [record]) rest (by simpa using whole)
          simpa [Subtotals.ofRecords_concat] using later
  | complete subtotals order same =>
      cases did with
      | folding added _ whole =>
          have all : added = records := by simpa using whole
          subst all
          have later : Process.Did added (.merging order) _ := .merging [] order same
          simpa using later
  | raise entry rest =>
      cases did with
      | merging raised _ whole =>
          have later : Process.Did records (.merging rest) _ :=
            .merging (raised ++ [entry]) rest (by simpa using whole)
          simpa using later
  | count =>
      cases did with
      | merging raised _ whole =>
          have later : Process.Did records .finished _ :=
            .finished raised (by simpa using whole)
          simpa [Access.merging] using later

/-- The accesses that processes have made for their phases, phase by phase. -/
inductive Progress : List (List (Record s)) → List (Process s) → Trace s → Prop
  | nil : Progress [] [] []
  | cons {records phases process processes own trace}
    (did : Process.Did records process own) (rest : Progress phases processes trace)
    : Progress (records :: phases) (process :: processes) (own ++ trace)

namespace Progress

theorem start (phases : List (List (Record s)))
    : Progress phases (phases.map (.folding · .empty)) [] := by
  induction phases with
  | nil => exact .nil
  | cons records rest ih => exact .cons (.folding [] records rfl) ih

/-- A step of any one process adds its access to what was done, up to order. By induction on the
processes before it.
-/
theorem step {phases : List (List (Record s))} {before after : List (Process s)}
    {process next : Process s} {access : Option (Access s)} {trace : Trace s}
    (progress : Progress phases (before ++ process :: after) trace)
    (h : process.Step access next)
    : ∃ later,
        Progress phases (before ++ next :: after) later
        ∧ later.Perm (trace ++ access.toList) := by
  induction before generalizing phases trace with
  | nil =>
      cases progress with
      | @cons records phases _ _ own rest did tail =>
          refine ⟨_, .cons (did.step h) tail, ?_⟩
          have swapped : (access.toList ++ rest).Perm (rest ++ access.toList) :=
            List.perm_append_comm
          simpa only [List.append_assoc] using swapped.append_left own
  | cons first before ih =>
      cases progress with
      | @cons records phases _ _ own rest did tail =>
          obtain ⟨later, progress, same⟩ := ih tail
          refine ⟨_, .cons did progress, ?_⟩
          simpa only [List.append_assoc] using same.append_left own

/-- Finished processes have done all their phases ask for, up to the order of merging. By
induction on the phases.
-/
theorem finished {phases : List (List (Record s))} {processes : List (Process s)}
    {trace : Trace s} (progress : Progress phases processes trace)
    (done : ∀ process ∈ processes, process = .finished)
    : trace.Perm (phases.flatMap Trace.ofPhase) := by
  induction progress with
  | nil => exact .rfl
  | cons did rest ih =>
      rw [done _ List.mem_cons_self] at did
      cases did with
      | finished order same =>
          rw [List.flatMap_cons]
          refine List.Perm.append ?_ (ih fun process member => done process (by simp [member]))
          exact List.Perm.append_left _ ((same.map _).append_right _)

end Progress

/-- In every reachable run the table has received the accesses of all processes, in some order.
Induction on the steps; one step is `Progress.step`.
-/
theorem Run.progress {phases : List (List (Record s))} {run : Run s}
    (steps : Relation.ReflTransGen Run.Step (Run.start phases) run)
    : ∃ trace actual : Trace s,
        Progress phases run.processes trace
        ∧ actual.Perm trace
        ∧ run.table = actual.table := by
  induction steps with
  | refl => exact ⟨[], [], Progress.start phases, .rfl, rfl⟩
  | tail _ step ih =>
      obtain ⟨trace, actual, progress, same, table⟩ := ih
      cases step with
      | @step before after process next access received h =>
          obtain ⟨later, progress, grown⟩ := progress.step h
          refine ⟨later, actual ++ access.toList, progress,
            (same.append_right _).trans grown.symm, ?_⟩
          have received : received = actual.table := table
          subst received
          cases access with
          | none => simp
          | some access => simp [Trace.table_concat]

-----------------------------------------------------------------------------------------
-- Folding every phase before merging the first is one of the interleavings
-----------------------------------------------------------------------------------------

/-- Folds one more phase and keeps its subtotals behind those of the phases before it. -/
def Table.foldNext (state : Table s × List (Subtotals s)) (records : List (Record s))
    : Table s × List (Subtotals s) :=
  ((state.1.fold records).1, state.2 ++ [(state.1.fold records).2])

namespace Run

variable (before after : List (Process s))

/-- A process may fold its whole phase while the others wait, by induction on the records. -/
theorem foldPhase (records : List (Record s)) (state : Table s × Subtotals s)
    : Relation.ReflTransGen Step
        { processes := before ++ .folding records state.2 :: after, table := state.1 }
        {
          processes := before ++ .folding [] (records.foldl Table.foldStep state).2 :: after
          table := (records.foldl Table.foldStep state).1
        } := by
  induction records generalizing state with
  | nil => exact .refl
  | cons record rest ih =>
      exact .head (.step before after state.1 (.add record rest state.2))
        (ih (Table.foldStep state record))

/-- A process may merge its subtotals while the others wait, by induction on their order. -/
theorem mergeOrder (order : List (Key s × Amount)) (table : Table s)
    : Relation.ReflTransGen Step
        { processes := before ++ .merging order :: after, table := table }
        {
          processes := before ++ .finished :: after
          table :=
            (order.foldl (fun table entry => table.raisePeak entry.1 entry.2) table).countPhase
        } := by
  induction order generalizing table with
  | nil => exact .single (.step before after table .count)
  | cons entry rest ih => exact .head (.step before after table (.raise entry rest)) (ih _)

theorem mergePhase (subtotals : Subtotals s) (table : Table s)
    : Relation.ReflTransGen Step
        { processes := before ++ .folding [] subtotals :: after, table := table }
        { processes := before ++ .finished :: after, table := table.merge subtotals } :=
  .head (.step before after table (.complete subtotals _ .rfl))
    (mergeOrder before after subtotals.toList table)

/-- The first phases have been folded; the others fold in turn, by induction on them. -/
theorem foldAll (phases : List (List (Record s))) (folded : List (Subtotals s))
    (table : Table s)
    : Relation.ReflTransGen Step
        {
          processes := folded.map (.folding []) ++ phases.map (.folding · .empty)
          table := table
        }
        {
          processes := (phases.foldl Table.foldNext (table, folded)).2.map (.folding [])
          table := (phases.foldl Table.foldNext (table, folded)).1
        } := by
  induction phases generalizing folded table with
  | nil => simpa using .refl
  | cons records rest ih =>
      have first := foldPhase (folded.map (.folding [])) (rest.map (.folding · .empty)) records
        (table, .empty)
      have later := ih (folded ++ [(table.fold records).2]) (table.fold records).1
      simp only [List.map_append, List.map_cons, List.map_nil, List.append_assoc,
        List.cons_append, List.nil_append] at later
      exact first.trans later

/-- Some phases are finished; the others merge in turn, by induction on their subtotals. -/
theorem mergeAll (finished : Nat) (folded : List (Subtotals s)) (table : Table s)
    : Relation.ReflTransGen Step
        {
          processes := List.replicate finished .finished ++ folded.map (.folding [])
          table := table
        }
        {
          processes := List.replicate (finished + folded.length) .finished
          table := folded.foldl Table.merge table
        } := by
  induction folded generalizing finished table with
  | nil => simpa using .refl
  | cons subtotals rest ih =>
      have first := mergePhase (List.replicate finished .finished) (rest.map (.folding []))
        subtotals table
      have later := ih (finished + 1) (table.merge subtotals)
      rw [List.replicate_succ', List.append_assoc, Nat.add_assoc, Nat.add_comm 1] at later
      exact first.trans later

theorem length_foldNext (phases : List (List (Record s)))
    (state : Table s × List (Subtotals s))
    : (phases.foldl Table.foldNext state).2.length = state.2.length + phases.length := by
  induction phases generalizing state with
  | nil => rfl
  | cons records rest ih =>
      rw [List.foldl_cons, ih, Table.foldNext, List.length_append, List.length_cons]
      simp only [List.length_cons, List.length_nil]
      omega

/-- Ingesting the phases together is a run of their processes: all fold, then all merge. -/
theorem ingestTogether_reachable (phases : List (List (Record s)))
    : Relation.ReflTransGen Step (start phases)
        {
          processes := List.replicate phases.length .finished
          table := Table.ingestTogether phases
        } := by
  have folding := foldAll phases [] Table.empty
  have merging := mergeAll 0 (phases.foldl Table.foldNext (Table.empty, [])).2
    (phases.foldl Table.foldNext (Table.empty, [])).1
  rw [length_foldNext, List.length_nil, Nat.zero_add, Nat.zero_add] at merging
  exact folding.trans merging

end Run

-----------------------------------------------------------------------------------------
-- Every interleaving against one phase after the other
-----------------------------------------------------------------------------------------

/-- Ingesting in order makes the accesses of one phase after the other, by induction on the
phases.
-/
theorem Table.ingestInOrder_eq (phases : List (List (Record s)))
    : Table.ingestInOrder phases = Trace.table (phases.flatMap Trace.ofPhase) := by
  unfold Table.ingestInOrder Trace.table
  generalize Table.empty = start
  induction phases generalizing start with
  | nil => rfl
  | cons records rest ih =>
      simpa [Table.ingest_eq] using ih _

theorem Trace.records_phases (phases : List (List (Record s)))
    : Trace.records (phases.flatMap Trace.ofPhase) = phases.flatten := by
  induction phases with
  | nil => rfl
  | cons records rest ih => simp [Trace.records_append, Trace.records_ofPhase, ih]

/-- Row counts put together by a tree of merges, with any number of neutral leaves. -/
inductive Reduction where
  | neutral
  | phase (count : RowCount)
  | merge (left right : Reduction)

namespace Reduction

def counts : Reduction → List RowCount
  | neutral => []
  | phase count => [count]
  | merge left right => left.counts ++ right.counts

def stats : Reduction → ReadStats
  | neutral => .zero
  | phase count => .ofPhase count
  | merge left right => left.stats.merge right.stats

end Reduction

/-- The totals of reading these phases one after the other. -/
def ReadStats.ofCounts (counts : List RowCount) : ReadStats :=
  (counts.map ReadStats.ofPhase).foldl ReadStats.merge .zero

namespace ReadStats

instance : Std.Associative merge where
  assoc a b c := by simp [merge, Nat.add_assoc]

theorem zero_merge (a : ReadStats)
    : zero.merge a = a := by
  simp [merge, zero]

theorem merge_zero (a : ReadStats)
    : a.merge zero = a := by
  simp [merge, zero]

theorem ofCounts_append (left right : List RowCount)
    : ofCounts (left ++ right) = (ofCounts left).merge (ofCounts right) := by
  unfold ofCounts
  rw [List.map_append, List.foldl_append]
  generalize (left.map ofPhase).foldl merge zero = start
  have join : (right.map ofPhase).foldl merge (start.merge zero)
      = start.merge ((right.map ofPhase).foldl merge zero) := List.foldl_assoc
  rwa [merge_zero] at join

theorem ofCounts_perm {left right : List RowCount} (h : left.Perm right)
    : ofCounts left = ofCounts right := by
  apply (h.map ofPhase).foldl_eq'
  intro x _ y _ z
  simp [merge, Nat.add_right_comm]

/-- Any tree of merges gives the totals of its phases, by induction on the tree. -/
theorem stats_eq (tree : Reduction)
    : tree.stats = ofCounts tree.counts := by
  induction tree with
  | neutral => rfl
  | phase count => simp [Reduction.stats, Reduction.counts, ofCounts, zero_merge]
  | merge left right hl hr => rw [Reduction.stats, Reduction.counts, ofCounts_append, hl, hr]

end ReadStats

/-- The table agrees with ingesting the phases one after the other: on keys, peaks and the number
of phases always, and on each sum under each key whose amounts have one sign or fit the range
both ways; those sums are the clamped and the exact ones. With any tree of merges over the row
counts of the phases the totals of the run agree too.
-/
structure Table.AgreesInOrder (table : Table s) (phases : List (List (Record s))) : Prop where
  keys
    : ∀ key,
        (table.get? key).isSome = ((Table.ingestInOrder phases).get? key).isSome
  peaks : ∀ key, table.peak? key = (Table.ingestInOrder phases).peak? key
  phaseCount : table.phases = (Table.ingestInOrder phases).phases
  sums
    : ∀ key quantity,
        Amount.OneSigned (Quantity.amounts quantity phases.flatten key)
          ∨ Amount.Contained (Quantity.amounts quantity phases.flatten key)
        → table.sum? key quantity = (Table.ingestInOrder phases).sum? key quantity
  clamped
    : ∀ key quantity,
        (∃ record ∈ phases.flatten, record.key = key)
        → quantity.Shown s
        → Amount.OneSigned (quantity.amounts phases.flatten key)
        → table.sum? key quantity
          = some (.clamp (Amount.exactTotal (quantity.amounts phases.flatten key)))
  exact
    : ∀ key quantity,
        (∃ record ∈ phases.flatten, record.key = key)
        → quantity.Shown s
        → Amount.Contained (quantity.amounts phases.flatten key)
        → ∃ sum,
            table.sum? key quantity = some sum
            ∧ sum.val = Amount.exactTotal (quantity.amounts phases.flatten key)
  totals
    : ∀ (counts : List RowCount) (tree : Reduction),
        tree.counts.Perm counts
        → ({ toReadStats := tree.stats, keys := table.size } : RunStats)
          = {
            toReadStats := ReadStats.ofCounts counts
            keys := (Table.ingestInOrder phases).size
          }

/-- Accesses of whole phases in any order leave a table that agrees with ingesting in order. -/
theorem Trace.agreesInOrder {trace : Trace s} {phases : List (List (Record s))}
    (h : trace.Perm (phases.flatMap Trace.ofPhase))
    : trace.table.AgreesInOrder phases := by
  have records : trace.records.Perm phases.flatten := by
    rw [← Trace.records_phases]
    exact h.filterMap Access.record?
  have touched (key : Key s) (known : ∃ record ∈ phases.flatten, record.key = key)
      : trace.Touches key := by
    obtain ⟨record, member, same⟩ := known
    exact Or.inl ⟨record, records.mem_iff.mpr member, same⟩
  have shown (key : Key s) (quantity : Quantity)
      (known : ∃ record ∈ phases.flatten, record.key = key) (has : quantity.Shown s)
      : trace.table.sum? key quantity
        = some (.total (quantity.amounts trace.records key)) := by
    rw [Trace.sum?_table, if_pos ⟨touched key known, has⟩]
  refine {
    keys := ?_
    peaks := ?_
    phaseCount := ?_
    sums := ?_
    clamped := ?_
    exact := ?_
    totals := ?_
  }
  · intro key
    rw [Table.ingestInOrder_eq, Trace.isSome_get?_perm h]
  · intro key
    rw [Table.ingestInOrder_eq, Trace.peak?_perm h]
  · rw [Table.ingestInOrder_eq, Trace.phases_perm h]
  · intro key quantity steady
    have same := (quantity.amounts_perm records key).symm
    rw [Table.ingestInOrder_eq]
    exact Trace.sum?_perm h key quantity (steady.imp (.perm same) (.perm same))
  · intro key quantity known has one
    have same := quantity.amounts_perm records key
    rw [shown key quantity known has, Amount.total_oneSigned (one.perm same.symm),
      Amount.exactTotal_perm same]
  · intro key quantity known has contained
    have same := quantity.amounts_perm records key
    refine ⟨_, shown key quantity known has, ?_⟩
    rw [Amount.total_contained (contained.perm same.symm), Amount.exactTotal_perm same]
  · intro counts tree same
    rw [ReadStats.stats_eq, ReadStats.ofCounts_perm same, Table.ingestInOrder_eq,
      Trace.size_table_perm h]

/-- However the steps of the phases interleave, once all are finished the table agrees with
ingesting the phases one after the other.
-/
theorem Run.finished_agreesInOrder {phases : List (List (Record s))} {run : Run s}
    (steps : Relation.ReflTransGen Run.Step (Run.start phases) run) (finished : run.Finished)
    : run.table.AgreesInOrder phases := by
  obtain ⟨trace, actual, progress, same, table⟩ := Run.progress steps
  rw [table]
  exact Trace.agreesInOrder (same.trans (progress.finished finished))

/-- Two phases that share a bucket, whose bytes there saturate. -/
def saturatingPhases : List (List (Record .stride)) :=
  [
    [.stride (.clamp 16) (.clamp 3) (.clamp 9223372036854775807)],
    [.stride (.clamp 16) (.clamp 2) (.clamp 40), .stride (.clamp 8) (.clamp (-1)) 0]
  ]

/-- The phases are both folded before either is merged. -/
theorem Run.saturatingPhases_agree
    : Relation.ReflTransGen Run.Step (Run.start saturatingPhases)
          {
            processes := [.finished, .finished]
            table := Table.ingestTogether saturatingPhases
          }
      ∧ Run.Finished
          {
            processes := [.finished, .finished]
            table := Table.ingestTogether saturatingPhases
          }
      ∧ (Table.ingestTogether saturatingPhases).AgreesInOrder saturatingPhases := by
  have steps := Run.ingestTogether_reachable saturatingPhases
  have finished : Run.Finished
      {
        processes := [.finished, .finished]
        table := Table.ingestTogether saturatingPhases
      } := by
    simp [Run.Finished]
  exact ⟨steps, finished, Run.finished_agreesInOrder steps finished⟩

-----------------------------------------------------------------------------------------
-- The tables that ingesting can leave
-----------------------------------------------------------------------------------------

/-- The tables that ingesting phases can leave: in order there is one, together there is one for
every interleaving.
-/
inductive Table.Ingests (phases : List (List (Record s))) : Bool → Table s → Prop
  | inOrder : Ingests phases false (.ingestInOrder phases)
  | interleaved (run : Run s)
    (steps : Relation.ReflTransGen Run.Step (Run.start phases) run) (finished : run.Finished)
    : Ingests phases true run.table

/-- Each such table has received the accesses of all phases in some order. -/
theorem Table.Ingests.exists_trace {phases : List (List (Record s))} {parallel : Bool}
    {table : Table s} (h : Table.Ingests phases parallel table)
    : ∃ trace : Trace s, trace.Perm (phases.flatMap Trace.ofPhase) ∧ table = trace.table := by
  cases h with
  | inOrder => exact ⟨_, .rfl, Table.ingestInOrder_eq phases⟩
  | interleaved run steps finished =>
      obtain ⟨trace, actual, progress, same, table⟩ := Run.progress steps
      exact ⟨actual, same.trans (progress.finished finished), table⟩

/-- If every key has sums that do not depend on the order of its records, all these tables list the
same entries.
-/
theorem Table.Ingests.entries_eq {phases : List (List (Record s))} {parallel together : Bool}
    {left right : Table s} (hl : Table.Ingests phases parallel left)
    (hr : Table.Ingests phases together right)
    (steady
      : parallel = true ∨ together = true
        → ∀ key (quantity : Quantity),
            Amount.OneSigned (quantity.amounts phases.flatten key)
            ∨ Amount.Contained (quantity.amounts phases.flatten key))
    : left.entries = right.entries := by
  by_cases ordered : parallel = false ∧ together = false
  · obtain ⟨rfl, rfl⟩ := ordered
    cases hl
    cases hr
    rfl
  · obtain ⟨first, whole, rfl⟩ := hl.exists_trace
    obtain ⟨second, again, rfl⟩ := hr.exists_trace
    have records : first.records.Perm phases.flatten := by
      rw [← Trace.records_phases]
      exact whole.filterMap Access.record?
    have either : parallel = true ∨ together = true := by
      cases parallel <;> cases together <;> simp_all
    refine Trace.entries_perm (whole.trans again.symm) fun key quantity => ?_
    have same := (quantity.amounts_perm records key).symm
    exact (steady either key quantity).imp (.perm same) (.perm same)

end AllocTrace
