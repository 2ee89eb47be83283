import AllocTrace.Proofs.Directory.Discovery
import AllocTrace.Proofs.Pipeline.Reading

/-! The results that a run can have. A sequential run has one; a parallel run has one for every
interleaving of its phases and, where files cannot be opened, one for each of them. Main statements:
the computed result is one of them, for a sequential run the only one, and every run ends in one of
six ways.
-/

namespace AllocTrace

variable {s : Schema} {config : Config} {path : String} {files : List PhaseFile}
  {parallel : Bool}

open PhaseFile (AllOpen FirstClosed phases counts)

/-- Row counts merged one after the other. -/
def Reduction.ofCounts : List RowCount → Reduction
  | [] => .neutral
  | count :: rest => .merge (.phase count) (ofCounts rest)

theorem Reduction.counts_ofCounts (counts : List RowCount)
    : (ofCounts counts).counts = counts := by
  induction counts with
  | nil => rfl
  | cons count rest ih =>
      rw [ofCounts, Reduction.counts, ih, Reduction.counts, List.singleton_append]

namespace Outcome

-----------------------------------------------------------------------------------------
-- From the table to the result
-----------------------------------------------------------------------------------------

/-- The result of a run with this table and these totals. -/
def ofTable (config : Config) (table : Table s) (stats : RunStats) : Outcome :=
  {
    schema := s
    stats := stats
    report := .ofSummary (.ofTable table) config.highlights
    chart := .ofSummary (.ofTable table)
  }

/-- The result of a run that has read all these files into the table. -/
def ofFiles (config : Config) (files : List PhaseFile) (table : Table s) : Outcome :=
  ofTable config table { toReadStats := .ofCounts (counts s files), keys := table.size }

/-- A run has a result if its phases hold a record. -/
def conclude (config : Config) (path : String) (aggregated : Table s × RunStats)
    : Except IngestError Outcome :=
  if aggregated.2.records = 0 then .error (.noRecords path aggregated.2.phases)
  else .ok (ofTable config aggregated.1 aggregated.2)

theorem summarize_eq (s : Schema) (config : Config) (path : String) (files : List PhaseFile)
    : summarize s config path files
      = aggregate s path files config.parallel >>= conclude config path :=
  bind_congr fun _ => rfl

/-- A directory with phase files is summarized in the layout that is settled for them. -/
theorem ofPlace_directory {entries : List Listed}
    (found : PhaseFile.ofEntries config.extension entries = files) (present : files ≠ [])
    (path : String)
    : ofPlace config path (.directory entries)
      = summarize (Schema.resolve config.schema files) config path files := by
  rw [ofPlace, PhaseFile.discover_directory, found, if_neg present]
  rfl

theorem aggregate_of_open (opened : AllOpen files) (path : String) (parallel : Bool)
    : aggregate s path files parallel
      = .ok
        (let table :=
          if parallel then Table.ingestTogether (phases s files)
          else Table.ingestInOrder (phases s files)
        (table, { toReadStats := .ofCounts (counts s files), keys := table.size })) := by
  have totals : ReadStats.ofCounts (counts s files)
      = ((PhaseFile.contents s files).map fun content => ReadStats.ofPhase content.count).foldl
          ReadStats.merge .zero := by
    rw [ReadStats.ofCounts, counts, List.map_map]
    rfl
  rw [aggregate, PhaseFile.readAll_of_open opened, totals]
  rfl

theorem aggregate_of_closed {file : PhaseFile} (first : FirstClosed files file) (path : String)
    (parallel : Bool)
    : aggregate s path files parallel = .error (.phaseRead path file.name) := by
  rw [aggregate, PhaseFile.readAll_of_closed first]
  rfl

-----------------------------------------------------------------------------------------
-- Every schedule
-----------------------------------------------------------------------------------------

/-- What aggregating phase files can end with. Files read at the same time give the table of any
interleaving and totals merged in any shape, or the failure of any file that cannot be opened.
-/
inductive Aggregates (s : Schema) (path : String) (files : List PhaseFile)
    : Bool → Except IngestError (Table s × RunStats) → Prop
  | inOrder : Aggregates s path files false (aggregate s path files false)
  | unopened (file : PhaseFile) (member : file ∈ files) (closed : file.content = none)
    : Aggregates s path files true (.error (.phaseRead path file.name))
  | interleaved (opened : AllOpen files) (run : Run s)
    (steps : Relation.ReflTransGen Run.Step (Run.start (phases s files)) run)
    (finished : run.Finished) (tree : Reduction) (counted : tree.counts.Perm (counts s files))
    : Aggregates s path files true
        (.ok (run.table, { toReadStats := tree.stats, keys := run.table.size }))

/-- What a run over a place can end with, under any schedule. -/
inductive Yields (config : Config) (path : String) (place : Place)
    : Except IngestError Outcome → Prop
  | undiscovered {error : IngestError}
    (h : PhaseFile.discover path config.extension place = .error error)
    : Yields config path place (.error error)
  | discovered {files : List PhaseFile}
    (h : PhaseFile.discover path config.extension place = .ok files)
    {aggregated : Except IngestError (Table (Schema.resolve config.schema files) × RunStats)}
    (aggregates
      : Aggregates (Schema.resolve config.schema files) path files config.parallel aggregated)
    : Yields config path place (aggregated >>= conclude config path)

/-- Files that can be opened can be aggregated to every table that their phases can leave. -/
theorem aggregates_of_ingests {table : Table s} (opened : AllOpen files)
    (ingests : Table.Ingests (phases s files) parallel table) (path : String)
    : Aggregates s path files parallel
        (.ok (table, { toReadStats := .ofCounts (counts s files), keys := table.size })) := by
  cases ingests with
  | inOrder =>
      have result : Aggregates s path files false _ := .inOrder
      rw [aggregate_of_open opened] at result
      exact result
  | interleaved run steps finished =>
      have counted := Reduction.counts_ofCounts (counts s files)
      have result : Aggregates s path files true _ :=
        .interleaved opened run steps finished _ (.of_eq counted)
      rw [ReadStats.stats_eq, counted] at result
      exact result

/-- The computed aggregate is one of those possible: together, all phases fold before the first is
merged.
-/
theorem aggregate_aggregates (s : Schema) (path : String) (files : List PhaseFile)
    (parallel : Bool)
    : Aggregates s path files parallel (aggregate s path files parallel) := by
  cases parallel with
  | false => exact .inOrder
  | true =>
      rcases PhaseFile.allOpen_or_firstClosed files with opened | ⟨file, first⟩
      · rw [aggregate_of_open opened]
        have finished : Run.Finished
            {
              processes := List.replicate (phases s files).length .finished
              table := Table.ingestTogether (phases s files)
            } :=
          fun process member => List.eq_of_mem_replicate member
        exact aggregates_of_ingests opened
          (.interleaved _ (Run.ingestTogether_reachable (phases s files)) finished) path
      · rw [aggregate_of_closed first]
        exact .unopened file first.mem first.closed

/-- The computed result is one of those possible. -/
theorem ofPlace_yields (config : Config) (path : String) (place : Place)
    : Yields config path place (ofPlace config path place) := by
  unfold ofPlace
  cases h : PhaseFile.discover path config.extension place with
  | error error => exact .undiscovered h
  | ok files =>
      have result := Yields.discovered h
        (aggregate_aggregates (Schema.resolve config.schema files) path files config.parallel)
      rw [← summarize_eq] at result
      exact result

/-- The layout choice matters only through the layout that it settles. -/
theorem Yields.of_resolve {place : Place} {result : Except IngestError Outcome}
    {choice : SchemaChoice} (yields : Yields config path place result)
    (same
      : ∀ files,
          PhaseFile.discover path config.extension place = .ok files
          → Schema.resolve config.schema files = Schema.resolve choice files)
    : Yields { config with schema := choice } path place result := by
  cases yields with
  | undiscovered h => exact .undiscovered h
  | @discovered files h aggregated aggregates =>
      have resolved := same files h
      revert aggregated
      rw [resolved]
      intro aggregated aggregates
      exact @Yields.discovered { config with schema := choice } path place files h aggregated
        aggregates

/-- A sequential run has no other result. -/
theorem Yields.eq_ofPlace {place : Place} {result : Except IngestError Outcome}
    (yields : Yields config path place result) (sequential : config.parallel = false)
    : result = ofPlace config path place := by
  cases yields with
  | undiscovered h =>
      rw [ofPlace, h]
      rfl
  | @discovered files h aggregated aggregates =>
      rw [sequential] at aggregates
      cases aggregates
      rw [ofPlace, h, ← sequential, ← summarize_eq]
      rfl

-----------------------------------------------------------------------------------------
-- What results come from
-----------------------------------------------------------------------------------------

/-- Aggregating fails at a file that cannot be opened, in order at the first, or ends with a table
that ingesting the phases can leave, and the totals of all files.
-/
theorem Aggregates.cases {result : Except IngestError (Table s × RunStats)}
    (h : Aggregates s path files parallel result)
    : (∃ file ∈ files,
        file.content = none
        ∧ (parallel = false → FirstClosed files file)
        ∧ result = .error (.phaseRead path file.name))
      ∨ AllOpen files
        ∧ ∃ table,
            Table.Ingests (phases s files) parallel table
            ∧ result
              = .ok (table, { toReadStats := .ofCounts (counts s files), keys := table.size }) := by
  cases h with
  | inOrder =>
      rcases PhaseFile.allOpen_or_firstClosed files with opened | ⟨file, first⟩
      · exact Or.inr ⟨opened, _, .inOrder, aggregate_of_open opened path false⟩
      · exact Or.inl ⟨file, first.mem, first.closed, fun _ => first,
          aggregate_of_closed first path false⟩
  | unopened file member closed => exact Or.inl ⟨file, member, closed, by simp, rfl⟩
  | interleaved opened run steps finished tree counted =>
      refine Or.inr ⟨opened, run.table, .interleaved run steps finished, ?_⟩
      rw [ReadStats.stats_eq, ReadStats.ofCounts_perm counted]

theorem conclude_of_open (opened : AllOpen files) (config : Config) (path : String)
    (table : Table s)
    : conclude config path
        (table, { toReadStats := .ofCounts (counts s files), keys := table.size })
      = if PhaseFile.allRecords s files = [] then .error (.noRecords path files.length)
        else .ok (ofFiles config files table) := by
  obtain ⟨counted, held, -⟩ := PhaseFile.stats_counts s opened
  unfold conclude ofFiles
  simp only [held, counted, List.length_eq_zero_iff]

/-- How a run ends at what stands at its path: the failures in the order in which they are met, and
otherwise the result of a table that ingesting the phases can leave.
-/
inductive Ends (config : Config) (path : String) : Place → Except IngestError Outcome → Prop
  | missing : Ends config path .missing (.error (.notFound path))
  | file (content : Content)
    : Ends config path (.file content) (.error (.notADirectory path))
  | empty (entries : List Listed) (absent : PhaseFile.ofEntries config.extension entries = [])
    : Ends config path (.directory entries) (.error (.noPhaseFiles path config.extension))
  | unopened (entries : List Listed) (file : PhaseFile)
    (member : file ∈ PhaseFile.ofEntries config.extension entries)
    (closed : file.content = none)
    (first
      : config.parallel = false
        → FirstClosed (PhaseFile.ofEntries config.extension entries) file)
    : Ends config path (.directory entries) (.error (.phaseRead path file.name))
  | bare (entries : List Listed) {files : List PhaseFile}
    (found : PhaseFile.ofEntries config.extension entries = files)
    (present : files ≠ [])
    (opened : AllOpen files)
    (nothing : PhaseFile.allRecords (Schema.resolve config.schema files) files = [])
    : Ends config path (.directory entries) (.error (.noRecords path files.length))
  | success (entries : List Listed) {files : List PhaseFile}
    (found : PhaseFile.ofEntries config.extension entries = files)
    (opened : AllOpen files)
    (held : PhaseFile.allRecords (Schema.resolve config.schema files) files ≠ [])
    (table : Table (Schema.resolve config.schema files))
    (ingests
      : Table.Ingests (phases (Schema.resolve config.schema files) files) config.parallel table)
    : Ends config path (.directory entries) (.ok (ofFiles config files table))

/-- Every run ends in one of these ways. -/
theorem Yields.ends {place : Place} {result : Except IngestError Outcome}
    (yields : Yields config path place result)
    : Ends config path place result := by
  cases yields with
  | undiscovered h =>
      cases place with
      | missing =>
          cases h
          exact .missing
      | file content =>
          cases h
          exact .file content
      | directory entries =>
          rw [PhaseFile.discover_directory] at h
          split at h
          · rename_i absent
            cases h
            exact .empty entries absent
          · cases h
  | @discovered files h aggregated aggregates =>
      cases place with
      | missing => cases h
      | file content => cases h
      | directory entries =>
          rw [PhaseFile.discover_directory] at h
          split at h
          · cases h
          · rename_i present
            cases h
            rcases aggregates.cases with
              ⟨file, member, closed, first, rfl⟩ | ⟨opened, table, ingests, rfl⟩
            · exact .unopened entries file member closed first
            · change Ends config path _ (conclude config path _)
              rw [conclude_of_open opened]
              split
              · rename_i nothing
                exact .bare entries rfl present opened nothing
              · rename_i held
                exact .success entries rfl opened held table ingests

-----------------------------------------------------------------------------------------
-- Successful runs
-----------------------------------------------------------------------------------------

/-- A run succeeds with the tables that its phases can leave, if they hold a record. -/
theorem yields_ok_iff {entries : List Listed} {outcome : Outcome}
    (found : PhaseFile.ofEntries config.extension entries = files)
    (resolved : Schema.resolve config.schema files = s)
    : Yields config path (.directory entries) (.ok outcome)
      ↔ AllOpen files
        ∧ PhaseFile.allRecords s files ≠ []
        ∧ ∃ table,
            Table.Ingests (phases s files) config.parallel table
            ∧ outcome = ofFiles config files table := by
  subst found resolved
  constructor
  · intro yields
    cases yields.ends with
    | success _ found opened held table ingests =>
        subst found
        exact ⟨opened, held, table, ingests, rfl⟩
  · intro ⟨opened, held, table, ingests, whole⟩
    have discovered : PhaseFile.discover path config.extension (.directory entries)
        = .ok (PhaseFile.ofEntries config.extension entries) := by
      rw [PhaseFile.discover_directory, if_neg (PhaseFile.ne_nil_of_allRecords held)]
    have result := Yields.discovered discovered (aggregates_of_ingests opened ingests path)
    change Yields config path _ (conclude config path _) at result
    rw [conclude_of_open opened, if_neg held, ← whole] at result
    exact result

theorem Yields.schema_eq {entries : List Listed} {outcome : Outcome}
    (yields : Yields config path (.directory entries) (.ok outcome))
    : outcome.schema
      = Schema.resolve config.schema (PhaseFile.ofEntries config.extension entries) := by
  obtain ⟨-, -, table, -, rfl⟩ := (yields_ok_iff rfl rfl).mp yields
  rfl

end Outcome

end AllocTrace
