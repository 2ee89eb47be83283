import AllocTrace.Chart.Drawing
import AllocTrace.Config.Basic
import AllocTrace.Directory
import AllocTrace.Report

/-! A whole run over a trace directory: its phase files are found, the layout is settled, the
phases are aggregated, and the report and the chart are made from the result.
-/

namespace AllocTrace

/-- Totals of reading any number of phases. -/
structure ReadStats where
  phases : Nat
  records : Nat
  skippedRows : Nat
deriving DecidableEq

namespace ReadStats

def zero : ReadStats :=
  { phases := 0, records := 0, skippedRows := 0 }

def ofPhase (count : RowCount) : ReadStats :=
  { phases := 1, records := count.records, skippedRows := count.skipped }

/-- The totals of two disjoint sets of phases together. -/
def merge (a b : ReadStats) : ReadStats :=
  {
    phases := a.phases + b.phases
    records := a.records + b.records
    skippedRows := a.skippedRows + b.skippedRows
  }

end ReadStats

/-- Totals of a run: of reading its phases, and how many keys they have. -/
structure RunStats extends ReadStats where
  keys : Nat
deriving DecidableEq

/-- What a run yields for the report and for the chart. -/
structure Outcome where
  schema : Schema
  stats : RunStats
  report : Report
  chart : Chart
deriving DecidableEq

/-- A phase file read to its end. -/
structure PhaseContent (s : Schema) where
  records : List (Record s)
  count : RowCount

namespace PhaseContent

/-- Reads the phase files in order, up to the first that cannot be opened. -/
def readAll (s : Schema) (path : String) (files : List PhaseFile)
    : Except IngestError (List (PhaseContent s)) :=
  files.mapM fun file =>
    match file.content with
    | none => .error (.phaseRead path file.name)
    | some source =>
      let deliveries := (PhaseReader.ofSource s source).deliveries
      .ok { records := deliveries.1.map Prod.fst, count := deliveries.2.count }

end PhaseContent

namespace Table

variable {s : Schema}

/-- One phase after the other, each folded and then merged. -/
def ingestInOrder (phases : List (List (Record s))) : Table s :=
  phases.foldl (fun table records => (table.ingest records).1) .empty

/-- All phases folded before the first is merged, as can happen when they are folded at the same
time.
-/
def ingestTogether (phases : List (List (Record s))) : Table s :=
  let (folded, subtotals) := phases.foldl
    (fun (table, done) records =>
      let (table, subtotals) := table.fold records
      (table, done ++ [subtotals]))
    (Table.empty, ([] : List (Subtotals s)))
  subtotals.foldl merge folded

end Table

namespace Schema

/-- The layout chosen, or the one that the first phase shows. -/
def resolve (choice : SchemaChoice) (files : List PhaseFile) : Schema :=
  match choice with
  | .stride => .stride
  | .proxy => .proxy
  | .auto => ((files.head?.bind (·.content)).map detect).getD .stride

end Schema

namespace Outcome

/-- The table of the phase files and the totals of reading them. -/
def aggregate (s : Schema) (path : String) (files : List PhaseFile) (parallel : Bool)
    : Except IngestError (Table s × RunStats) := do
  let contents ← PhaseContent.readAll s path files
  let records := contents.map (·.records)
  let table := if parallel then Table.ingestTogether records else Table.ingestInOrder records
  let stats :=
    (contents.map fun content => ReadStats.ofPhase content.count).foldl ReadStats.merge
      ReadStats.zero
  return (table, { toReadStats := stats, keys := table.size })

/-- The result of aggregating the phase files in a layout; without any record there is none. -/
def summarize (s : Schema) (config : Config) (path : String) (files : List PhaseFile)
    : Except IngestError Outcome := do
  let (table, stats) ← aggregate s path files config.parallel
  if stats.records = 0 then throw (.noRecords path stats.phases)
  else
    let summary := Summary.ofTable table
    return {
      schema := s
      stats := stats
      report := .ofSummary summary config.highlights
      chart := .ofSummary summary
    }

/-- The result of a run over what stands at a path. -/
def ofPlace (config : Config) (path : String) (place : Place) : Except IngestError Outcome := do
  let files ← PhaseFile.discover path config.extension place
  summarize (Schema.resolve config.schema files) config path files

end Outcome

end AllocTrace
