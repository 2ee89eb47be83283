import AllocTrace.Proofs.Pipeline.Results
import AllocTrace.Proofs.Table.Entries

/-! What the rows of a trace directory become. Main statement: a run that succeeds has counted every
file, every row and every key once, whatever the schedule, and its chart adds up to what the rows
add up to.
-/

namespace AllocTrace

variable {config : Config} {path : String}

namespace Outcome

open PhaseFile (AllOpen allRecords phases totalRows)

/-- The result accounts for the rows of these phase files. Sums are exact as long as all gains and
all losses of the quantity fit the range.
-/
structure Conserves (config : Config) (files : List PhaseFile) (outcome : Outcome) : Prop where
  ordered : files.Pairwise fun a b => a.name ≤ b.name
  schema : outcome.schema = Schema.resolve config.schema files
  phases : outcome.stats.phases = files.length
  records : outcome.stats.records = (allRecords outcome.schema files).length
  rows : outcome.stats.records + outcome.stats.skippedRows = totalRows files
  keys
    : outcome.stats.keys = ((allRecords outcome.schema files).map (·.key)).dedup.length
  sizes
    : ∀ size,
        size ∈ outcome.chart.points.map (·.size)
        ↔ ∃ record ∈ allRecords outcome.schema files, record.key.size = size
  ascending : outcome.chart.points.Pairwise fun a b => a.size.val < b.size.val
  selected : outcome.report.rows.length = min outcome.stats.keys (2 * config.highlights)
  shown
    : ∀ quantity ≠ Quantity.fallbacks,
        ∀ point ∈ outcome.chart.points,
          (quantity.ofPoint point).isSome ↔ quantity.Shown outcome.schema
  sums
    : ∀ quantity ≠ Quantity.fallbacks,
        Amount.Contained (quantity.ofRecords (allRecords outcome.schema files))
        → Amount.exactTotal (outcome.chart.points.filterMap quantity.ofPoint)
          = Amount.exactTotal (quantity.ofRecords (allRecords outcome.schema files))

/-- If the files hold a record, nothing of the result is empty. -/
theorem Conserves.filled {files : List PhaseFile} {outcome : Outcome}
    (conserved : outcome.Conserves config files) (held : allRecords outcome.schema files ≠ [])
    : outcome.stats.records ≠ 0
      ∧ outcome.stats.keys ≠ 0
      ∧ outcome.chart.points ≠ []
      ∧ (config.highlights ≠ 0 → outcome.report.rows ≠ []) := by
  obtain ⟨record, member⟩ := List.exists_mem_of_ne_nil _ held
  have key : record.key ∈ ((allRecords outcome.schema files).map (·.key)).dedup :=
    List.mem_dedup.mpr (List.mem_map_of_mem member)
  have keys : outcome.stats.keys ≠ 0 := by
    rw [conserved.keys]
    exact mt List.length_eq_zero_iff.mp (List.ne_nil_of_mem key)
  refine ⟨?_, keys, ?_, ?_⟩
  · rw [conserved.records]
    exact mt List.length_eq_zero_iff.mp held
  · intro none
    have sized := (conserved.sizes record.key.size).mpr ⟨record, member, rfl⟩
    rw [none] at sized
    cases sized
  · intro asked none
    have selected := conserved.selected
    rw [none, List.length_nil] at selected
    omega

/-- Any table that the phases can leave gives a result that accounts for their rows. -/
theorem ofFiles_conserves {s : Schema} {files : List PhaseFile} (opened : AllOpen files)
    (ordered : files.Pairwise fun a b => a.name ≤ b.name)
    (resolved : s = Schema.resolve config.schema files) {parallel : Bool} {table : Table s}
    (ingests : Table.Ingests (phases s files) parallel table)
    : Conserves config files (ofFiles config files table) := by
  obtain ⟨trace, whole, rfl⟩ := ingests.exists_trace
  obtain ⟨counted, records, rows⟩ := PhaseFile.stats_counts s opened
  have flat := PhaseFile.flatten_phases s files
  have keys := Trace.size_table_phases whole
  rw [flat] at keys
  have sizes (size : Amount)
      : size ∈ (Summary.ofTable trace.table).series.map (·.size)
        ↔ ∃ record ∈ allRecords s files, record.key.size = size := by
    rw [Trace.mem_series_sizes whole, flat]
  have selected
      : (Report.ofSummary (.ofTable trace.table) config.highlights).rows.length
        = min trace.table.size (2 * config.highlights) := by
    rw [Report.ofSummary, List.length_map, Summary.length_highlights, trace.table.listed.size]
    rfl
  have shown (quantity : Quantity) (charted : quantity ≠ .fallbacks) (point : SeriesPoint)
      (member : point ∈ (Summary.ofTable trace.table).series)
      : (quantity.ofPoint point).isSome ↔ quantity.Shown s := by
    rw [Trace.ofPoint_series trace charted member]
    split <;> simp_all
  have sums (quantity : Quantity) (charted : quantity ≠ .fallbacks)
      (contained : Amount.Contained (quantity.ofRecords (allRecords s files)))
      : Amount.exactTotal ((Summary.ofTable trace.table).series.filterMap quantity.ofPoint)
        = Amount.exactTotal (quantity.ofRecords (allRecords s files)) := by
    rw [← flat] at contained ⊢
    exact Trace.exactTotal_points whole charted contained
  exact {
    ordered := ordered
    schema := resolved
    phases := counted
    records := records
    rows := rows
    keys := keys
    sizes := sizes
    ascending := Summary.series_ascending (.ofTable trace.table)
    selected := selected
    shown := shown
    sums := sums
  }

/-- A run that succeeds has found a directory and accounts for the rows of all its phase files. -/
theorem Yields.conserves {place : Place} {outcome : Outcome}
    (yields : Yields config path place (.ok outcome))
    : ∃ entries,
        place = .directory entries
        ∧ outcome.Conserves config (PhaseFile.ofEntries config.extension entries) := by
  cases yields.ends with
  | @success entries files found opened held table ingests =>
      have ordered := PhaseFile.ofEntries_ascending config.extension entries
      refine ⟨entries, rfl, ?_⟩
      rw [found] at ordered ⊢
      exact ofFiles_conserves opened ordered rfl ingests

/-- Two phase files, listed against the order of their names, with a row that holds no record. -/
def twoPhases : List Listed :=
  [
    {
      name := "b.csv"
      kind :=
        .regular (some (.ofBytes "bucket,count,raw_bytes\n16,1,16\n32,1,30\n".toUTF8.toList))
    },
    {
      name := "a.csv"
      kind :=
        .regular (some (.ofBytes "bucket,count,raw_bytes\n16,3,48\n16,3\n".toUTF8.toList))
    }
  ]

/-- What the two phases come to. -/
def twoPhasesOutcome : Outcome :=
  {
    schema := .stride
    stats := { phases := 2, records := 3, skippedRows := 1, keys := 2 }
    report :=
      {
        title := "stride trace data points"
        headers := ["bucket", "count", "raw_bytes", "peak"]
        rows := [["16", "4", "64", "48"], ["32", "1", "30", "30"]]
      }
    chart :=
      {
        schema := .stride
        points :=
          [
            {
              size := .clamp 16
              count := .clamp 4
              rawBytes := .clamp 64
              strideBytes := none
              peak := .clamp 48
            },
            {
              size := .clamp 32
              count := .clamp 1
              rawBytes := .clamp 30
              strideBytes := none
              peak := .clamp 30
            }
          ]
      }
  }

theorem twoPhases_conserved
    : Yields .default "traces" (.directory twoPhases) (.ok twoPhasesOutcome)
      ∧ ∃ entries,
          Place.directory twoPhases = .directory entries
          ∧ twoPhasesOutcome.Conserves .default (PhaseFile.ofEntries "csv" entries) := by
  have found : PhaseFile.ofEntries "csv" twoPhases
      = twoPhases.reverse.filterMap (PhaseFile.ofListed? "csv") :=
    PhaseFile.ofEntries_eq (by decide) ((List.reverse_perm twoPhases).symm.filterMap _)
      (by decide)
  have result : ofPlace .default "traces" (.directory twoPhases) = .ok twoPhasesOutcome := by
    rw [ofPlace_directory found (by decide)]
    decide +kernel
  have yields : Yields .default "traces" (.directory twoPhases) (.ok twoPhasesOutcome) := by
    rw [← result]
    exact ofPlace_yields .default "traces" (.directory twoPhases)
  exact ⟨yields, yields.conserves⟩

end Outcome

end AllocTrace
