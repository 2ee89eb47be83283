import AllocTrace.Proofs.Pipeline.Classification
import AllocTrace.Proofs.Table.IdlePhases

/-! A phase file without a byte among others. Main statement: adding one to a directory changes the
number of phases and nothing else, unless the layout is told by the header of the first phase file,
the new file comes first, and the others would have told the proxy layout.
-/

namespace AllocTrace

variable {s : Schema} {config : Config} {path : String} {parallel : Bool}
  {entries listing : List Listed} {files before after : List PhaseFile}
  {file : PhaseFile} {source : Csv.Source} {outcome : Outcome}

open PhaseFile (AllOpen allRecords counts ofEntries phases)

-----------------------------------------------------------------------------------------
-- The empty file
-----------------------------------------------------------------------------------------

theorem Csv.Source.contents_of_empty (empty : source.bytes = [])
    : source.contents = { header := [], items := [] } := by
  obtain ⟨bytes, fails, firstRead⟩ := source
  obtain rfl : bytes = [] := empty
  have text : Csv.Source.text { bytes := [], fails := fails, firstRead := firstRead } = [] := by
    simp [Csv.Source.text]
  have records
      : Csv.Source.records { bytes := [], fails := fails, firstRead := firstRead } = [] := by
    rw [Csv.Source.records, text]
    cases fails <;> rfl
  rw [Csv.Source.contents, records]

namespace PhaseFile

theorem records_of_empty (content : file.content = some source) (empty : source.bytes = [])
    : file.records s = [] := by
  simp [records, content, Csv.Source.contents_of_empty empty, Csv.Contents.trimmed]

/-- Reading the file yields no record and counts no row. -/
theorem read?_of_empty (s : Schema) (content : file.content = some source)
    (empty : source.bytes = [])
    : ∃ read, file.read? s = some read ∧ read.records = []
        ∧ ReadStats.ofPhase read.count = { phases := 1, records := 0, skippedRows := 0 } := by
  have opened : file.content ≠ none := by
    rw [content]
    exact Option.some_ne_none source
  obtain ⟨read, found⟩ := exists_read? s opened
  obtain ⟨records, held, rows⟩ := read?_spec found
  have none : file.rows = 0 := by
    simp [PhaseFile.rows, content, Csv.Source.contents_of_empty empty]
  rw [records_of_empty content empty] at records held
  rw [none] at rows
  refine ⟨read, found, records, ?_⟩
  have skipped : read.count.skipped = 0 := by omega
  rw [ReadStats.ofPhase, held, skipped]
  rfl

-----------------------------------------------------------------------------------------
-- Among other files
-----------------------------------------------------------------------------------------

theorem contents_append (s : Schema) (before after : List PhaseFile)
    : contents s (before ++ after) = contents s before ++ contents s after :=
  List.filterMap_append

theorem phases_append (s : Schema) (before after : List PhaseFile)
    : phases s (before ++ after) = phases s before ++ phases s after := by
  rw [phases, contents_append, List.map_append]
  rfl

theorem allOpen_added (opened : file.content ≠ none)
    : AllOpen (before ++ file :: after) ↔ AllOpen (before ++ after) := by
  unfold AllOpen
  simp [or_imp, forall_and, opened]

theorem allRecords_added (nothing : file.records s = [])
    : allRecords s (before ++ file :: after) = allRecords s (before ++ after) := by
  simp [allRecords, nothing]

theorem phases_added {read : PhaseContent s} (found : file.read? s = some read)
    (nothing : read.records = [])
    : phases s (before ++ file :: after) = phases s before ++ [] :: phases s after := by
  rw [phases, contents_append, contents_cons found, List.map_append, List.map_cons, nothing]
  rfl

/-- The totals of the other files and those of the file, which may be counted last. -/
theorem stats_added {read : PhaseContent s} (found : file.read? s = some read)
    : ReadStats.ofCounts (counts s (before ++ file :: after))
      = (ReadStats.ofCounts (counts s (before ++ after))).merge (.ofPhase read.count) := by
  have last : (counts s (before ++ file :: after)).Perm
      (counts s (before ++ after) ++ [read.count]) := by
    rw [counts, counts, contents_append, contents_append, contents_cons found, List.map_append,
      List.map_append, List.map_cons]
    exact List.perm_middle.trans (List.perm_append_singleton _ _).symm
  have one : ReadStats.ofCounts [read.count] = .ofPhase read.count := ReadStats.zero_merge _
  rw [ReadStats.ofCounts_perm last, ReadStats.ofCounts_append, one]

end PhaseFile

namespace Schema

theorem detect_of_empty (empty : source.bytes = [])
    : detect source = .stride := by
  rw [detect, Csv.Source.contents_of_empty empty]
  rfl

/-- A file in front settles the layout if the first header is to tell it. -/
theorem resolve_added (choice : SchemaChoice) (content : file.content = some source)
    (empty : source.bytes = [])
    : resolve choice (before ++ file :: after)
      = if choice = .auto ∧ before = [] then .stride else resolve choice (before ++ after) := by
  cases choice with
  | stride => rfl
  | proxy => rfl
  | auto =>
      cases before with
      | nil => simp [resolve, content, detect_of_empty empty]
      | cons first rest => simp [resolve]

end Schema

namespace Outcome

-----------------------------------------------------------------------------------------
-- Adding the empty file
-----------------------------------------------------------------------------------------

/-- The outcome with one more phase counted. -/
def countPhase (outcome : Outcome) : Outcome :=
  { outcome with stats := { outcome.stats with phases := outcome.stats.phases + 1 } }

/-- The file comes before all others, and its header tells another layout than theirs would. -/
def Misleads (config : Config) (files : List PhaseFile) (file : PhaseFile) : Prop :=
  config.schema = .auto
  ∧ Schema.resolve config.schema files = .proxy
  ∧ ∀ other ∈ files, file.name < other.name

instance (config : Config) (files : List PhaseFile) (file : PhaseFile)
    : Decidable (Misleads config files file) :=
  inferInstanceAs (Decidable (_ ∧ _ ∧ _))

/-- What adding an empty file to a directory does: it is counted and changes nothing else, or else
the run goes as with the stride layout chosen.
-/
structure Absorbs (config : Config) (path : String) (entries listing : List Listed)
    (file : PhaseFile) (outcome : Outcome)
    : Prop where
  kept
    : Yields config path (.directory listing) (.ok outcome.countPhase)
      ↔ ¬ Misleads config (ofEntries config.extension entries) file
  only
    : ¬ Misleads config (ofEntries config.extension entries) file
      → ∀ result,
          Yields config path (.directory listing) result
          → ∃ earlier,
              Yields config path (.directory entries) (.ok earlier)
              ∧ result = .ok earlier.countPhase
  misled
    : Misleads config (ofEntries config.extension entries) file
      → ∀ result,
          Yields config path (.directory listing) result
          ↔ Yields { config with schema := .stride } path (.directory listing) result

/-- Outcomes read the tallies of a table, not the number of phases that it counted. -/
theorem ofTable_alike {table small : Table s} (alike : table.Alike small) (config : Config)
    (stats : RunStats)
    : ofTable config table stats = ofTable config small stats := by
  rw [ofTable, ofTable, Summary.ofTable, Summary.ofTable, alike.entries]

/-- Where all files before the empty one and all files behind it are known, it misleads if there are
none before it.
-/
theorem misleads_iff (lower : ∀ other ∈ before, other.name < file.name)
    (upper : ∀ other ∈ after, file.name < other.name)
    : Misleads config (before ++ after) file
      ↔ config.schema = .auto
        ∧ Schema.resolve config.schema (before ++ after) = .proxy
        ∧ before = [] := by
  unfold Misleads
  refine and_congr_right fun _ => and_congr_right fun _ => ?_
  cases before with
  | nil => exact ⟨fun _ => rfl, fun _ => upper⟩
  | cons first rest =>
      constructor
      · intro later
        have below := lower first List.mem_cons_self
        exact absurd (later first List.mem_cons_self) (String.lt_asymm below)
      · intro none
        cases none

/-- The empty file among the phase files of a directory: those before it, those behind it, and where
it stands in the listing that has it.
-/
structure EmptyAmong (config : Config) (entries listing : List Listed) (file : PhaseFile)
    (before after : List PhaseFile)
    : Prop where
  others : ofEntries config.extension entries = before ++ after
  whole : ofEntries config.extension listing = before ++ file :: after
  lower : ∀ other ∈ before, other.name < file.name
  upper : ∀ other ∈ after, file.name < other.name
  content : ∃ source, file.content = some source ∧ source.bytes = []

namespace EmptyAmong

variable (among : EmptyAmong config entries listing file before after)

include among

/-- With the empty file the same layout is settled, unless it misleads. -/
theorem resolve_eq
    : Schema.resolve config.schema (before ++ file :: after)
      = if Misleads config (ofEntries config.extension entries) file then .stride
        else Schema.resolve config.schema (before ++ after) := by
  obtain ⟨source, content, empty⟩ := among.content
  rw [Schema.resolve_added config.schema content empty, among.others]
  have misleads := @misleads_iff config before after file among.lower among.upper
  by_cases h : Misleads config (before ++ after) file
  · obtain ⟨auto, -, front⟩ := misleads.mp h
    rw [if_pos h, if_pos ⟨auto, front⟩]
  · rw [if_neg h]
    by_cases front : config.schema = .auto ∧ before = []
    · -- The file is asked for the layout, but the others tell the stride layout as well.
      rw [if_pos front]
      cases told : Schema.resolve config.schema (before ++ after) with
      | stride => rfl
      | proxy => exact absurd (misleads.mpr ⟨front.1, told, front.2⟩) h
    · rw [if_neg front]

theorem opened_iff
    : AllOpen (before ++ file :: after) ↔ AllOpen (before ++ after) := by
  obtain ⟨source, content, -⟩ := among.content
  refine PhaseFile.allOpen_added ?_
  rw [content]
  exact Option.some_ne_none source

theorem allRecords_eq (s : Schema)
    : allRecords s (before ++ file :: after) = allRecords s (before ++ after) := by
  obtain ⟨source, content, empty⟩ := among.content
  exact PhaseFile.allRecords_added (PhaseFile.records_of_empty content empty)

theorem phases_eq (s : Schema)
    : phases s (before ++ file :: after) = phases s before ++ [] :: phases s after := by
  obtain ⟨source, content, empty⟩ := among.content
  obtain ⟨read, found, nothing, -⟩ := PhaseFile.read?_of_empty s content empty
  exact PhaseFile.phases_added found nothing

/-- Alike tables give the same outcome, with the empty file counted on one side. -/
theorem ofFiles_eq {table small : Table s} (alike : table.Alike small)
    : ofFiles config (before ++ file :: after) table
      = (ofFiles config (before ++ after) small).countPhase := by
  obtain ⟨source, content, empty⟩ := among.content
  obtain ⟨read, found, -, one⟩ := PhaseFile.read?_of_empty s content empty
  rw [ofFiles, ofTable_alike alike, alike.size, PhaseFile.stats_added found, one]
  rfl

end EmptyAmong

/-- A success without the empty file is one with it, and one more phase is counted. -/
theorem EmptyAmong.kept (among : EmptyAmong config entries listing file before after)
    (harmless : ¬ Misleads config (ofEntries config.extension entries) file)
    (yields : Yields config path (.directory entries) (.ok outcome))
    : Yields config path (.directory listing) (.ok outcome.countPhase) := by
  have resolved := among.resolve_eq
  rw [if_neg harmless] at resolved
  obtain ⟨opened, held, small, part, rfl⟩ := (yields_ok_iff among.others rfl).mp yields
  rw [PhaseFile.phases_append] at part
  obtain ⟨table, whole, alike⟩ := part.with_empty
  rw [← among.phases_eq] at whole
  rw [← among.allRecords_eq] at held
  rw [← among.ofFiles_eq alike]
  exact (yields_ok_iff among.whole resolved).mpr
    ⟨among.opened_iff.mpr opened, held, table, whole, rfl⟩

/-- With the empty file the run has no other results than those successes. -/
theorem EmptyAmong.only (among : EmptyAmong config entries listing file before after)
    (harmless : ¬ Misleads config (ofEntries config.extension entries) file)
    (yields : Yields config path (.directory entries) (.ok outcome))
    {result : Except IngestError Outcome} (other : Yields config path (.directory listing) result)
    : ∃ earlier,
        Yields config path (.directory entries) (.ok earlier)
        ∧ result = .ok earlier.countPhase := by
  have resolved := among.resolve_eq
  rw [if_neg harmless] at resolved
  obtain ⟨opened, held, -⟩ := (yields_ok_iff among.others rfl).mp yields
  have holds : (Place.directory listing).Holds config.extension (before ++ file :: after) :=
    ⟨listing, rfl, among.whole, by simp⟩
  have filled : ∃ file' ∈ before ++ file :: after,
      file'.records (Schema.resolve config.schema (before ++ file :: after)) ≠ [] := by
    rw [← PhaseFile.allRecords_ne_nil_iff, resolved, among.allRecords_eq]
    exact held
  obtain ⟨later, rfl⟩ :=
    other.ends.success_iff.mpr ⟨_, holds, among.opened_iff.mpr opened, filled⟩
  obtain ⟨-, -, table, whole, rfl⟩ := (yields_ok_iff among.whole resolved).mp other
  rw [among.phases_eq] at whole
  obtain ⟨small, part, alike⟩ := whole.without_empty
  rw [← PhaseFile.phases_append] at part
  exact ⟨_, (yields_ok_iff among.others rfl).mpr ⟨opened, held, small, part, rfl⟩,
    congrArg Except.ok (among.ofFiles_eq alike)⟩

/-- An empty file that misleads settles the stride layout. -/
theorem EmptyAmong.resolve_misled (among : EmptyAmong config entries listing file before after)
    (misleads : Misleads config (ofEntries config.extension entries) file)
    : Schema.resolve config.schema (ofEntries config.extension listing) = .stride := by
  rw [among.whole, among.resolve_eq, if_pos misleads]

/-- Adding a file without a byte to a directory that a run succeeds on is absorbed: the run has the
same results with one more phase counted, unless the file misleads about the layout.
-/
theorem Yields.absorbs (yields : Yields config path (.directory entries) (.ok outcome))
    (distinct : ((file.listed :: entries).map (·.name)).Nodup)
    (added : listing.Perm (file.listed :: entries))
    (has : extension? file.name = some config.extension)
    (content : file.content = some source) (empty : source.bytes = [])
    : Absorbs config path entries listing file outcome := by
  obtain ⟨before, after, others, whole, lower, upper⟩ :=
    PhaseFile.ofEntries_added distinct added has
  have among : EmptyAmong config entries listing file before after :=
    ⟨others, whole, lower, upper, source, content, empty⟩
  refine { kept := ?_, only := ?_, misled := ?_ }
  · constructor
    · intro later misleads
      have told := yields.schema_eq
      have fallen := later.schema_eq
      rw [misleads.2.1] at told
      rw [among.resolve_misled misleads] at fallen
      cases told.symm.trans fallen
    · intro harmless
      exact among.kept harmless yields
  · intro harmless result other
    exact among.only harmless yields other
  · intro misleads result
    have same (files : List PhaseFile)
        (h : PhaseFile.discover path config.extension (.directory listing) = .ok files)
        : Schema.resolve config.schema files = .stride := by
      rw [PhaseFile.discover_directory] at h
      split at h
      · cases h
      · cases h
        exact among.resolve_misled misleads
    constructor
    · intro other
      exact other.of_resolve same
    · intro other
      exact other.of_resolve fun files h => (same files h).symm

/-- A phase file of the proxy layout with one record. -/
def proxyPhase : Listed :=
  {
    name := "b.csv"
    kind :=
      .regular
        (some
          (.ofBytes
            ("raw_size,alignment,proxy_index,count,fallbacks,raw_total_bytes,stride_total_bytes\n"
              ++ "24,8,1,3,0,72,96\n").toUTF8.toList))
  }

/-- What the phase comes to by itself. -/
def proxyOutcome : Outcome :=
  {
    schema := .proxy
    stats := { phases := 1, records := 1, skippedRows := 0, keys := 1 }
    report :=
      {
        title := "proxy trace data points"
        headers :=
          ["raw_size", "proxy", "count", "fallbacks", "raw_total", "stride_total", "peak"]
        rows := [["24", "1", "3", "0", "72", "96", "96"]]
      }
    chart :=
      {
        schema := .proxy
        points :=
          [
            {
              size := .clamp 24
              count := .clamp 3
              rawBytes := .clamp 72
              strideBytes := some (.clamp 96)
              peak := .clamp 96
            }
          ]
      }
  }

/-- A phase file of this name without a byte. -/
def emptyPhase (name : String) : PhaseFile :=
  { name := name, content := some (.ofBytes []) }

theorem proxyPhase_yields
    : Yields .default "traces" (.directory [proxyPhase]) (.ok proxyOutcome) := by
  have result : ofPlace .default "traces" (.directory [proxyPhase]) = .ok proxyOutcome := by
    decide +kernel
  rw [← result]
  exact ofPlace_yields .default "traces" (.directory [proxyPhase])

/-- The empty file comes last. -/
theorem proxyPhase_absorbs
    : Yields .default "traces" (.directory [proxyPhase]) (.ok proxyOutcome)
      ∧ (((emptyPhase "c.csv").listed :: [proxyPhase]).map (·.name)).Nodup
      ∧ extension? "c.csv" = some "csv"
      ∧ Absorbs .default "traces" [proxyPhase] [(emptyPhase "c.csv").listed, proxyPhase]
          (emptyPhase "c.csv") proxyOutcome := by
  have distinct : (((emptyPhase "c.csv").listed :: [proxyPhase]).map (·.name)).Nodup := by decide
  have has : extension? "c.csv" = some "csv" := by decide
  exact ⟨proxyPhase_yields, distinct, has,
    proxyPhase_yields.absorbs distinct .rfl has rfl rfl⟩

/-- The empty file comes first, and its header, which names no column, tells the stride layout. -/
theorem proxyPhase_misled
    : Config.default.validate = .ok ()
      ∧ Yields .default "traces" (.directory [proxyPhase]) (.ok proxyOutcome)
      ∧ extension? "a.csv" = some "csv"
      ∧ ∀ result,
          Yields .default "traces" (.directory [(emptyPhase "a.csv").listed, proxyPhase]) result
          → result = .error (.noRecords "traces" 2) := by
  have found : PhaseFile.ofEntries "csv" [(emptyPhase "a.csv").listed, proxyPhase]
      = [(emptyPhase "a.csv").listed, proxyPhase].filterMap (PhaseFile.ofListed? "csv") :=
    PhaseFile.ofEntries_eq (by decide) (.refl _) (by decide)
  refine ⟨by decide +kernel, proxyPhase_yields, by decide, ?_⟩
  intro result yields
  rw [yields.eq_ofPlace rfl, ofPlace_directory found (by decide)]
  decide +kernel

end Outcome

end AllocTrace
