import AllocTrace.Pipeline
import AllocTrace.Proofs.Phase.Reading
import AllocTrace.Proofs.Table.Schedules

/-! What the phase files of a run hold. Main statements: reading them yields the content of each, or
fails at the first that cannot be opened; and the totals count every file, every record and every
row once.
-/

namespace AllocTrace

variable {s : Schema}

/-- The content of a source that is read to its end. -/
def PhaseContent.ofSource (s : Schema) (source : Csv.Source) : PhaseContent s :=
  {
    records := (PhaseReader.ofSource s source).records
    count := (PhaseReader.ofSource s source).total
  }

namespace PhaseFile

/-- The records that the rows of the file hold, in file order. -/
def records (s : Schema) (file : PhaseFile) : List (Record s) :=
  match file.content with
  | none => []
  | some source =>
    let contents := source.contents.trimmed
    contents.items.filterMap
      (PhaseReader.decode? (ColumnIndex.ofHeader contents.header s.columns))

/-- How many rows the file has below its header. -/
def rows (file : PhaseFile) : Nat :=
  match file.content with
  | none => 0
  | some source => source.contents.items.length

/-- What reading the file yields, if it can be opened. -/
def read? (s : Schema) (file : PhaseFile) : Option (PhaseContent s) :=
  file.content.map (PhaseContent.ofSource s)

/-- The records of the files, one file after the other. -/
def allRecords (s : Schema) (files : List PhaseFile) : List (Record s) :=
  files.flatMap (records s)

def totalRows (files : List PhaseFile) : Nat :=
  (files.map rows).sum

/-- The contents of the files that can be opened, in order. -/
def contents (s : Schema) (files : List PhaseFile) : List (PhaseContent s) :=
  files.filterMap (read? s)

/-- The records of each file that can be opened. -/
def phases (s : Schema) (files : List PhaseFile) : List (List (Record s)) :=
  (contents s files).map (·.records)

/-- The row counts of the files that can be opened. -/
def counts (s : Schema) (files : List PhaseFile) : List RowCount :=
  (contents s files).map (·.count)

/-- All files can be opened. -/
def AllOpen (files : List PhaseFile) : Prop :=
  ∀ file ∈ files, file.content ≠ none

instance (files : List PhaseFile) : Decidable (AllOpen files) :=
  inferInstanceAs (Decidable (∀ file ∈ files, file.content ≠ none))

/-- The first of the files that cannot be opened. -/
def FirstClosed (files : List PhaseFile) (file : PhaseFile) : Prop :=
  ∃ before after, files = before ++ file :: after ∧ AllOpen before ∧ file.content = none

theorem FirstClosed.mem {files : List PhaseFile} {file : PhaseFile} (h : FirstClosed files file)
    : file ∈ files := by
  obtain ⟨before, after, rfl, -, -⟩ := h
  exact List.mem_append_right _ List.mem_cons_self

theorem FirstClosed.closed {files : List PhaseFile} {file : PhaseFile}
    (h : FirstClosed files file)
    : file.content = none := by
  obtain ⟨before, after, -, -, closed⟩ := h
  exact closed

/-- Either all files can be opened or there is a first that cannot, by induction on the files. -/
theorem allOpen_or_firstClosed (files : List PhaseFile)
    : AllOpen files ∨ ∃ file, FirstClosed files file := by
  induction files with
  | nil => exact Or.inl (List.forall_mem_nil _)
  | cons file rest ih =>
      cases held : file.content with
      | none => exact Or.inr ⟨file, [], rest, rfl, List.forall_mem_nil _, held⟩
      | some source =>
          have opened : file.content ≠ none := by simp [held]
          rcases ih with whole | ⟨closed, before, after, rfl, front, none⟩
          · exact Or.inl (List.forall_mem_cons.mpr ⟨opened, whole⟩)
          · exact Or.inr ⟨closed, file :: before, after, rfl,
              List.forall_mem_cons.mpr ⟨opened, front⟩, none⟩

-----------------------------------------------------------------------------------------
-- One file
-----------------------------------------------------------------------------------------

/-- Reading a file yields the records of its rows and accounts for every row. -/
theorem read?_spec {file : PhaseFile} {content : PhaseContent s}
    (h : file.read? s = some content)
    : content.records = file.records s
      ∧ content.count.records = (file.records s).length
      ∧ content.count.records + content.count.skipped = file.rows := by
  obtain ⟨source, held, rfl⟩ := Option.map_eq_some_iff.mp h
  obtain ⟨found, rows, skipped⟩ := (PhaseReader.ofSource s source).delivered
  have records : (PhaseContent.ofSource s source).records = file.records s := by
    rw [PhaseFile.records, held]
    exact found
  have pending : (PhaseReader.ofSource s source).pending.length = file.rows := by
    simp [PhaseFile.rows, held, PhaseReader.ofSource, PhaseReader.ofContents, Csv.Contents.trimmed]
  have whole : (PhaseContent.ofSource s source).count.rows = file.rows := by
    rw [← pending]
    exact rows.trans (Nat.zero_add _)
  have passed : (PhaseContent.ofSource s source).count.skipped + (file.records s).length
      = file.rows := by
    rw [← pending, ← records]
    exact skipped.trans (Nat.zero_add _)
  refine ⟨records, ?_, ?_⟩ <;>
    · rw [RowCount.records]
      omega

theorem exists_read? (s : Schema) {file : PhaseFile} (opened : file.content ≠ none)
    : ∃ content, file.read? s = some content := by
  obtain ⟨source, held⟩ := Option.ne_none_iff_exists'.mp opened
  exact ⟨.ofSource s source, by rw [read?, held, Option.map_some]⟩

-----------------------------------------------------------------------------------------
-- All files
-----------------------------------------------------------------------------------------

theorem allRecords_eq_nil_iff {files : List PhaseFile}
    : allRecords s files = [] ↔ ∀ file ∈ files, file.records s = [] :=
  List.flatMap_eq_nil_iff

theorem allRecords_ne_nil_iff {files : List PhaseFile}
    : allRecords s files ≠ [] ↔ ∃ file ∈ files, file.records s ≠ [] := by
  rw [Ne, allRecords_eq_nil_iff]
  simp only [not_forall, exists_prop]

theorem ne_nil_of_allRecords {files : List PhaseFile} (held : allRecords s files ≠ [])
    : files ≠ [] := by
  intro none
  subst none
  exact held rfl

theorem contents_cons {file : PhaseFile} {content : PhaseContent s}
    (found : file.read? s = some content) (rest : List PhaseFile)
    : contents s (file :: rest) = content :: contents s rest :=
  List.filterMap_cons_some found

theorem contents_cons_closed {file : PhaseFile} (closed : file.content = none)
    (rest : List PhaseFile)
    : contents s (file :: rest) = contents s rest :=
  List.filterMap_cons_none (by rw [read?, closed, Option.map_none])

/-- Files that can all be opened are read one after the other, by induction on the files. -/
theorem readAll_of_open {files : List PhaseFile} (opened : AllOpen files) (path : String)
    : PhaseContent.readAll s path files = .ok (contents s files) := by
  unfold PhaseContent.readAll
  induction files with
  | nil => rfl
  | cons file rest ih =>
      obtain ⟨first, others⟩ := List.forall_mem_cons.mp opened
      obtain ⟨source, held⟩ := Option.ne_none_iff_exists'.mp first
      have found : file.read? s = some (.ofSource s source) := by rw [read?, held, Option.map_some]
      rw [List.mapM_cons, ih others, contents_cons found, held]
      rfl

/-- Reading stops at the first file that cannot be opened, by induction on those before it. -/
theorem readAll_of_closed {files : List PhaseFile} {file : PhaseFile}
    (h : FirstClosed files file) (path : String)
    : PhaseContent.readAll s path files = .error (.phaseRead path file.name) := by
  obtain ⟨before, after, rfl, opened, closed⟩ := h
  unfold PhaseContent.readAll
  induction before with
  | nil =>
      rw [List.nil_append, List.mapM_cons, closed]
      rfl
  | cons first rest ih =>
      obtain ⟨held, others⟩ := List.forall_mem_cons.mp opened
      obtain ⟨source, held⟩ := Option.ne_none_iff_exists'.mp held
      rw [List.cons_append, List.mapM_cons, ih others, held]
      rfl

/-- The records of all phases are those of the files, by induction on the files. -/
theorem flatten_phases (s : Schema) (files : List PhaseFile)
    : (phases s files).flatten = allRecords s files := by
  induction files with
  | nil => rfl
  | cons file rest ih =>
      have split : allRecords s (file :: rest) = file.records s ++ allRecords s rest :=
        List.flatMap_cons
      cases found : file.read? s with
      | none =>
          have closed : file.content = none := Option.map_eq_none_iff.mp found
          have nothing : file.records s = [] := by rw [records, closed]
          rw [phases, contents_cons_closed closed, ← phases, ih, split, nothing, List.nil_append]
      | some content =>
          rw [phases, contents_cons found, List.map_cons, ← phases, List.flatten_cons, ih, split,
            (read?_spec found).1]

/-- The totals of reading the files count each file, each record and each row, by induction on the
files.
-/
theorem stats_counts (s : Schema) {files : List PhaseFile} (opened : AllOpen files)
    : (ReadStats.ofCounts (counts s files)).phases = files.length
      ∧ (ReadStats.ofCounts (counts s files)).records = (allRecords s files).length
      ∧ (ReadStats.ofCounts (counts s files)).records
          + (ReadStats.ofCounts (counts s files)).skippedRows
        = totalRows files := by
  induction files with
  | nil => exact ⟨rfl, rfl, rfl⟩
  | cons file rest ih =>
      obtain ⟨first, others⟩ := List.forall_mem_cons.mp opened
      obtain ⟨phases, records, rows⟩ := ih others
      obtain ⟨content, found⟩ := exists_read? s first
      obtain ⟨-, held, accounted⟩ := read?_spec found
      have split : counts s (file :: rest) = [content.count] ++ counts s rest := by
        rw [counts, contents_cons found]
        rfl
      have one : ReadStats.ofCounts [content.count] = .ofPhase content.count :=
        ReadStats.zero_merge _
      rw [split, ReadStats.ofCounts_append, one]
      simp only [ReadStats.merge, ReadStats.ofPhase, allRecords, totalRows, List.flatMap_cons,
        List.length_append, List.length_cons, List.map_cons, List.sum_cons] at phases records rows ⊢
      omega

end PhaseFile

end AllocTrace
