import AllocTrace.Proofs.Phase.Reading
import AllocTrace.Proofs.Text.Integers
import Mathlib.Data.List.Nodup

/-! Rows against the header above them. Main statement: a row is decoded from the cells under the
first mention of each required column and from nothing else, and of several columns that fail the
first one in the order of the layout is reported.
-/

namespace AllocTrace

variable {s : Schema} {header row : List String} {column : String}

-----------------------------------------------------------------------------------------
-- Columns
-----------------------------------------------------------------------------------------

namespace Column

/-- The name of the column stands, stripped, at the position of the header and nowhere before it. -/
structure FirstAt (header : List String) (column : String) (position : Nat) : Prop where
  here : header[position]?.map Text.trim = some column
  before : ∀ earlier < position, header[earlier]?.map Text.trim ≠ some column

/-- What a row under a header has in a column. -/
inductive Reads (header row : List String) (column : String) : Except CellError Amount → Prop
  | unnamed (absent : ∀ name ∈ header, Text.trim name ≠ column)
    : Reads header row column (.error (.missingColumn column))
  | short {position : Nat} (first : FirstAt header column position)
    (beyond : row.length ≤ position)
    : Reads header row column (.error (.missingField column))
  | blank {position : Nat} {cell : String} (first : FirstAt header column position)
    (shown : row[position]? = some cell) (blank : Text.trim cell = "")
    : Reads header row column (.error (.missingField column))
  | integer {position : Nat} {cell : String} {a : Amount} (first : FirstAt header column position)
    (shown : row[position]? = some cell) (denotes : Text.Denotes (Text.trim cell).toList a.val)
    : Reads header row column (.ok a)
  | invalid {position : Nat} {cell : String} (first : FirstAt header column position)
    (shown : row[position]? = some cell) (present : Text.trim cell ≠ "")
    (refused : ∀ a : Amount, ¬Text.Denotes (Text.trim cell).toList a.val)
    : Reads header row column (.error (.invalidInteger column (Text.trim cell)))

/-- Two rows, each under its header, have the same cell in a column, or neither has one. -/
inductive Alike (header row header' row' : List String) (column : String) : Prop
  | unnamed (absent : ∀ name ∈ header, Text.trim name ≠ column)
    (absent' : ∀ name ∈ header', Text.trim name ≠ column)
  | named {position position' : Nat} (first : FirstAt header column position)
    (first' : FirstAt header' column position') (same : row[position]? = row'[position']?)

theorem idxOf?_eq_some_iff {position : Nat}
    : (header.map Text.trim).idxOf? column = some position ↔ FirstAt header column position := by
  have shown (i : Nat) (within : i < (header.map Text.trim).length)
      : header[i]?.map Text.trim = some column ↔ (header.map Text.trim)[i] = column := by
    rw [← List.getElem?_map, List.getElem?_eq_getElem within, Option.some.injEq]
  rw [List.idxOf?_eq_some_iff]
  constructor
  · rintro ⟨within, here, before⟩
    refine ⟨(shown position within).mpr here, fun earlier below => ?_⟩
    exact (not_congr (shown earlier (below.trans within))).mpr (before earlier below)
  · rintro ⟨here, before⟩
    have within : position < (header.map Text.trim).length := by
      by_contra beyond
      rw [← List.getElem?_map, List.getElem?_eq_none (Nat.le_of_not_lt beyond)] at here
      cases here
    refine ⟨within, (shown position within).mp here, fun earlier below => ?_⟩
    exact (not_congr (shown earlier (below.trans within))).mp (before earlier below)

theorem idxOf?_eq_none_iff
    : (header.map Text.trim).idxOf? column = none ↔ ∀ name ∈ header, Text.trim name ≠ column := by
  simp

/-- A name of the header stands somewhere first. -/
theorem exists_firstAt (named : ∃ name ∈ header, Text.trim name = column)
    : ∃ position, FirstAt header column position := by
  cases found : (header.map Text.trim).idxOf? column with
  | some position => exact ⟨position, idxOf?_eq_some_iff.mp found⟩
  | none =>
      obtain ⟨name, member, same⟩ := named
      exact absurd same (idxOf?_eq_none_iff.mp found name member)

variable {required : List String}

theorem integer_of_unnamed (member : column ∈ required)
    (absent : ∀ name ∈ header, Text.trim name ≠ column)
    : (ColumnIndex.ofHeader header required).integer row column
      = .error (.missingColumn column) := by
  unfold ColumnIndex.integer
  rw [ColumnIndex.position?_ofHeader header member, idxOf?_eq_none_iff.mpr absent]

/-- A column that the header names is read from the cell below its first mention. -/
theorem integer_of_first (member : column ∈ required) {position : Nat}
    (first : FirstAt header column position)
    : (ColumnIndex.ofHeader header required).integer row column
      = row[position]?.elim (.error (.missingField column)) (readInteger column) := by
  unfold ColumnIndex.integer
  rw [ColumnIndex.position?_ofHeader header member, idxOf?_eq_some_iff.mpr first]
  cases shown : row[position]? <;> simp [shown]

/-- Reading a column comes to one of the cases, by whether it is named, present and an integer. -/
theorem reads_integer (member : column ∈ required)
    : Reads header row column ((ColumnIndex.ofHeader header required).integer row column) := by
  by_cases named : ∃ name ∈ header, Text.trim name = column
  · obtain ⟨position, first⟩ := exists_firstAt named
    rw [integer_of_first member first]
    cases shown : row[position]? with
    | none => exact .short first (List.getElem?_eq_none_iff.mp shown)
    | some cell =>
        rw [Option.elim_some]
        cases read : readInteger column cell with
        | ok a => exact .integer first shown (readInteger_eq_ok_iff.mp read)
        | error error =>
            obtain ⟨refused, rfl⟩ := readInteger_eq_error_iff.mp read
            simp only [ne_eq, readInteger_eq_ok_iff] at refused
            split
            · exact .blank first shown ‹_›
            · exact .invalid first shown ‹_› refused
  · have absent : ∀ name ∈ header, Text.trim name ≠ column := by simpa using named
    rw [integer_of_unnamed member absent]
    exact .unnamed absent

/-- In each of the cases reading the column comes to what the case says. -/
theorem Reads.integer_eq {result : Except CellError Amount} (h : Reads header row column result)
    (member : column ∈ required)
    : (ColumnIndex.ofHeader header required).integer row column = result := by
  cases h with
  | unnamed absent => exact integer_of_unnamed member absent
  | short first beyond =>
      rw [integer_of_first member first, List.getElem?_eq_none beyond, Option.elim_none]
  | blank first shown blank =>
      rw [integer_of_first member first, shown, Option.elim_some]
      exact readInteger_eq_missing_iff.mpr blank
  | integer first shown denotes =>
      rw [integer_of_first member first, shown, Option.elim_some]
      exact readInteger_eq_ok_iff.mpr denotes
  | invalid first shown present refused =>
      rw [integer_of_first member first, shown, Option.elim_some]
      refine readInteger_eq_invalid_iff.mpr ⟨present, fun a read => ?_⟩
      exact refused a (readInteger_eq_ok_iff.mp read)

theorem integer_eq_iff (member : column ∈ required) {result : Except CellError Amount}
    : (ColumnIndex.ofHeader header required).integer row column = result
      ↔ Reads header row column result :=
  ⟨fun same => same ▸ reads_integer member, fun reads => reads.integer_eq member⟩

/-- Rows that are alike in a column are read alike there. -/
theorem Alike.integer_eq {header' row' : List String} (h : Alike header row header' row' column)
    (member : column ∈ required)
    : (ColumnIndex.ofHeader header required).integer row column
      = (ColumnIndex.ofHeader header' required).integer row' column := by
  cases h with
  | unnamed absent absent' =>
      rw [integer_of_unnamed member absent, integer_of_unnamed member absent']
  | named first first' same =>
      rw [integer_of_first member first, integer_of_first member first', same]

-----------------------------------------------------------------------------------------
-- Rows with a cell under every name
-----------------------------------------------------------------------------------------

theorem FirstAt.lt_length {position : Nat} (h : FirstAt header column position)
    : position < header.length := by
  by_contra beyond
  have here := h.here
  rw [List.getElem?_eq_none (Nat.le_of_not_lt beyond)] at here
  cases here

/-- Names behind the others leave the first mention of a column where it is. -/
theorem FirstAt.append {position : Nat} (h : FirstAt header column position)
    (extra : List String)
    : FirstAt (header ++ extra) column position := by
  have within := h.lt_length
  refine ⟨?_, fun earlier below => ?_⟩
  · rw [List.getElem?_append_left within]
    exact h.here
  · rw [List.getElem?_append_left (below.trans within)]
    exact h.before earlier below

variable {columns : List (String × String)}

/-- Where a column is first mentioned there is a cell that stands under its name. -/
theorem FirstAt.exists_entry {position : Nat}
    (h : FirstAt (columns.map Prod.fst) column position)
    : ∃ entry ∈ columns,
        Text.trim entry.1 = column ∧ (columns.map Prod.snd)[position]? = some entry.2 := by
  have here := h.here
  rw [List.getElem?_map, Option.map_map, Option.map_eq_some_iff] at here
  obtain ⟨entry, found, same⟩ := here
  exact ⟨entry, List.mem_of_getElem? found, same, by rw [List.getElem?_map, found, Option.map_some]⟩

/-- Distinctly named columns may stand in any order. -/
theorem alike_of_perm {shuffled : List (String × String)} (perm : columns.Perm shuffled)
    (distinct : (columns.map fun entry => Text.trim entry.1).Nodup) (column : String)
    : Alike (columns.map Prod.fst) (columns.map Prod.snd) (shuffled.map Prod.fst)
        (shuffled.map Prod.snd) column := by
  have names := perm.map Prod.fst
  by_cases named : ∃ name ∈ columns.map Prod.fst, Text.trim name = column
  · obtain ⟨position, first⟩ := exists_firstAt named
    obtain ⟨name, member, same⟩ := named
    obtain ⟨position', first'⟩ := exists_firstAt ⟨name, names.mem_iff.mp member, same⟩
    obtain ⟨entry, held, under, shown⟩ := first.exists_entry
    obtain ⟨entry', held', under', shown'⟩ := first'.exists_entry
    obtain rfl : entry = entry' :=
      List.inj_on_of_nodup_map distinct held (perm.mem_iff.mpr held') (under.trans under'.symm)
    exact .named first first' (shown.trans shown'.symm)
  · have absent : ∀ name ∈ columns.map Prod.fst, Text.trim name ≠ column := by
      simpa using named
    exact .unnamed absent fun name member => absent name (names.mem_iff.mpr member)

/-- Columns behind the others change nothing in a column, unless they alone are named like it. -/
theorem alike_of_append {extra : List (String × String)}
    (known : column ∈ extra.map (fun entry => Text.trim entry.1)
      → column ∈ columns.map fun entry => Text.trim entry.1)
    : Alike (columns.map Prod.fst) (columns.map Prod.snd) ((columns ++ extra).map Prod.fst)
        ((columns ++ extra).map Prod.snd) column := by
  by_cases named : ∃ name ∈ columns.map Prod.fst, Text.trim name = column
  · obtain ⟨position, first⟩ := exists_firstAt named
    have within : position < (columns.map Prod.snd).length := by
      simpa using first.lt_length
    rw [List.map_append, List.map_append]
    exact .named first (first.append _) (List.getElem?_append_left within).symm
  · have absent : ∀ entry ∈ columns, Text.trim entry.1 ≠ column := by simpa using named
    have others : ∀ entry ∈ extra, Text.trim entry.1 ≠ column := by
      intro entry member same
      obtain ⟨other, held, under⟩ := List.mem_map.mp (known (List.mem_map.mpr ⟨entry, member, same⟩))
      exact absent other held under
    refine .unnamed (by simpa using absent) ?_
    rw [List.forall_mem_map]
    exact List.forall_mem_append.mpr ⟨absent, others⟩

end Column

-----------------------------------------------------------------------------------------
-- Rows
-----------------------------------------------------------------------------------------

/-- A traversal fails with what its first failing element fails with, by induction on the elements.
-/
theorem mapM_eq_error_iff {ε α β : Type} {f : α → Except ε β} {elements : List α} {error : ε}
    : elements.mapM f = .error error
      ↔ ∃ before a after,
          elements = before ++ a :: after
          ∧ (∀ earlier ∈ before, ∃ b, f earlier = .ok b)
          ∧ f a = .error error := by
  induction elements with
  | nil => simp [pure, Except.pure]
  | cons first rest ih =>
      rw [List.mapM_cons]
      constructor
      · intro failed
        cases head : f first with
        | error other =>
            rw [head] at failed
            obtain rfl : other = error := by simpa [bind, Except.bind] using failed
            exact ⟨[], first, rest, rfl, List.forall_mem_nil _, head⟩
        | ok b =>
            have later : rest.mapM f = .error error := by
              cases tail : rest.mapM f <;> simp_all [bind, Except.bind, pure, Except.pure]
            obtain ⟨before, a, after, rfl, earlier, fails⟩ := ih.mp later
            exact ⟨first :: before, a, after, rfl, List.forall_mem_cons.mpr ⟨⟨b, head⟩, earlier⟩,
              fails⟩
      · rintro ⟨before, a, after, split, earlier, fails⟩
        cases before with
        | nil =>
            obtain ⟨rfl, rfl⟩ := List.cons.inj split
            rw [fails]
            rfl
        | cons _ before =>
            obtain ⟨rfl, rfl⟩ := List.cons.inj split
            obtain ⟨⟨b, head⟩, others⟩ := List.forall_mem_cons.mp earlier
            rw [head, ih.mpr ⟨before, a, after, rfl, others, fails⟩]
            rfl

namespace Record

/-- The fields of a record under the names of their columns. -/
def named : Record s → List (String × Amount)
  | .stride bucket count rawBytes =>
    [("bucket", bucket), ("count", count), ("raw_bytes", rawBytes)]
  | .proxy rawSize alignment proxyIndex count fallbacks rawTotal strideTotal =>
    [
      ("raw_size", rawSize), ("alignment", alignment), ("proxy_index", proxyIndex),
      ("count", count), ("fallbacks", fallbacks), ("raw_total_bytes", rawTotal),
      ("stride_total_bytes", strideTotal)
    ]

variable {index : ColumnIndex}

/-- A row is read column by column in the order of the layout. -/
theorem fields_ofRow (index : ColumnIndex) (row : List String)
    : fields <$> ofRow s index row = s.columns.mapM (index.integer row) := by
  cases s with
  | stride => simp [ofRow, Schema.columns, fields]
  | proxy => simp [ofRow, Schema.columns, fields]

theorem ofRow_eq_error_iff {error : CellError}
    : ofRow s index row = .error error
      ↔ ∃ before column after,
          s.columns = before ++ column :: after
          ∧ (∀ earlier ∈ before, ∃ a, index.integer row earlier = .ok a)
          ∧ index.integer row column = .error error := by
  rw [← mapM_eq_error_iff, ← fields_ofRow]
  cases ofRow s index row <;> simp [Functor.map, Except.map]

theorem map_fst_named (record : Record s)
    : record.named.map Prod.fst = s.columns := by
  cases record <;> rfl

theorem fst_mem_columns {record : Record s} {entry : String × Amount}
    (member : entry ∈ record.named)
    : entry.1 ∈ s.columns := by
  rw [← record.map_fst_named]
  exact List.mem_map_of_mem member

theorem ofRow_eq_ok_iff_named {record : Record s}
    : ofRow s index row = .ok record
      ↔ ∀ entry ∈ record.named, index.integer row entry.1 = .ok entry.2 := by
  cases record <;> simp [ofRow, bind_eq_ok_iff, map_eq_ok_iff, named]

/-- A row is a record exactly if it has an integer in every required column. -/
theorem exists_ofRow_iff
    : (∃ record, ofRow s index row = .ok record)
      ↔ ∀ column ∈ s.columns, ∃ a, index.integer row column = .ok a := by
  refine ⟨?_, exists_ofRow⟩
  rintro ⟨record, read⟩ column required
  obtain ⟨a, -, shown⟩ := ofRow_eq_ok_iff.mp read column required
  exact ⟨a, shown⟩

/-- Only what is read in the required columns counts. -/
theorem ofRow_congr {other : ColumnIndex} {row' : List String}
    (h : ∀ column ∈ s.columns, index.integer row column = other.integer row' column)
    : ofRow s index row = ofRow s other row' := by
  cases s with
  | stride =>
      simp only [Schema.columns, List.forall_mem_cons] at h
      simp only [ofRow, h]
  | proxy =>
      simp only [Schema.columns, List.forall_mem_cons] at h
      simp only [ofRow, h]

/-- What decoding makes of a row under a header. -/
structure Decoded (s : Schema) (header row : List String) : Prop where
  record (record : Record s)
    : ofRow s (.ofHeader header s.columns) row = .ok record
      ↔ ∀ entry ∈ record.named, Column.Reads header row entry.1 (.ok entry.2)
  succeeds
    : (∃ record, ofRow s (.ofHeader header s.columns) row = .ok record)
      ↔ ∀ column ∈ s.columns, ∃ a, Column.Reads header row column (.ok a)
  error (error : CellError)
    : ofRow s (.ofHeader header s.columns) row = .error error
      ↔ ∃ before column after,
          s.columns = before ++ column :: after
          ∧ (∀ earlier ∈ before, ∃ a, Column.Reads header row earlier (.ok a))
          ∧ Column.Reads header row column (.error error)
  alike (header' row' : List String)
    : (∀ column ∈ s.columns, Column.Alike header row header' row' column)
      → ofRow s (.ofHeader header s.columns) row = ofRow s (.ofHeader header' s.columns) row'

theorem ofRow_decoded (s : Schema) (header row : List String)
    : Decoded s header row := by
  have reads {column : String} (required : column ∈ s.columns) (result : Except CellError Amount)
      : (ColumnIndex.ofHeader header s.columns).integer row column = result
        ↔ Column.Reads header row column result :=
    Column.integer_eq_iff required
  refine {
    record := fun record => ?_
    succeeds := ?_
    error := fun error => ?_
    alike := fun header' row' same => ?_
  }
  · rw [ofRow_eq_ok_iff_named]
    exact forall₂_congr fun entry member => reads (fst_mem_columns member) _
  · rw [exists_ofRow_iff]
    exact forall₂_congr fun column required => exists_congr fun a => reads required _
  · rw [ofRow_eq_error_iff]
    refine exists₃_congr fun before column after => and_congr_right fun whole => ?_
    have required : ∀ c ∈ before ++ column :: after, c ∈ s.columns := by simp [whole]
    obtain ⟨front, here, -⟩ := List.forall_mem_append.mp required |>.imp_right
      List.forall_mem_cons.mp
    refine and_congr (forall₂_congr fun earlier member => ?_) (reads here _)
    exact exists_congr fun a => reads (front earlier member) _
  · exact ofRow_congr fun column required => (same column required).integer_eq required

/-- The record of a row that has a cell under every name. -/
def ofCells (s : Schema) (columns : List (String × String)) : Except CellError (Record s) :=
  ofRow s (.ofHeader (columns.map Prod.fst) s.columns) (columns.map Prod.snd)

/-- Decoding goes by the required cells alone, so neither the order of distinctly named columns nor
further columns matter.
-/
structure Decodes (s : Schema) : Prop where
  rows (header row : List String) : Decoded s header row
  shuffled (columns shuffled : List (String × String))
    : columns.Perm shuffled
      → (columns.map fun entry => Text.trim entry.1).Nodup
      → ofCells s columns = ofCells s shuffled
  extended (columns extra : List (String × String))
    : (∀ column ∈ s.columns,
        column ∈ extra.map (fun entry => Text.trim entry.1)
        → column ∈ columns.map fun entry => Text.trim entry.1)
      → ofCells s columns = ofCells s (columns ++ extra)

theorem decodes_by_cells (s : Schema)
    : Decodes s := by
  refine {
    rows := ofRow_decoded s
    shuffled := fun _ _ perm distinct => ?_
    extended := fun _ _ known => ?_
  }
  · exact (ofRow_decoded s _ _).alike _ _ fun column _ =>
      Column.alike_of_perm perm distinct column
  · exact (ofRow_decoded s _ _).alike _ _ fun column required =>
      Column.alike_of_append (known column required)

/-- A name stands twice, names and cells are padded, and the order is not that of the layout. -/
example
    : ofRow .stride (.ofHeader [" count ", "raw_bytes", "bucket", "count"] Schema.stride.columns)
        [" 007", "-48", "\t+16", "x"]
      = .ok (.stride ⟨16, by decide, by decide⟩ ⟨7, by decide, by decide⟩
          ⟨-48, by decide, by decide⟩) := by
  decide +kernel

/-- Two columns fail, and the layout has the short one before the one that is no integer. -/
example
    : ofRow .stride (.ofHeader ["raw_bytes", "bucket", "count"] Schema.stride.columns) ["x", "16"]
      = .error (.missingField "count") := by
  decide +kernel

end Record

-----------------------------------------------------------------------------------------
-- Rows of a phase file
-----------------------------------------------------------------------------------------

/-- A row of a phase file holds the record whose fields its cells denote, and none if a cell fails.
-/
theorem PhaseReader.decode?_row_eq_some_iff {record : Record s}
    : decode? (.ofHeader header s.columns) (.row row) = some record
      ↔ ∀ entry ∈ record.named, Column.Reads header row entry.1 (.ok entry.2) := by
  rw [← (Record.ofRow_decoded s header row).record record, decode?]
  cases Record.ofRow s (.ofHeader header s.columns) row <;> simp [Except.toOption]

/-- A row is skipped for the first of its columns that fails. -/
theorem PhaseReader.isVoid_row_iff
    : isVoid s (.ofHeader header s.columns) (.row row) = true
      ↔ ∃ error before column after,
          s.columns = before ++ column :: after
          ∧ (∀ earlier ∈ before, ∃ a, Column.Reads header row earlier (.ok a))
          ∧ Column.Reads header row column (.error error) := by
  rw [← exists_congr (Record.ofRow_decoded s header row).error, isVoid, decode?]
  cases Record.ofRow s (.ofHeader header s.columns) row <;> simp [Except.toOption]

end AllocTrace
