import AllocTrace.Proofs.Csv.Quoting
import AllocTrace.Proofs.Phase.Reading
import AllocTrace.Proofs.Text.Numerals
import Mathlib.Data.List.Perm.Subperm

/-! A malformed line among the records of a phase file. If it closes its quotes, the reader passes
over it and delivers the other records as before; if it leaves them open, it takes every record
below it along. Main statement: records are kept exactly in the first case, or below the last one.
-/

namespace AllocTrace

variable {s : Schema} {firstRead : Nat}

open Text (encode)

-----------------------------------------------------------------------------------------
-- Files of lines
-----------------------------------------------------------------------------------------

/-- The text with a line feed behind each line. -/
def terminated (lines : List (List Char)) : List Char :=
  lines.flatMap (· ++ ['\n'])

/-- A sound source of the text, however much of it the first read delivers. -/
def Csv.Source.ofText (firstRead : Nat) (text : List Char) : Source :=
  { bytes := encode text, fails := false, firstRead := firstRead }

/-- The records of a phase file of these lines. -/
def recordsOfLines (s : Schema) (firstRead : Nat) (lines : List (List Char)) : List (Record s) :=
  (PhaseReader.ofSource s (.ofText firstRead (terminated lines))).records

/-- The names in a header line. -/
def namesOfLine (firstRead : Nat) (header : List Char) : List String :=
  (Csv.Source.ofText firstRead header).contents.header

/-- The header line closes its quotes and names every required column. -/
structure CompleteHeader (s : Schema) (firstRead : Nat) (header : List Char) : Prop where
  closed : Csv.IsClosed (Csv.Source.ofText firstRead header).text
  complete : (ColumnIndex.ofHeader (namesOfLine firstRead header) s.columns).isComplete = true

/-- The integers of a record line. -/
abbrev Row := List Amount

namespace Row

/-- The line of the row in canonical form: decimal integers between commas. -/
def line (row : Row) : List Char :=
  Csv.joined (row.map fun a => Text.decimal a.val)

/-- The undecoded fields of the row. -/
def cells (row : Row) : Csv.RawRecord :=
  row.map fun a => encode (Text.decimal a.val)

end Row

-----------------------------------------------------------------------------------------
-- Complete headers
-----------------------------------------------------------------------------------------

theorem ColumnIndex.mem_of_isComplete {header required : List String}
    (h : (ofHeader header required).isComplete = true) {column : String}
    (member : column ∈ required)
    : column ∈ header.map Text.trim :=
  List.isSome_idxOf?.mp (List.all_eq_true.mp h (column, _) (List.mem_map_of_mem member))

/-- A required column stands somewhere among the names of a complete header. -/
theorem ColumnIndex.position?_of_isComplete {header required : List String}
    (h : (ofHeader header required).isComplete = true) {column : String}
    (member : column ∈ required)
    : ∃ position,
        (ofHeader header required).position? column = some position
        ∧ position < header.length := by
  obtain ⟨position, found⟩ :=
    Option.isSome_iff_exists.mp (List.isSome_idxOf?.mpr (mem_of_isComplete h member))
  refine ⟨position, (position?_ofHeader header member).trans found, ?_⟩
  obtain ⟨bound, -⟩ := List.idxOf?_eq_some_iff.mp found
  simpa using bound

theorem Schema.nodup_columns (s : Schema)
    : s.columns.Nodup := by
  cases s <;> decide

namespace CompleteHeader

variable {header : List Char}

/-- A complete header has at least a name for each required column. -/
theorem two_le_length (h : CompleteHeader s firstRead header)
    : 2 ≤ (namesOfLine firstRead header).length := by
  have within : s.columns ⊆ (namesOfLine firstRead header).map Text.trim :=
    fun column member => ColumnIndex.mem_of_isComplete h.complete member
  have fits := (List.subperm_of_subset s.nodup_columns within).length_le
  rw [List.length_map] at fits
  exact Nat.le_trans s.two_le_length_columns fits

/-- The first record of the header line holds the names. -/
theorem exists_split (h : CompleteHeader s firstRead header)
    : ∃ names extra,
        Csv.split (Csv.Source.ofText firstRead header).text = names :: extra
        ∧ names.cells?.getD [] = namesOfLine firstRead header := by
  have wide := h.two_le_length
  have records : (Csv.Source.ofText firstRead header).records
      = Csv.split (Csv.Source.ofText firstRead header).text :=
    Csv.Source.records_eq rfl
  unfold namesOfLine Csv.Source.contents at wide ⊢
  rw [records] at wide ⊢
  cases shown : Csv.split (Csv.Source.ofText firstRead header).text with
  | nil => simp [shown] at wide
  | cons names extra => exact ⟨names, extra, rfl, rfl⟩

end CompleteHeader

-----------------------------------------------------------------------------------------
-- Lines below a header
-----------------------------------------------------------------------------------------

theorem encode_terminated_cons (line : List Char) (rest : List (List Char))
    : encode (terminated (line :: rest)) = encode line ++ 0x0a :: encode (terminated rest) := by
  have feed := Text.encode_cons_ascii (c := '\n') (by decide) (terminated rest)
  rw [terminated, List.flatMap_cons, List.append_assoc, Text.encode_append]
  exact congrArg (encode line ++ ·) feed

theorem Text.Numeral.isBare {a : Amount} {cs : List Char} (h : Numeral a cs)
    : Csv.IsBare cs := by
  intro c member
  have bounds := h.toNat_bounds c member
  refine ⟨?_, ?_, ?_, ?_⟩ <;>
    · rintro rfl
      exact absurd bounds (by decide)

/-- Canonical rows are cut one by one, by induction on the rows. -/
theorem Row.split_lines {rows : List Row} (wide : ∀ row ∈ rows, 2 ≤ row.length)
    (rest : List UInt8)
    : Csv.split (encode (terminated (rows.map Row.line)) ++ rest)
      = rows.map Row.cells ++ Csv.split rest := by
  induction rows with
  | nil => rfl
  | cons row rows ih =>
      obtain ⟨first, others⟩ := List.forall_mem_cons.mp wide
      have bare : ∀ cell ∈ row.map fun a => Text.decimal a.val, Csv.IsBare cell := by
        intro cell member
        obtain ⟨a, -, rfl⟩ := List.mem_map.mp member
        exact (Text.Numeral.ofDecimal a).isBare
      obtain ⟨closed, cut⟩ := Csv.split_joined bare (by simpa using first)
      rw [List.map_cons, encode_terminated_cons, List.append_assoc, List.cons_append, Row.line,
        Csv.split_append_break closed (by decide), ih others, cut]
      simp [Row.cells]

/-- The index of the names in a header line. -/
def indexOfLine (s : Schema) (firstRead : Nat) (header : List Char) : ColumnIndex :=
  ColumnIndex.ofHeader (namesOfLine firstRead header) s.columns

/-- The records of lines below a header, read by its index. -/
def recordsBelow (s : Schema) (index : ColumnIndex) (lines : List (List Char))
    : List (Record s) :=
  (Csv.split (encode (terminated lines))).filterMap (PhaseReader.read? index)

theorem text_ofText {header : List Char}
    (present : (Csv.Source.ofText firstRead header).text ≠ []) (lines : List (List Char))
    : (Csv.Source.ofText firstRead (terminated (header :: lines))).text
      = (Csv.Source.ofText firstRead header).text ++ 0x0a :: encode (terminated lines) := by
  have text := Csv.Source.text_append_break present (encode (terminated lines))
  rw [← encode_terminated_cons] at text
  exact text

/-- Rows deliver their records whatever stands below them, and that is read on its own. -/
theorem CompleteHeader.recordsOfLines_append {header : List Char}
    (h : CompleteHeader s firstRead header) {rows : List Row}
    (wide : ∀ row ∈ rows, 2 ≤ row.length) (lines : List (List Char))
    : recordsOfLines s firstRead (header :: (rows.map Row.line ++ lines))
      = recordsOfLines s firstRead (header :: rows.map Row.line)
        ++ recordsBelow s (indexOfLine s firstRead header) lines := by
  obtain ⟨names, extra, shown, same⟩ := h.exists_split
  have present : (Csv.Source.ofText firstRead header).text ≠ [] := by
    intro empty
    simp [empty] at shown
  have records (lines : List (List Char))
      : recordsOfLines s firstRead (header :: lines)
        = (extra ++ Csv.split (encode (terminated lines))).filterMap
            (PhaseReader.read? (indexOfLine s firstRead header)) := by
    have cut : Csv.split (Csv.Source.ofText firstRead (terminated (header :: lines))).text
        = names :: (extra ++ Csv.split (encode (terminated lines))) := by
      rw [text_ofText present, Csv.split_append_break h.closed (by decide), shown]
      rfl
    rw [recordsOfLines, (PhaseReader.delivered_ofSource rfl cut).1, same]
    rfl
  have above := Row.split_lines wide []
  rw [List.append_nil, Csv.split_nil, List.append_nil] at above
  have whole : Csv.split (encode (terminated (rows.map Row.line ++ lines)))
      = rows.map Row.cells ++ Csv.split (encode (terminated lines)) := by
    rw [terminated, List.flatMap_append, Text.encode_append]
    exact Row.split_lines wide _
  rw [records, records, recordsBelow, above, whole, ← List.append_assoc, List.filterMap_append]

/-- A canonical row with a cell for each name of a complete header holds a record. -/
theorem CompleteHeader.exists_read? {header : List Char} (h : CompleteHeader s firstRead header)
    {row : Row} (wide : (namesOfLine firstRead header).length ≤ row.length)
    : ∃ record : Record s,
        PhaseReader.read? (indexOfLine s firstRead header) row.cells = some record := by
  have readable : ∀ column ∈ s.columns,
      ∃ a,
        (indexOfLine s firstRead header).integer
            (((row.map fun a => Text.decimal a.val).map String.ofList).map Text.trim) column
          = .ok a := by
    intro column member
    obtain ⟨position, found, bound⟩ := ColumnIndex.position?_of_isComplete h.complete member
    have within : position < row.length := Nat.lt_of_lt_of_le bound wide
    have numeral := Text.Numeral.ofDecimal row[position]
    refine ⟨row[position], ColumnIndex.integer_eq_ok_iff.mpr
      ⟨position, Text.trim (String.ofList (Text.decimal row[position].val)), found, ?_, ?_⟩⟩
    · simp [within]
    · exact readInteger_numeral numeral column (by rw [Text.trim_trim, numeral.trim_eq])
  obtain ⟨record, read⟩ := Record.exists_ofRow readable
  refine ⟨record, PhaseReader.read?_eq_some_iff.mpr ⟨_, ?_, read⟩⟩
  rw [← Csv.cells?_encode, List.map_map]
  rfl

-----------------------------------------------------------------------------------------
-- What an open line takes along
-----------------------------------------------------------------------------------------

/-- The lines of canonical rows are ASCII without a quote. -/
theorem Row.plain_lines (rows : List Row)
    : ∀ c ∈ terminated (rows.map Row.line), c.toNat < 128 ∧ c ≠ '"' := by
  intro c member
  obtain ⟨line, found, inside⟩ := List.mem_flatMap.mp member
  obtain ⟨row, -, rfl⟩ := List.mem_map.mp found
  rcases List.mem_append.mp inside with inside | feed
  · rcases Csv.mem_intercalate inside with rfl | ⟨cell, here, inside⟩
    · decide
    · obtain ⟨a, -, rfl⟩ := List.mem_map.mp here
      have numeral := Text.Numeral.ofDecimal a
      have bounds := numeral.toNat_bounds c inside
      exact ⟨by omega, (numeral.isBare c inside).2.1⟩
  · rw [List.mem_singleton.mp feed]
    decide

/-- A row of two cells has a comma in its line. -/
theorem Row.comma_mem_line {row : Row} (wide : 2 ≤ row.length)
    : ',' ∈ row.line := by
  match row with
  | first :: second :: rest => simp [line, Csv.joined, List.intercalate_cons_cons]

theorem comma_mem_of_decode? {bytes : List UInt8} {text : String}
    (whole : Text.decode? bytes = some text) (comma : 0x2c ∈ bytes)
    : ',' ∈ text.toList := by
  obtain ⟨cs, rfl⟩ := Text.exists_encode_of_decode? (Option.isSome_iff_exists.mpr ⟨text, whole⟩)
  rw [Text.decode?_encode] at whole
  rw [← Option.some.inj whole, String.toList_ofList]
  by_contra absent
  exact Csv.ne_of_mem_encode (by decide) absent 0x2c comma rfl

/-- A field with a comma in it holds no integer, so the row has its record, if any, elsewhere, and
has it whatever else that field holds.
-/
theorem PhaseReader.read?_of_comma {index : ColumnIndex} {fields : Csv.RawRecord}
    {field suffix : List UInt8} {record : Record s} (ascii : ∀ b ∈ suffix, b.toNat < 128)
    (comma : 0x2c ∈ suffix)
    (read : read? index (fields ++ [field ++ suffix]) = some record)
    : (read? index (fields ++ [field]) : Option (Record s)) = some record := by
  obtain ⟨cells, decoded, row⟩ := read?_eq_some_iff.mp read
  obtain ⟨known, last, front, whole, rfl⟩ := Csv.cells?_concat.mp decoded
  obtain ⟨shorter, part⟩ : ∃ shorter, Text.decode? field = some shorter :=
    Option.isSome_iff_exists.mp
      (Text.isSome_decode?_of_append ascii (Option.isSome_iff_exists.mpr ⟨last, whole⟩))
  refine read?_eq_some_iff.mpr
    ⟨known ++ [shorter], Csv.cells?_concat.mpr ⟨known, shorter, front, part, rfl⟩, ?_⟩
  refine Record.ofRow_eq_ok_iff.mpr fun column member => ?_
  obtain ⟨a, field, holds⟩ := Record.ofRow_eq_ok_iff.mp row column member
  obtain ⟨position, cell, stands, shown, number⟩ := ColumnIndex.integer_eq_ok_iff.mp holds
  refine ⟨a, field, ColumnIndex.integer_eq_ok_iff.mpr ⟨position, cell, stands, ?_, number⟩⟩
  rw [List.map_append] at shown ⊢
  rcases Nat.lt_or_ge position known.length with inside | behind
  · rw [List.getElem?_append_left (by simpa using inside)] at shown ⊢
    exact shown
  · -- The column is the last one, whose text has a comma in it.
    rw [List.getElem?_append_right (by simpa using behind)] at shown
    obtain rfl : Text.trim last = cell := by
      obtain ⟨bound, same⟩ := List.getElem?_eq_some_iff.mp shown
      simpa using same
    refine absurd number (readInteger_ne_ok_of_comma ?_ column a)
    rw [Text.trim, String.toList_ofList]
    exact Text.mem_strip (comma_mem_of_decode? whole (List.mem_append_right _ comma)) (by decide)

/-- The rows that an open line takes along do not make a record of it. -/
theorem PhaseReader.read?_swallowed {index : ColumnIndex} {fields : Csv.RawRecord}
    {field : List UInt8} (alone : (read? index (fields ++ [field]) : Option (Record s)) = none)
    {rows : List Row} (wide : ∀ row ∈ rows, 2 ≤ row.length)
    : (read? index (fields ++ [field ++ encode (terminated (rows.map Row.line))])
        : Option (Record s))
      = none := by
  cases rows with
  | nil =>
      have nothing : encode (terminated ([].map Row.line)) = [] := rfl
      rw [nothing, List.append_nil]
      exact alone
  | cons row rest =>
      have ascii := Text.toNat_lt_of_mem_encode fun c member =>
        (Row.plain_lines (row :: rest) c member).1
      have comma : 0x2c ∈ encode (terminated ((row :: rest).map Row.line)) := by
        refine List.mem_flatMap.mpr ⟨',', List.mem_flatMap.mpr ⟨row.line, by simp, ?_⟩, by decide⟩
        exact List.mem_append_left _ (Row.comma_mem_line (wide row (by simp)))
      refine Option.eq_none_iff_forall_ne_some.mpr fun record read => ?_
      rw [read?_of_comma ascii comma read] at alone
      contradiction

-----------------------------------------------------------------------------------------
-- Insertion
-----------------------------------------------------------------------------------------

/-- A line that closes its quotes is read apart from those below it. -/
theorem recordsBelow_of_closed {line : List Char} (closed : Csv.IsClosed (encode line))
    (index : ColumnIndex) (lines : List (List Char))
    : recordsBelow s index (line :: lines)
      = recordsBelow s index [line] ++ recordsBelow s index lines := by
  unfold recordsBelow
  rw [encode_terminated_cons, encode_terminated_cons,
    Csv.split_append_break closed (by decide), Csv.split_append_break closed (by decide)]
  simp [terminated, encode]

/-- A line that leaves its quotes open and holds no record takes along all rows below it. -/
theorem recordsBelow_of_open {line : List Char} (oneLine : Csv.IsLine line)
    (opened : Csv.LeavesOpen line) {index : ColumnIndex}
    (barren : recordsBelow s index [line] = []) {rows : List Row}
    (wide : ∀ row ∈ rows, 2 ≤ row.length)
    : recordsBelow s index (line :: rows.map Row.line) = [] := by
  obtain ⟨fields, field, swallow⟩ :=
    Csv.split_open (Csv.isBreak_of_mem_encode oneLine)
      (fun closed => (Csv.isClosed_encode_iff oneLine).mp closed opened)
  have plain : '"' ∉ terminated (rows.map Row.line) :=
    fun member => (Row.plain_lines rows _ member).2 rfl
  have alone : (PhaseReader.read? index (fields ++ [field ++ [0x0a]]) : Option (Record s))
      = none := by
    have cut := swallow [0x0a] (List.forall_mem_singleton.mpr (by decide))
    unfold recordsBelow at barren
    rw [encode_terminated_cons] at barren
    change List.filterMap _ (Csv.split (encode line ++ [0x0a])) = [] at barren
    rw [cut] at barren
    exact List.filterMap_eq_nil_iff.mp barren _ (by simp)
  have swallowed := PhaseReader.read?_swallowed alone wide
  rw [List.append_assoc] at swallowed
  have cut := swallow (0x0a :: encode (terminated (rows.map Row.line)))
    (List.forall_mem_cons.mpr ⟨by decide, Csv.isQuote_of_mem_encode plain⟩)
  rw [recordsBelow, encode_terminated_cons, cut]
  exact List.filterMap_cons_none swallowed

/-- Every canonical row has its record. -/
theorem CompleteHeader.recordsBelow_eq_nil_iff {header : List Char}
    (h : CompleteHeader s firstRead header) {rows : List Row}
    (wide : ∀ row ∈ rows, (namesOfLine firstRead header).length ≤ row.length)
    : recordsBelow s (indexOfLine s firstRead header) (rows.map Row.line) = [] ↔ rows = [] := by
  have narrow : ∀ row ∈ rows, 2 ≤ row.length :=
    fun row member => Nat.le_trans h.two_le_length (wide row member)
  have cut := Row.split_lines narrow []
  rw [List.append_nil, Csv.split_nil, List.append_nil] at cut
  rw [recordsBelow, cut]
  cases rows with
  | nil => simp
  | cons row rest =>
      obtain ⟨record, read⟩ := h.exists_read? (wide row (by simp))
      rw [List.map_cons, List.filterMap_cons_some read]
      simp

/-- A line among canonical rows that holds no record by itself changes no other record exactly if it
closes its quotes or stands last. Otherwise it takes along all rows below it; a line without double
quotes always closes them.
-/
theorem recordsOfLines_insert {header line : List Char} {before after : List Row}
    (complete : CompleteHeader s firstRead header)
    (wide : ∀ row ∈ before ++ after, (namesOfLine firstRead header).length ≤ row.length)
    (oneLine : Csv.IsLine line) (barren : recordsOfLines s firstRead [header, line] = [])
    : (recordsOfLines s firstRead (header :: (before.map Row.line ++ line :: after.map Row.line))
          = recordsOfLines s firstRead (header :: (before ++ after).map Row.line)
        ↔ ¬ Csv.LeavesOpen line ∨ after = [])
      ∧ (Csv.LeavesOpen line
        → recordsOfLines s firstRead
              (header :: (before.map Row.line ++ line :: after.map Row.line))
            = recordsOfLines s firstRead (header :: before.map Row.line))
      ∧ ('"' ∉ line → ¬ Csv.LeavesOpen line) := by
  have narrow : ∀ row ∈ before ++ after, 2 ≤ row.length :=
    fun row member => Nat.le_trans complete.two_le_length (wide row member)
  obtain ⟨narrowBefore, narrowAfter⟩ := List.forall_mem_append.mp narrow
  obtain ⟨-, wideAfter⟩ := List.forall_mem_append.mp wide
  have alone : recordsBelow s (indexOfLine s firstRead header) [line] = [] := by
    have below : [] = _ ++ _ :=
      barren.symm.trans (complete.recordsOfLines_append (List.forall_mem_nil _) [line])
    exact (List.append_eq_nil_iff.mp below.symm).2
  rw [List.map_append, complete.recordsOfLines_append narrowBefore,
    complete.recordsOfLines_append narrowBefore, List.append_cancel_left_eq]
  refine ⟨?_, ?_, ?_⟩
  · by_cases opened : Csv.LeavesOpen line
    · rw [recordsBelow_of_open oneLine opened alone narrowAfter, eq_comm,
        complete.recordsBelow_eq_nil_iff wideAfter]
      simp [opened]
    · have closed := (Csv.isClosed_encode_iff oneLine).mpr opened
      rw [recordsBelow_of_closed closed, alone]
      simp [opened]
  · intro opened
    rw [recordsBelow_of_open oneLine opened alone narrowAfter, List.append_nil]
  · exact fun quoteless opened => quoteless opened.quote_mem

def strideHeader : List Char :=
  "bucket,count,raw_bytes".toList

def strideRow : Row :=
  [.clamp 16, .clamp 3, .clamp 48]

theorem completeHeader_stride
    : CompleteHeader .stride 64 strideHeader :=
  { closed := by decide +kernel, complete := by decide +kernel }

/-- No record, and its last cell opens quotes. -/
def openLine : List Char :=
  "?,?,5,\"".toList

theorem recordsOfLines_insert_openLine
    : CompleteHeader .stride 64 strideHeader
      ∧ (∀ row ∈ [strideRow] ++ [strideRow], (namesOfLine 64 strideHeader).length ≤ row.length)
      ∧ Csv.IsLine openLine
      ∧ recordsOfLines .stride 64 [strideHeader, openLine] = []
      ∧ Csv.LeavesOpen openLine
      ∧ recordsOfLines .stride 64
            (strideHeader :: ([strideRow].map Row.line ++ openLine :: [strideRow].map Row.line))
          ≠ recordsOfLines .stride 64 (strideHeader :: ([strideRow] ++ [strideRow]).map Row.line)
      ∧ recordsOfLines .stride 64
            (strideHeader :: ([strideRow].map Row.line ++ openLine :: [strideRow].map Row.line))
          = recordsOfLines .stride 64 (strideHeader :: [strideRow].map Row.line) := by
  have wide : ∀ row ∈ [strideRow] ++ [strideRow],
      (namesOfLine 64 strideHeader).length ≤ row.length := by decide +kernel
  have barren : recordsOfLines .stride 64 [strideHeader, openLine] = [] := by decide +kernel
  have bare : Csv.Unquoted ['?'] := ⟨by decide, by decide⟩
  have number : Csv.Unquoted ['5'] := ⟨by decide, by decide⟩
  have opened : Csv.LeavesOpen openLine :=
    .next (.bare bare) (.next (.bare bare) (.next (.bare number) (.last .nil)))
  obtain ⟨same, taken, -⟩ :=
    recordsOfLines_insert completeHeader_stride wide (by decide) barren
  refine ⟨completeHeader_stride, wide, by decide, barren, opened, fun kept => ?_, taken opened⟩
  rcases same.mp kept with closed | last
  · exact closed opened
  · cases last

/-- A line of one double quote holds no record, and yet the record below it is lost. -/
theorem lone_quote_takes_row
    : CompleteHeader .stride 64 strideHeader
      ∧ recordsOfLines .stride 64 [strideHeader, ['"']] = []
      ∧ recordsOfLines .stride 64 [strideHeader, strideRow.line]
        = [.stride (.clamp 16) (.clamp 3) (.clamp 48)]
      ∧ recordsOfLines .stride 64 [strideHeader, ['"'], strideRow.line] = [] := by
  refine ⟨completeHeader_stride, ?_, ?_, ?_⟩ <;> decide +kernel

end AllocTrace
