import AllocTrace.Proofs.Csv.Lines
import AllocTrace.Proofs.Phase.Reading
import AllocTrace.Proofs.Text.Numerals
import Mathlib.Data.List.Forall2

/-! Written phase files. The columns may stand in any order and among others, cells may be padded,
integers may carry a sign and leading zeros, and lines may end and be spaced in any usual way. Main
statement: a reader delivers exactly the records that were written.
-/

namespace AllocTrace

variable {s : Schema}

-----------------------------------------------------------------------------------------
-- The written form
-----------------------------------------------------------------------------------------

namespace Text

/-- Printable ASCII without commas and double quotes. -/
def IsPlain (cs : List Char) : Prop :=
  ∀ c ∈ cs, 0x20 ≤ c.toNat ∧ c.toNat ≤ 0x7e ∧ c ≠ ',' ∧ c ≠ '"'

instance (cs : List Char) : Decidable (IsPlain cs) :=
  List.decidableBAll (fun c : Char => 0x20 ≤ c.toNat ∧ c.toNat ≤ 0x7e ∧ c ≠ ',' ∧ c ≠ '"') cs

/-- The text between spaces and tabs. -/
def Padded (cs written : List Char) : Prop :=
  ∃ left right,
    (∀ c ∈ left, c = ' ' ∨ c = '\t')
    ∧ (∀ c ∈ right, c = ' ' ∨ c = '\t')
    ∧ written = left ++ cs ++ right

end Text

open Text (IsPlain Numeral Padded)

/-- A column of a written file: one that the layout requires, or another. -/
inductive Slot where
  | required (column : String)
  | extra
deriving DecidableEq

namespace Slot

def column? : Slot → Option String
  | required column => some column
  | extra => none

/-- The text names the column in a header. -/
inductive Names (s : Schema) : Slot → List Char → Prop
  | required {column : String} {written : List Char} (member : column ∈ s.columns)
    (h : Padded column.toList written)
    : Names s (.required column) written
  | extra {name written : List Char} (plain : IsPlain name)
    (other : String.ofList (Text.strip name) ∉ s.columns) (h : Padded name written)
    : Names s .extra written

/-- The text is the cell of the record in the column. -/
inductive Shows (record : Record s) : Slot → List Char → Prop
  | required {column : String} {a : Amount} {digits written : List Char}
    (field : record.value? column = some a) (numeral : Numeral a digits)
    (h : Padded digits written)
    : Shows record (.required column) written
  | extra {cell written : List Char} (plain : IsPlain cell) (h : Padded cell written)
    : Shows record .extra written

end Slot

/-- The text is a phase file of the records: a header that names every required column once, then
one line for each record with a cell in every column.
-/
inductive Written (s : Schema) (records : List (Record s)) (text : List Char) : Prop
  | intro (slots : List Slot) (header : List (List Char)) (rows : List (List (List Char)))
    (complete : (slots.filterMap Slot.column?).Perm s.columns)
    (named : List.Forall₂ (Slot.Names s) slots header)
    (shown : List.Forall₂ (fun record row => List.Forall₂ (Slot.Shows record) slots row)
      records rows)
    (lined : Csv.Lined ((header :: rows).map Csv.joined) text)

-----------------------------------------------------------------------------------------
-- Written cells
-----------------------------------------------------------------------------------------

namespace Text

/-- Tabs and printable ASCII without commas and double quotes. -/
def IsClean (cs : List Char) : Prop :=
  ∀ c ∈ cs, c = '\t' ∨ 0x20 ≤ c.toNat ∧ c.toNat ≤ 0x7e ∧ c ≠ ',' ∧ c ≠ '"'

theorem Padded.isClean {cs written : List Char} (h : Padded cs written) (plain : IsPlain cs)
    : IsClean written := by
  obtain ⟨left, right, hl, hr, rfl⟩ := h
  have padding {pad : List Char} (h : ∀ c ∈ pad, c = ' ' ∨ c = '\t') : IsClean pad := by
    intro c member
    rcases h c member with rfl | rfl
    · exact Or.inr (by decide)
    · exact Or.inl rfl
  intro c member
  rcases List.mem_append.mp member with front | member
  · rcases List.mem_append.mp front with member | member
    · exact padding hl c member
    · exact Or.inr (plain c member)
  · exact padding hr c member

theorem Padded.trim_eq {cs written : List Char} (h : Padded cs written)
    : trim (String.ofList written) = trim (String.ofList cs) := by
  obtain ⟨left, right, hl, hr, rfl⟩ := h
  have white {pad : List Char} (h : ∀ c ∈ pad, c = ' ' ∨ c = '\t')
      : ∀ c ∈ pad, isWhite c = true := by
    intro c member
    rcases h c member with rfl | rfl <;> decide
  rw [trim_ofList, trim_ofList, strip_padded (white hl) (white hr)]

theorem Numeral.isPlain {a : Amount} {cs : List Char} (h : Numeral a cs)
    : IsPlain cs := by
  intro c member
  have bounds := h.toNat_bounds c member
  refine ⟨by omega, by omega, ?_, ?_⟩
  · rintro rfl
    exact absurd bounds (by decide)
  · rintro rfl
    exact absurd bounds (by decide)

theorem IsClean.isBare {cs : List Char} (h : IsClean cs)
    : Csv.IsBare cs := by
  intro c member
  rcases h c member with rfl | ⟨low, -, noComma, noQuote⟩
  · decide
  · refine ⟨noComma, noQuote, ?_, ?_⟩
    · rintro rfl
      exact absurd low (by decide)
    · rintro rfl
      exact absurd low (by decide)

theorem IsClean.ascii {cs : List Char} (h : IsClean cs)
    : ∀ c ∈ cs, c.toNat < 128 := by
  intro c member
  rcases h c member with rfl | ⟨-, high, -, -⟩
  · decide
  · omega

end Text

theorem Schema.isPlain_columns (s : Schema)
    : ∀ column ∈ s.columns, IsPlain column.toList := by
  cases s <;> decide

theorem Schema.trim_columns (s : Schema)
    : ∀ column ∈ s.columns, Text.trim column = column := by
  cases s <;> decide

namespace Slot

theorem Names.isClean {slot : Slot} {written : List Char} (h : Names s slot written)
    : Text.IsClean written := by
  cases h with
  | required member padded => exact padded.isClean (s.isPlain_columns _ member)
  | extra plain _ padded => exact padded.isClean plain

theorem Shows.isClean {record : Record s} {slot : Slot} {written : List Char}
    (h : Shows record slot written)
    : Text.IsClean written := by
  cases h with
  | required _ numeral padded => exact padded.isClean numeral.isPlain
  | extra plain padded => exact padded.isClean plain

/-- A name is that of its slot, and no other slot has the name of a required column. -/
theorem Names.trim_eq_iff {slot : Slot} {written : List Char} (h : Names s slot written)
    {column : String} (member : column ∈ s.columns)
    : Text.trim (String.ofList written) = column ↔ slot = .required column := by
  cases h with
  | @required name _ required padded =>
      rw [padded.trim_eq, String.ofList_toList, s.trim_columns name required]
      exact ⟨fun same => same ▸ rfl, fun same => Slot.required.inj same⟩
  | extra plain other padded =>
      rw [padded.trim_eq, Text.trim_ofList]
      exact ⟨fun same => absurd (same ▸ member) other, fun same => nomatch same⟩

/-- The cell of a required column is read as the record's field there. -/
theorem Shows.readInteger {record : Record s} {column : String} {written : List Char}
    (h : Shows record (.required column) written)
    : ∃ a,
        record.value? column = some a
        ∧ readInteger column (Text.trim (String.ofList written)) = .ok a := by
  cases h with
  | @required _ a digits _ field numeral padded =>
      refine ⟨a, field, readInteger_numeral numeral column ?_⟩
      rw [Text.trim_trim, padded.trim_eq, numeral.trim_eq]

end Slot

-----------------------------------------------------------------------------------------
-- Written rows
-----------------------------------------------------------------------------------------

theorem getElem?_of_forall₂ {α β : Type} {R : α → β → Prop} {xs : List α} {ys : List β}
    (h : List.Forall₂ R xs ys) {i : Nat} {x : α} {y : β} (left : xs[i]? = some x)
    (right : ys[i]? = some y)
    : R x y := by
  obtain ⟨hx, rfl⟩ := List.getElem?_eq_some_iff.mp left
  obtain ⟨hy, rfl⟩ := List.getElem?_eq_some_iff.mp right
  exact h.get hx hy

theorem exists_of_forall₂ {α β : Type} {R : α → β → Prop} {xs : List α} {ys : List β}
    (h : List.Forall₂ R xs ys)
    : ∀ y ∈ ys, ∃ x, R x y := by
  induction h with
  | nil => simp
  | cons first _ ih => exact List.forall_mem_cons.mpr ⟨⟨_, first⟩, ih⟩

theorem filterMap_of_forall₂ {α β : Type} {f : β → Option α} {xs : List α} {ys : List β}
    (h : List.Forall₂ (fun x y => f y = some x) xs ys)
    : ys.filterMap f = xs := by
  induction h with
  | nil => rfl
  | cons first _ ih => rw [List.filterMap_cons_some first, ih]

/-- A required column is looked up where its slot stands. -/
theorem position?_of_names {slots : List Slot} {header : List (List Char)}
    (complete : (slots.filterMap Slot.column?).Perm s.columns)
    (named : List.Forall₂ (Slot.Names s) slots header) {column : String}
    (member : column ∈ s.columns)
    : ∃ position,
        (ColumnIndex.ofHeader (header.map String.ofList) s.columns).position? column
          = some position
        ∧ slots[position]? = some (.required column) := by
  have names {i : Nat} {slot : Slot} {written : List Char} (left : slots[i]? = some slot)
      (right : header[i]? = some written)
      : Text.trim (String.ofList written) = column ↔ slot = .required column :=
    (getElem?_of_forall₂ named left right).trim_eq_iff member
  have width := named.length_eq
  have present : column ∈ (header.map String.ofList).map Text.trim := by
    obtain ⟨slot, found, shown⟩ := List.mem_filterMap.mp (complete.mem_iff.mpr member)
    obtain ⟨i, bound, here⟩ := List.mem_iff_getElem.mp found
    have required : slots[i]? = some (.required column) := by
      cases slot with
      | required name =>
          rw [← Option.some.inj shown]
          exact List.getElem?_eq_some_iff.mpr ⟨bound, here⟩
      | extra => exact nomatch shown
    have written := List.getElem?_eq_getElem (width ▸ bound : i < header.length)
    rw [← (names required written).mpr rfl]
    exact List.mem_map_of_mem (List.mem_map_of_mem (List.getElem_mem _))
  obtain ⟨position, found⟩ := Option.isSome_iff_exists.mp (List.isSome_idxOf?.mpr present)
  refine ⟨position, (ColumnIndex.position?_ofHeader _ member).trans found, ?_⟩
  obtain ⟨bound, same, -⟩ := List.idxOf?_eq_some_iff.mp found
  simp only [List.length_map] at bound
  simp only [List.getElem_map] at same
  have left := List.getElem?_eq_getElem (width.symm ▸ bound : position < slots.length)
  rw [left, (names left (List.getElem?_eq_getElem bound)).mp same]

/-- A written line holds its record. -/
theorem ofRow_of_shows {slots : List Slot} {header row : List (List Char)} {record : Record s}
    (complete : (slots.filterMap Slot.column?).Perm s.columns)
    (named : List.Forall₂ (Slot.Names s) slots header)
    (shown : List.Forall₂ (Slot.Shows record) slots row)
    : Record.ofRow s (ColumnIndex.ofHeader (header.map String.ofList) s.columns)
        ((row.map String.ofList).map Text.trim)
      = .ok record := by
  refine Record.ofRow_eq_ok_iff.mpr fun column member => ?_
  obtain ⟨position, found, slot⟩ := position?_of_names complete named member
  have width : position < row.length := by
    rw [← shown.length_eq]
    exact (List.getElem?_eq_some_iff.mp slot).1
  have cell : row[position]? = some row[position] := List.getElem?_eq_getElem width
  obtain ⟨a, field, read⟩ := (getElem?_of_forall₂ shown slot cell).readInteger
  refine ⟨a, field, ColumnIndex.integer_eq_ok_iff.mpr ⟨position, _, found, ?_, read⟩⟩
  simp [cell]

theorem read?_of_shows {slots : List Slot} {header row : List (List Char)} {record : Record s}
    (complete : (slots.filterMap Slot.column?).Perm s.columns)
    (named : List.Forall₂ (Slot.Names s) slots header)
    (shown : List.Forall₂ (Slot.Shows record) slots row)
    : PhaseReader.read? (ColumnIndex.ofHeader (header.map String.ofList) s.columns)
        (row.map Text.encode)
      = some record :=
  PhaseReader.read?_eq_some_iff.mpr
    ⟨_, Csv.cells?_encode row, ofRow_of_shows complete named shown⟩

-----------------------------------------------------------------------------------------
-- Written files
-----------------------------------------------------------------------------------------

/-- A written file is cut into the cells of its header and of its records. -/
theorem split_written {slots : List Slot} {header : List (List Char)}
    {rows : List (List (List Char))} {records : List (Record s)} {text : List Char}
    (complete : (slots.filterMap Slot.column?).Perm s.columns)
    (named : List.Forall₂ (Slot.Names s) slots header)
    (shown : List.Forall₂ (fun record row => List.Forall₂ (Slot.Shows record) slots row)
      records rows)
    (lined : Csv.Lined ((header :: rows).map Csv.joined) text)
    : (∀ c ∈ text, c.toNat < 128)
      ∧ Csv.split (Text.encode text) = (header :: rows).map (·.map Text.encode) := by
  have enough : 2 ≤ slots.length := by
    have width := complete.length_eq
    have within := List.length_filterMap_le Slot.column? slots
    have := s.two_le_length_columns
    omega
  have even : ∀ row ∈ header :: rows,
      row.length = slots.length ∧ ∀ cell ∈ row, Text.IsClean cell := by
    refine List.forall_mem_cons.mpr ⟨⟨named.length_eq.symm, fun cell inside => ?_⟩, ?_⟩
    · obtain ⟨slot, names⟩ := exists_of_forall₂ named cell inside
      exact names.isClean
    · intro row member
      obtain ⟨record, shows⟩ := exists_of_forall₂ shown row member
      refine ⟨shows.length_eq.symm, fun cell inside => ?_⟩
      obtain ⟨slot, shows⟩ := exists_of_forall₂ shows cell inside
      exact shows.isClean
  have line {row : List (List Char)} (member : row ∈ header :: rows)
      : Csv.IsClosed (Text.encode (Csv.joined row))
        ∧ Csv.split (Text.encode (Csv.joined row)) = [row.map Text.encode] :=
    Csv.split_joined (fun cell inside => ((even row member).2 cell inside).isBare)
      ((even row member).1 ▸ enough)
  refine ⟨?_, ?_⟩
  · refine lined.forall_mem ⟨by decide, by decide⟩ fun written member => ?_
    obtain ⟨row, found, rfl⟩ := List.mem_map.mp member
    intro c inside
    rcases Csv.mem_intercalate inside with rfl | ⟨cell, here, inside⟩
    · decide
    · exact ((even row found).2 cell here).ascii c inside
  · have closed : ∀ written ∈ (header :: rows).map Csv.joined,
        Csv.IsClosed (Text.encode written) := by
      intro written member
      obtain ⟨row, found, rfl⟩ := List.mem_map.mp member
      exact (line found).1
    rw [Csv.split_lined lined closed, List.flatMap_map, List.map_eq_flatMap]
    exact List.flatMap_congr fun row found => (line found).2

/-- Reading undoes writing: a reader delivers exactly the records of a written file, in order, and
has then counted one row for each of them and skipped none.
-/
theorem PhaseReader.ofSource_written {records : List (Record s)} {text : List Char}
    (written : Written s records text) {source : Csv.Source}
    (bytes : source.bytes = Text.encode text) (sound : source.fails = false)
    : (ofSource s source).records = records
      ∧ (ofSource s source).total = { rows := records.length, skipped := 0 } := by
  obtain ⟨slots, header, rows, complete, named, shown, lined⟩ := written
  obtain ⟨ascii, cut⟩ := split_written complete named shown lined
  have unmarked : source.text = source.bytes :=
    Csv.Source.text_of_ascii (bytes ▸ Text.toNat_lt_of_mem_encode ascii)
  obtain ⟨found, total, skipped⟩ :=
    delivered_ofSource (s := s) sound (unmarked.trans bytes ▸ cut)
  have same : (ofSource s source).records = records := by
    rw [found, Csv.cells?_encode, Option.getD_some, List.filterMap_map]
    exact filterMap_of_forall₂
      (shown.imp fun record row shows => read?_of_shows complete named shows)
  refine ⟨same, ?_⟩
  rw [same, List.length_map, ← shown.length_eq] at skipped
  rw [List.length_map, ← shown.length_eq] at total
  have none : (ofSource s source).total.skipped = 0 := by omega
  rw [← total, ← none]

/-- Columns out of order, a column of notes, padding, signs, leading zeros, all three line ends and
an empty line.
-/
def scatteredText : List Char :=
  "note ,\traw_bytes,count, bucket\r\n\na b, +048,5,9223372036854775807\t\r,-7,+0,-009\n".toList

def scatteredRecords : List (Record .stride) :=
  [.stride (.clamp 9223372036854775807) (.clamp 5) (.clamp 48),
    .stride (.clamp (-9)) (.clamp 0) (.clamp (-7))]

theorem written_scattered
    : Written .stride scatteredRecords scatteredText := by
  have unpadded (cs : List Char) : Padded cs cs := ⟨[], [], by simp, by simp, by simp⟩
  have indented (c : Char) (h : c = ' ' ∨ c = '\t') (cs : List Char) : Padded cs (c :: cs) :=
    ⟨[c], [], by simpa using h, by simp, by simp⟩
  have trailed (c : Char) (h : c = ' ' ∨ c = '\t') (cs : List Char) : Padded cs (cs ++ [c]) :=
    ⟨[], [c], by simp, by simpa using h, by simp⟩
  refine .intro [.extra, .required "raw_bytes", .required "count", .required "bucket"]
    ["note ".toList, "\traw_bytes".toList, "count".toList, " bucket".toList]
    [["a b".toList, " +048".toList, "5".toList, "9223372036854775807\t".toList],
      ["".toList, "-7".toList, "+0".toList, "-009".toList]] (by decide) ?_ ?_ ?_
  · refine .cons (.extra (by decide) (by decide) (unpadded _)) ?_
    refine .cons (.required (by decide) (indented '\t' (by decide) _)) ?_
    refine .cons (.required (by decide) (unpadded _)) ?_
    exact .cons (.required (by decide) (indented ' ' (by decide) _)) .nil
  · refine .cons ?_ (.cons ?_ .nil)
    · refine .cons (.extra (by decide) (unpadded _)) ?_
      refine .cons (.required rfl (.plus 1 (by decide)) (indented ' ' (by decide) _)) ?_
      refine .cons (.required rfl (.bare 0 (by decide)) (unpadded _)) ?_
      exact .cons (.required rfl (.bare 0 (by decide)) (trailed '\t' (by decide) _)) .nil
    · refine .cons (.extra (by decide) (unpadded _)) ?_
      refine .cons (.required rfl (.minus 0 (by decide)) (unpadded _)) ?_
      refine .cons (.required rfl (.plus 0 (by decide)) (unpadded _)) ?_
      exact .cons (.required rfl (.minus 2 (by decide)) (unpadded _)) .nil
  · exact .next _ "\r\n\n".toList (by decide) (by decide)
      (.next _ "\r".toList (by decide) (by decide)
        (.last _ "\n".toList (by decide)))

def scatteredSource : Csv.Source :=
  { bytes := Text.encode scatteredText, fails := false, firstRead := 2 }

theorem PhaseReader.ofSource_scattered
    : Written .stride scatteredRecords scatteredText
      ∧ scatteredSource.bytes = Text.encode scatteredText
      ∧ scatteredSource.fails = false
      ∧ (ofSource .stride scatteredSource).records = scatteredRecords
      ∧ (ofSource .stride scatteredSource).total = { rows := 2, skipped := 0 } :=
  ⟨written_scattered, rfl, rfl, ofSource_written written_scattered rfl rfl⟩

end AllocTrace
