import AllocTrace.Proofs.Report.Layout
import AllocTrace.Proofs.Summary.Highlights
import AllocTrace.Proofs.Text.Numerals
import Mathlib.Data.Nat.Digits.Defs

/-! Reading a printed report. Main statement: its lines tell the layout and every figure of the
selected entries, so one text is printed for one selection only.
-/

namespace AllocTrace

-----------------------------------------------------------------------------------------
-- Lines and cells of a text
-----------------------------------------------------------------------------------------

namespace Text

/-- The characters of the text show, and no bar is among them. -/
def Plain (text : String) : Prop :=
  ∀ c ∈ text.toList, 33 ≤ c.toNat ∧ c.toNat ≤ 122

instance (text : String) : Decidable (Plain text) :=
  List.decidableBAll (fun c : Char => 33 ≤ c.toNat ∧ c.toNat ≤ 122) text.toList

theorem Plain.not_mem {text : String} (plain : Plain text) {c : Char}
    (other : c.toNat < 33 ∨ 122 < c.toNat)
    : c ∉ text.toList := by
  intro inside
  have bounds := plain c inside
  omega

theorem Plain.isAscii {text : String} (plain : Plain text)
    : IsAscii text :=
  fun c inside => Nat.lt_of_le_of_lt (plain c inside).2 (by decide)

theorem Plain.not_white {text : String} (plain : Plain text)
    : ∀ c ∈ text.toList, isWhite c = false := by
  intro c inside
  obtain ⟨low, high⟩ := plain c inside
  exact isWhite_of_bounds low (Nat.le_trans high (by decide))

/-- What stands before, between and behind the line feeds. -/
def lines (text : String) : List String :=
  (text.toList.splitOn '\n').map String.ofList

/-- What stands before, between and behind the separators, which are taken from the left. -/
def splitCells : List Char → List (List Char)
  | ' ' :: '|' :: ' ' :: rest => [] :: splitCells rest
  | c :: rest =>
    match splitCells rest with
    | cell :: others => (c :: cell) :: others
    | [] => [[c]]
  | [] => [[]]

/-- The cells of a line. -/
def cells (line : String) : List String :=
  (splitCells line.toList).map String.ofList

theorem isAscii_terminated {parts : List String} (ascii : ∀ part ∈ parts, IsAscii part)
    : IsAscii (String.join (parts.map (· ++ "\n"))) := by
  induction parts with
  | nil => exact List.forall_mem_nil _
  | cons part rest ih =>
      obtain ⟨first, others⟩ := List.forall_mem_cons.mp ascii
      intro c member
      rw [List.map_cons, String.join_cons, String.toList_append, String.toList_append,
        List.mem_append, List.mem_append] at member
      rcases member with (inside | feed) | later
      · exact first c inside
      · rw [List.mem_singleton.mp feed]
        decide
      · exact ih others c later

theorem lines_terminated {parts : List String} (plain : ∀ part ∈ parts, '\n' ∉ part.toList)
    : lines (String.join (parts.map (· ++ "\n"))) = parts ++ [""] := by
  induction parts with
  | nil => rfl
  | cons part rest ih =>
      obtain ⟨own, others⟩ := List.forall_mem_cons.mp plain
      have feed : "\n".toList = ['\n'] := rfl
      rw [List.map_cons, String.join_cons, lines, String.toList_append, String.toList_append, feed,
        List.append_assoc, List.singleton_append, List.splitOn_append_cons_self_of_not_mem own,
        List.map_cons, String.ofList_toList, ← lines, ih others, List.cons_append]

theorem splitCells_cons {c : Char} {cs cell : List Char} {others : List (List Char)}
    (within : cs.head? ≠ some '|') (split : splitCells cs = cell :: others)
    : splitCells (c :: cs) = (c :: cell) :: others := by
  rw [splitCells, split]
  rintro rest rfl rfl
  exact within rfl

/-- A cell without a bar ends where the first separator begins, by induction on the cell. -/
theorem splitCells_append {cell : List Char} (plain : '|' ∉ cell) (rest : List Char)
    : splitCells (cell ++ ' ' :: '|' :: ' ' :: rest) = cell :: splitCells rest := by
  induction cell with
  | nil => rfl
  | cons c cell ih =>
      refine splitCells_cons ?_ (ih fun inside => plain (List.mem_cons_of_mem c inside))
      cases cell with
      | nil => exact fun bar => nomatch bar
      | cons d cell =>
          intro bar
          cases bar
          exact plain (by simp)

theorem splitCells_of_plain {cell : List Char} (plain : '|' ∉ cell)
    : splitCells cell = [cell] := by
  induction cell with
  | nil => rfl
  | cons c cell ih =>
      refine splitCells_cons ?_ (ih fun inside => plain (List.mem_cons_of_mem c inside))
      intro bar
      exact plain (List.mem_cons_of_mem c (List.mem_of_mem_head? bar))

theorem cells_append {cell : String} (plain : '|' ∉ cell.toList) (rest : String)
    : cells (cell ++ (" | " ++ rest)) = cell :: cells rest := by
  have separator : " | ".toList = [' ', '|', ' '] := rfl
  rw [cells, String.toList_append, String.toList_append, separator, List.cons_append,
    List.cons_append, List.cons_append, List.nil_append, splitCells_append plain, List.map_cons,
    String.ofList_toList, cells]

theorem cells_of_plain {cell : String} (plain : '|' ∉ cell.toList)
    : cells cell = [cell] := by
  rw [cells, splitCells_of_plain plain, List.map_cons, String.ofList_toList, List.map_nil]

end Text

-----------------------------------------------------------------------------------------
-- Entries under the headers of their layout
-----------------------------------------------------------------------------------------

variable {s : Schema}

namespace Entry

/-- What the entry has under a header of its report. -/
def under? : {s : Schema} → Entry s → String → Option Amount
  | .stride, ⟨.bucket size, figures⟩, header =>
    match header with
    | "bucket" => some size
    | "count" => some figures.count
    | "raw_bytes" => some figures.rawBytes
    | "peak" => some figures.peak
    | _ => none
  | .proxy, ⟨.slot rawSize proxyIndex, figures⟩, header =>
    match header with
    | "raw_size" => some rawSize
    | "proxy" => some proxyIndex
    | "count" => some figures.count
    | "fallbacks" => figures.fallbacks
    | "raw_total" => some figures.rawBytes
    | "stride_total" => figures.strideBytes
    | "peak" => some figures.peak
    | _ => none

/-- An entry with the figures that its layout shows, and no others. -/
inductive Complete : {s : Schema} → Entry s → Prop
  | stride (size count rawBytes peak : Amount)
    : Complete ⟨.bucket size, ⟨count, rawBytes, none, none, peak⟩⟩
  | proxy (rawSize proxyIndex count rawBytes strideBytes fallbacks peak : Amount)
    : Complete
        ⟨.slot rawSize proxyIndex, ⟨count, rawBytes, some strideBytes, some fallbacks, peak⟩⟩

theorem complete_of_mem_highlights {table : Table s} {n : Nat} {entry : Entry s}
    (h : entry ∈ (Summary.ofTable table).highlights n)
    : entry.Complete := by
  have listed := (Summary.highlights_sublist (Summary.ofTable table) n).mem h
  obtain ⟨⟨key, tally⟩, -, rfl⟩ := List.mem_map.mp listed
  cases key with
  | bucket size => exact .stride ..
  | slot rawSize proxyIndex => exact .proxy ..

/-- The cells of an entry stand in the order of the headers. -/
theorem Complete.cells {entry : Entry s} (complete : entry.Complete)
    : List.Forall₂
        (fun header cell => ∃ amount, entry.under? header = some amount ∧ cell = amount.text)
        s.reportHeaders entry.cells := by
  cases complete <;> repeat first | exact .nil | refine .cons ⟨_, rfl, rfl⟩ ?_

/-- Nothing of an entry is left out under the headers. -/
theorem Complete.eq {entry other : Entry s} (he : entry.Complete) (ho : other.Complete)
    (same : ∀ header ∈ s.reportHeaders, entry.under? header = other.under? header)
    : entry = other := by
  cases he <;> cases ho
  all_goals
    simp only [Schema.reportHeaders, List.forall_mem_cons, under?, Option.some.injEq] at same
    simp only [same]

end Entry

-----------------------------------------------------------------------------------------
-- Written amounts
-----------------------------------------------------------------------------------------

namespace Amount

theorem plain_text (a : Amount)
    : Text.Plain a.text := by
  intro c member
  rw [text, String.toList_ofList] at member
  have bounds := (Text.Numeral.ofDecimal a).toNat_bounds c member
  omega

/-- A sign and nineteen digits are enough for every amount. -/
theorem length_text_le (a : Amount)
    : a.text.length ≤ 20 := by
  have digits : (Nat.toDigits 10 a.val.natAbs).length ≤ 19 := by
    refine Nat.toDigits_length 10 a.val.natAbs 19 (by decide) ?_
    have lower := a.lower
    have upper := a.upper
    omega
  rw [← String.length_toList, text, String.toList_ofList, Text.decimal]
  split
  · rw [List.length_cons]
    omega
  · omega

end Amount

namespace Report

theorem trim_padLeft {cell : String} (plain : Text.Plain cell) (width : Nat)
    : Text.trim (padLeft width cell) = cell := by
  have padding : ∀ c ∈ List.replicate (width - cell.length) ' ', Text.isWhite c = true := by
    intro c member
    rw [List.eq_of_mem_replicate member]
    decide
  have stripped := Text.strip_padded padding (List.forall_mem_nil _) cell.toList
  rw [List.append_nil] at stripped
  rw [Text.trim, toList_padLeft, stripped, Text.strip_of_no_white plain.not_white,
    String.ofList_toList]

theorem readInteger_padLeft (width : Nat) (header : String) (a : Amount)
    : readInteger header (Text.trim (padLeft width a.text)) = .ok a := by
  have numeral := Text.Numeral.ofDecimal a
  refine readInteger_numeral numeral header ?_
  rw [Text.trim_trim, trim_padLeft a.plain_text]
  rfl

/-- The cells of a line are its texts in their order, each in some width. -/
theorem forall₂_cells_line {R : String → String → Prop} {widths : List Nat}
    {labels texts : List String}
    (padded
      : List.Forall₂
          (fun label text => '|' ∉ text.toList ∧ ∀ width, R label (padLeft width text))
          labels texts)
    (columns : widths.length = texts.length) (nonempty : texts ≠ [])
    : List.Forall₂ R labels (Text.cells (line widths texts)) := by
  induction padded generalizing widths with
  | nil => contradiction
  | @cons label text labels texts first others ih =>
      obtain ⟨plain, related⟩ := first
      obtain ⟨width, widths, rfl⟩ := List.exists_cons_of_length_eq_add_one columns
      have columns : widths.length = texts.length := Nat.succ.inj columns
      have plain : '|' ∉ (padLeft width text).toList :=
        fun bar => (mem_padLeft bar).elim (by decide) plain
      by_cases last : texts = []
      · subst last
        cases others
        rw [line_of_last (.inr rfl), Text.cells_of_plain plain]
        exact .cons (related width) .nil
      · have more : widths ≠ [] := by
          rw [← List.length_pos_iff, columns]
          exact List.length_pos_iff.mpr last
        rw [line_cons more last, Text.cells_append plain]
        exact .cons (related width) (ih columns last)

-----------------------------------------------------------------------------------------
-- Printed selections
-----------------------------------------------------------------------------------------

theorem plain_reportHeaders (s : Schema)
    : ∀ header ∈ s.reportHeaders, Text.Plain header := by
  cases s <;> decide

theorem exists_of_mem_cells {entry : Entry s} {cell : String} (h : cell ∈ entry.cells)
    : ∃ a : Amount, cell = a.text := by
  simp only [Entry.cells, List.mem_append, List.mem_map, List.mem_singleton, Option.mem_toList,
    Option.map_eq_some_iff] at h
  grind

/-- The line has one cell for each header of the layout, and there the integer of the entry. -/
def Shows (entry : Entry s) (line : String) : Prop :=
  List.Forall₂
    (fun header cell =>
      ∃ amount,
        entry.under? header = some amount ∧ readInteger header (Text.trim cell) = .ok amount)
    s.reportHeaders (Text.cells line)

/-- The lines of the text are the title and the header line with a rule, then one for each entry. -/
structure Printed (selected : List (Entry s)) (text header : String) (rows : List String)
    : Prop where
  lines
    : Text.lines text
      = ["", s.name ++ " trace data points:", "", header,
          String.ofList (List.replicate header.length '-')]
        ++ rows ++ [""]
  header : (Text.cells header).map Text.trim = s.reportHeaders
  rows : List.Forall₂ Shows selected rows

theorem shows_line {entry : Entry s} (complete : entry.Complete) {widths : List Nat}
    (columns : widths.length = s.reportHeaders.length)
    : Shows entry (line widths entry.cells) := by
  have size := complete.cells.length_eq
  refine forall₂_cells_line ?_ (by omega) ?_
  · refine complete.cells.imp ?_
    rintro header - ⟨amount, under, rfl⟩
    refine ⟨amount.plain_text.not_mem (by decide), fun width => ⟨amount, under, ?_⟩⟩
    exact readInteger_padLeft width header amount
  · intro empty
    rw [empty] at size
    cases s <;> cases size

theorem not_mem_line {widths : List Nat} {cells : List String}
    (plain : ∀ cell ∈ cells, Text.Plain cell)
    : '\n' ∉ (line widths cells).toList := by
  intro feed
  rcases mem_line feed with space | bar | ⟨cell, member, inside⟩
  · exact absurd space (by decide)
  · exact absurd bar (by decide)
  · exact (plain cell member).not_mem (by decide) inside

theorem text_eq_join (report : Report)
    : report.text
      = String.join (("" :: (report.title ++ ":") :: "" :: report.lines).map (· ++ "\n")) := by
  rw [text, Report.format]
  simp only [List.map_cons, String.join_cons, String.append_assoc, String.empty_append]
  rfl

/-- A report of plain texts has a line for its title, its headers and each row. -/
theorem lines_text {report : Report} (title : '\n' ∉ (report.title ++ ":").toList)
    (headers : ∀ header ∈ report.headers, Text.Plain header)
    (rows : ∀ row ∈ report.rows, ∀ cell ∈ row, Text.Plain cell)
    : let header := line report.widths report.headers
      Text.lines report.text
      = ["", report.title ++ ":", "", header, String.ofList (List.replicate header.length '-')]
        ++ report.rows.map (line report.widths) ++ [""] := by
  intro header
  have dashes : header.utf8ByteSize = header.length :=
    Text.utf8ByteSize_of_isAscii (isAscii_line fun cell member => (headers cell member).isAscii)
  have plain : ∀ part ∈ "" :: (report.title ++ ":") :: "" :: report.lines,
      '\n' ∉ part.toList := by
    simp only [Report.lines, List.forall_mem_cons, List.forall_mem_map]
    refine ⟨by decide, title, by decide, not_mem_line headers, ?_, ?_⟩
    · rw [rule, String.toList_ofList]
      exact fun feed => absurd (List.eq_of_mem_replicate feed) (by decide)
    · exact fun row member => not_mem_line (rows row member)
  rw [text_eq_join, Text.lines_terminated plain, ← dashes]
  rfl

theorem trim_cells_headers {widths : List Nat} (columns : widths.length = s.reportHeaders.length)
    : (Text.cells (line widths s.reportHeaders)).map Text.trim = s.reportHeaders := by
  have padded : List.Forall₂ (fun header cell => header = Text.trim cell)
      s.reportHeaders (Text.cells (line widths s.reportHeaders)) := by
    refine forall₂_cells_line ?_ columns (by cases s <;> exact List.cons_ne_nil _ _)
    refine List.forall₂_same.mpr fun header member => ?_
    have plain := plain_reportHeaders s header member
    exact ⟨plain.not_mem (by decide), fun width => (trim_padLeft plain width).symm⟩
  rw [← List.forall₂_map_right_iff, List.forall₂_eq_eq_eq] at padded
  exact padded.symm

theorem exists_of_mem_rows {table : Table s} {n : Nat} {row : List String} {cell : String}
    (member : row ∈ (ofSummary (Summary.ofTable table) n).rows) (inside : cell ∈ row)
    : ∃ a : Amount, cell = a.text := by
  obtain ⟨entry, -, rfl⟩ := List.mem_map.mp member
  exact exists_of_mem_cells inside

/-- The report of a selection, the columns being those of the layout. -/
theorem printed_ofSummary (table : Table s) (n : Nat)
    : ∃ header rows,
        Printed ((Summary.ofTable table).highlights n)
          (ofSummary (Summary.ofTable table) n).text header rows := by
  let selected := (Summary.ofTable table).highlights n
  let report := ofSummary (Summary.ofTable table) n
  have columns : report.widths.length = s.reportHeaders.length := length_widths report
  have title : report.title ++ ":" = s.name ++ " trace data points:" := by
    change s.name ++ " trace data points" ++ ":" = _
    rw [String.append_assoc]
    rfl
  have plain : '\n' ∉ (report.title ++ ":").toList := by
    rw [title]
    cases s <;> decide
  have lines := lines_text plain (plain_reportHeaders s) fun row member cell inside => by
    obtain ⟨a, rfl⟩ := exists_of_mem_rows member inside
    exact a.plain_text
  refine ⟨line report.widths s.reportHeaders, report.rows.map (line report.widths), ?_⟩
  refine {
    lines := ?_
    header := trim_cells_headers columns
    rows := ?_
  }
  · rw [← title]
    exact lines
  · change List.Forall₂ Shows selected ((selected.map Entry.cells).map (line report.widths))
    rw [List.map_map, List.forall₂_map_right_iff, List.forall₂_same]
    exact fun entry member => shows_line (Entry.complete_of_mem_highlights member) columns

/-- What is printed of a report is ASCII, so its characters are its bytes. -/
theorem isAscii_text (table : Table s) (n : Nat)
    : Text.IsAscii (ofSummary (Summary.ofTable table) n).text := by
  have title : Text.IsAscii ((ofSummary (Summary.ofTable table) n).title ++ ":") := by
    change Text.IsAscii (s.name ++ " trace data points" ++ ":")
    cases s <;> decide
  rw [text_eq_join]
  apply Text.isAscii_terminated
  simp only [Report.lines, List.forall_mem_cons, List.forall_mem_map]
  refine ⟨by decide, title, by decide, isAscii_line ?_, ?_, ?_⟩
  · exact fun header member => (plain_reportHeaders s header member).isAscii
  · intro c inside
    rw [rule, String.toList_ofList] at inside
    rw [List.eq_of_mem_replicate inside]
    decide
  · intro row member
    refine isAscii_line fun cell inside => ?_
    obtain ⟨a, rfl⟩ := exists_of_mem_rows member inside
    exact a.plain_text.isAscii

theorem fits_ofSummary (table : Table s) (n : Nat)
    : (ofSummary (Summary.ofTable table) n).fits = true := by
  refine fits_of_short ?_ fun row member cell inside => ?_
  · change ∀ header ∈ s.reportHeaders, _
    cases s <;> decide
  · obtain ⟨a, rfl⟩ := exists_of_mem_rows member inside
    rw [Text.utf8ByteSize_of_isAscii a.plain_text.isAscii]
    exact Nat.le_trans a.length_text_le (by decide)

-----------------------------------------------------------------------------------------
-- One selection for a text
-----------------------------------------------------------------------------------------

theorem exists_of_forall₂_both {α β : Type} {R S : α → β → Prop} {xs : List α} {ys : List β}
    (h : List.Forall₂ R xs ys) (k : List.Forall₂ S xs ys)
    : ∀ x ∈ xs, ∃ y, R x y ∧ S x y := by
  induction h with
  | nil => exact List.forall_mem_nil _
  | cons first _ ih =>
      cases k with
      | cons other others => exact List.forall_mem_cons.mpr ⟨⟨_, first, other⟩, ih others⟩

/-- No line shows two entries: under each header it has one integer. -/
theorem Shows.unique {entry other : Entry s} {line : String} (he : entry.Complete)
    (ho : other.Complete) (h : Shows entry line) (k : Shows other line)
    : entry = other := by
  refine he.eq ho fun header member => ?_
  obtain ⟨cell, ⟨amount, own, read⟩, ⟨same, others, again⟩⟩ :=
    exists_of_forall₂_both h k header member
  rw [read] at again
  cases again
  rw [own, others]

/-- A text that shows two selections shows them in the same lines. -/
theorem Printed.unique {selected other : List (Entry s)} {text header header' : String}
    {rows rows' : List String} (hs : ∀ entry ∈ selected, entry.Complete)
    (ho : ∀ entry ∈ other, entry.Complete) (h : Printed selected text header rows)
    (k : Printed other text header' rows')
    : selected = other := by
  have lines := h.lines.symm.trans k.lines
  have same : rows = rows' := by
    simp only [List.cons_append, List.nil_append, List.cons.injEq, List.append_cancel_right_eq]
      at lines
    exact lines.2.2.2.2.2
  have unique : Relator.LeftUnique fun (entry : Entry s) line =>
      entry.Complete ∧ Shows entry line :=
    fun _ _ _ left right => left.2.unique left.1 right.1 right.2
  refine List.left_unique_forall₂' unique (c := rows) ?_ ?_
  · exact (List.forall₂_and_left _ _).mpr ⟨hs, h.rows⟩
  · exact (List.forall₂_and_left _ _).mpr ⟨ho, same ▸ k.rows⟩

theorem Printed.schema_eq {t : Schema} {selected : List (Entry s)} {other : List (Entry t)}
    {text header header' : String} {rows rows' : List String}
    (h : Printed selected text header rows) (k : Printed other text header' rows')
    : s = t := by
  have lines := h.lines.symm.trans k.lines
  simp only [List.cons_append, List.cons.injEq] at lines
  cases s <;> cases t
  · rfl
  · exact absurd lines.2.1 (by decide)
  · exact absurd lines.2.1 (by decide)
  · rfl

/-- The report of any table and selection can be printed and read back, entry by entry and figure by
figure, so reports have the same text exactly if they select the same entries of the same layout.
-/
theorem text_reads_back
    : (∀ (s : Schema) (table : Table s) (n : Nat),
        let summary := Summary.ofTable table
        let report := ofSummary summary n
        report.format? = some report.format
        ∧ ∃ header rows, Printed (summary.highlights n) report.text header rows)
      ∧ ∀ (s t : Schema) (table : Table s) (other : Table t) (m n : Nat),
          (ofSummary (Summary.ofTable table) m).text = (ofSummary (Summary.ofTable other) n).text
          ↔ (⟨s, (Summary.ofTable table).highlights m⟩ : (s : Schema) × List (Entry s))
            = ⟨t, (Summary.ofTable other).highlights n⟩ := by
  constructor
  · intro s table n
    exact ⟨if_pos (fits_ofSummary table n), printed_ofSummary table n⟩
  · intro s t table other m n
    obtain ⟨header, rows, printed⟩ := printed_ofSummary table m
    obtain ⟨header', rows', reprinted⟩ := printed_ofSummary other n
    constructor
    · intro same
      rw [← same] at reprinted
      obtain rfl := printed.schema_eq reprinted
      have selected := printed.unique (fun _ => Entry.complete_of_mem_highlights)
        (fun _ => Entry.complete_of_mem_highlights) reprinted
      rw [selected]
    · intro same
      obtain ⟨rfl, selected⟩ := Sigma.mk.inj_iff.mp same
      rw [ofSummary, eq_of_heq selected]
      rfl

end Report

end AllocTrace
