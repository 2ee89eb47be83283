import AllocTrace.Report
import Mathlib.Algebra.GroupWithZero.Nat
import Mathlib.Data.List.Forall2

/-! The layout of a report. Main statement: in all lines that have it a column takes the same
characters, whatever the texts; no cell under a header is cut, and cells without a header neither
show nor count.
-/

namespace AllocTrace

-----------------------------------------------------------------------------------------
-- Bytes and characters
-----------------------------------------------------------------------------------------

namespace Text

theorem utf8ByteSize_ofList_cons (c : Char) (cs : List Char)
    : (String.ofList (c :: cs)).utf8ByteSize = c.utf8Size + (String.ofList cs).utf8ByteSize := by
  rw [← List.singleton_append, String.ofList_append, String.utf8ByteSize_append,
    ← String.singleton_eq_ofList, String.utf8ByteSize_singleton]

/-- Every character takes a byte at least. -/
theorem length_le_utf8ByteSize (text : String)
    : text.length ≤ text.utf8ByteSize := by
  have list (cs : List Char) : cs.length ≤ (String.ofList cs).utf8ByteSize := by
    induction cs with
    | nil => exact Nat.zero_le _
    | cons c rest ih =>
        have positive := c.utf8Size_pos
        rw [utf8ByteSize_ofList_cons, List.length_cons]
        omega
  rw [← String.length_toList]
  simpa using list text.toList

def IsAscii (text : String) : Prop :=
  ∀ c ∈ text.toList, c.toNat < 128

instance (text : String) : Decidable (IsAscii text) :=
  List.decidableBAll (fun c : Char => c.toNat < 128) text.toList

theorem utf8ByteSize_of_isAscii {text : String} (ascii : IsAscii text)
    : text.utf8ByteSize = text.length := by
  have list (cs : List Char) (ascii : ∀ c ∈ cs, c.toNat < 128)
      : (String.ofList cs).utf8ByteSize = cs.length := by
    induction cs with
    | nil => rfl
    | cons c rest ih =>
        obtain ⟨low, others⟩ := List.forall_mem_cons.mp ascii
        have one : c.utf8Size = 1 := by
          rw [Char.utf8Size_eq_one_iff, UInt32.le_iff_toNat_le]
          exact Nat.le_of_lt_succ low
        rw [utf8ByteSize_ofList_cons, ih others, one, List.length_cons, Nat.add_comm]
  rw [← String.length_toList]
  simpa using list text.toList ascii

end Text

namespace Report

-----------------------------------------------------------------------------------------
-- Widths
-----------------------------------------------------------------------------------------

/-- Each cell that has a column is at most as wide as it, in bytes. -/
def Covers (widths : List Nat) (cells : List String) : Prop :=
  ∀ (j : Nat) cell width,
    cells[j]? = some cell → widths[j]? = some width → cell.utf8ByteSize ≤ width

theorem length_widen (widths : List Nat) (cells : List String)
    : (widen widths cells).length = widths.length := by
  induction widths, cells using widen.induct with
  | case1 width widths cell cells ih => simp [widen, ih]
  | case2 widths cells other => rw [widen]; exact other

theorem length_foldl_widen (widths : List Nat) (rows : List (List String))
    : (rows.foldl widen widths).length = widths.length := by
  induction rows generalizing widths with
  | nil => rfl
  | cons row rest ih => rw [List.foldl_cons, ih, length_widen]

theorem length_widths (report : Report)
    : report.widths.length = report.headers.length := by
  rw [widths, length_foldl_widen, List.length_map]

/-- A row widens the columns of its cells just to the cells, and no others. -/
theorem getElem?_widen (widths : List Nat) (cells : List String) (j : Nat)
    : (widen widths cells)[j]?
      = widths[j]?.map fun width =>
          cells[j]?.elim width fun cell => max width cell.utf8ByteSize := by
  induction widths, cells using widen.induct generalizing j with
  | case1 width widths cell cells ih =>
      cases j with
      | zero => simp [widen]
      | succ j => simpa [widen] using ih j
  | case2 widths cells other =>
      cases widths with
      | nil => simp [widen]
      | cons width widths =>
          cases cells with
          | nil => simp [widen]
          | cons cell cells => exact absurd rfl (other width widths cell cells rfl)

/-- Later rows never narrow a column, and every row has its cells covered, by induction on rows. -/
theorem covered_of_foldl_widen {widths : List Nat} {rows : List (List String)} {j last : Nat}
    (h : (rows.foldl widen widths)[j]? = some last)
    : (∃ width, widths[j]? = some width ∧ width ≤ last)
      ∧ ∀ row ∈ rows, ∀ cell, row[j]? = some cell → cell.utf8ByteSize ≤ last := by
  induction rows generalizing widths with
  | nil => exact ⟨⟨last, h, Nat.le_refl _⟩, List.forall_mem_nil _⟩
  | cons row rest ih =>
      rw [List.foldl_cons] at h
      obtain ⟨⟨widened, found, below⟩, others⟩ := ih h
      rw [getElem?_widen] at found
      obtain ⟨width, stood, rfl⟩ := Option.map_eq_some_iff.mp found
      cases present : row[j]? with
      | none =>
          rw [present, Option.elim_none] at below
          refine ⟨⟨width, stood, below⟩, List.forall_mem_cons.mpr ⟨?_, others⟩⟩
          intro cell here
          rw [present] at here
          cases here
      | some own =>
          rw [present, Option.elim_some] at below
          refine ⟨⟨width, stood, by omega⟩, List.forall_mem_cons.mpr ⟨?_, others⟩⟩
          intro cell here
          rw [present] at here
          cases here
          omega

theorem covers_headers (report : Report)
    : Covers report.widths report.headers := by
  intro j header last named h
  obtain ⟨⟨width, found, below⟩, -⟩ := covered_of_foldl_widen h
  rw [List.getElem?_map, named, Option.map_some, Option.some.injEq] at found
  rw [found]
  exact below

theorem covers_row {report : Report} {row : List String} (member : row ∈ report.rows)
    : Covers report.widths row := by
  intro j cell last present h
  exact (covered_of_foldl_widen h).2 row member cell present

theorem widen_le {widths : List Nat} {cells : List String} {bound : Nat}
    (narrow : ∀ width ∈ widths, width ≤ bound) (short : ∀ cell ∈ cells, cell.utf8ByteSize ≤ bound)
    : ∀ width ∈ widen widths cells, width ≤ bound := by
  induction widths, cells using widen.induct with
  | case1 width widths cell cells ih =>
      obtain ⟨first, others⟩ := List.forall_mem_cons.mp narrow
      obtain ⟨own, rest⟩ := List.forall_mem_cons.mp short
      rw [widen]
      exact List.forall_mem_cons.mpr ⟨Nat.max_le.mpr ⟨first, own⟩, ih others rest⟩
  | case2 widths cells other => rwa [widen]; exact other

theorem foldl_widen_le {widths : List Nat} {rows : List (List String)} {bound : Nat}
    (narrow : ∀ width ∈ widths, width ≤ bound)
    (short : ∀ row ∈ rows, ∀ cell ∈ row, cell.utf8ByteSize ≤ bound)
    : ∀ width ∈ rows.foldl widen widths, width ≤ bound := by
  induction rows generalizing widths with
  | nil => exact narrow
  | cons row rest ih =>
      obtain ⟨first, others⟩ := List.forall_mem_cons.mp short
      exact ih (widen_le narrow first) others

/-- A report of short texts can be printed. -/
theorem fits_of_short {report : Report}
    (headers : ∀ header ∈ report.headers, header.utf8ByteSize ≤ maxWidth)
    (rows : ∀ row ∈ report.rows, ∀ cell ∈ row, cell.utf8ByteSize ≤ maxWidth)
    : report.fits = true := by
  have narrow : ∀ width ∈ report.headers.map String.utf8ByteSize, width ≤ maxWidth := by
    simpa using headers
  rw [fits, List.all_eq_true]
  exact fun width member => decide_eq_true (foldl_widen_le narrow rows width member)

/-- Cells without a column have no part in widening. -/
theorem widen_take (widths : List Nat) (cells : List String)
    : widen widths (cells.take widths.length) = widen widths cells := by
  induction widths, cells using widen.induct with
  | case1 width widths cell cells ih => simp [widen, ih]
  | case2 widths cells other =>
      cases widths with
      | nil => simp [widen]
      | cons width widths =>
          cases cells with
          | nil => simp
          | cons cell cells => exact absurd rfl (other width widths cell cells rfl)

theorem foldl_widen_take (widths : List Nat) (rows : List (List String))
    : (rows.map (·.take widths.length)).foldl widen widths = rows.foldl widen widths := by
  induction rows generalizing widths with
  | nil => rfl
  | cons row rest ih =>
      rw [List.map_cons, List.foldl_cons, List.foldl_cons, widen_take]
      rw [← length_widen widths row]
      exact ih (widen widths row)

-----------------------------------------------------------------------------------------
-- Lines
-----------------------------------------------------------------------------------------

/-- So many characters of the line, from a position on. -/
def slice (line : String) (start size : Nat) : List Char :=
  (line.toList.drop start).take size

/-- Where a column starts: behind the columns before it and three more characters for each. -/
def start (widths : List Nat) (column : Nat) : Nat :=
  (widths.take column).sum + 3 * column

/-- The length of a line with columns of these widths, three characters between one and the next. -/
def extent (widths : List Nat) : Nat :=
  widths.sum + 3 * (widths.length - 1)

/-- In the line every cell that has a column fills it from the right, with spaces before the cell;
a separator stands between one column and the next, and nothing behind the last cell.
-/
structure LaidOut (widths : List Nat) (cells : List String) (line : String) : Prop where
  cell (j : Nat) (cell : String) (width : Nat)
    : cells[j]? = some cell
      → widths[j]? = some width
      → cell.length ≤ width
        ∧ slice line (start widths j) width
          = List.replicate (width - cell.length) ' ' ++ cell.toList
  separator (j width : Nat)
    : j + 1 < cells.length
      → j + 1 < widths.length
      → widths[j]? = some width
      → slice line (start widths j + width) 3 = " | ".toList
  length : line.length = extent (widths.take cells.length)

theorem toList_padLeft (width : Nat) (cell : String)
    : (padLeft width cell).toList
      = List.replicate (width - cell.length) ' ' ++ cell.toList := by
  simp [padLeft]

theorem length_padLeft {width : Nat} {cell : String} (fits : cell.length ≤ width)
    : (padLeft width cell).length = width := by
  rw [← String.length_toList, toList_padLeft, List.length_append, List.length_replicate,
    String.length_toList]
  omega

theorem slice_left (front back : String)
    : slice (front ++ back) 0 front.length = front.toList := by
  simp [slice, ← String.length_toList]

theorem slice_right (front back : String) (start size : Nat)
    : slice (front ++ back) (front.length + start) size = slice back start size := by
  simp [slice, ← String.length_toList, ← List.drop_drop]

theorem slice_behind_separator (line : String) (start size : Nat)
    : slice (" | " ++ line) (3 + start) size = slice line start size :=
  slice_right " | " line start size

theorem line_of_no_cells (widths : List Nat)
    : line widths [] = "" := by
  simp [line]

theorem line_of_no_widths (cells : List String)
    : line [] cells = "" := by
  simp [line]

theorem line_cons {widths : List Nat} {cells : List String} (columns : widths ≠ [])
    (more : cells ≠ []) (width : Nat) (cell : String)
    : line (width :: widths) (cell :: cells)
      = padLeft width cell ++ (" | " ++ line widths cells) := by
  cases widths with
  | nil => contradiction
  | cons next widths =>
      cases cells with
      | nil => contradiction
      | cons other cells =>
        simp [line, String.append_assoc]

theorem line_of_last {widths : List Nat} {cells : List String} (last : widths = [] ∨ cells = [])
    (width : Nat) (cell : String)
    : line (width :: widths) (cell :: cells) = padLeft width cell := by
  rcases last with rfl | rfl <;> simp [line]

theorem start_zero (widths : List Nat)
    : start widths 0 = 0 := by
  simp [start]

theorem start_succ (width : Nat) (widths : List Nat) (j : Nat)
    : start (width :: widths) (j + 1) = width + (3 + start widths j) := by
  simp only [start, List.take_succ_cons, List.sum_cons]
  omega

/-- A line of one column is its cell in its width. -/
theorem LaidOut.of_last {widths : List Nat} {cells : List String} {width : Nat} {cell : String}
    (last : widths = [] ∨ cells = []) (fits : cell.length ≤ width)
    : LaidOut (width :: widths) (cell :: cells) (padLeft width cell) where
  cell j own size here sized := by
    cases j with
    | zero =>
        cases here
        cases sized
        have whole := slice_left (padLeft width cell) ""
        rw [String.append_empty, length_padLeft fits, toList_padLeft] at whole
        exact ⟨fits, by rw [start_zero, whole]⟩
    | succ j =>
        rcases last with rfl | rfl
        · cases sized
        · cases here
  separator j size hc hw _ := by
    rcases last with rfl | rfl
    · simp at hw
    · simp at hc
  length := by
    rw [length_padLeft fits]
    rcases last with rfl | rfl <;> simp [extent]

/-- One more column in front moves the others by its width and a separator. -/
theorem LaidOut.cons {widths : List Nat} {cells : List String} {width : Nat} {cell line : String}
    (laid : LaidOut widths cells line) (columns : widths ≠ []) (more : cells ≠ [])
    (fits : cell.length ≤ width)
    : LaidOut (width :: widths) (cell :: cells) (padLeft width cell ++ (" | " ++ line)) where
  cell j own size here sized := by
    have filled := length_padLeft fits
    cases j with
    | zero =>
        cases here
        cases sized
        have front := slice_left (padLeft width cell) (" | " ++ line)
        rw [filled, toList_padLeft] at front
        exact ⟨fits, by rw [start_zero, front]⟩
    | succ j =>
        have behind := slice_right (padLeft width cell) (" | " ++ line) (3 + start widths j) size
        rw [filled, ← start_succ] at behind
        rw [behind, slice_behind_separator]
        exact laid.cell j own size here sized
  separator j size hc hw sized := by
    have filled := length_padLeft fits
    cases j with
    | zero =>
        cases sized
        have behind := slice_right (padLeft width cell) (" | " ++ line) 0 3
        rw [filled, Nat.add_zero] at behind
        rw [start_zero, Nat.zero_add, behind]
        exact slice_left " | " line
    | succ j =>
        have behind :=
          slice_right (padLeft width cell) (" | " ++ line) (3 + (start widths j + size)) 3
        rw [filled] at behind
        have place : start (width :: widths) (j + 1) + size
            = width + (3 + (start widths j + size)) := by
          rw [start_succ]
          omega
        rw [place, behind, slice_behind_separator]
        exact laid.separator j size (Nat.lt_of_succ_lt_succ hc) (Nat.lt_of_succ_lt_succ hw) sized
  length := by
    have columned : (widths.take cells.length).length ≠ 0 := by
      rw [List.length_take]
      have := List.length_pos_iff.mpr columns
      have := List.length_pos_iff.mpr more
      omega
    have separated : " | ".length = 3 := rfl
    rw [String.length_append, String.length_append, length_padLeft fits, separated, laid.length,
      List.length_cons, List.take_succ_cons]
    simp only [extent, List.sum_cons, List.length_cons]
    omega

theorem Covers.tail {width : Nat} {widths : List Nat} {cell : String} {cells : List String}
    (covers : Covers (width :: widths) (cell :: cells))
    : Covers widths cells :=
  fun j => covers (j + 1)

/-- Cells in columns that cover them are laid out, by induction on the columns. -/
theorem laidOut_line {widths : List Nat} {cells : List String} (covers : Covers widths cells)
    : LaidOut widths cells (line widths cells) := by
  induction widths generalizing cells with
  | nil =>
      rw [line_of_no_widths]
      exact {
        cell := fun _ _ _ _ sized => by cases sized
        separator := fun _ _ _ hw => absurd hw (Nat.not_lt_zero _)
        length := by simp [extent]
      }
  | cons width widths ih =>
      cases cells with
      | nil =>
          rw [line_of_no_cells]
          exact {
            cell := fun _ _ _ here => by cases here
            separator := fun _ _ hc => absurd hc (Nat.not_lt_zero _)
            length := by simp [extent]
          }
      | cons cell cells =>
          have fits : cell.length ≤ width :=
            Nat.le_trans (Text.length_le_utf8ByteSize cell) (covers 0 cell width rfl rfl)
          by_cases last : widths = [] ∨ cells = []
          · rw [line_of_last last]
            exact .of_last last fits
          · obtain ⟨columns, more⟩ := not_or.mp last
            rw [line_cons columns more]
            exact (ih covers.tail).cons columns more fits

/-- Cells without a column do not show. -/
theorem line_take (widths : List Nat) (cells : List String)
    : line widths (cells.take widths.length) = line widths cells := by
  have columns : (cells.take widths.length).zipWith (fun cell width => padLeft width cell) widths
      = cells.zipWith (fun cell width => padLeft width cell) widths := by
    induction widths generalizing cells with
    | nil => simp
    | cons width widths ih =>
        cases cells with
        | nil => rfl
        | cons cell cells => simp [ih cells]
  rw [line, columns, line]

-----------------------------------------------------------------------------------------
-- Whole reports
-----------------------------------------------------------------------------------------

/-- A line of the header's length, if the row has a cell for every column. -/
theorem LaidOut.length_eq {widths : List Nat} {headers cells : List String} {header line : String}
    (top : LaidOut widths headers header) (laid : LaidOut widths cells line)
    (columns : widths.length = headers.length) (full : headers.length ≤ cells.length)
    : line.length = header.length := by
  rw [top.length, laid.length, List.take_of_length_le (by omega), List.take_of_length_le (by omega)]

theorem mem_padLeft {width : Nat} {cell : String} {c : Char} (h : c ∈ (padLeft width cell).toList)
    : c = ' ' ∨ c ∈ cell.toList := by
  rw [toList_padLeft, List.mem_append] at h
  exact h.imp_left List.eq_of_mem_replicate

/-- A line is made of its cells, of separators and of spaces. -/
theorem mem_line {widths : List Nat} {cells : List String} {c : Char}
    (h : c ∈ (line widths cells).toList)
    : c = ' ' ∨ c = '|' ∨ ∃ cell ∈ cells, c ∈ cell.toList := by
  induction widths generalizing cells with
  | nil =>
      rw [line_of_no_widths] at h
      cases h
  | cons width widths ih =>
      cases cells with
      | nil =>
          rw [line_of_no_cells] at h
          cases h
      | cons cell cells =>
          have own (h : c ∈ (padLeft width cell).toList)
              : c = ' ' ∨ c = '|' ∨ ∃ other ∈ cell :: cells, c ∈ other.toList :=
            (mem_padLeft h).imp_right fun inside => .inr ⟨cell, List.mem_cons_self, inside⟩
          by_cases last : widths = [] ∨ cells = []
          · rw [line_of_last last] at h
            exact own h
          · obtain ⟨columns, more⟩ := not_or.mp last
            rw [line_cons columns more, String.toList_append, String.toList_append,
              List.mem_append, List.mem_append] at h
            rcases h with first | separator | others
            · exact own first
            · have known : c = ' ' ∨ c = '|' ∨ c = ' ' := by simpa using separator
              exact known.elim .inl fun known => known.elim (.inr ∘ .inl) .inl
            · refine (ih others).imp_right (.imp_right ?_)
              exact fun ⟨other, member, inside⟩ => ⟨other, List.mem_cons_of_mem _ member, inside⟩

theorem isAscii_line {widths : List Nat} {cells : List String}
    (ascii : ∀ cell ∈ cells, Text.IsAscii cell)
    : Text.IsAscii (line widths cells) := by
  intro c member
  rcases mem_line member with rfl | rfl | ⟨cell, named, inside⟩
  · decide
  · decide
  · exact ascii cell named c inside

/-- The report without the cells that have no header. -/
def trimmed (report : Report) : Report :=
  { report with rows := report.rows.map (·.take report.headers.length) }

theorem widths_trimmed (report : Report)
    : report.trimmed.widths = report.widths := by
  have trim := foldl_widen_take (report.headers.map String.utf8ByteSize) report.rows
  rwa [List.length_map] at trim

theorem format?_trimmed (report : Report)
    : report.trimmed.format? = report.format? := by
  have rows : report.trimmed.rows.map (line report.widths)
      = report.rows.map (line report.widths) := by
    rw [trimmed, List.map_map]
    refine List.map_congr_left fun cells _ => ?_
    rw [Function.comp, ← length_widths]
    exact line_take report.widths cells
  have lines : report.trimmed.lines = report.lines := by
    rw [Report.lines, widths_trimmed, rows]
    rfl
  rw [format?, fits, widths_trimmed, Report.format, lines]
  rfl

/-- The header line, the rule and the row lines of a report in one set of columns. -/
structure Aligned (report : Report) (header rule : String) (rows : List String) : Prop where
  columns : report.widths.length = report.headers.length
  headings : LaidOut report.widths report.headers header
  cells : List.Forall₂ (LaidOut report.widths) report.rows rows
  full (i : Nat) (cells : List String) (line : String)
    : report.rows[i]? = some cells
      → rows[i]? = some line
      → report.headers.length ≤ cells.length
      → line.length = header.length
        ∧ line.length = report.widths.sum + 3 * (report.widths.length - 1)
  dashes : rule.toList = List.replicate header.utf8ByteSize '-'
  ascii : (∀ name ∈ report.headers, Text.IsAscii name) → rule.length = header.length
  surplus : report.trimmed.widths = report.widths ∧ report.trimmed.format? = report.format?

theorem aligned_lines (report : Report)
    : Aligned report (line report.widths report.headers)
        (rule (line report.widths report.headers)) (report.rows.map (line report.widths)) where
  columns := length_widths report
  headings := laidOut_line (covers_headers report)
  cells := by
    rw [List.forall₂_map_right_iff, List.forall₂_same]
    exact fun cells member => laidOut_line (covers_row member)
  full i cells line present printed full := by
    rw [List.getElem?_map, present, Option.map_some, Option.some.injEq] at printed
    subst printed
    have columns := length_widths report
    have laid := laidOut_line (covers_row (List.mem_of_getElem? present))
    refine ⟨(laidOut_line (covers_headers report)).length_eq laid columns full, ?_⟩
    rw [laid.length, List.take_of_length_le (by omega), extent]
  dashes := by rw [rule, String.toList_ofList]
  ascii names := by
    rw [rule, ← String.length_toList, String.toList_ofList, List.length_replicate,
      Text.utf8ByteSize_of_isAscii (isAscii_line names)]
  surplus := ⟨widths_trimmed report, format?_trimmed report⟩

/-- A table is laid out in columns whatever its texts are, or there is none because one of its
columns is too wide.
-/
theorem printed_aligned (report : Report)
    : ∃ header rule rows,
        Aligned report header rule rows
        ∧ report.format?
          = if ∀ width ∈ report.widths, width ≤ 65535 then
              some (String.join ((header :: rule :: rows).map (· ++ "\n")))
            else
              none := by
  refine ⟨_, _, _, aligned_lines report, ?_⟩
  have fits : report.fits = true ↔ ∀ width ∈ report.widths, width ≤ 65535 := by
    rw [Report.fits, List.all_eq_true]
    exact forall₂_congr fun width _ => decide_eq_true_iff
  rw [format?]
  simp only [fits]
  rfl

/-- One cell of 65536 letters leaves no table. -/
theorem wideCell_unprinted
    : let report : Report :=
        ⟨"t", ["h"], [[String.ofList (List.replicate 65536 'a')]]⟩
      ¬ ∃ header rule rows,
          Aligned report header rule rows
          ∧ report.format? = some (String.join ((header :: rule :: rows).map (· ++ "\n"))) := by
  rintro report ⟨header, rule, rows, -, printed⟩
  have ascii : Text.IsAscii (String.ofList (List.replicate 65536 'a')) := by
    intro c member
    rw [String.toList_ofList] at member
    rw [List.eq_of_mem_replicate member]
    decide
  have size : (String.ofList (List.replicate 65536 'a')).utf8ByteSize = 65536 := by
    rw [Text.utf8ByteSize_of_isAscii ascii, ← String.length_toList, String.toList_ofList,
      List.length_replicate]
  have widths : report.widths = [max "h".utf8ByteSize 65536] := by
    rw [← size]
    rfl
  have wide : report.fits = false := by
    rw [fits, widths]
    decide
  rw [format?, wide] at printed
  cases printed

end Report

end AllocTrace
