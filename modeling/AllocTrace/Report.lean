import AllocTrace.Summary

/-! The text report: a title, a header line, a rule and one line per selected entry, the cells
right-aligned in columns. A column is as wide as the longest text in it, measured in bytes;
cells are padded by characters.
-/

namespace AllocTrace

/-- Cells under headers. A row may have fewer or more cells than there are headers. -/
structure Report where
  title : String
  headers : List String
  rows : List (List String)
deriving DecidableEq

/-- The key elements, then the figures that the entry has, as decimal cells. -/
def Entry.cells {s : Schema} (entry : Entry s) : List String :=
  entry.key.elements.map Amount.text
    ++ [entry.figures.count.text]
    ++ (entry.figures.fallbacks.map Amount.text).toList
    ++ [entry.figures.rawBytes.text]
    ++ (entry.figures.strideBytes.map Amount.text).toList
    ++ [entry.figures.peak.text]

namespace Report

/-- The selected rows of a summary. -/
def ofSummary {s : Schema} (summary : Summary s) (highlights : Nat) : Report :=
  {
    title := summary.schema.name ++ " trace data points"
    headers := summary.schema.reportHeaders
    rows := (summary.highlights highlights).map Entry.cells
  }

/-- Widens each column to its cell, if the row has one for it. -/
def widen : List Nat → List String → List Nat
  | width :: widths, cell :: cells => max width cell.utf8ByteSize :: widen widths cells
  | widths, _ => widths

/-- The width of every column. -/
def widths (report : Report) : List Nat :=
  report.rows.foldl widen (report.headers.map String.utf8ByteSize)

/-- The greatest width to which a cell can be padded. -/
def maxWidth : Nat := 65535

/-- Every column can be padded to its width. -/
def fits (report : Report) : Bool :=
  report.widths.all (· ≤ maxWidth)

/-- The cell, after as many spaces as it has characters fewer than the width. -/
def padLeft (width : Nat) (cell : String) : String :=
  String.ofList (List.replicate (width - cell.length) ' ') ++ cell

/-- The cells that have a column, each in its width. -/
def line (widths : List Nat) (cells : List String) : String :=
  " | ".intercalate (cells.zipWith (fun cell width => padLeft width cell) widths)

/-- A dash for every byte of the header line. -/
def rule (headerLine : String) : String :=
  String.ofList (List.replicate headerLine.utf8ByteSize '-')

/-- The header line, the rule and the row lines. -/
def lines (report : Report) : List String :=
  let header := line report.widths report.headers
  header :: rule header :: report.rows.map (line report.widths)

/-- Every line with a line feed after it. -/
def format (report : Report) : String :=
  String.join (report.lines.map (· ++ "\n"))

/-- The table as text, unless a column is too wide for its cells to be padded. -/
def format? (report : Report) : Option String :=
  if report.fits then some report.format else none

/-- The report as it is printed. -/
def text (report : Report) : String :=
  "\n" ++ report.title ++ ":\n\n" ++ report.format

end Report

end AllocTrace
