import AllocTrace.Table

/-! A finished aggregation, its entries ascending by key. The report takes a bounded selection
from both ends; the chart takes one point per size.
-/

namespace AllocTrace

/-- The figures of all keys with one size. -/
structure SeriesPoint where
  size : Amount
  count : Amount
  rawBytes : Amount
  strideBytes : Option Amount
  peak : Amount
deriving DecidableEq

/-- The point of a size before any of its entries; it carries stride bytes if they do. -/
def SeriesPoint.start (size : Amount) (figures : Figures) : SeriesPoint :=
  {
    size := size
    count := 0
    rawBytes := 0
    strideBytes := figures.strideBytes.map fun _ => 0
    peak := 0
  }

def SeriesPoint.add (point : SeriesPoint) (figures : Figures) : SeriesPoint :=
  {
    size := point.size
    count := point.count + figures.count
    rawBytes := point.rawBytes + figures.rawBytes
    strideBytes := point.strideBytes.map fun total => total + figures.strideBytes.getD 0
    peak := max point.peak figures.peak
  }

/-- Entries keyed for one layout, and the layout under which they are presented. -/
structure Summary (s : Schema) where
  schema : Schema
  rows : List (Entry s)
deriving DecidableEq

namespace Summary

variable {s : Schema}

def ofTable (table : Table s) : Summary s :=
  { schema := s, rows := table.entries }

/-- Entries of one key keep their order. -/
def ofEntries (schema : Schema) (entries : List (Entry s)) : Summary s :=
  { schema := schema, rows := entries.mergeSort fun a b => (compare a.key b.key).isLE }

/-- How many entries are shown from each end unless a configuration says otherwise. -/
def defaultHighlights : Nat := 5

/-- The first and the last `n` rows, each row once. -/
def highlights (summary : Summary s) (n : Nat) : List (Entry s) :=
  let size := summary.rows.length
  let head := min n size
  let tail := min n (size - head)
  summary.rows.take head ++ summary.rows.drop (size - tail)

/-- Adds a row to the point of its size. -/
def addRow (points : Std.ExtTreeMap Amount SeriesPoint) (row : Entry s)
    : Std.ExtTreeMap Amount SeriesPoint :=
  points.alter row.key.size fun present =>
    some ((present.getD (.start row.key.size row.figures)).add row.figures)

/-- One point per size, ascending. -/
def series (summary : Summary s) : List SeriesPoint :=
  (summary.rows.foldl addRow ∅).toList.map Prod.snd

end Summary

end AllocTrace
