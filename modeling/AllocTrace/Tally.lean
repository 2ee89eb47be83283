import AllocTrace.Record

/-! What is accumulated under one key: cumulative sums, which saturate, and the peak, which is
the greatest phase subtotal seen and never falls below zero.
-/

namespace AllocTrace

/-- The running figures of one key. -/
structure Tally where
  count : Amount
  rawBytes : Amount
  strideBytes : Amount
  fallbacks : Amount
  peak : Amount
deriving DecidableEq

/-- The figures of a tally that a layout shows. -/
structure Figures where
  count : Amount
  rawBytes : Amount
  strideBytes : Option Amount
  fallbacks : Option Amount
  peak : Amount
deriving DecidableEq

/-- A key with its figures. -/
structure Entry (s : Schema) where
  key : Key s
  figures : Figures
deriving DecidableEq

namespace Tally

def empty : Tally :=
  { count := 0, rawBytes := 0, strideBytes := 0, fallbacks := 0, peak := 0 }

/-- Adds what is present of the totals. -/
def add (tally : Tally) (totals : Totals) : Tally :=
  {
    count := tally.count + totals.count
    rawBytes := tally.rawBytes + totals.rawBytes
    strideBytes := totals.strideBytes.elim tally.strideBytes (tally.strideBytes + ·)
    fallbacks := totals.fallbacks.elim tally.fallbacks (tally.fallbacks + ·)
    peak := tally.peak
  }

def raisePeak (tally : Tally) (subtotal : Amount) : Tally :=
  { tally with peak := max tally.peak subtotal }

/-- Stride bytes and fallbacks are shown only for a layout that has them. -/
def figures (s : Schema) (tally : Tally) : Figures :=
  {
    count := tally.count
    rawBytes := tally.rawBytes
    strideBytes := if s.hasStrideBytes then some tally.strideBytes else none
    fallbacks := if s.hasFallbacks then some tally.fallbacks else none
    peak := tally.peak
  }

def entry {s : Schema} (key : Key s) (tally : Tally) : Entry s :=
  { key := key, figures := tally.figures s }

end Tally

end AllocTrace
