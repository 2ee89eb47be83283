import AllocTrace.Column
import AllocTrace.Schema

/-! The records of a trace and the keys under which they are aggregated, indexed by the record
layout so that a statement about both layouts is made once.
-/

namespace AllocTrace

/-- What a record is aggregated under. -/
inductive Key : Schema → Type where
  | bucket (size : Amount) : Key .stride
  | slot (rawSize proxyIndex : Amount) : Key .proxy
deriving DecidableEq

namespace Key

/-- The elements of the key, the most significant first. -/
def elements {s : Schema} : Key s → List Amount
  | .bucket size => [size]
  | .slot rawSize proxyIndex => [rawSize, proxyIndex]

/-- The size by which a chart groups. -/
def size {s : Schema} : Key s → Amount
  | .bucket size => size
  | .slot rawSize _ => rawSize

def order {s : Schema} : Key s → Key s → Ordering
  | .bucket a, .bucket b => compare a b
  | .slot a i, .slot b j => (compare a b).then (compare i j)

instance {s : Schema} : Ord (Key s) := ⟨order⟩

instance {s : Schema} : Std.TransOrd (Key s) where
  eq_swap {x y} := by
    cases x <;> cases y
    · rename_i a b
      exact (Std.OrientedOrd.eq_swap : compare a b = _)
    · change (compare _ _).then (compare _ _) = ((compare _ _).then (compare _ _)).swap
      rw [Ordering.swap_then, ← Std.OrientedOrd.eq_swap, ← Std.OrientedOrd.eq_swap]
  isLE_trans {x y z} h k := by
    cases x <;> cases y <;> cases z
    · rename_i a b c
      exact (Std.TransOrd.isLE_trans h k : (compare a c).isLE = true)
    · rename_i a i b j c l
      change ((compare a c).then (compare i l)).isLE = true
      change ((compare a b).then (compare i j)).isLE = true at h
      change ((compare b c).then (compare j l)).isLE = true at k
      simp only [Amount.compare_def, Ordering.isLE_then_iff_and, Int.isLE_compare] at *
      simp only [Int.compare_eq_lt] at *
      omega

instance {s : Schema} : Std.LawfulEqOrd (Key s) where
  eq_of_compare {x y} h := by
    cases x <;> cases y
    · exact congrArg bucket (Std.LawfulEqOrd.eq_of_compare h)
    · have h := Ordering.then_eq_eq.1 h
      rw [Std.LawfulEqOrd.eq_of_compare h.1, Std.LawfulEqOrd.eq_of_compare h.2]

end Key

/-- One row of a phase file. -/
inductive Record : Schema → Type where
  | stride (bucket count rawBytes : Amount) : Record .stride
  | proxy (rawSize alignment proxyIndex count fallbacks rawTotal strideTotal : Amount)
    : Record .proxy
deriving DecidableEq

/-- What a record adds to the totals of its key; absent where the layout has no such column. -/
structure Totals where
  count : Amount
  rawBytes : Amount
  strideBytes : Option Amount
  fallbacks : Option Amount
deriving DecidableEq

namespace Record

/-- The integers of the record, in column order. -/
def fields {s : Schema} : Record s → List Amount
  | .stride bucket count rawBytes => [bucket, count, rawBytes]
  | .proxy rawSize alignment proxyIndex count fallbacks rawTotal strideTotal =>
    [rawSize, alignment, proxyIndex, count, fallbacks, rawTotal, strideTotal]

def key {s : Schema} : Record s → Key s
  | .stride bucket _ _ => .bucket bucket
  | .proxy rawSize _ proxyIndex _ _ _ _ => .slot rawSize proxyIndex

def totals {s : Schema} : Record s → Totals
  | .stride _ count rawBytes =>
    { count := count, rawBytes := rawBytes, strideBytes := none, fallbacks := none }
  | .proxy _ _ _ count fallbacks rawTotal strideTotal =>
    {
      count := count
      rawBytes := rawTotal
      strideBytes := some strideTotal
      fallbacks := some fallbacks
    }

/-- The bytes that count towards the pressure of the phase. -/
def phaseBytes {s : Schema} : Record s → Amount
  | .stride _ _ rawBytes => rawBytes
  | .proxy _ _ _ _ _ _ strideTotal => strideTotal

/-- The record of a row: its columns read in order, the first failure refusing the row. -/
def ofRow (s : Schema) (index : ColumnIndex) (row : List String)
    : Except CellError (Record s) :=
  match s with
  | .stride => do
    let bucket ← index.integer row "bucket"
    let count ← index.integer row "count"
    let rawBytes ← index.integer row "raw_bytes"
    return .stride bucket count rawBytes
  | .proxy => do
    let rawSize ← index.integer row "raw_size"
    let alignment ← index.integer row "alignment"
    let proxyIndex ← index.integer row "proxy_index"
    let count ← index.integer row "count"
    let fallbacks ← index.integer row "fallbacks"
    let rawTotal ← index.integer row "raw_total_bytes"
    let strideTotal ← index.integer row "stride_total_bytes"
    return .proxy rawSize alignment proxyIndex count fallbacks rawTotal strideTotal

end Record

end AllocTrace
