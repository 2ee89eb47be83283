import AllocTrace.Proofs.Summary.Series
import AllocTrace.Proofs.Table.Growth

/-! The points of a series against the rows behind them. Main statement: whatever rows a summary has,
its series has one point for each size among them, ascending, and the point holds the sums and the
peak of the rows of its size; a table of the stride layout has one row for each point.
-/

namespace AllocTrace

variable {s : Schema}

-----------------------------------------------------------------------------------------
-- Any rows
-----------------------------------------------------------------------------------------

/-- The point shows what the rows come to, in their order. Stride bytes are shown if the first row
has them, and rows without them then add nothing.
-/
structure SeriesPoint.Groups (rows : List (Entry s)) (point : SeriesPoint) : Prop where
  count : point.count = .total (rows.map (·.figures.count))
  rawBytes : point.rawBytes = .total (rows.map (·.figures.rawBytes))
  strideBytes
    : ∃ first others,
        rows = first :: others
        ∧ (point.strideBytes = none ↔ first.figures.strideBytes = none)
        ∧ ∀ sum,
            point.strideBytes = some sum
            → sum = .total (rows.filterMap (·.figures.strideBytes))
  peak (n : Int) : point.peak.val ≤ n ↔ 0 ≤ n ∧ ∀ row ∈ rows, row.figures.peak.val ≤ n

/-- The point of a size whose rows have these figures groups them. -/
theorem SeriesPoint.groups_of {rows : List (Entry s)} (present : rows ≠ []) (size : Amount)
    : (SeriesPoint.of size (rows.map (·.figures))).Groups rows := by
  obtain ⟨first, others, rfl⟩ := List.exists_cons_of_ne_nil present
  refine {
    count := congrArg Amount.total List.map_map
    rawBytes := congrArg Amount.total List.map_map
    strideBytes := ⟨first, others, rfl, ?_, ?_⟩
    peak := fun n => ?_
  }
  · simp [of]
  · intro sum shown
    obtain ⟨-, -, rfl⟩ := Option.map_eq_some_iff.mp shown
    exact congrArg Amount.total List.filterMap_map
  · simp only [of, Amount.greatest_le_iff, List.forall_mem_map]

namespace Summary

/-- The rows of a size, in the order of the summary. -/
def rowsOf (summary : Summary s) (size : Amount) : List (Entry s) :=
  summary.rows.filter (·.key.size = size)

/-- The series has one point for each size of the rows, and it groups the rows of its size. -/
structure Grouped (summary : Summary s) : Prop where
  ascending : summary.series.Pairwise fun a b => a.size.val < b.size.val
  sizes (size : Amount)
    : size ∈ summary.series.map (·.size) ↔ ∃ row ∈ summary.rows, row.key.size = size
  groups : ∀ point ∈ summary.series, point.Groups (summary.rowsOf point.size)

theorem grouped (summary : Summary s)
    : summary.Grouped := by
  refine {
    ascending := summary.series_ascending
    sizes := fun _ => mem_series_sizes
    groups := ?_
  }
  intro point member
  obtain ⟨⟨row, held, sized⟩, whole⟩ := mem_series.mp member
  have present : summary.rowsOf point.size ≠ [] :=
    List.ne_nil_of_mem (List.mem_filter.mpr ⟨held, by simpa using sized⟩)
  rw [whole]
  exact SeriesPoint.groups_of present point.size

/-- Entries that are summarized all become rows, whatever their order and however many share a key.
-/
theorem rows_ofEntries_perm (schema : Schema) (entries : List (Entry s))
    : (ofEntries schema entries).rows.Perm entries :=
  List.mergeSort_perm _ _

end Summary

-----------------------------------------------------------------------------------------
-- Tables of the stride layout
-----------------------------------------------------------------------------------------

/-- The entry of a bucket as a point. -/
def Entry.point (entry : Entry .stride) : SeriesPoint :=
  {
    size := entry.key.size
    count := entry.figures.count
    rawBytes := entry.figures.rawBytes
    strideBytes := none
    peak := entry.figures.peak
  }

namespace Table

variable {table : Table .stride} {entry : Entry .stride}

theorem strideBytes_of_mem (member : entry ∈ table.entries)
    : entry.figures.strideBytes = none := by
  obtain ⟨⟨key, tally⟩, -, rfl⟩ := List.mem_map.mp member
  rfl

/-- Buckets ascend by their sizes. -/
theorem sizes_ascending (table : Table .stride)
    : (table.entries.map (·.key.size)).Pairwise fun a b => a.val < b.val := by
  refine List.pairwise_map.mpr (table.listed.ascending.imp fun {a b} before => ?_)
  obtain ⟨⟨size⟩, _⟩ := a
  obtain ⟨⟨other⟩, _⟩ := b
  simpa [Key.Before, Key.elements, Key.size, List.cons_lt_cons_iff] using before

/-- A bucket is the only one of its size. -/
theorem filter_size (member : entry ∈ table.entries)
    : table.entries.filter (·.key.size = entry.key.size) = [entry] := by
  have distinct : (table.entries.map (·.key.size)).Nodup :=
    nodup_of_ascending (fun _ _ below => Int.lt_asymm below) table.sizes_ascending
  have once : table.entries.filter (·.key.size = entry.key.size)
      = table.entries.filter (· = entry) := by
    refine List.filter_congr fun other held => ?_
    rw [decide_eq_decide]
    exact ⟨fun same => List.inj_on_of_nodup_map distinct held member same, fun same => same ▸ rfl⟩
  rw [once, List.filter_eq, List.count_eq_one_of_mem distinct.of_map member, List.replicate_one]

/-- The sizes of a series from buckets are the sizes of the buckets, as both ascend. -/
theorem sizes_series (table : Table .stride)
    : (Summary.ofTable table).series.map (·.size) = table.entries.map (·.key.size) := by
  refine eq_of_ascending (fun _ _ below => Int.lt_asymm below)
    (Summary.series_sizes_ascending _) table.sizes_ascending fun size => ?_
  rw [Summary.mem_series_sizes, List.mem_map]
  rfl

end Table

theorem SeriesPoint.of_bucket {entry : Entry .stride} (bare : entry.figures.strideBytes = none)
    (nonneg : 0 ≤ entry.figures.peak.val)
    : SeriesPoint.of entry.key.size [entry.figures] = entry.point := by
  have peak : Amount.greatest [entry.figures.peak] = entry.figures.peak := by
    ext
    rw [Amount.greatest, List.foldl_cons, List.foldl_nil, Amount.val_max, Amount.val_zero]
    omega
  simp [of, Entry.point, bare, peak, Amount.total_singleton]

/-- The peaks of a table that accesses have left are not negative. -/
theorem Trace.peak_nonneg_of_mem {trace : Trace s} {entry : Entry s}
    (member : entry ∈ trace.table.entries)
    : 0 ≤ entry.figures.peak.val := by
  have shown := (trace.table.listed.mem_iff entry).mp member
  exact Trace.peak?_nonneg (by rw [Table.peak?, shown, Option.map_some])

/-- Each bucket of a table that accesses have left is a point of its own. -/
theorem Trace.series_buckets (trace : Trace .stride)
    : (Summary.ofTable trace.table).series = trace.table.entries.map Entry.point := by
  rw [Summary.series_eq, Table.sizes_series, List.map_map]
  refine List.map_congr_left fun entry member => ?_
  rw [Function.comp_apply, Summary.figuresOf]
  simp only [Summary.ofTable]
  rw [Table.filter_size member]
  exact SeriesPoint.of_bucket (Table.strideBytes_of_mem member) (Trace.peak_nonneg_of_mem member)

/-- The series of any summary groups its rows by size, and the series of a table of buckets lists the
buckets.
-/
theorem Summary.series_grouped
    : (∀ (s : Schema) (summary : Summary s), summary.Grouped)
      ∧ (∀ (s : Schema) (schema : Schema) (entries : List (Entry s)) (size : Amount),
          size ∈ (ofEntries schema entries).series.map (·.size)
          ↔ ∃ entry ∈ entries, entry.key.size = size)
      ∧ ∀ trace : Trace .stride,
          (ofTable trace.table).series = trace.table.entries.map Entry.point := by
  refine ⟨fun s summary => summary.grouped, fun s schema entries size => ?_,
    Trace.series_buckets⟩
  rw [mem_series_sizes]
  simp only [(rows_ofEntries_perm schema entries).mem_iff]

end AllocTrace
