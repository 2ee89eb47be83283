import AllocTrace.Proofs.Amount.Totals
import AllocTrace.Proofs.Order.Ascending
import AllocTrace.Summary
import Mathlib.Data.List.Induction

/-! The points of a chart series, and how many rows a report selects. Main statement: there is one
point for every size among the rows, ascending by size, and it holds the saturating sums and the
greatest peak of the rows of that size, in the order of the rows.
-/

namespace AllocTrace

variable {s : Schema}

namespace Amount

theorem add_zero (a : Amount)
    : a + 0 = a := by
  have lower := a.lower
  have upper := a.upper
  ext
  rw [val_add, val_zero]
  omega

/-- An amount that may be absent adds nothing if it is. -/
theorem total_append_toList (amounts : List Amount) (next : Option Amount)
    : total (amounts ++ next.toList) = total amounts + next.getD 0 := by
  cases next with
  | none => rw [Option.toList_none, List.append_nil, Option.getD_none, add_zero]
  | some a => rw [Option.toList_some, total_concat, Option.getD_some]

end Amount

/-- The point of a size whose rows have these figures, in this order. It has stride bytes if the
first row has them; rows without them add nothing.
-/
def SeriesPoint.of (size : Amount) (figures : List Figures) : SeriesPoint :=
  {
    size := size
    count := .total (figures.map (·.count))
    rawBytes := .total (figures.map (·.rawBytes))
    strideBytes :=
      (figures.head?.bind (·.strideBytes)).map fun _ =>
        .total (figures.filterMap (·.strideBytes))
    peak := .greatest (figures.map (·.peak))
  }

namespace SeriesPoint

theorem start_add (size : Amount) (figures : Figures)
    : (start size figures).add figures = of size [figures] := by
  cases held : figures.strideBytes <;>
    simp [start, add, of, held, Amount.total, Amount.greatest]

/-- Adding a row to a point that has rows puts it last. -/
theorem of_add (size : Amount) (first : Figures) (rest : List Figures) (next : Figures)
    : (of size (first :: rest)).add next = of size (first :: rest ++ [next]) := by
  have present : (first :: rest ++ [next]).filterMap (·.strideBytes)
      = (first :: rest).filterMap (·.strideBytes) ++ next.strideBytes.toList := by
    rw [List.filterMap_append]
    cases held : next.strideBytes <;> simp [held]
  unfold of add
  rw [present, Amount.total_append_toList]
  simp only [List.cons_append, List.head?_cons, List.map_cons, List.map_append, List.map_nil,
    Option.map_map, Function.comp_def]
  simp only [← List.cons_append, Amount.total_concat, Amount.greatest_concat]

end SeriesPoint

namespace Summary

/-- The figures of the rows with a size, in order. -/
def figuresOf (rows : List (Entry s)) (size : Amount) : List Figures :=
  (rows.filter (·.key.size = size)).map (·.figures)

theorem figuresOf_eq_nil_iff {rows : List (Entry s)} {size : Amount}
    : figuresOf rows size = [] ↔ ∀ row ∈ rows, row.key.size ≠ size := by
  simp [figuresOf]

theorem figuresOf_concat (rows : List (Entry s)) (row : Entry s) (size : Amount)
    : figuresOf (rows ++ [row]) size
      = if row.key.size = size then figuresOf rows size ++ [row.figures]
        else figuresOf rows size := by
  unfold figuresOf
  rw [List.filter_append]
  split <;> simp_all

/-- Under each size stands the point of its rows, by induction on the rows from the last one. -/
theorem getElem?_points (rows : List (Entry s)) (size : Amount)
    : (rows.foldl addRow ∅)[size]?
      = if figuresOf rows size = [] then none else some (.of size (figuresOf rows size)) := by
  induction rows using List.reverseRecOn with
  | nil => simp [figuresOf]
  | append_singleton rest row ih =>
      rw [List.foldl_append, List.foldl_cons, List.foldl_nil, addRow,
        Std.ExtTreeMap.getElem?_alter, figuresOf_concat]
      by_cases h : row.key.size = size
      · subst h
        rw [if_pos Std.ReflCmp.compare_self, ih, if_pos rfl]
        cases before : figuresOf rest row.key.size with
        | nil => simp [SeriesPoint.start_add]
        | cons first others => simp [SeriesPoint.of_add]
      · have differ : compare row.key.size size ≠ .eq :=
          fun same => h (Std.LawfulEqCmp.eq_of_compare same)
        rw [if_neg differ, ih, if_neg h]

variable {summary : Summary s}

theorem mem_series {point : SeriesPoint}
    : point ∈ summary.series
      ↔ (∃ row ∈ summary.rows, row.key.size = point.size)
        ∧ point = .of point.size (figuresOf summary.rows point.size) := by
  have shown (size : Amount) := getElem?_points summary.rows size
  simp only [series, List.mem_map, Prod.exists, exists_eq_right,
    Std.ExtTreeMap.mem_toList_iff_getElem?_eq_some, shown]
  constructor
  · rintro ⟨size, found⟩
    obtain ⟨present, same⟩ := Option.ite_none_left_eq_some.mp found
    obtain rfl := Option.some.inj same
    have rows : ∃ row ∈ summary.rows, row.key.size = size := by
      simpa [figuresOf] using present
    exact ⟨rows, rfl⟩
  · rintro ⟨⟨row, member, same⟩, whole⟩
    refine ⟨point.size, ?_⟩
    have present : figuresOf summary.rows point.size ≠ [] :=
      fun none => figuresOf_eq_nil_iff.mp none row member same
    rw [if_neg present, ← whole]

theorem of_mem_series {size : Amount} (present : ∃ row ∈ summary.rows, row.key.size = size)
    : SeriesPoint.of size (figuresOf summary.rows size) ∈ summary.series :=
  mem_series.mpr ⟨present, rfl⟩

/-- The sizes of the series are those of the rows. -/
theorem mem_series_sizes {size : Amount}
    : size ∈ summary.series.map (·.size) ↔ ∃ row ∈ summary.rows, row.key.size = size := by
  rw [List.mem_map]
  constructor
  · rintro ⟨point, member, rfl⟩
    exact (mem_series.mp member).1
  · intro present
    exact ⟨_, of_mem_series present, rfl⟩

/-- Every size stands once, and sizes ascend. -/
theorem series_ascending (summary : Summary s)
    : summary.series.Pairwise fun a b => a.size.val < b.size.val := by
  have whole (entry : Amount × SeriesPoint)
      (member : entry ∈ (summary.rows.foldl addRow ∅).toList)
      : entry.2.size = entry.1 := by
    have found := Std.ExtTreeMap.mem_toList_iff_getElem?_eq_some.mp member
    rw [getElem?_points, Option.ite_none_left_eq_some] at found
    rw [← Option.some.inj found.2]
    rfl
  rw [series, List.pairwise_map]
  refine (Std.ExtTreeMap.ordered_keys_toList).imp_of_mem ?_
  intro a b ha hb below
  rw [whole a ha, whole b hb]
  exact Int.compare_eq_lt.mp below

theorem series_sizes_ascending (summary : Summary s)
    : (summary.series.map (·.size)).Pairwise fun a b => a.val < b.val :=
  List.pairwise_map.mpr summary.series_ascending

theorem series_sizes_nodup (summary : Summary s)
    : (summary.series.map (·.size)).Nodup :=
  nodup_of_ascending (fun _ _ below => Int.lt_asymm below) summary.series_sizes_ascending

/-- Series of one set of sizes list them alike, as both ascend. -/
theorem series_sizes_eq {t : Schema} {other : Summary t}
    (same : ∀ size, size ∈ summary.series.map (·.size) ↔ size ∈ other.series.map (·.size))
    : summary.series.map (·.size) = other.series.map (·.size) :=
  eq_of_ascending (fun _ _ below => Int.lt_asymm below) summary.series_sizes_ascending
    other.series_sizes_ascending same

/-- The series is made size by size. -/
theorem series_eq (summary : Summary s)
    : summary.series
      = (summary.series.map (·.size)).map fun size =>
          .of size (figuresOf summary.rows size) := by
  rw [List.map_map]
  exact (List.map_id' _).symm.trans
    (List.map_congr_left fun _ member => (mem_series.mp member).2)

/-- Twice as many rows are selected as are asked for at each end, if there are so many. -/
theorem length_highlights (summary : Summary s) (n : Nat)
    : (summary.highlights n).length = min summary.rows.length (2 * n) := by
  simp only [highlights, List.length_append, List.length_take, List.length_drop]
  omega

end Summary

end AllocTrace
