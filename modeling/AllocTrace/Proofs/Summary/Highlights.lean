import AllocTrace.Proofs.Summary.Series
import AllocTrace.Proofs.Table.Lookup

/-! The rows that a report selects. Main statement: of a table's entries the selection has exactly
those that stand near enough to either end, in order and each once, and it never reaches beyond the
entries.
-/

namespace AllocTrace

variable {s : Schema}

-----------------------------------------------------------------------------------------
-- Selections
-----------------------------------------------------------------------------------------

/-- The difference, unless it is negative. -/
def checkedSub (a b : Nat) : Option Nat :=
  if b ≤ a then some (a - b) else none

/-- The items from one position up to another, unless these lie beyond the items. -/
def checkedSlice {α : Type} (items : List α) (start stop : Nat) : Option (List α) :=
  if start ≤ stop ∧ stop ≤ items.length then some ((items.take stop).drop start) else none

namespace Summary

variable {summary : Summary s} {n : Nat}

/-- The selected rows, taken with every difference and every position checked. Nothing is added on the
way, so no step exceeds the number asked for or the number of rows.
-/
def checkedHighlights (summary : Summary s) (n : Nat) : Option (List (Entry s)) := do
  let size := summary.rows.length
  let head := min n size
  let tail := min n (← checkedSub size head)
  let front ← checkedSlice summary.rows 0 head
  let back ← checkedSlice summary.rows (← checkedSub size tail) size
  return front ++ back

/-- No check fails, so a selection never reaches beyond the rows. -/
theorem checkedHighlights_eq (summary : Summary s) (n : Nat)
    : summary.checkedHighlights n = some (summary.highlights n) := by
  simp [checkedHighlights, checkedSub, checkedSlice, highlights]

theorem highlights_eq_map_get (summary : Summary s) (n : Nat)
    : summary.highlights n
      = ((List.finRange summary.rows.length).filter fun i =>
          decide (i.val < n ∨ summary.rows.length ≤ i.val + n)).map summary.rows.get :=
  ends_eq_map_get n

theorem mem_highlights {entry : Entry s}
    : entry ∈ summary.highlights n
      ↔ ∃ (i : Nat) (h : i < summary.rows.length),
          (i < n ∨ summary.rows.length ≤ i + n) ∧ summary.rows[i] = entry := by
  rw [highlights_eq_map_get]
  simp [Fin.exists_iff]

theorem highlights_sublist (summary : Summary s) (n : Nat)
    : (summary.highlights n).Sublist summary.rows := by
  have kept := (List.filter_sublist (l := List.finRange summary.rows.length)
    (p := fun i => decide (i.val < n ∨ summary.rows.length ≤ i.val + n))).map summary.rows.get
  rwa [List.map_get_finRange, ← highlights_eq_map_get] at kept

/-- The selection leaves nothing out exactly if the two ends are long enough together. -/
theorem highlights_eq_rows_iff
    : summary.highlights n = summary.rows ↔ summary.rows.length ≤ 2 * n := by
  have size := summary.length_highlights n
  refine ⟨fun whole => ?_, fun enough => ?_⟩
  · rw [whole] at size
    omega
  · exact (summary.highlights_sublist n).eq_of_length (by omega)

/-- The first rows stand in front of the selection, as many as are asked for. -/
theorem take_prefix_highlights (summary : Summary s) (n : Nat)
    : summary.rows.take n <+: summary.highlights n := by
  rw [List.take_eq_take_min]
  exact List.prefix_append _ _

/-- The last rows stand at the end of it, with rows among them that are also first if need be. -/
theorem drop_suffix_highlights (summary : Summary s) (n : Nat)
    : summary.rows.drop (summary.rows.length - n) <:+ summary.highlights n := by
  by_cases enough : summary.rows.length ≤ 2 * n
  · rw [highlights_eq_rows_iff.mpr enough]
    exact List.drop_suffix _ _
  · have apart : min n (summary.rows.length - min n summary.rows.length) = n := by omega
    simp only [highlights, apart]
    exact List.suffix_append _ _

end Summary

instance (a b : Key s) : Decidable (a.Before b) :=
  inferInstanceAs (Decidable (a.elements.map Amount.val < b.elements.map Amount.val))

namespace Table

/-- The entries with smaller keys, and those with greater ones. -/
def below (table : Table s) (entry : Entry s) : List (Entry s) :=
  table.entries.filter fun other => other.key.Before entry.key

def above (table : Table s) (entry : Entry s) : List (Entry s) :=
  table.entries.filter fun other => entry.key.Before other.key

/-- The selection has the entries of a table that stand within some distance of either end of it. -/
structure Highlights (table : Table s) (n : Nat) (selected : List (Entry s)) : Prop where
  checked : (Summary.ofTable table).checkedHighlights n = some selected
  positions
    : selected
      = ((List.finRange table.entries.length).filter fun i =>
          decide (i.val < n ∨ table.entries.length ≤ i.val + n)).map table.entries.get
  size : table.entries.length = table.size
  length : selected.length = min table.size (2 * n)
  ascending : selected.Pairwise fun a b => a.key.Before b.key
  nodup : (selected.map (·.key)).Nodup
  smallest : table.entries.take n <+: selected
  largest : table.entries.drop (table.entries.length - n) <:+ selected
  mem (entry : Entry s)
    : entry ∈ selected
      ↔ entry ∈ table.entries
        ∧ ((table.below entry).length < n ∨ (table.above entry).length < n)
  whole : selected = table.entries ↔ table.size ≤ 2 * n

/-- As many entries have smaller keys as stand before the entry, and as many greater ones as stand
behind it.
-/
theorem length_below_above (table : Table s) {i : Nat} (h : i < table.entries.length)
    : (table.below table.entries[i]).length = i
      ∧ (table.above table.entries[i]).length = table.entries.length - 1 - i := by
  have asymm (a b : Entry s) (before : a.key.Before b.key) : ¬b.key.Before a.key := before.asymm
  have ascending := table.listed.ascending
  rw [below, above, ← List.countP_eq_length_filter, ← List.countP_eq_length_filter]
  exact ⟨countP_below asymm ascending h, countP_above asymm ascending h⟩

/-- Of a table the report selects, for any number, the entries with fewer than that many smaller keys
or fewer than that many greater ones.
-/
theorem highlights_ends (table : Table s) (n : Nat)
    : table.Highlights n ((Summary.ofTable table).highlights n) := by
  have listed := table.listed
  have ascending := listed.ascending.sublist ((Summary.ofTable table).highlights_sublist n)
  refine {
    checked := Summary.checkedHighlights_eq _ n
    positions := Summary.highlights_eq_map_get _ n
    size := listed.size.symm
    length := ?_
    ascending := ascending
    nodup := ?_
    smallest := (Summary.ofTable table).take_prefix_highlights n
    largest := (Summary.ofTable table).drop_suffix_highlights n
    mem := ?_
    whole := ?_
  }
  · rw [Summary.length_highlights, listed.size]
    rfl
  · exact nodup_of_ascending (fun _ _ before => before.asymm) (List.pairwise_map.mpr ascending)
  · intro entry
    simp only [Summary.mem_highlights, Summary.ofTable]
    constructor
    · rintro ⟨i, h, near, rfl⟩
      obtain ⟨below, above⟩ := table.length_below_above h
      exact ⟨List.getElem_mem h, by omega⟩
    · rintro ⟨member, near⟩
      obtain ⟨i, h, rfl⟩ := List.mem_iff_getElem.mp member
      obtain ⟨below, above⟩ := table.length_below_above h
      exact ⟨i, h, by omega, rfl⟩
  · rw [listed.size]
    exact Summary.highlights_eq_rows_iff

end Table

end AllocTrace
