import AllocTrace.Proofs.Amount.Totals
import AllocTrace.Proofs.Order.Ascending
import AllocTrace.Table
import Mathlib.Data.List.Dedup
import Mathlib.Data.List.Induction

/-! What tables and phase subtotals show under a key. Every change of either is a change under
one key, so a look-up after it is the look-up before it or the changed value.
-/

namespace AllocTrace

variable {s : Schema}

namespace Key

/-- Keys ascend element by element, the most significant first. -/
def Before (a b : Key s) : Prop :=
  a.elements.map Amount.val < b.elements.map Amount.val

theorem Before.asymm {a b : Key s} (h : a.Before b)
    : ¬ b.Before a :=
  List.lt_asymm h

/-- The order of keys compares their elements in turn, by cases on the layout. -/
theorem before_of_compare {a b : Key s} (h : compare a b = .lt)
    : a.Before b := by
  cases a <;> cases b
  · rename_i a b
    have below : a.val < b.val := Int.compare_eq_lt.mp h
    simpa [Before, elements, List.cons_lt_cons_iff] using below
  · rename_i a i b j
    change (compare a.val b.val).then (compare i.val j.val) = .lt at h
    simp only [Ordering.then_eq_lt, Int.compare_eq_lt, Int.compare_eq_eq] at h
    simpa [Before, elements, List.cons_lt_cons_iff] using h

end Key

namespace Subtotals

/-- The subtotals of a phase with these records, in file order. -/
def ofRecords (records : List (Record s)) : Subtotals s :=
  records.foldl (fun subtotals record => subtotals.add record.key record.phaseBytes) .empty

theorem ofRecords_concat (records : List (Record s)) (record : Record s)
    : ofRecords (records ++ [record])
      = (ofRecords records).add record.key record.phaseBytes := by
  simp [ofRecords]

theorem get?_empty (key : Key s)
    : (empty : Subtotals s).get? key = none := by
  simp [empty, get?]

theorem get?_add (subtotals : Subtotals s) (key other : Key s) (bytes : Amount)
    : (subtotals.add key bytes).get? other
      = if key = other then some ((subtotals.get? key).getD 0 + bytes)
        else subtotals.get? other := by
  simp [add, get?, Std.ExtTreeMap.getElem?_alter]

/-- A phase has a subtotal under exactly the keys of its records: their bytes, added up in file
order. By induction on the records from the last one.
-/
theorem get?_ofRecords (records : List (Record s)) (key : Key s)
    : (ofRecords records).get? key
      = if ∃ record ∈ records, record.key = key then
          some (.total ((records.filter (·.key = key)).map (·.phaseBytes)))
        else none := by
  induction records using List.reverseRecOn with
  | nil => simp [ofRecords, get?_empty]
  | append_singleton rest record ih =>
      rw [ofRecords_concat, get?_add]
      by_cases h : record.key = key
      · subst h
        have before : ((ofRecords rest).get? record.key).getD 0
            = .total ((rest.filter (·.key = record.key)).map (·.phaseBytes)) := by
          rw [ih]
          split
          · rfl
          · have none : rest.filter (·.key = record.key) = [] := by simp_all
            simp [none, Amount.total]
        simp [before, Amount.total_concat]
      · simp [h, ih]

/-- The bytes of a phase under a key, zero where it has none. -/
theorem getD_get?_ofRecords (records : List (Record s)) (key : Key s)
    : ((ofRecords records).get? key).getD 0
      = .total ((records.filter (·.key = key)).map (·.phaseBytes)) := by
  rw [get?_ofRecords]
  split
  · rfl
  · have none : records.filter (·.key = key) = [] := by simp_all
    rw [none]
    rfl

theorem mem_toList {subtotals : Subtotals s} {key : Key s} {bytes : Amount}
    : (key, bytes) ∈ subtotals.toList ↔ subtotals.get? key = some bytes := by
  simp [toList, get?]

/-- The subtotals list each key once, so what they list under a key is what they show there. -/
theorem filter_toList (subtotals : Subtotals s) (key : Key s)
    : (subtotals.toList.filter (·.1 = key)).map (·.2) = (subtotals.get? key).toList := by
  have distinct : subtotals.toList.Pairwise fun a b => a.1 ≠ b.1 :=
    subtotals.bytes.distinct_keys_toList.imp fun h same => h (by simp [same])
  have shown (bytes : Amount) : (key, bytes) ∈ subtotals.toList
      ↔ subtotals.get? key = some bytes := mem_toList
  generalize subtotals.toList = entries at distinct shown
  generalize subtotals.get? key = found at shown
  induction entries with
  | nil =>
      cases found with
      | none => rfl
      | some bytes => exact absurd ((shown bytes).mpr rfl) (by simp)
  | cons entry rest ih =>
      obtain ⟨fresh, apart⟩ := List.pairwise_cons.mp distinct
      obtain ⟨name, bytes⟩ := entry
      by_cases h : name = key
      · subst h
        have none : rest.filter (·.1 = name) = [] := by
          simpa using fun k b hm => (fresh (k, b) hm).symm
        simp [none, (shown bytes).mp (by simp)]
      · have later := ih apart (fun b => by simpa [Ne.symm h] using shown b)
        simp [h, later]

/-- What several subtotals list under a key is what each of them shows there, if anything. -/
theorem filter_flatMap_toList (merged : List (Subtotals s)) (key : Key s)
    : ((merged.flatMap toList).filter (·.1 = key)).map (·.2) = merged.filterMap (·.get? key) := by
  induction merged with
  | nil => rfl
  | cons subtotals rest ih =>
      rw [List.flatMap_cons, List.filter_append, List.map_append, filter_toList, ih]
      cases h : subtotals.get? key <;> simp [h]

/-- The keys of a phase are the distinct keys of its records. -/
theorem size_ofRecords (records : List (Record s))
    : (ofRecords records).size = (records.map (·.key)).dedup.length := by
  have same : (ofRecords records).bytes.keys.Perm (records.map (·.key)).dedup := by
    apply (List.perm_ext_iff_of_nodup Std.ExtTreeMap.nodup_keys (List.nodup_dedup _)).mpr
    intro key
    have shown := get?_ofRecords records key
    rw [Std.ExtTreeMap.mem_keys, ← Std.ExtTreeMap.isSome_getElem?_iff_mem, ← get?, shown]
    simp
  rw [← same.length_eq, Std.ExtTreeMap.length_keys, size]

end Subtotals

namespace Table

/-- The tally under a key, the empty one where the table has none. -/
def tally (table : Table s) (key : Key s) : Tally :=
  table.tallies[key]?.getD .empty

theorem get?_eq (table : Table s) (key : Key s)
    : table.get? key = if key ∈ table.tallies then some ((table.tally key).entry key) else none := by
  unfold get? tally
  split <;> simp_all

theorem tally_update (table : Table s) (key other : Key s) (change : Tally → Tally)
    : (table.update key change).tally other
      = if key = other then change (table.tally key) else table.tally other := by
  simp only [update, tally, Std.ExtTreeMap.getElem?_alter, Std.LawfulEqCmp.compare_eq_iff_eq]
  split <;> simp

theorem mem_update (table : Table s) (key other : Key s) (change : Tally → Tally)
    : other ∈ (table.update key change).tallies ↔ key = other ∨ other ∈ table.tallies := by
  simp only [update, Std.ExtTreeMap.mem_alter, Std.LawfulEqCmp.compare_eq_iff_eq]
  split <;> simp_all

/-- What a table lists agrees with what it shows under each key. -/
structure Listed (table : Table s) : Prop where
  ascending : table.entries.Pairwise fun a b => a.key.Before b.key
  mem_iff : ∀ entry, entry ∈ table.entries ↔ table.get? entry.key = some entry
  size : table.size = table.entries.length
  isEmpty : table.isEmpty = true ↔ table.entries = []

/-- Every table lists each of its entries once, ascending by key. -/
theorem listed (table : Table s)
    : table.Listed := by
  refine { ascending := ?_, mem_iff := ?_, size := ?_, isEmpty := ?_ }
  · simp only [entries, List.pairwise_map]
    exact table.tallies.ordered_keys_toList.imp fun h => Key.before_of_compare h
  · intro entry
    simp only [entries, get?, List.mem_map, Prod.exists, Option.map_eq_some_iff,
      Std.ExtTreeMap.mem_toList_iff_getElem?_eq_some]
    constructor
    · rintro ⟨key, tally, found, rfl⟩
      exact ⟨tally, found, rfl⟩
    · rintro ⟨tally, found, same⟩
      exact ⟨entry.key, tally, found, same⟩
  · simp [size, entries]
  · simp [isEmpty, entries]

/-- Tables that show the same under every key list the same entries. -/
theorem entries_ext {left right : Table s} (h : ∀ key, left.get? key = right.get? key)
    : left.entries = right.entries := by
  refine eq_of_ascending (fun _ _ before => before.asymm) left.listed.ascending
    right.listed.ascending fun entry => ?_
  rw [left.listed.mem_iff, right.listed.mem_iff, h]

end Table

end AllocTrace
