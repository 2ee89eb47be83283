import Mathlib.Data.List.FinRange
import Mathlib.Data.List.Nodup

/-! Lists in strictly ascending order, and the ends of lists. Such a list is fixed by its members, and
a member has as many below it as stand before it.
-/

namespace AllocTrace

variable {α : Type} {items : List α}

-----------------------------------------------------------------------------------------
-- Strict order
-----------------------------------------------------------------------------------------

section Ascending

variable {R : α → α → Prop} (asymm : ∀ a b, R a b → ¬R b a)

include asymm

theorem nodup_of_ascending (ascending : items.Pairwise R)
    : items.Nodup := by
  refine ascending.imp fun {a b} below same => ?_
  subst same
  exact asymm a a below below

/-- Ascending lists with the same members are equal. -/
theorem eq_of_ascending {left right : List α} (hl : left.Pairwise R) (hr : right.Pairwise R)
    (same : ∀ a, a ∈ left ↔ a ∈ right)
    : left = right := by
  have perm : left.Perm right :=
    (List.perm_ext_iff_of_nodup (nodup_of_ascending asymm hl) (nodup_of_ascending asymm hr)).mpr
      same
  exact perm.eq_of_pairwise (fun a b _ _ below above => absurd above (asymm a b below)) hl hr

/-- Of ascending items one is below another exactly if it stands before it. -/
theorem getElem_lt_iff (ascending : items.Pairwise R) {i j : Nat} (hi : i < items.length)
    (hj : j < items.length)
    : R items[i] items[j] ↔ i < j := by
  have forward := List.pairwise_iff_getElem.mp ascending
  refine ⟨fun below => ?_, fun before => forward i j hi hj before⟩
  by_contra behind
  rcases Nat.eq_or_lt_of_not_lt behind with rfl | after
  · exact asymm _ _ below below
  · exact asymm _ _ below (forward j i hj hi after)

end Ascending

-----------------------------------------------------------------------------------------
-- Ends
-----------------------------------------------------------------------------------------

/-- What holds of the items at the ends of a list and of no others selects the ends. -/
theorem filter_eq_ends {p : α → Bool} {head start : Nat} (apart : head ≤ start)
    (ends : ∀ i (h : i < items.length), p items[i] = true ↔ i < head ∨ start ≤ i)
    : items.filter p = items.take head ++ items.drop start := by
  have rest : (items.drop head).drop (start - head) = items.drop start := by
    rw [List.drop_drop, Nat.add_sub_cancel' apart]
  have split : items
      = items.take head ++ ((items.drop head).take (start - head) ++ items.drop start) := by
    rw [← rest, List.take_append_drop, List.take_append_drop]
  have front : (items.take head).filter p = items.take head := by
    refine List.filter_eq_self.mpr fun a member => ?_
    obtain ⟨i, within, rfl⟩ := List.mem_take_iff_getElem.mp member
    exact (ends i (by omega)).mpr (Or.inl (by omega))
  have between : ((items.drop head).take (start - head)).filter p = [] := by
    refine List.filter_eq_nil_iff.mpr fun a member => ?_
    obtain ⟨i, within, rfl⟩ := List.mem_take_iff_getElem.mp member
    rw [List.length_drop] at within
    rw [List.getElem_drop, ends (head + i) (by omega)]
    omega
  have back : (items.drop start).filter p = items.drop start := by
    refine List.filter_eq_self.mpr fun a member => ?_
    obtain ⟨i, within, rfl⟩ := List.mem_drop_iff_getElem.mp member
    exact (ends (start + i) (by omega)).mpr (Or.inr (Nat.le_add_right _ _))
  conv_lhs => rw [split]
  rw [List.filter_append, List.filter_append, front, between, back, List.nil_append]

/-- The items at both ends of a list are those at the positions within some distance of either. -/
theorem ends_eq_map_get (n : Nat)
    : items.take (min n items.length)
        ++ items.drop (items.length - min n (items.length - min n items.length))
      = ((List.finRange items.length).filter fun i =>
          decide (i.val < n ∨ items.length ≤ i.val + n)).map items.get := by
  have ends : (List.finRange items.length).filter
        (fun i => decide (i.val < n ∨ items.length ≤ i.val + n))
      = (List.finRange items.length).take (min n items.length)
        ++ (List.finRange items.length).drop
          (items.length - min n (items.length - min n items.length)) := by
    refine filter_eq_ends (by omega) fun i h => ?_
    rw [List.length_finRange] at h
    simp only [List.getElem_finRange, decide_eq_true_eq, Fin.val_cast]
    omega
  rw [ends, List.map_append, List.map_take, List.map_drop, List.map_get_finRange]

section Counting

variable {R : α → α → Prop} [DecidableRel R] (asymm : ∀ a b, R a b → ¬R b a)
  (ascending : items.Pairwise R) {i : Nat} (h : i < items.length)

include asymm ascending

/-- As many items are below an item as stand before it. -/
theorem countP_below
    : items.countP (fun a => R a items[i]) = i := by
  have ends : items.filter (fun a => R a items[i]) = items.take i ++ items.drop items.length :=
    filter_eq_ends (Nat.le_of_lt h) fun j hj => by
      rw [decide_eq_true_iff, getElem_lt_iff asymm ascending hj h]
      omega
  rw [List.countP_eq_length_filter, ends, List.length_append, List.length_take, List.length_drop]
  omega

/-- As many items are above an item as stand behind it. -/
theorem countP_above
    : items.countP (fun a => R items[i] a) = items.length - 1 - i := by
  have ends : items.filter (fun a => R items[i] a) = items.take 0 ++ items.drop (i + 1) :=
    filter_eq_ends (Nat.zero_le _) fun j hj => by
      rw [decide_eq_true_iff, getElem_lt_iff asymm ascending h hj]
      omega
  rw [List.countP_eq_length_filter, ends, List.length_append, List.length_take, List.length_drop]
  omega

end Counting

end AllocTrace
