import AllocTrace.Proofs.Amount.Totals
import Mathlib.Algebra.BigOperators.Group.List.Basic
import Mathlib.Data.List.Nodup

/-! Amounts added up group by group. Groups under distinct labels that cover all terms neither lose
a term nor count one twice. As long as all gains and all losses fit the range, so do those of the
group totals, and the exact sum stays the same; amounts of one sign have the same saturating sum
with and without groups.
-/

namespace AllocTrace.Amount

variable {α ι : Type} [DecidableEq ι] {labels : List ι} {label : α → ι} {terms : List α}
  {amount : α → Amount}

/-- The saturating sum of the terms under each label. -/
def groupTotals (label : α → ι) (amount : α → Amount) (terms : List α) (labels : List ι)
    : List Amount :=
  labels.map fun name => total ((terms.filter (label · = name)).map amount)

/-- Groups that cover the terms hold each of them once, by induction on the labels: the first label
takes its terms, and the others share what is left.
-/
theorem groups_perm (distinct : labels.Nodup) (covered : ∀ a ∈ terms, label a ∈ labels)
    : (labels.flatMap fun name => terms.filter (label · = name)).Perm terms := by
  induction labels generalizing terms with
  | nil =>
      have none : terms = [] := List.eq_nil_iff_forall_not_mem.mpr fun a ha => by
        simpa using covered a ha
      rw [none, List.flatMap_nil]
  | cons first rest ih =>
      obtain ⟨fresh, apart⟩ := List.nodup_cons.mp distinct
      have left : (rest.flatMap fun name => terms.filter (label · = name))
          = rest.flatMap fun name =>
            (terms.filter (!label · = first)).filter (label · = name) := by
        refine List.flatMap_congr fun name member => ?_
        rw [List.filter_filter]
        refine List.filter_congr fun a _ => ?_
        by_cases h : label a = name
        · simp [h, ne_of_mem_of_not_mem member fresh]
        · simp [h]
      have shared : ∀ a ∈ terms.filter (!label · = first), label a ∈ rest := by
        intro a ha
        obtain ⟨member, other⟩ := List.mem_filter.mp ha
        exact (List.mem_cons.mp (covered a member)).resolve_left (by simpa using other)
      rw [List.flatMap_cons, left]
      exact ((ih apart shared).append_left _).trans
        (List.filter_append_perm (label · = first) terms)

/-- Groups that cover the terms have the sum of the terms. -/
theorem sum_groups (distinct : labels.Nodup) (covered : ∀ a ∈ terms, label a ∈ labels)
    (f : α → Int)
    : (labels.map fun name => ((terms.filter (label · = name)).map f).sum).sum
      = (terms.map f).sum := by
  have same := ((groups_perm distinct covered).map f).sum_eq
  rwa [List.map_flatMap, List.flatMap_def, List.sum_flatten, List.map_map] at same

/-- A sum lies between its losses and its gains, by induction on the amounts. -/
theorem exactTotal_bounds (amounts : List Amount)
    : (amounts.map fun a => min a.val 0).sum ≤ exactTotal amounts
      ∧ exactTotal amounts ≤ (amounts.map fun a => max a.val 0).sum := by
  induction amounts with
  | nil => simp [exactTotal]
  | cons a rest ih =>
      simp only [exactTotal, List.map_cons, List.sum_cons] at ih ⊢
      omega

/-- A part of the terms gains and loses no more than all of them. -/
theorem Contained.filter (h : Contained (terms.map amount)) (p : α → Bool)
    : Contained ((terms.filter p).map amount) := by
  have gains := gains_nonneg ((terms.filter (! p ·)).map amount)
  have losses := losses_nonpos ((terms.filter (! p ·)).map amount)
  have split (f : Amount → Int)
      : (((terms.filter p).map amount).map f).sum
          + (((terms.filter (! p ·)).map amount).map f).sum
        = ((terms.map amount).map f).sum := by
    simpa using List.sum_map_filter_add_sum_map_filter_not (p ·) (f ∘ amount) terms
  have gained := split fun a => max a.val 0
  have lost := split fun a => min a.val 0
  obtain ⟨upper, lower⟩ := h
  constructor
  · omega
  · omega

/-- The totals of groups that cover the terms. If all gains and all losses fit the range, no group
saturates, and the totals gain and lose no more than the terms.
-/
theorem groupTotals_contained (distinct : labels.Nodup)
    (covered : ∀ a ∈ terms, label a ∈ labels) (h : Contained (terms.map amount))
    : Contained (groupTotals label amount terms labels)
      ∧ exactTotal (groupTotals label amount terms labels) = exactTotal (terms.map amount) := by
  have exact (name : ι)
      : (total ((terms.filter (label · = name)).map amount)).val
        = exactTotal ((terms.filter (label · = name)).map amount) :=
    total_contained (h.filter _)
  have gained (name : ι)
      : max (exactTotal ((terms.filter (label · = name)).map amount)) 0
        ≤ ((terms.filter (label · = name)).map fun a => max (amount a).val 0).sum := by
    have upper := (exactTotal_bounds ((terms.filter (label · = name)).map amount)).2
    have positive := gains_nonneg ((terms.filter (label · = name)).map amount)
    rw [List.map_map] at upper positive
    exact max_le upper positive
  have lost (name : ι)
      : ((terms.filter (label · = name)).map fun a => min (amount a).val 0).sum
        ≤ min (exactTotal ((terms.filter (label · = name)).map amount)) 0 := by
    have lower := (exactTotal_bounds ((terms.filter (label · = name)).map amount)).1
    have negative := losses_nonpos ((terms.filter (label · = name)).map amount)
    rw [List.map_map] at lower negative
    exact le_min lower negative
  obtain ⟨upper, lower⟩ := h
  refine ⟨⟨?_, ?_⟩, ?_⟩
  · refine Int.le_trans ?_ upper
    have whole := sum_groups distinct covered fun a => max (amount a).val 0
    rw [List.map_map, Function.comp_def, ← whole, groupTotals, List.map_map]
    refine List.sum_le_sum fun name _ => ?_
    rw [Function.comp_apply, exact]
    exact gained name
  · refine Int.le_trans lower ?_
    have whole := sum_groups distinct covered fun a => min (amount a).val 0
    rw [List.map_map, Function.comp_def, ← whole, groupTotals, List.map_map]
    refine List.sum_le_sum fun name _ => ?_
    rw [Function.comp_apply, exact]
    exact lost name
  · have whole := sum_groups distinct covered fun a => (amount a).val
    rw [exactTotal, groupTotals, List.map_map]
    simpa [exactTotal, Function.comp_def, exact] using whole

/-- Parts of amounts of one sign have totals of that sign. -/
theorem OneSigned.totals {groups : List (List Amount)} (one : OneSigned groups.flatten)
    : OneSigned (groups.map total) := by
  have inside (group : List Amount) (member : group ∈ groups) : group ⊆ groups.flatten :=
    fun a ha => List.mem_flatten.mpr ⟨group, member, ha⟩
  have whole (group : List Amount) (member : group ∈ groups)
      : total group = clamp (exactTotal group) :=
    total_oneSigned (one.subset (inside group member))
  refine one.imp (fun hs => ?_) (fun hs => ?_)
  · refine List.forall_mem_map.mpr fun group member => ?_
    have rises := exactTotal_nonneg fun a ha => hs a (inside group member ha)
    rw [whole group member, val_clamp]
    omega
  · refine List.forall_mem_map.mpr fun group member => ?_
    have falls := exactTotal_nonpos fun a ha => hs a (inside group member ha)
    rw [whole group member, val_clamp]
    omega

/-- Amounts of one sign can be added up part by part, by induction on the parts. -/
theorem total_flatten {groups : List (List Amount)} (one : OneSigned groups.flatten)
    : total (groups.map total) = total groups.flatten := by
  induction groups with
  | nil => rfl
  | cons group rest ih =>
      have signed : OneSigned ([total group] ++ rest.map total) := one.totals
      have others := ih (one.subset (List.subset_append_right group rest.flatten))
      calc
        total ([total group] ++ rest.map total) = total [total group] + total (rest.map total) :=
          total_append_oneSigned signed
        _ = total group + total rest.flatten := by rw [total_singleton, others]
        _ = total (group ++ rest.flatten) := (total_append_oneSigned one).symm

/-- Amounts of one sign, added up group by group, have the saturating sum of all of them. -/
theorem total_groupTotals (distinct : labels.Nodup) (covered : ∀ a ∈ terms, label a ∈ labels)
    (one : OneSigned (terms.map amount))
    : total (groupTotals label amount terms labels) = total (terms.map amount) := by
  have same := (groups_perm distinct covered).map amount
  rw [← total_perm same (Or.inl (one.perm same.symm))]
  rw [List.map_flatMap, List.flatMap_def] at same ⊢
  rw [← total_flatten (one.perm same.symm), groupTotals, List.map_map]
  rfl

-----------------------------------------------------------------------------------------
-- Amounts that are not negative
-----------------------------------------------------------------------------------------

variable {amounts : List Amount}

theorem total_of_nonneg (nonneg : ∀ a ∈ amounts, 0 ≤ a.val)
    : (total amounts).val = min (exactTotal amounts) 9223372036854775807 := by
  have rises := exactTotal_nonneg nonneg
  rw [total_oneSigned (Or.inl nonneg), val_clamp]
  omega

/-- Of terms that add nothing negative, no selection does. -/
theorem nonneg_map_filter (nonneg : ∀ a ∈ terms, 0 ≤ (amount a).val) (p : α → Bool)
    : ∀ b ∈ (terms.filter p).map amount, 0 ≤ b.val :=
  List.forall_mem_map.mpr fun a held => nonneg a (List.mem_of_mem_filter held)

theorem total_nonneg (nonneg : ∀ a ∈ amounts, 0 ≤ a.val)
    : 0 ≤ (total amounts).val := by
  have rises := exactTotal_nonneg nonneg
  rw [total_of_nonneg nonneg]
  omega

/-- Some of the amounts have no greater total than all of them. -/
theorem total_le_of_sublist {part : List Amount} (h : part.Sublist amounts)
    (nonneg : ∀ a ∈ amounts, 0 ≤ a.val)
    : (total part).val ≤ (total amounts).val := by
  have below : exactTotal part ≤ exactTotal amounts :=
    (h.map val).sum_le_sum (by simpa using nonneg)
  rw [total_of_nonneg nonneg, total_of_nonneg fun a ha => nonneg a (h.subset ha)]
  omega

theorem total_le_exactTotal (nonneg : ∀ a ∈ amounts, 0 ≤ a.val)
    : (total amounts).val ≤ exactTotal amounts := by
  rw [total_of_nonneg nonneg]
  omega

/-- Added up group by group without a bound, amounts come to no less than with one. -/
theorem total_le_groupTotals (distinct : labels.Nodup) (covered : ∀ a ∈ terms, label a ∈ labels)
    (nonneg : ∀ a ∈ terms, 0 ≤ (amount a).val)
    : (total (terms.map amount)).val ≤ exactTotal (groupTotals label amount terms labels) := by
  rw [← total_groupTotals distinct covered (Or.inl (List.forall_mem_map.mpr nonneg))]
  refine total_le_exactTotal (List.forall_mem_map.mpr fun name _ => ?_)
  exact total_nonneg (nonneg_map_filter nonneg _)

theorem greatest_le_total (nonneg : ∀ a ∈ amounts, 0 ≤ a.val)
    : (greatest amounts).val ≤ (total amounts).val := by
  refine greatest_le_iff.mpr ⟨total_nonneg nonneg, fun a member => ?_⟩
  have below := total_le_of_sublist (List.singleton_sublist.mpr member) nonneg
  rwa [total_singleton] at below

/-- Terms that only count where a condition holds add up to at most one bound for each such term. By
induction on the terms.
-/
theorem exactTotal_le_countP_mul {p : α → Bool} {bound : Int}
    (upper : ∀ a ∈ terms, (amount a).val ≤ if p a then bound else 0)
    : exactTotal (terms.map amount) ≤ terms.countP p * bound := by
  induction terms with
  | nil => simp [exactTotal]
  | cons a rest ih =>
      obtain ⟨here, others⟩ := List.forall_mem_cons.mp upper
      have below := ih others
      have split : exactTotal ((a :: rest).map amount)
          = (amount a).val + exactTotal (rest.map amount) := by
        simp [exactTotal]
      rw [split, List.countP_cons, Nat.cast_add, Int.add_mul, Int.add_comm]
      have head : (amount a).val ≤ ((if p a then 1 else 0 : Nat) : Int) * bound := by
        split at here <;> simp_all
      exact Int.add_le_add below head

end AllocTrace.Amount
