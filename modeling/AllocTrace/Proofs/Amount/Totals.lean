import AllocTrace.Amount
import Mathlib.Algebra.Order.BigOperators.Group.List
import Mathlib.Algebra.Order.Ring.Int
import Mathlib.Data.List.Induction

/-! Saturating sums and greatest amounts of a list. A sum taken step by step depends on the order
of its terms only if it runs over a bound and then turns back, so terms of one sign, and terms
whose gains and losses both fit the range, add up in any order; terms of one sign also add up in
parts.
-/

namespace AllocTrace.Amount

/-- The sum from zero on, saturating at every addition. -/
def total (amounts : List Amount) : Amount :=
  amounts.foldl (· + ·) 0

/-- The greatest of the amounts, at least zero. -/
def greatest (amounts : List Amount) : Amount :=
  amounts.foldl max 0

/-- The sum of the amounts as integers, which no bound limits. -/
def exactTotal (amounts : List Amount) : Int :=
  (amounts.map val).sum

/-- The amounts are all at least zero, or all at most zero. -/
def OneSigned (amounts : List Amount) : Prop :=
  (∀ a ∈ amounts, 0 ≤ a.val) ∨ ∀ a ∈ amounts, a.val ≤ 0

/-- The positive amounts together fit the range, and so do the negative ones. -/
def Contained (amounts : List Amount) : Prop :=
  (amounts.map fun a => max a.val 0).sum ≤ 9223372036854775807
  ∧ -9223372036854775808 ≤ (amounts.map fun a => min a.val 0).sum

theorem total_concat (amounts : List Amount) (a : Amount)
    : total (amounts ++ [a]) = total amounts + a := by
  simp [total]

theorem total_singleton (a : Amount)
    : total [a] = a := by
  have lower := a.lower
  have upper := a.upper
  ext
  rw [total, List.foldl_cons, List.foldl_nil, val_add, val_zero]
  omega

theorem greatest_concat (amounts : List Amount) (a : Amount)
    : greatest (amounts ++ [a]) = max (greatest amounts) a := by
  simp [greatest]

theorem val_clamp (n : Int)
    : (clamp n).val = max (-9223372036854775808) (min n 9223372036854775807) :=
  rfl

/-- The greatest amount is the least bound of zero and the amounts. -/
theorem greatest_le_iff {amounts : List Amount} {n : Int}
    : (greatest amounts).val ≤ n ↔ 0 ≤ n ∧ ∀ a ∈ amounts, a.val ≤ n := by
  induction amounts using List.reverseRecOn with
  | nil => simp [greatest]
  | append_singleton rest a ih =>
      rw [greatest_concat, val_max, Int.max_le, ih, List.forall_mem_append,
        List.forall_mem_singleton, and_assoc]

theorem greatest_nonneg (amounts : List Amount)
    : 0 ≤ (greatest amounts).val :=
  (greatest_le_iff.mp (Int.le_refl _)).1

theorem le_greatest {amounts : List Amount} {a : Amount} (member : a ∈ amounts)
    : a.val ≤ (greatest amounts).val :=
  (greatest_le_iff.mp (Int.le_refl _)).2 a member

theorem greatest_le_append (left right : List Amount)
    : (greatest left).val ≤ (greatest (left ++ right)).val :=
  greatest_le_iff.mpr
    ⟨greatest_nonneg _, fun _ member => le_greatest (List.mem_append_left right member)⟩

/-- An amount that may be absent raises nothing if it is. -/
theorem greatest_append_toList (amounts : List Amount) (next : Option Amount)
    : greatest (amounts ++ next.toList) = max (greatest amounts) (next.getD 0) := by
  cases next with
  | none =>
      have base := greatest_nonneg amounts
      ext
      rw [Option.toList_none, List.append_nil, Option.getD_none, val_max, val_zero]
      omega
  | some a => rw [Option.toList_some, greatest_concat, Option.getD_some]

/-- Absent amounts are as good as zero to the greatest, by induction from the last term. -/
theorem greatest_filterMap {α : Type} (f : α → Option Amount) (terms : List α)
    : greatest (terms.filterMap f) = greatest (terms.map fun a => (f a).getD 0) := by
  induction terms using List.reverseRecOn with
  | nil => rfl
  | append_singleton rest a ih =>
      have last : (rest ++ [a]).filterMap f = rest.filterMap f ++ (f a).toList := by
        cases h : f a <;> simp [h]
      rw [last, greatest_append_toList, ih, List.map_append, List.map_singleton, greatest_concat]

/-- The greatest amount does not depend on the order, as maxima commute. -/
theorem greatest_perm {left right : List Amount} (h : left.Perm right)
    : greatest left = greatest right := by
  apply h.foldl_eq'
  intro x _ y _ z
  ext
  simp only [val_max]
  omega

theorem exactTotal_perm {left right : List Amount} (h : left.Perm right)
    : exactTotal left = exactTotal right :=
  (h.map val).sum_eq

theorem OneSigned.subset {left right : List Amount} (h : left ⊆ right) (one : OneSigned right)
    : OneSigned left :=
  one.imp (fun hs a ha => hs a (h ha)) (fun hs a ha => hs a (h ha))

theorem OneSigned.perm {left right : List Amount} (h : left.Perm right) (one : OneSigned left)
    : OneSigned right :=
  one.subset h.symm.subset

theorem Contained.perm {left right : List Amount} (h : left.Perm right)
    (contained : Contained left)
    : Contained right := by
  unfold Contained
  rw [← (h.map fun a => max a.val 0).sum_eq, ← (h.map fun a => min a.val 0).sum_eq]
  exact contained

theorem exactTotal_append (left right : List Amount)
    : exactTotal (left ++ right) = exactTotal left + exactTotal right := by
  simp [exactTotal]

theorem exactTotal_nonneg {amounts : List Amount} (h : ∀ a ∈ amounts, 0 ≤ a.val)
    : 0 ≤ exactTotal amounts := by
  apply List.sum_nonneg
  simpa using h

theorem exactTotal_nonpos {amounts : List Amount} (h : ∀ a ∈ amounts, a.val ≤ 0)
    : exactTotal amounts ≤ 0 := by
  simpa [exactTotal] using List.sum_le_card_nsmul (amounts.map val) 0 (by simpa using h)

/-- Two parts of amounts of one sign lie on the same side of zero. -/
theorem OneSigned.sides {left right : List Amount} (one : OneSigned (left ++ right))
    : 0 ≤ exactTotal left ∧ 0 ≤ exactTotal right
      ∨ exactTotal left ≤ 0 ∧ exactTotal right ≤ 0 := by
  refine one.imp (fun hs => ?_) (fun hs => ?_)
  · exact ⟨exactTotal_nonneg fun a ha => hs a (List.mem_append_left _ ha),
      exactTotal_nonneg fun a ha => hs a (List.mem_append_right _ ha)⟩
  · exact ⟨exactTotal_nonpos fun a ha => hs a (List.mem_append_left _ ha),
      exactTotal_nonpos fun a ha => hs a (List.mem_append_right _ ha)⟩

/-- Amounts of one sign saturate at most once, so adding them step by step from any start is
clamping their sum, by induction on the amounts.
-/
theorem foldl_add_oneSigned {amounts : List Amount} (h : OneSigned amounts) (start : Amount)
    : amounts.foldl (· + ·) start = clamp (start.val + exactTotal amounts) := by
  induction amounts generalizing start with
  | nil => simp [exactTotal, clamp_val]
  | cons a rest ih =>
      -- The head and the rest push the same way, so clamping between them loses nothing.
      have signs : 0 ≤ exactTotal [a] ∧ 0 ≤ exactTotal rest
          ∨ exactTotal [a] ≤ 0 ∧ exactTotal rest ≤ 0 :=
        OneSigned.sides h
      have alone : exactTotal [a] = a.val := by simp [exactTotal]
      have split : exactTotal (a :: rest) = exactTotal [a] + exactTotal rest :=
        exactTotal_append [a] rest
      have lower := start.lower
      have upper := start.upper
      rw [List.foldl_cons, ih (h.subset (List.subset_cons_self a rest)), split]
      ext
      simp only [val_clamp, val_add]
      omega

/-- Further amounts that are not negative never lower a sum, at the bound either. -/
theorem total_le_append (left : List Amount) {right : List Amount}
    (nonneg : ∀ a ∈ right, 0 ≤ a.val)
    : (total left).val ≤ (total (left ++ right)).val := by
  have rises := exactTotal_nonneg nonneg
  have upper := (total left).upper
  have later : total (left ++ right) = clamp ((total left).val + exactTotal right) := by
    rw [total, List.foldl_append, foldl_add_oneSigned (Or.inl nonneg), total]
  rw [later, val_clamp]
  omega

/-- Amounts of one sign add up to their clamped sum. -/
theorem total_oneSigned {amounts : List Amount} (h : OneSigned amounts)
    : total amounts = clamp (exactTotal amounts) := by
  simpa [total] using foldl_add_oneSigned h 0

/-- A saturating sum of one sign can be taken in two parts. -/
theorem total_append_oneSigned {left right : List Amount} (h : OneSigned (left ++ right))
    : total (left ++ right) = total left + total right := by
  have sides := h.sides
  have first := h.subset (List.subset_append_left left right)
  have second := h.subset (List.subset_append_right left right)
  rw [total_oneSigned h, total_oneSigned first, total_oneSigned second, exactTotal_append]
  ext
  simp only [val_clamp, val_add]
  omega

theorem gains_nonneg (amounts : List Amount)
    : 0 ≤ (amounts.map fun a => max a.val 0).sum := by
  apply List.sum_nonneg
  simp

theorem losses_nonpos (amounts : List Amount)
    : (amounts.map fun a => min a.val 0).sum ≤ 0 := by
  simpa using List.sum_le_card_nsmul (amounts.map fun a => min a.val 0) 0 (by simp)

/-- From a start that leaves room for all gains and all losses no addition saturates, by
induction on the amounts.
-/
theorem foldl_add_contained (amounts : List Amount) (start : Amount)
    (gains : start.val + (amounts.map fun a => max a.val 0).sum ≤ 9223372036854775807)
    (losses : -9223372036854775808 ≤ start.val + (amounts.map fun a => min a.val 0).sum)
    : (amounts.foldl (· + ·) start).val = start.val + exactTotal amounts := by
  induction amounts generalizing start with
  | nil => simp [exactTotal]
  | cons a rest ih =>
      have gain := gains_nonneg rest
      have loss := losses_nonpos rest
      simp only [List.map_cons, List.sum_cons] at gains losses
      have step : (start + a).val = start.val + a.val := by
        rw [val_add]
        omega
      have split : exactTotal (a :: rest) = a.val + exactTotal rest := by simp [exactTotal]
      rw [List.foldl_cons, ih, step, split, Int.add_assoc] <;> rw [step] <;> omega

/-- Amounts whose gains and losses fit the range add up exactly. -/
theorem total_contained {amounts : List Amount} (h : Contained amounts)
    : (total amounts).val = exactTotal amounts := by
  simpa [total] using foldl_add_contained amounts 0 (by simpa using h.1) (by simpa using h.2)

/-- Amounts of one sign, or with gains and losses in range, add up alike in every order. -/
theorem total_perm {left right : List Amount} (h : left.Perm right)
    (steady : OneSigned left ∨ Contained left)
    : total left = total right := by
  rcases steady with one | contained
  · rw [total_oneSigned one, total_oneSigned (one.perm h), exactTotal_perm h]
  · ext
    rw [total_contained contained, total_contained (contained.perm h), exactTotal_perm h]

end AllocTrace.Amount
