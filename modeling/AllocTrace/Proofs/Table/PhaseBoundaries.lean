import AllocTrace.Proofs.Table.Entries
import AllocTrace.Proofs.Table.Growth

/-! Where one phase ends and the next begins. Main statement: records ingested as two phases leave
the keys and the sums that they leave as one, whatever saturates on the way; only peaks and the
number of phases tell the difference, and splitting a phase never raises a peak.
-/

namespace AllocTrace

variable {s : Schema}

/-- Two amounts that are not negative reach no higher one by one than added up. -/
theorem Amount.max_max_le_max_add {base a b : Amount} (ha : 0 ≤ a.val) (hb : 0 ≤ b.val)
    : (max (max base a) b).val ≤ (max base (a + b)).val := by
  have upperA := a.upper
  have upperB := b.upper
  simp only [val_max, val_add]
  omega

namespace Trace

/-- A table that ingests a phase has the accesses of the phase behind its own. -/
theorem table_ingest (trace : Trace s) (records : List (Record s))
    : (trace.table.ingest records).1 = table (trace ++ ofPhase records) := by
  rw [Table.ingest_eq, table, table, List.foldl_append]

/-- A phase is touched under the keys of its records. -/
theorem touches_ofPhase (records : List (Record s)) (key : Key s)
    : (ofPhase records).Touches key ↔ ∃ record ∈ records, record.key = key := by
  have alone : (ofPhase records).Perm ([records].flatMap ofPhase) := by
    rw [List.flatMap_singleton]
  rw [touches_phases alone, records_ofPhase]

/-- A phase raises the peak of a key to its bytes there; without the key it has none. -/
theorem peak_ingest (trace : Trace s) (records : List (Record s)) (key : Key s)
    : ((trace.table.ingest records).1.peak? key).getD 0
      = max ((trace.table.peak? key).getD 0)
        (((Subtotals.ofRecords records).get? key).getD 0) := by
  rw [Table.getD_peak?, Table.getD_peak?, table_ingest, tally_table, tally_table, tally, tally,
    subtotals_append, subtotals_ofPhase, List.filter_append, List.map_append,
    Subtotals.filter_toList]
  exact Amount.greatest_append_toList _ _

end Trace

namespace Subtotals

theorem getD_get?_nonneg {records : List (Record s)}
    (nonneg : ∀ record ∈ records, 0 ≤ record.phaseBytes.val) (key : Key s)
    : 0 ≤ (((ofRecords records).get? key).getD 0).val := by
  rw [getD_get?_ofRecords]
  exact Amount.total_nonneg (Amount.nonneg_map_filter nonneg _)

/-- Bytes of one sign in two parts of a phase add up, saturating, to the bytes of the phase. -/
theorem getD_get?_append {first second : List (Record s)}
    (nonneg : ∀ record ∈ first ++ second, 0 ≤ record.phaseBytes.val) (key : Key s)
    : ((ofRecords (first ++ second)).get? key).getD 0
      = ((ofRecords first).get? key).getD 0 + ((ofRecords second).get? key).getD 0 := by
  simp only [getD_get?_ofRecords, List.filter_append, List.map_append]
  refine Amount.total_append_oneSigned (Or.inl ?_)
  rw [← List.map_append, ← List.filter_append]
  exact Amount.nonneg_map_filter nonneg _

end Subtotals

/-- How a table that has ingested records as two phases stands to one that has ingested them as one,
both from the same table.
-/
structure Table.Splits (before joined split : Table s) (first second : List (Record s))
    : Prop where
  keys : ∀ key, (split.get? key).isSome = (joined.get? key).isSome
  sums : ∀ key quantity, split.sum? key quantity = joined.sum? key quantity
  phases : split.phases = joined.phases + 1
  peaks
    : (∀ record ∈ first ++ second, 0 ≤ record.phaseBytes.val)
      → ∀ key,
          (split.peak? key).getD 0
              = max
                (max ((before.peak? key).getD 0) (((Subtotals.ofRecords first).get? key).getD 0))
                (((Subtotals.ofRecords second).get? key).getD 0)
          ∧ (joined.peak? key).getD 0
              = max ((before.peak? key).getD 0)
                (((Subtotals.ofRecords first).get? key).getD 0
                  + ((Subtotals.ofRecords second).get? key).getD 0)
          ∧ ((split.peak? key).getD 0).val ≤ ((joined.peak? key).getD 0).val

/-- On any table that accesses have left, a phase can be split anywhere: keys and sums stay the same
for all amounts, and where no record takes a negative number of bytes, no peak rises.
-/
theorem Trace.ingest_splits (trace : Trace s) (first second : List (Record s))
    : trace.table.Splits (trace.table.ingest (first ++ second)).1
        ((trace.table.ingest first).1.ingest second).1 first second := by
  have touched (key : Key s)
      : (trace ++ ofPhase first ++ ofPhase second).Touches key
        ↔ (trace ++ ofPhase (first ++ second)).Touches key := by
    simp only [touches_append, touches_ofPhase, List.mem_append, or_and_right, exists_or, or_assoc]
  have added : Trace.records (trace ++ ofPhase first ++ ofPhase second)
      = Trace.records (trace ++ ofPhase (first ++ second)) := by
    simp only [records_append, records_ofPhase, List.append_assoc]
  refine {
    keys := ?_
    sums := ?_
    phases := ?_
    peaks := ?_
  }
  · intro key
    simp only [table_ingest, get?_table, touched key]
    split <;> rfl
  · intro key quantity
    simp only [table_ingest, sum?_table, touched key, added]
  · simp only [table_ingest, phases_table, counted_append, counted_ofPhase]
  · intro nonneg key
    have joinedPeak := trace.peak_ingest (first ++ second) key
    have splitPeak := (trace ++ ofPhase first).peak_ingest second key
    rw [Subtotals.getD_get?_append nonneg key] at joinedPeak
    rw [← table_ingest, trace.peak_ingest first key] at splitPeak
    refine ⟨splitPeak, joinedPeak, ?_⟩
    have left := Subtotals.getD_get?_nonneg (fun r hr => nonneg r (List.mem_append_left _ hr)) key
    have right := Subtotals.getD_get?_nonneg (fun r hr => nonneg r (List.mem_append_right _ hr)) key
    rw [splitPeak, joinedPeak]
    exact Amount.max_max_le_max_add left right

/-- The two halves of a phase that share a bucket, and another bucket that saturates in them. -/
def firstHalf : List (Record .stride) :=
  [
    .stride (.clamp 32) (.clamp 1) (.clamp 30),
    .stride (.clamp 8) (.clamp 1) (.clamp 9223372036854775807)
  ]

def secondHalf : List (Record .stride) :=
  [
    .stride (.clamp 32) (.clamp 1) (.clamp 40),
    .stride (.clamp 8) (.clamp (-1)) (.clamp 16)
  ]

/-- After a phase with 50 bytes in the bucket the halves leave that peak; together they raise it. -/
theorem halves_split
    : (∀ record ∈ firstHalf ++ secondHalf, 0 ≤ record.phaseBytes.val)
      ∧ ((((Trace.ofPhase [.stride (.clamp 32) (.clamp 1) (.clamp 50)]).table.ingest
          firstHalf).1.ingest secondHalf).1.peak? (.bucket (.clamp 32))).getD 0 = .clamp 50
      ∧ (((Trace.ofPhase [.stride (.clamp 32) (.clamp 1) (.clamp 50)]).table.ingest
          (firstHalf ++ secondHalf)).1.peak? (.bucket (.clamp 32))).getD 0 = .clamp 70 := by
  have nonneg : ∀ record ∈ firstHalf ++ secondHalf, 0 ≤ record.phaseBytes.val := by decide
  obtain ⟨split, joined, -⟩ :=
    (Trace.ingest_splits (.ofPhase [.stride (.clamp 32) (.clamp 1) (.clamp 50)]) firstHalf
      secondHalf).peaks nonneg (.bucket (.clamp 32))
  exact ⟨nonneg, split.trans (by decide +kernel), joined.trans (by decide +kernel)⟩

end AllocTrace
