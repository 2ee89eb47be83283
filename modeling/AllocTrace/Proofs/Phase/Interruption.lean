import AllocTrace.Proofs.Csv.Interruption
import AllocTrace.Proofs.Phase.Accounting
import Mathlib.Data.List.Infix

/-! A phase whose source fails before its end. Main statement: the reader yields the records of the
rows that were delivered whole, its counters are those that the rows leave, and it ends there.
-/

namespace AllocTrace

variable {s : Schema}

namespace PhaseReader

/-- The reader stops behind the first rows of the whole one. It yields the records that these hold,
its counters end as those of the whole one stand behind them, and every later call yields nothing
and leaves the counters as they are.
-/
structure StopsBehind (stopped whole : PhaseReader s) (rows : Nat) : Prop where
  within : rows ≤ whole.pending.length
  records : stopped.records = (whole.pending.take rows).filterMap (decode? whole.index)
  initial : stopped.records <+: whole.records
  total : stopped.total = (whole.past rows).count
  counted : stopped.total.rows = rows
  ended
    : ∀ n,
        stopped.records.length < n
        → (stopped.calls n).1
            = stopped.records.map some ++ List.replicate (n - stopped.records.length) none
          ∧ (stopped.calls n).2.count = stopped.total

/-- A reader of the first rows stops behind them. Where it has rows it needs the same columns. -/
theorem stopsBehind {stopped whole : PhaseReader s}
    (initial : stopped.pending <+: whole.pending)
    (index : stopped.pending ≠ [] → stopped.index = whole.index)
    (fresh : whole.count = { rows := 0, skipped := 0 }) (count : stopped.count = whole.count)
    : StopsBehind stopped whole stopped.pending.length := by
  have rows : whole.pending.take stopped.pending.length = stopped.pending :=
    (List.prefix_iff_eq_take.mp initial).symm
  have held : stopped.records = stopped.pending.filterMap (decode? whole.index) := by
    rw [records_eq_held, held]
    by_cases none : stopped.pending = []
    · rw [none, List.filterMap_nil, List.filterMap_nil]
    · rw [index none]
  have total : stopped.total = (whole.past stopped.pending.length).count := by
    rw [total_past, past, past, rows, List.take_length, count]
    by_cases none : stopped.pending = []
    · rw [none, List.countP_nil, List.countP_nil]
    · rw [index none]
  refine {
    within := initial.length_le
    records := by rw [rows, held]
    initial := ?_
    total := total
    counted := ?_
    ended := ?_
  }
  · rw [held, records_eq_held]
    exact initial.filterMap _
  · rw [total, past, rows, fresh]
    exact Nat.zero_add _
  · intro n short
    rw [records_eq_held] at short
    exact stopped.calls_ended short

/-- Where a source fails behind some of its bytes, the reader stops behind the rows that were
delivered whole: one less than the records that these bytes end, as the first is the header. The
first read, which decides on a byte-order mark, is that of the whole source as far as it comes.
-/
theorem ofSource_cut_stopsBehind (s : Schema) (source : Csv.Source) (length : Nat)
    : StopsBehind (ofSource s (source.cut length)) (ofSource s source)
        (Csv.Splitter.start.ends (source.cut length).text - 1) := by
  have initial := source.records_cut length
  have below : (source.cut length).records.tail <+: source.records.tail := by
    simpa only [List.drop_one] using initial.drop 1
  have rows : (ofSource s (source.cut length)).pending.length
      = Csv.Splitter.start.ends (source.cut length).text - 1 := by
    rw [← source.length_records_cut length, ofSource_eq_ofItems]
    simp [ofItems, ofContents]
  rw [← rows]
  rw [ofSource_eq_ofItems, ofSource_eq_ofItems]
  apply stopsBehind
  · exact below.map _
  · intro present
    obtain ⟨later, whole⟩ := initial
    rw [← whole]
    cases delivered : (source.cut length).records with
    | nil => simp [ofItems, ofContents, delivered] at present
    | cons names rows => rfl
  · rfl
  · rfl

end PhaseReader

end AllocTrace
