import AllocTrace.Proofs.Table.Entries

/-! The peak of a key against its footprint, the bytes that it took over all phases together. Main
statement: where no record takes a negative number of bytes, the peak is at most the footprint, and
the footprint at most the peak once for each phase with the key, whatever has saturated.
-/

namespace AllocTrace

variable {s : Schema} {phases : List (List (Record s))}

namespace Quantity

/-- The quantity whose phase subtotals the peaks of a layout observe. -/
def footprint : Schema → Quantity
  | .stride => .rawBytes
  | .proxy => .strideBytes

theorem shown_footprint (s : Schema)
    : (footprint s).Shown s := by
  cases s <;> simp [footprint, Shown]

/-- A record adds to its footprint what it adds to the subtotal of its phase, in both layouts. -/
theorem ofTotals_footprint (record : Record s)
    : (footprint s).ofTotals record.totals = some record.phaseBytes := by
  cases record <;> rfl

theorem amounts_footprint (records : List (Record s)) (key : Key s)
    : (footprint s).amounts records key
      = (records.filter (·.key = key)).map (·.phaseBytes) := by
  simp only [amounts, ofTotals_footprint, List.filterMap_eq_map']

end Quantity

/-- How many of the phases have a record under the key. -/
def Key.phaseCount (key : Key s) (phases : List (List (Record s))) : Nat :=
  phases.countP fun records => records.any (·.key = key)

/-- A key of some record is in at least one phase. -/
theorem Key.phaseCount_pos {key : Key s} (known : ∃ record ∈ phases.flatten, record.key = key)
    : 1 ≤ key.phaseCount phases := by
  obtain ⟨record, member, same⟩ := known
  obtain ⟨records, phase, held⟩ := List.mem_flatten.mp member
  refine List.countP_pos_iff.mpr ⟨records, phase, ?_⟩
  exact List.any_eq_true.mpr ⟨record, held, by simpa using same⟩

/-- The bytes that each phase has under the key, zero for a phase without it. -/
def Key.phaseBytes (key : Key s) (phases : List (List (Record s))) : List Amount :=
  phases.map fun records => .total ((records.filter (·.key = key)).map (·.phaseBytes))

namespace Key

variable (key : Key s)

theorem phaseBytes_nonneg (nonneg : ∀ record ∈ phases.flatten, 0 ≤ record.phaseBytes.val)
    : ∀ bytes ∈ key.phaseBytes phases, 0 ≤ bytes.val := by
  refine List.forall_mem_map.mpr fun records phase => ?_
  have held : ∀ record ∈ records, 0 ≤ record.phaseBytes.val := fun record member =>
    nonneg record (List.mem_flatten_of_mem phase member)
  exact Amount.total_nonneg (Amount.nonneg_map_filter held _)

/-- Bytes of one sign add up phase by phase as they do record by record. -/
theorem total_phaseBytes
    (nonneg : ∀ record ∈ phases.flatten, 0 ≤ record.phaseBytes.val)
    : Amount.total (key.phaseBytes phases)
      = .total ((phases.flatten.filter (·.key = key)).map (·.phaseBytes)) := by
  have parts : (phases.flatten.filter (·.key = key)).map (·.phaseBytes)
      = (phases.map fun records =>
          (records.filter (·.key = key)).map (·.phaseBytes)).flatten := by
    rw [List.filter_flatten, List.map_flatten, List.map_map]
    rfl
  have one : Amount.OneSigned ((phases.flatten.filter (·.key = key)).map (·.phaseBytes)) :=
    Or.inl (Amount.nonneg_map_filter nonneg _)
  rw [parts] at one ⊢
  rw [← Amount.total_flatten one, List.map_map]
  rfl

/-- The bytes of a phase without the key are none, and no phase has more than the greatest. -/
theorem exactTotal_phaseBytes_le
    : Amount.exactTotal (key.phaseBytes phases)
      ≤ key.phaseCount phases * (Amount.greatest (key.phaseBytes phases)).val := by
  refine Amount.exactTotal_le_countP_mul fun records phase => ?_
  split
  · exact Amount.le_greatest (List.mem_map_of_mem phase)
  · have none : records.filter (·.key = key) = [] := by simp_all
    rw [none]
    exact Int.le_refl 0

end Key

namespace Trace

variable {trace : Trace s}

/-- The peak of a key is the greatest number of bytes that a phase has under it. -/
theorem peak_phases (h : trace.Perm (phases.flatMap Trace.ofPhase)) (key : Key s)
    : (trace.tally key).peak = .greatest (key.phaseBytes phases) := by
  have merged : Trace.subtotals (phases.flatMap Trace.ofPhase)
      = (phases.map Subtotals.ofRecords).flatMap Subtotals.toList := by
    rw [subtotals_phases, List.flatMap_map]
  have raised : ((trace.subtotals.filter (·.1 = key)).map (·.2)).Perm
      (((Trace.subtotals (phases.flatMap Trace.ofPhase)).filter (·.1 = key)).map (·.2)) :=
    ((h.filterMap Access.subtotal?).filter _).map _
  rw [merged, Subtotals.filter_flatMap_toList] at raised
  have same : (trace.tally key).peak
      = .greatest ((phases.map Subtotals.ofRecords).filterMap (·.get? key)) :=
    Amount.greatest_perm raised
  rw [same, Amount.greatest_filterMap, List.map_map]
  refine congrArg Amount.greatest (List.map_congr_left fun records _ => ?_)
  exact Subtotals.getD_get?_ofRecords records key

theorem peak_entries (h : trace.Perm (phases.flatMap Trace.ofPhase)) {entry : Entry s}
    (member : entry ∈ trace.table.entries)
    : entry.figures.peak = .greatest (entry.key.phaseBytes phases) := by
  have found := (trace.table.listed.mem_iff entry).mp member
  rw [get?_table, Option.ite_none_right_eq_some] at found
  have same : (trace.tally entry.key).entry entry.key = entry := Option.some.inj found.2
  rw [← peak_phases h]
  exact (congrArg (·.figures.peak) same).symm

/-- The accesses of whole phases, in any order, keep the peak of a key and its footprint in bounds
of each other.
-/
theorem peak_bounds (h : trace.Perm (phases.flatMap Trace.ofPhase))
    (nonneg : ∀ record ∈ phases.flatten, 0 ≤ record.phaseBytes.val) (key : Key s)
    : (trace.tally key).peak.val
        ≤ (Amount.total ((Quantity.footprint s).amounts trace.records key)).val
      ∧ (Amount.total ((Quantity.footprint s).amounts trace.records key)).val
        ≤ key.phaseCount phases * (trace.tally key).peak.val := by
  have same := ((records_perm h).filter (·.key = key)).map (·.phaseBytes)
  have one : Amount.OneSigned ((phases.flatten.filter (·.key = key)).map (·.phaseBytes)) :=
    Or.inl (Amount.nonneg_map_filter nonneg _)
  have above := key.phaseBytes_nonneg nonneg
  rw [Quantity.amounts_footprint, Amount.total_perm same (Or.inl (one.perm same.symm)),
    ← key.total_phaseBytes nonneg, peak_phases h]
  exact ⟨Amount.greatest_le_total above,
    Int.le_trans (Amount.total_le_exactTotal above) key.exactTotal_phaseBytes_le⟩

end Trace

/-- Under every key of a table, however its phases were scheduled, the peak lies between zero and
the footprint, and the footprint is at most the peak times the number of phases with the key.
-/
theorem Table.Ingests.peak_brackets {parallel : Bool} {table : Table s}
    (ingested : Table.Ingests phases parallel table)
    (nonneg : ∀ record ∈ phases.flatten, 0 ≤ record.phaseBytes.val) {key : Key s}
    {entry : Entry s} (found : table.get? key = some entry)
    : ∃ bytes,
        (Quantity.footprint s).ofFigures entry.figures = some bytes
        ∧ 1 ≤ key.phaseCount phases
        ∧ 0 ≤ entry.figures.peak.val
        ∧ entry.figures.peak.val ≤ bytes.val
        ∧ bytes.val ≤ key.phaseCount phases * entry.figures.peak.val := by
  obtain ⟨trace, whole, rfl⟩ := ingested.exists_trace
  have shown := trace.sum?_table key (.footprint s)
  rw [Trace.get?_table, Option.ite_none_right_eq_some] at found
  obtain ⟨touched, same⟩ := found
  obtain rfl := Option.some.inj same
  obtain ⟨record, added, under⟩ := (Trace.touches_phases whole key).mp touched
  rw [if_pos ⟨touched, Quantity.shown_footprint s⟩, Table.sum?, Trace.get?_table, if_pos touched,
    Option.bind_some] at shown
  have known : ∃ record ∈ phases.flatten, record.key = key :=
    ⟨record, (Trace.records_perm whole).mem_iff.mp added, under⟩
  obtain ⟨lower, upper⟩ := Trace.peak_bounds whole nonneg key
  exact ⟨_, shown, Key.phaseCount_pos known, Amount.greatest_nonneg _, lower, upper⟩

/-- Three phases, two of them with a slot whose stride bytes saturate from one to the other. -/
def heavyPhases : List (List (Record .proxy)) :=
  [
    [.proxy (.clamp 24) (.clamp 8) (.clamp 1) (.clamp 3) 0 (.clamp 72)
      (.clamp 9223372036854775807)],
    [.proxy (.clamp 8) (.clamp 8) (.clamp 1) (.clamp 1) 0 (.clamp 8) (.clamp 16)],
    [
      .proxy (.clamp 24) (.clamp 8) (.clamp 1) (.clamp 2) 0 (.clamp (-1)) (.clamp 40),
      .proxy (.clamp 24) (.clamp 8) (.clamp 1) (.clamp 1) 0 (.clamp 24) (.clamp 32)
    ]
  ]

/-- The slot is in two of the three phases, and its footprint stops at the bound. -/
theorem heavyPhases_bracketed
    : Table.Ingests heavyPhases false (.ingestInOrder heavyPhases)
      ∧ (∀ record ∈ heavyPhases.flatten, 0 ≤ record.phaseBytes.val)
      ∧ ∃ entry,
          (Table.ingestInOrder heavyPhases).get? (.slot (.clamp 24) (.clamp 1)) = some entry
          ∧ entry.figures.peak = .clamp 9223372036854775807
          ∧ entry.figures.strideBytes = some (.clamp 9223372036854775807)
          ∧ (Key.slot (.clamp 24) (.clamp 1)).phaseCount heavyPhases = 2
          ∧ ∃ bytes,
              (Quantity.footprint .proxy).ofFigures entry.figures = some bytes
              ∧ 1 ≤ (Key.slot (.clamp 24) (.clamp 1)).phaseCount heavyPhases
              ∧ 0 ≤ entry.figures.peak.val
              ∧ entry.figures.peak.val ≤ bytes.val
              ∧ bytes.val
                ≤ (Key.slot (.clamp 24) (.clamp 1)).phaseCount heavyPhases
                  * entry.figures.peak.val := by
  have ingested : Table.Ingests heavyPhases false (.ingestInOrder heavyPhases) := .inOrder
  have nonneg : ∀ record ∈ heavyPhases.flatten, 0 ≤ record.phaseBytes.val := by decide
  have found : (Table.ingestInOrder heavyPhases).get? (.slot (.clamp 24) (.clamp 1))
      = some
        {
          key := .slot (.clamp 24) (.clamp 1)
          figures :=
            {
              count := .clamp 6
              rawBytes := .clamp 95
              strideBytes := some (.clamp 9223372036854775807)
              fallbacks := some 0
              peak := .clamp 9223372036854775807
            }
        } := by
    decide +kernel
  exact ⟨ingested, nonneg, _, found, rfl, rfl, by decide, ingested.peak_brackets nonneg found⟩

end AllocTrace
