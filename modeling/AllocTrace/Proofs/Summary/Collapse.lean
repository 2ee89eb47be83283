import AllocTrace.Proofs.Table.Footprint

/-! The slots of a size taken together, before aggregation or after it. Main statement: if no record
adds anything negative, aggregating all slots of a size under one proxy index yields the sizes,
counts and byte sums that the series makes of the separate slots, whatever saturates. Peaks rise, but
by no more than the slots together, as these need not peak in the same phase.
-/

namespace AllocTrace

-----------------------------------------------------------------------------------------
-- Records under one proxy index
-----------------------------------------------------------------------------------------

namespace Record

variable (index : Amount)

/-- The same record under another proxy index. -/
def withIndex : Record .proxy → Record .proxy
  | .proxy rawSize alignment _ count fallbacks rawTotal strideTotal =>
    .proxy rawSize alignment index count fallbacks rawTotal strideTotal

/-- All records of the phases under one proxy index. -/
def onIndex (phases : List (List (Record .proxy))) : List (List (Record .proxy)) :=
  phases.map fun records => records.map (withIndex index)

variable (record : Record .proxy)

theorem key_withIndex
    : (record.withIndex index).key = .slot record.key.size index := by
  cases record
  rfl

@[simp]
theorem size_withIndex
    : (record.withIndex index).key.size = record.key.size := by
  cases record
  rfl

@[simp]
theorem totals_withIndex
    : (record.withIndex index).totals = record.totals := by
  cases record
  rfl

@[simp]
theorem phaseBytes_withIndex
    : (record.withIndex index).phaseBytes = record.phaseBytes := by
  cases record
  rfl

theorem flatten_onIndex (phases : List (List (Record .proxy)))
    : (onIndex index phases).flatten = phases.flatten.map (withIndex index) := by
  rw [onIndex, List.map_flatten]

end Record

-----------------------------------------------------------------------------------------
-- Sums
-----------------------------------------------------------------------------------------

namespace Quantity

variable (quantity : Quantity) (index : Amount)

@[simp]
theorem amount_withIndex (record : Record .proxy)
    : quantity.amount (record.withIndex index) = quantity.amount record := by
  rw [amount, amount, Record.totals_withIndex]

/-- The records of a size add the same under one proxy index. -/
theorem amounts_onIndex (phases : List (List (Record .proxy))) (size : Amount)
    : ((Record.onIndex index phases).flatten.filter (·.key.size = size)).map quantity.amount
      = (phases.flatten.filter (·.key.size = size)).map quantity.amount := by
  rw [Record.flatten_onIndex, List.filter_map, List.map_map]
  simp only [Function.comp_def, Record.size_withIndex, amount_withIndex]

end Quantity

-----------------------------------------------------------------------------------------
-- Peaks
-----------------------------------------------------------------------------------------

/-- Under one proxy index the slot of a size has, in each phase, the bytes of the size. -/
theorem Key.phaseBytes_onIndex (index : Amount) (phases : List (List (Record .proxy)))
    (size : Amount)
    : (Key.slot size index).phaseBytes (Record.onIndex index phases)
      = phases.map fun records =>
          .total ((records.filter (·.key.size = size)).map (·.phaseBytes)) := by
  rw [Key.phaseBytes, Record.onIndex, List.map_map]
  refine List.map_congr_left fun records _ => ?_
  rw [Function.comp_apply, List.filter_map, List.map_map]
  simp only [Function.comp_def, Record.key_withIndex, Record.phaseBytes_withIndex, Key.slot.injEq,
    and_true]

namespace Trace

variable {s : Schema} {trace : Trace s} {phases : List (List (Record s))}

/-- The peak of a point is the greatest number of bytes that a phase has under a key of its size. -/
theorem peak_point_le_iff (h : trace.Perm (phases.flatMap Trace.ofPhase)) {point : SeriesPoint}
    (member : point ∈ (Summary.ofTable trace.table).series) {n : Int}
    : point.peak.val ≤ n
      ↔ 0 ≤ n
        ∧ ∀ entry ∈ trace.table.entriesOf point.size,
            (Amount.greatest (entry.key.phaseBytes phases)).val ≤ n := by
  obtain ⟨-, whole⟩ := Summary.mem_series.mp member
  have peak : point.peak
      = .greatest ((trace.table.entriesOf point.size).map (·.figures.peak)) := by
    rw [whole]
    exact congrArg Amount.greatest List.map_map
  rw [peak, Amount.greatest_le_iff, List.forall_mem_map]
  refine and_congr_right fun _ => forall₂_congr fun entry held => ?_
  rw [peak_entries h (Table.mem_entriesOf.mp held).1]

/-- No phase has more bytes under a size than the peaks of its keys come to: the phase divides its
bytes among the keys, and each key peaks at its share or above it.
-/
theorem total_size_le_peaks (h : trace.Perm (phases.flatMap Trace.ofPhase))
    (nonneg : ∀ record ∈ phases.flatten, 0 ≤ record.phaseBytes.val)
    {records : List (Record s)} (phase : records ∈ phases) (size : Amount)
    : (Amount.total ((records.filter (·.key.size = size)).map (·.phaseBytes))).val
      ≤ Amount.exactTotal ((trace.table.entriesOf size).map (·.figures.peak)) := by
  have above : ∀ record ∈ records, 0 ≤ record.phaseBytes.val := fun record held =>
    nonneg record (List.mem_flatten_of_mem phase held)
  have covered : ∀ record ∈ records.filter (·.key.size = size),
      record.key ∈ (trace.table.entriesOf size).map (·.key) := by
    intro record held
    obtain ⟨member, sized⟩ := List.mem_filter.mp held
    have known := mem_keys_entriesOf h (List.mem_flatten_of_mem phase member)
    rwa [of_decide_eq_true sized] at known
  refine Int.le_trans
    (Amount.total_le_groupTotals (trace.table.nodup_keys_entriesOf size) covered
      fun record held => above record (List.mem_of_mem_filter held)) ?_
  rw [Amount.groupTotals, Amount.exactTotal, Amount.exactTotal, List.map_map, List.map_map,
    List.map_map]
  refine List.sum_le_sum fun entry held => ?_
  rw [Function.comp_apply, Function.comp_apply, Function.comp_apply,
    peak_entries h (Table.mem_entriesOf.mp held).1]
  exact Int.le_trans
    (Amount.total_le_of_sublist ((List.filter_sublist.filter _).map _)
      (Amount.nonneg_map_filter above _))
    (Amount.le_greatest (List.mem_map_of_mem phase))

/-- No key of a size has more bytes in a phase than the size has. -/
theorem phaseBytes_le_size {phases : List (List (Record s))}
    (nonneg : ∀ record ∈ phases.flatten, 0 ≤ record.phaseBytes.val) (key : Key s)
    : (Amount.greatest (key.phaseBytes phases)).val
      ≤ (Amount.greatest (phases.map fun records =>
          .total ((records.filter (·.key.size = key.size)).map (·.phaseBytes)))).val := by
  refine Amount.greatest_le_iff.mpr ⟨Amount.greatest_nonneg _, ?_⟩
  refine List.forall_mem_map.mpr fun records phase => ?_
  have part : (records.filter (·.key = key)).Sublist
      (records.filter (·.key.size = key.size)) := by
    refine List.monotone_filter_right records fun record under => ?_
    simpa using congrArg Key.size (of_decide_eq_true under)
  have above : ∀ record ∈ records, 0 ≤ record.phaseBytes.val := fun record held =>
    nonneg record (List.mem_flatten_of_mem phase held)
  exact Int.le_trans
    (Amount.total_le_of_sublist (part.map _) (Amount.nonneg_map_filter above _))
    (Amount.le_greatest (List.mem_map_of_mem phase))

end Trace

-----------------------------------------------------------------------------------------
-- Series
-----------------------------------------------------------------------------------------

/-- How the point of a size whose slots were aggregated apart, with these peaks, stands to the point
of the size whose slots were aggregated together.
-/
structure SeriesPoint.Collapses (peaks : List Amount) (apart together : SeriesPoint) : Prop where
  size : together.size = apart.size
  count : together.count = apart.count
  rawBytes : together.rawBytes = apart.rawBytes
  strideBytes : together.strideBytes = apart.strideBytes
  peak_le : apart.peak.val ≤ together.peak.val
  le_peaks : together.peak.val ≤ min 9223372036854775807 (Amount.exactTotal peaks)

variable {phases : List (List (Record .proxy))} {index : Amount}

/-- The entries of records under one proxy index have it in their keys. -/
theorem Trace.key_onIndex {trace : Trace .proxy}
    (h : trace.Perm ((Record.onIndex index phases).flatMap Trace.ofPhase)) {entry : Entry .proxy}
    (member : entry ∈ trace.table.entries)
    : entry.key = .slot entry.key.size index := by
  obtain ⟨record, held, under⟩ := (mem_entries_keys h _).mp (List.mem_map_of_mem member)
  rw [Record.flatten_onIndex] at held
  obtain ⟨original, -, rfl⟩ := List.mem_map.mp held
  rw [← under, Record.key_withIndex]
  rfl

namespace Trace

variable {trace gathered : Trace .proxy}

/-- Records have their sizes under whatever proxy index. -/
theorem series_sizes_onIndex (h : trace.Perm (phases.flatMap Trace.ofPhase))
    (together : gathered.Perm ((Record.onIndex index phases).flatMap Trace.ofPhase))
    : (Summary.ofTable trace.table).series.map (·.size)
      = (Summary.ofTable gathered.table).series.map (·.size) := by
  refine Summary.series_sizes_eq fun size => ?_
  rw [mem_series_sizes h, mem_series_sizes together, Record.flatten_onIndex]
  simp only [List.mem_map, exists_exists_and_eq_and, Record.size_withIndex]

/-- Where a quantity is not negative, a point shows the same of it under one proxy index. -/
theorem ofPoint_onIndex (h : trace.Perm (phases.flatMap Trace.ofPhase))
    (together : gathered.Perm ((Record.onIndex index phases).flatMap Trace.ofPhase))
    {quantity : Quantity} (charted : quantity ≠ .fallbacks)
    (nonneg : ∀ record ∈ phases.flatten, 0 ≤ (quantity.amount record).val)
    {fine coarse : SeriesPoint} (apart : fine ∈ (Summary.ofTable trace.table).series)
    (member : coarse ∈ (Summary.ofTable gathered.table).series) (sized : coarse.size = fine.size)
    : quantity.ofPoint coarse = quantity.ofPoint fine := by
  have one : Amount.OneSigned
      ((phases.flatten.filter (·.key.size = fine.size)).map quantity.amount) :=
    Or.inl (Amount.nonneg_map_filter nonneg _)
  have same := quantity.amounts_onIndex index phases fine.size
  rw [ofPoint_oneSigned h charted apart one,
    ofPoint_oneSigned together charted member (by rwa [sized, same]), sized, same]

/-- Under one proxy index a point peaks at the greatest number of bytes that a phase has under its
size.
-/
theorem peak_onIndex
    (together : gathered.Perm ((Record.onIndex index phases).flatMap Trace.ofPhase))
    {point : SeriesPoint} (member : point ∈ (Summary.ofTable gathered.table).series)
    : point.peak
      = .greatest (phases.map fun records =>
          .total ((records.filter (·.key.size = point.size)).map (·.phaseBytes))) := by
  have slot (entry : Entry .proxy) (held : entry ∈ gathered.table.entriesOf point.size)
      : entry.key = .slot point.size index := by
    obtain ⟨listed, sized⟩ := Table.mem_entriesOf.mp held
    rw [key_onIndex together listed, sized]
  obtain ⟨⟨entry, listed, sized⟩, -⟩ := Summary.mem_series.mp member
  have held := Table.mem_entriesOf.mpr ⟨listed, sized⟩
  have least := ((peak_point_le_iff together member).mp (Int.le_refl _)).2 entry held
  rw [slot entry held] at least
  rw [← Key.phaseBytes_onIndex index]
  ext
  refine Int.le_antisymm ((peak_point_le_iff together member).mpr ?_) least
  refine ⟨Amount.greatest_nonneg _, fun other ofSize => ?_⟩
  rw [slot other ofSize]

/-- Taken together, the slots of a size peak at least as high as the highest of them. -/
theorem peak_le_onIndex (h : trace.Perm (phases.flatMap Trace.ofPhase))
    (together : gathered.Perm ((Record.onIndex index phases).flatMap Trace.ofPhase))
    (nonneg : ∀ record ∈ phases.flatten, 0 ≤ record.phaseBytes.val) {fine coarse : SeriesPoint}
    (apart : fine ∈ (Summary.ofTable trace.table).series)
    (member : coarse ∈ (Summary.ofTable gathered.table).series) (sized : coarse.size = fine.size)
    : fine.peak.val ≤ coarse.peak.val := by
  rw [peak_onIndex together member, sized]
  refine (peak_point_le_iff h apart).mpr ⟨Amount.greatest_nonneg _, fun entry held => ?_⟩
  have below := phaseBytes_le_size nonneg entry.key
  rwa [(Table.mem_entriesOf.mp held).2] at below

/-- Taken together, the slots of a size peak at most as high as all of them added up. -/
theorem peak_onIndex_le_peaks (h : trace.Perm (phases.flatMap Trace.ofPhase))
    (together : gathered.Perm ((Record.onIndex index phases).flatMap Trace.ofPhase))
    (nonneg : ∀ record ∈ phases.flatten, 0 ≤ record.phaseBytes.val) {point : SeriesPoint}
    (member : point ∈ (Summary.ofTable gathered.table).series)
    : point.peak.val
      ≤ Amount.exactTotal ((trace.table.entriesOf point.size).map (·.figures.peak)) := by
  rw [peak_onIndex together member]
  refine Amount.greatest_le_iff.mpr ⟨?_, ?_⟩
  · refine Amount.exactTotal_nonneg (List.forall_mem_map.mpr fun entry held => ?_)
    rw [peak_entries h (Table.mem_entriesOf.mp held).1]
    exact Amount.greatest_nonneg _
  · exact List.forall_mem_map.mpr fun records phase =>
      total_size_le_peaks h nonneg phase point.size

end Trace

/-- If no record adds anything negative, then under every schedule the series of the slots and the
series of the same phases under one proxy index have the same sizes, counts and byte sums, point by
point; the peak of a size is at least as great under one index, and at most the sum of the peaks that
the keys of the size have apart.
-/
theorem Table.Ingests.series_collapses {parallel together : Bool} {table gathered : Table .proxy}
    (ingested : Table.Ingests phases parallel table)
    (onIndex : Table.Ingests (Record.onIndex index phases) together gathered)
    (nonneg : ∀ record ∈ phases.flatten, ∀ quantity ≠ Quantity.fallbacks,
      0 ≤ (quantity.amount record).val)
    : List.Forall₂
        (fun fine coarse =>
          fine.Collapses ((table.entriesOf fine.size).map (·.figures.peak)) coarse)
        (Summary.ofTable table).series (Summary.ofTable gathered).series := by
  obtain ⟨trace, apart, rfl⟩ := ingested.exists_trace
  obtain ⟨gathered, joined, rfl⟩ := onIndex.exists_trace
  have each (quantity : Quantity) (charted : quantity ≠ .fallbacks)
      : ∀ record ∈ phases.flatten, 0 ≤ (quantity.amount record).val :=
    fun record member => nonneg record member quantity charted
  have bytes : ∀ record ∈ phases.flatten, 0 ≤ record.phaseBytes.val := by
    intro record member
    cases record
    exact each .strideBytes (by decide) _ member
  have sizes := Trace.series_sizes_onIndex apart joined
  rw [Summary.series_eq (.ofTable trace.table), Summary.series_eq (.ofTable gathered.table), ← sizes,
    List.forall₂_map_left_iff, List.forall₂_map_right_iff, List.forall₂_same]
  intro size member
  have fine := Summary.of_mem_series (Summary.mem_series_sizes.mp member)
  have coarse := Summary.of_mem_series (Summary.mem_series_sizes.mp (sizes ▸ member))
  have sums (quantity : Quantity) (charted : quantity ≠ .fallbacks) :=
    Trace.ofPoint_onIndex apart joined charted (each quantity charted) fine coarse rfl
  exact {
    size := rfl
    count := Option.some.inj (sums .count (by decide))
    rawBytes := Option.some.inj (sums .rawBytes (by decide))
    strideBytes := sums .strideBytes (by decide)
    peak_le := Trace.peak_le_onIndex apart joined bytes fine coarse rfl
    le_peaks :=
      le_min (SeriesPoint.peak _).upper (Trace.peak_onIndex_le_peaks apart joined bytes coarse)
  }

/-- Two slots of a size that peak in different phases, one with a count that saturates. -/
def unevenPhases : List (List (Record .proxy)) :=
  [
    [
      .proxy (.clamp 24) (.clamp 8) (.clamp 1) (.clamp 9223372036854775807) 0 (.clamp 24)
        (.clamp 64),
      .proxy (.clamp 24) (.clamp 8) (.clamp 2) (.clamp 5) (.clamp (-3)) (.clamp 24) (.clamp 32)
    ],
    [
      .proxy (.clamp 24) (.clamp 8) (.clamp 1) (.clamp 1) 0 (.clamp 10) (.clamp 10),
      .proxy (.clamp 24) (.clamp 8) (.clamp 2) (.clamp 1) 0 (.clamp 10) (.clamp 50)
    ]
  ]

/-- Apart the slots peak at 64 and 50 bytes, so their point at 64; together they reach 96. -/
theorem unevenPhases_collapse
    : (∀ record ∈ unevenPhases.flatten, ∀ quantity ≠ Quantity.fallbacks,
        0 ≤ (quantity.amount record).val)
      ∧ (Table.entriesOf (.ingestInOrder unevenPhases) (.clamp 24)).map (·.figures.peak)
        = [.clamp 64, .clamp 50]
      ∧ (Summary.ofTable (.ingestInOrder unevenPhases)).series.map (·.peak) = [.clamp 64]
      ∧ (Summary.ofTable (.ingestInOrder (Record.onIndex 0 unevenPhases))).series.map (·.peak)
        = [.clamp 96]
      ∧ List.Forall₂
        (fun fine coarse =>
          fine.Collapses
            ((Table.entriesOf (.ingestInOrder unevenPhases) fine.size).map (·.figures.peak))
            coarse)
        (Summary.ofTable (.ingestInOrder unevenPhases)).series
        (Summary.ofTable (.ingestInOrder (Record.onIndex 0 unevenPhases))).series := by
  have nonneg : ∀ record ∈ unevenPhases.flatten, ∀ quantity ≠ Quantity.fallbacks,
      0 ≤ (quantity.amount record).val := by
    intro record held quantity
    revert record
    cases quantity <;> decide
  have apart : Table.Ingests unevenPhases false (.ingestInOrder unevenPhases) := .inOrder
  have together : Table.Ingests (Record.onIndex 0 unevenPhases) false
      (.ingestInOrder (Record.onIndex 0 unevenPhases)) := .inOrder
  exact ⟨nonneg, by decide +kernel, by decide +kernel, by decide +kernel,
    apart.series_collapses together nonneg⟩

end AllocTrace
