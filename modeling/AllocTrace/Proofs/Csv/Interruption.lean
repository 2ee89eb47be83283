import AllocTrace.Proofs.Csv.Splitting

/-! Sources that fail early. Main statements: a source that fails behind some of its bytes delivers
the first of the records that it would have delivered, one for each line break outside quotes that
ends a record.
-/

namespace AllocTrace.Csv

namespace Splitter

-----------------------------------------------------------------------------------------
-- Ends of records
-----------------------------------------------------------------------------------------

/-- The byte is a line break outside quotes behind a record that has begun. -/
def endsRecord (s : Splitter) (b : UInt8) : Bool :=
  isBreak b && s.mode ≠ .quoted && s.mode ≠ .recordStart

/-- How many records the bytes end. -/
def ends (s : Splitter) : List UInt8 → Nat
  | [] => 0
  | b :: rest => (if s.endsRecord b then 1 else 0) + (s.push b).ends rest

/-- A byte closes the open record or none, by cases on the byte and on the mode. -/
theorem records_push (s : Splitter) (b : UInt8)
    : (s.push b).records = if s.endsRecord b then s.record :: s.records else s.records := by
  by_cases h : isBreak b = true
  · by_cases opened : s.mode = .quoted
    · rw [push_quoted (isQuote_of_isBreak h) opened]
      simp [endsRecord, opened, append]
    · rw [push_break h opened]
      by_cases fresh : s.mode = .recordStart
      · simp [finish, endsRecord, fresh]
      · simp [finish, endsRecord, fresh, opened, h, closeRecord, record]
  · have other : isBreak b = false := Bool.eq_false_iff.mpr h
    rw [(push_no_break s other).2]
    simp [endsRecord, other]

/-- Closed records stay, and those that the bytes end come before them. By induction on the bytes. -/
theorem records_foldl (bytes : List UInt8) (s : Splitter)
    : ∃ later,
        (bytes.foldl push s).records = later ++ s.records ∧ later.length = s.ends bytes := by
  induction bytes generalizing s with
  | nil => exact ⟨[], rfl, rfl⟩
  | cons b rest ih =>
      obtain ⟨later, kept, count⟩ := ih (s.push b)
      rw [records_push] at kept
      by_cases h : s.endsRecord b = true
      · refine ⟨later ++ [s.record], ?_, ?_⟩
        · rw [List.foldl_cons, kept, if_pos h, List.append_assoc, List.singleton_append]
        · rw [List.length_append, List.length_singleton, count, ends, if_pos h, Nat.add_comm]
      · refine ⟨later, ?_, ?_⟩
        · rw [List.foldl_cons, kept, if_neg h]
        · rw [count, ends, if_neg h, Nat.zero_add]

/-- The end of the input adds the open record at most. -/
theorem records_finish (s : Splitter)
    : s.records <:+ s.finish.records := by
  unfold finish
  split
  · exact List.suffix_rfl
  · exact List.suffix_cons _ _

end Splitter

namespace Source

open Splitter

-----------------------------------------------------------------------------------------
-- Sources cut short
-----------------------------------------------------------------------------------------

/-- The source that delivers its first bytes as before, and then fails. -/
def cut (source : Source) (length : Nat) : Source :=
  { bytes := source.bytes.take length, fails := true, firstRead := source.firstRead }

/-- The bytes of a byte-order mark. -/
def mark : List UInt8 := [0xef, 0xbb, 0xbf]

theorem text_of_unmarked {source : Source} (h : ¬ mark <+: source.bytes.take source.firstRead)
    : source.text = source.bytes := by
  unfold text
  split
  · rename_i same
    exact absurd (same ▸ List.prefix_rfl) h
  · rename_i rest _ same
    exact absurd (same ▸ ⟨rest, rfl⟩) h
  · rfl

/-- Behind its mark the text is all there, unless the first read delivers nothing of it. -/
theorem text_marked (rest : List UInt8) (fails : Bool) (n : Nat)
    : (Source.mk (mark ++ rest) fails (n + 3)).text = if rest.take n = [] then [] else rest := by
  cases h : rest.take n <;> simp [text, mark, h]

/-- A cut text begins the whole one, unless a byte-order mark is cut, and then it has no line break.
-/
theorem text_cut (source : Source) (length : Nat)
    : (source.cut length).text <+: source.text
      ∨ ∀ b ∈ (source.cut length).text, isBreak b = false := by
  by_cases marked : mark <+: source.bytes.take source.firstRead
  · obtain ⟨bytes, fails, firstRead⟩ := source
    obtain ⟨rest, rfl⟩ := marked.trans (List.take_prefix _ _)
    obtain ⟨n, rfl⟩ : ∃ n, firstRead = n + 3 := by
      have long := marked.length_le
      rw [List.length_take] at long
      exact Nat.exists_eq_add_of_le' (Nat.le_trans long (Nat.min_le_left _ _))
    match length with
    | 0 | 1 | 2 =>
        refine Or.inr ?_
        simp [cut, text, mark, isBreak]
    | m + 3 =>
        refine Or.inl ?_
        have front : cut { bytes := mark ++ rest, fails := fails, firstRead := n + 3 } (m + 3)
            = { bytes := mark ++ rest.take m, fails := true, firstRead := n + 3 } := rfl
        rw [front, text_marked, text_marked]
        split
        · exact List.nil_prefix
        · rename_i present
          rw [if_neg]
          · exact List.take_prefix m rest
          · intro nothing
            rw [List.take_take, Nat.min_comm, ← List.take_take, nothing] at present
            exact present List.take_nil
  · have unmarked : ¬ mark <+: (source.cut length).bytes.take (source.cut length).firstRead := by
      intro shown
      refine marked (shown.trans ?_)
      rw [cut, List.take_take, Nat.min_comm, ← List.take_take]
      exact List.take_prefix _ _
    rw [text_of_unmarked marked, text_of_unmarked unmarked]
    exact Or.inl (List.take_prefix _ _)

theorem records_of_fails {source : Source} (h : source.fails = true)
    : source.records = (source.text.foldl push start).records.reverse := by
  simp [records, h]

/-- A source that fails delivers a record for each record that its text ends. -/
theorem length_records_cut (source : Source) (length : Nat)
    : (source.cut length).records.length = start.ends (source.cut length).text := by
  obtain ⟨later, kept, count⟩ := records_foldl (source.cut length).text start
  rw [records_of_fails rfl, List.length_reverse, kept, ← count]
  simp [start]

/-- A source cut short delivers the first of its records: a record that the cut falls into is not
delivered, and nothing behind it.
-/
theorem records_cut (source : Source) (length : Nat)
    : (source.cut length).records <+: source.records := by
  rcases source.text_cut length with ⟨rest, whole⟩ | unbroken
  · have kept : ((source.cut length).text.foldl push start).records
        <:+ (source.text.foldl push start).records := by
      obtain ⟨later, kept, -⟩ :=
        records_foldl rest ((source.cut length).text.foldl push start)
      rw [← whole, List.foldl_append, kept]
      exact List.suffix_append _ _
    rw [records_of_fails rfl, records, List.reverse_prefix]
    split
    · exact kept
    · exact kept.trans (records_finish _)
  · have nothing : (source.cut length).records = [] := by
      rw [records_of_fails rfl, (foldl_no_break unbroken start).1]
      rfl
    rw [nothing]
    exact List.nil_prefix

end Source

end AllocTrace.Csv
