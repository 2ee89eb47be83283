import AllocTrace.Csv
import Mathlib.Data.List.Basic

/-! How bytes are cut into records. Main statements: a line break outside quotes separates what
stands before it from what follows, bare cells between commas are one record, and a line that
leaves its quotes open takes the lines below it into its last field.
-/

namespace AllocTrace.Csv

namespace Splitter

-----------------------------------------------------------------------------------------
-- One byte
-----------------------------------------------------------------------------------------

/-- The byte opens no quotes and separates nothing. -/
structure Bare (b : UInt8) : Prop where
  noQuote : isQuote b = false
  noComma : isComma b = false
  noBreak : isBreak b = false

/-- The fields of the open record, as they would be if it were closed here. -/
def record (s : Splitter) : RawRecord :=
  (s.field.reverse :: s.fields).reverse

theorem isBreak_iff {b : UInt8}
    : isBreak b = true ↔ b = 0x0a ∨ b = 0x0d := by
  simp [isBreak]

theorem isQuote_of_isBreak {b : UInt8} (h : isBreak b = true)
    : isQuote b = false := by
  rcases isBreak_iff.mp h with rfl | rfl <;> decide

theorem isComma_of_isBreak {b : UInt8} (h : isBreak b = true)
    : isComma b = false := by
  rcases isBreak_iff.mp h with rfl | rfl <;> decide

/-- Outside quotes a bare byte joins the open field. -/
theorem push_bare {s : Splitter} {b : UInt8} (bare : Bare b) (closed : s.mode ≠ .quoted)
    : s.push b = s.append .unquoted b := by
  cases mode : s.mode <;>
    simp_all [push, pushFirst, pushBare, bare.noQuote, bare.noComma, bare.noBreak]

/-- Outside quotes a comma closes the open field. -/
theorem push_comma {s : Splitter} (closed : s.mode ≠ .quoted)
    : s.push 0x2c = s.closeField := by
  cases mode : s.mode <;>
    simp_all [push, pushFirst, pushBare, isQuote, isComma, isBreak]

/-- Outside quotes a line break does what the end of the input does. -/
theorem push_break {s : Splitter} {b : UInt8} (h : isBreak b = true) (closed : s.mode ≠ .quoted)
    : s.push b = s.finish := by
  cases mode : s.mode <;>
    simp_all [push, pushFirst, pushBare, finish, isQuote_of_isBreak h, isComma_of_isBreak h]

/-- Inside quotes any byte but a quote joins the open field. -/
theorem push_quoted {s : Splitter} {b : UInt8} (h : isQuote b = false) (opened : s.mode = .quoted)
    : s.push b = s.append .quoted b := by
  simp [push, opened, h]

/-- Only a line break closes a record, and any other byte opens one. -/
theorem push_no_break (s : Splitter) {b : UInt8} (h : isBreak b = false)
    : (s.push b).mode ≠ .recordStart ∧ (s.push b).records = s.records := by
  fun_cases push s b <;> grind [pushFirst, pushBare, append, closeField]

/-- Nothing is held of a record that has not begun. -/
def WellFormed (s : Splitter) : Prop :=
  s.mode = .recordStart → s.field = [] ∧ s.fields = []

theorem WellFormed.push {s : Splitter} (h : s.WellFormed) (b : UInt8)
    : (s.push b).WellFormed := by
  unfold WellFormed at *
  fun_cases Splitter.push s b <;> grind [pushFirst, pushBare, append, closeField, closeRecord]

/-- The splitter with records closed before its own. -/
def following (s : Splitter) (earlier : List RawRecord) : Splitter :=
  { s with records := s.records ++ earlier }

/-- Records closed before do not change what a byte does. -/
theorem push_following (s : Splitter) (earlier : List RawRecord) (b : UInt8)
    : (s.following earlier).push b = (s.push b).following earlier := by
  fun_cases push s b <;>
    grind [following, push, pushFirst, pushBare, append, closeField, closeRecord]

-----------------------------------------------------------------------------------------
-- Many bytes
-----------------------------------------------------------------------------------------

theorem wellFormed_foldl (bytes : List UInt8) {s : Splitter} (h : s.WellFormed)
    : (bytes.foldl push s).WellFormed := by
  induction bytes generalizing s with
  | nil => exact h
  | cons b rest ih => exact ih (h.push b)

theorem foldl_following (bytes : List UInt8) (s : Splitter) (earlier : List RawRecord)
    : bytes.foldl push (s.following earlier) = (bytes.foldl push s).following earlier := by
  induction bytes generalizing s with
  | nil => rfl
  | cons b rest ih => rw [List.foldl_cons, push_following, ih, List.foldl_cons]

theorem finish_following (s : Splitter) (earlier : List RawRecord)
    : (s.following earlier).finish = s.finish.following earlier := by
  unfold finish
  by_cases h : s.mode = .recordStart <;> simp [following, closeRecord, h]

/-- Closed records are all that a finished splitter holds. -/
theorem WellFormed.finish_eq {s : Splitter} (h : s.WellFormed)
    : s.finish = start.following s.finish.records := by
  unfold finish
  split
  · rename_i mode
    obtain ⟨field, fields⟩ := h mode
    cases s
    simp_all [start, following]
  · rfl

/-- Bare bytes outside quotes join the open field. -/
theorem foldl_bare {bytes : List UInt8} (bare : ∀ b ∈ bytes, Bare b) {s : Splitter}
    (closed : s.mode ≠ .quoted)
    : (bytes.foldl push s).mode ≠ .quoted
      ∧ (bytes.foldl push s).field = bytes.reverse ++ s.field
      ∧ (bytes.foldl push s).fields = s.fields := by
  induction bytes generalizing s with
  | nil => exact ⟨closed, rfl, rfl⟩
  | cons b rest ih =>
      obtain ⟨first, others⟩ := List.forall_mem_cons.mp bare
      rw [List.foldl_cons, push_bare first closed]
      obtain ⟨mode, field, fields⟩ := ih others (s := s.append .unquoted b) (by simp [append])
      refine ⟨mode, ?_, fields⟩
      rw [field]
      simp [append]

/-- Bytes without a quote, once inside quotes, join the open field. -/
theorem foldl_quoted {bytes : List UInt8} (h : ∀ b ∈ bytes, isQuote b = false) {s : Splitter}
    (opened : s.mode = .quoted)
    : bytes.foldl push s = { s with field := bytes.reverse ++ s.field } := by
  induction bytes generalizing s with
  | nil => rfl
  | cons b rest ih =>
      obtain ⟨first, others⟩ := List.forall_mem_cons.mp h
      rw [List.foldl_cons, push_quoted first opened, ih others rfl]
      simp [append, opened]

theorem foldl_no_break {bytes : List UInt8} (h : ∀ b ∈ bytes, isBreak b = false) (s : Splitter)
    : (bytes.foldl push s).records = s.records
      ∧ (bytes ≠ [] → (bytes.foldl push s).mode ≠ .recordStart) := by
  induction bytes generalizing s with
  | nil => exact ⟨rfl, fun empty => absurd rfl empty⟩
  | cons b rest ih =>
      obtain ⟨first, others⟩ := List.forall_mem_cons.mp h
      obtain ⟨mode, records⟩ := push_no_break s first
      obtain ⟨kept, begun⟩ := ih others (s.push b)
      refine ⟨kept.trans records, fun _ => ?_⟩
      cases rest with
      | nil => exact mode
      | cons _ _ => exact begun (by simp)

/-- Bare cells between commas are the fields that they close, by induction on the cells. -/
theorem foldl_cells {cells : List (List UInt8)} (present : cells ≠ [])
    (bare : ∀ cell ∈ cells, ∀ b ∈ cell, Bare b) {s : Splitter} (closed : s.mode ≠ .quoted)
    (empty : s.field = [])
    : (([0x2c].intercalate cells).foldl push s).mode ≠ .quoted
      ∧ (([0x2c].intercalate cells).foldl push s).record = s.fields.reverse ++ cells := by
  induction cells generalizing s with
  | nil => contradiction
  | cons cell rest ih =>
      obtain ⟨first, others⟩ := List.forall_mem_cons.mp bare
      obtain ⟨mode, field, fields⟩ := foldl_bare first closed
      rw [empty, List.append_nil] at field
      cases rest with
      | nil =>
          rw [List.intercalate_singleton]
          exact ⟨mode, by simp [record, field, fields]⟩
      | cons next later =>
          rw [List.intercalate_cons_cons, List.foldl_append, List.foldl_append, List.foldl_cons,
            List.foldl_nil, push_comma mode]
          obtain ⟨outside, shown⟩ :=
            ih (by simp) others (s := (cell.foldl push s).closeField) (by simp [closeField]) rfl
          refine ⟨outside, ?_⟩
          rw [shown]
          simp [closeField, field, fields]

end Splitter

-----------------------------------------------------------------------------------------
-- Whole inputs
-----------------------------------------------------------------------------------------

open Splitter

/-- The records of the bytes, read to their end. -/
def split (bytes : List UInt8) : List RawRecord :=
  (bytes.foldl push start).finish.records.reverse

/-- The bytes end outside quotes. -/
def IsClosed (bytes : List UInt8) : Prop :=
  (bytes.foldl push start).mode ≠ .quoted

instance (bytes : List UInt8) : Decidable (IsClosed bytes) :=
  inferInstanceAs (Decidable (_ ≠ _))

theorem wellFormed_start
    : start.WellFormed :=
  fun _ => ⟨rfl, rfl⟩

@[simp]
theorem split_nil
    : split [] = [] :=
  rfl

theorem isClosed_nil
    : IsClosed [] := by
  simp [IsClosed, start]

/-- A line break outside quotes separates the records before it from those after it: it leaves the
splitter as it started but for the records closed so far.
-/
theorem split_append_break {front : List UInt8} (closed : IsClosed front) {b : UInt8}
    (h : isBreak b = true) (rest : List UInt8)
    : split (front ++ b :: rest) = split front ++ split rest := by
  have finished := (wellFormed_foldl front wellFormed_start).finish_eq
  unfold split
  rw [List.foldl_append, List.foldl_cons, push_break h closed, finished, foldl_following,
    finish_following]
  simp [following, start]

/-- Line breaks alone hold no record. -/
theorem split_breaks {breaks : List UInt8} (h : ∀ b ∈ breaks, isBreak b = true)
    (rest : List UInt8)
    : split (breaks ++ rest) = split rest := by
  induction breaks with
  | nil => rfl
  | cons b later ih =>
      obtain ⟨first, others⟩ := List.forall_mem_cons.mp h
      exact (split_append_break isClosed_nil first (later ++ rest)).trans (ih others)

/-- A line that is not empty is one record. -/
theorem split_line {line : List UInt8} (present : line ≠ [])
    (h : ∀ b ∈ line, isBreak b = false)
    : split line = [(line.foldl push start).record] := by
  obtain ⟨kept, begun⟩ := foldl_no_break h start
  have records : (line.foldl push start).records = [] := kept
  unfold split
  rw [finish, if_neg (begun present)]
  simp [closeRecord, record, records]

theorem mem_intercalate {α : Type} {separator a : α} {cells : List (List α)}
    (h : a ∈ [separator].intercalate cells)
    : a = separator ∨ ∃ cell ∈ cells, a ∈ cell := by
  induction cells with
  | nil => simp at h
  | cons cell rest ih =>
      cases rest with
      | nil =>
          rw [List.intercalate_singleton] at h
          exact Or.inr ⟨cell, List.mem_cons_self, h⟩
      | cons next later =>
          simp only [List.intercalate_cons_cons, List.mem_append, List.mem_singleton] at h
          rcases h with (here | same) | behind
          · exact Or.inr ⟨cell, List.mem_cons_self, here⟩
          · exact Or.inl same
          · exact (ih behind).imp_right fun ⟨found, member, inside⟩ =>
              ⟨found, List.mem_cons_of_mem _ member, inside⟩

/-- Bare cells between commas are one record. -/
theorem split_cells {cells : List (List UInt8)} (bare : ∀ cell ∈ cells, ∀ b ∈ cell, Bare b)
    (present : [0x2c].intercalate cells ≠ [])
    : IsClosed ([0x2c].intercalate cells) ∧ split ([0x2c].intercalate cells) = [cells] := by
  have some : cells ≠ [] := by
    rintro rfl
    exact present rfl
  have oneLine : ∀ b ∈ [0x2c].intercalate cells, isBreak b = false := by
    intro b member
    rcases mem_intercalate member with rfl | ⟨cell, found, inside⟩
    · decide
    · exact (bare cell found b inside).noBreak
  obtain ⟨closed, shown⟩ := foldl_cells some bare (s := start) (by simp [start]) rfl
  refine ⟨closed, ?_⟩
  rw [split_line present oneLine, shown]
  rfl

/-- A line that leaves its quotes open takes all that follows without a quote into its last field.
-/
theorem split_open {line : List UInt8} (h : ∀ b ∈ line, isBreak b = false)
    (opened : ¬ IsClosed line)
    : ∃ fields field, ∀ rest : List UInt8,
        (∀ b ∈ rest, isQuote b = false) → split (line ++ rest) = [fields ++ [field ++ rest]] := by
  have mode : (line.foldl push start).mode = .quoted := not_not.mp opened
  refine ⟨(line.foldl push start).fields.reverse, (line.foldl push start).field.reverse, ?_⟩
  intro rest quoteless
  have records : (line.foldl push start).records = [] := (foldl_no_break h start).1
  unfold split
  rw [List.foldl_append, foldl_quoted quoteless mode, finish, if_neg (by simp [mode])]
  simp [closeRecord, records]

-----------------------------------------------------------------------------------------
-- Sources
-----------------------------------------------------------------------------------------

theorem Source.records_eq {source : Source} (h : source.fails = false)
    : source.records = split source.text := by
  simp [records, split, h]

/-- An ASCII text has no byte-order mark, however it is delivered. -/
theorem Source.text_of_ascii {source : Source} (ascii : ∀ b ∈ source.bytes, b.toNat < 128)
    : source.text = source.bytes := by
  have mark : 0xef ∉ source.bytes.take source.firstRead := by
    intro member
    exact absurd (ascii _ (List.mem_of_mem_take member)) (by decide)
  unfold text
  split
  · rename_i same
    simp [same] at mark
  · rename_i same
    simp [same] at mark
  · rfl

/-- A line break is no part of a byte-order mark. -/
theorem Source.text_append_break {front : List UInt8} {firstRead : Nat}
    (present : (Source.mk front false firstRead).text ≠ []) (rest : List UInt8)
    : (Source.mk (front ++ 0x0a :: rest) false firstRead).text
      = (Source.mk front false firstRead).text ++ 0x0a :: rest := by
  unfold text at *
  match firstRead, front with
  | 0, _ => simp
  | n + 1, [] => simp
  | 1, a :: tail => simp
  | 2, a :: tail => cases tail <;> simp
  | n + 3, [a] => simp
  | n + 3, [a, b] => simp
  | 3, a :: b :: c :: tail =>
      -- Nothing is left of a text that is delivered as its mark first.
      by_cases mark : a = 0xef ∧ b = 0xbb ∧ c = 0xbf
      · obtain ⟨rfl, rfl, rfl⟩ := mark
        simp at present
      · simp_all
  | n + 4, a :: b :: c :: tail =>
      by_cases mark : a = 0xef ∧ b = 0xbb ∧ c = 0xbf
      · obtain ⟨rfl, rfl, rfl⟩ := mark
        cases tail with
        | nil => simp at present
        | cons d more => simp
      · simp_all

end AllocTrace.Csv
