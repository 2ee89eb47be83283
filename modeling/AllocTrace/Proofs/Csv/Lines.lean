import AllocTrace.Proofs.Csv.Splitting
import AllocTrace.Proofs.Text.Encoding

/-! Written lines. Lines of closed quotes are cut one by one, whatever the line ends and the empty
lines between them, and cells written between commas are found again.
-/

namespace AllocTrace.Csv

open Splitter
open Text (encode)

-----------------------------------------------------------------------------------------
-- Characters and their bytes
-----------------------------------------------------------------------------------------

/-- The text separates nothing and opens no quotes. -/
def IsBare (cs : List Char) : Prop :=
  ∀ c ∈ cs, c ≠ ',' ∧ c ≠ '"' ∧ c ≠ '\n' ∧ c ≠ '\r'

/-- The text stands on one line. -/
def IsLine (cs : List Char) : Prop :=
  ∀ c ∈ cs, c ≠ '\n' ∧ c ≠ '\r'

instance (cs : List Char) : Decidable (IsLine cs) :=
  List.decidableBAll (fun c => c ≠ '\n' ∧ c ≠ '\r') cs

/-- Line ends without anything between them: any mix of LF, CRLF and CR. -/
def AreBreaks (cs : List Char) : Prop :=
  ∀ c ∈ cs, c = '\n' ∨ c = '\r'

instance (cs : List Char) : Decidable (AreBreaks cs) :=
  List.decidableBAll (fun c => c = '\n' ∨ c = '\r') cs

/-- A text without an ASCII character is written without its byte. -/
theorem ne_of_mem_encode {cs : List Char} {c : Char} (ascii : c.toNat < 128) (absent : c ∉ cs)
    : ∀ b ∈ encode cs, b ≠ UInt8.ofNat c.toNat := by
  rintro b member rfl
  refine Text.toNat_ne_of_mem_encode ascii ?_ _ member
    (UInt8.toNat_ofNat_of_lt' (Nat.lt_trans ascii (by decide)))
  intro d found same
  exact absent (Char.toNat_inj.mp same ▸ found)

theorem isQuote_of_mem_encode {cs : List Char} (h : '"' ∉ cs)
    : ∀ b ∈ encode cs, isQuote b = false := by
  intro b member
  exact beq_false_of_ne (ne_of_mem_encode (c := '"') (by decide) h b member)

theorem isBreak_of_mem_encode {cs : List Char} (h : IsLine cs)
    : ∀ b ∈ encode cs, isBreak b = false := by
  intro b member
  have lf := ne_of_mem_encode (c := '\n') (by decide) (fun found => (h _ found).1 rfl) b member
  have cr := ne_of_mem_encode (c := '\r') (by decide) (fun found => (h _ found).2 rfl) b member
  exact Bool.or_eq_false_iff.mpr ⟨beq_false_of_ne lf, beq_false_of_ne cr⟩

theorem bare_of_mem_encode {cs : List Char} (h : IsBare cs)
    : ∀ b ∈ encode cs, Bare b := by
  intro b member
  have comma := ne_of_mem_encode (c := ',') (by decide) (fun found => (h _ found).1 rfl) b member
  exact {
    noQuote := isQuote_of_mem_encode (fun found => (h _ found).2.1 rfl) b member
    noComma := beq_false_of_ne comma
    noBreak := isBreak_of_mem_encode (fun c found => (h c found).2.2) b member
  }

theorem encode_breaks {ends : List Char} (h : AreBreaks ends)
    : ∀ b ∈ encode ends, isBreak b = true := by
  intro b member
  obtain ⟨c, found, byte⟩ := List.mem_flatMap.mp member
  rcases h c found with rfl | rfl
  · rw [Text.utf8EncodeChar_ascii (by decide)] at byte
    rw [List.mem_singleton.mp byte]
    decide
  · rw [Text.utf8EncodeChar_ascii (by decide)] at byte
    rw [List.mem_singleton.mp byte]
    decide

-----------------------------------------------------------------------------------------
-- Cells between commas
-----------------------------------------------------------------------------------------

/-- The cells on one line, between commas. -/
def joined (cells : List (List Char)) : List Char :=
  [','].intercalate cells

theorem encode_joined (cells : List (List Char))
    : encode (joined cells) = [0x2c].intercalate (cells.map encode) := by
  unfold joined
  induction cells with
  | nil => rfl
  | cons cell rest ih =>
      cases rest with
      | nil => simp
      | cons next later =>
          rw [List.intercalate_cons_cons, Text.encode_append, Text.encode_append, ih]
          simp only [List.map_cons, List.intercalate_cons_cons]
          rfl

theorem joined_ne_nil {cells : List (List Char)} (wide : 2 ≤ cells.length)
    : joined cells ≠ [] := by
  match cells with
  | first :: second :: rest => simp [joined, List.intercalate_cons_cons]

/-- The fields of encoded cells are the cells. -/
theorem cells?_encode (cells : List (List Char))
    : RawRecord.cells? (cells.map encode) = some (cells.map String.ofList) := by
  unfold RawRecord.cells?
  induction cells with
  | nil => rfl
  | cons cell rest ih => simp [List.mapM_cons, Text.decode?_encode, ih]

theorem cells?_concat {fields : RawRecord} {field : List UInt8} {cells : List String}
    : RawRecord.cells? (fields ++ [field]) = some cells
      ↔ ∃ known last,
          fields.cells? = some known
          ∧ Text.decode? field = some last
          ∧ cells = known ++ [last] := by
  unfold RawRecord.cells?
  rw [List.mapM_append]
  constructor
  · intro read
    obtain ⟨known, front, read⟩ := Option.bind_eq_some_iff.mp read
    obtain ⟨behind, back, whole⟩ := Option.bind_eq_some_iff.mp read
    rw [List.mapM_cons, List.mapM_nil] at back
    obtain ⟨last, single, back⟩ := Option.bind_eq_some_iff.mp back
    cases back
    exact ⟨known, last, front, single, (Option.some.inj whole).symm⟩
  · rintro ⟨known, last, front, single, rfl⟩
    simp [front, single]

/-- Bare cells between commas are found again, if there are enough of them to make a line. -/
theorem split_joined {cells : List (List Char)} (bare : ∀ cell ∈ cells, IsBare cell)
    (wide : 2 ≤ cells.length)
    : IsClosed (encode (joined cells)) ∧ split (encode (joined cells)) = [cells.map encode] := by
  rw [encode_joined]
  apply split_cells
  · intro bytes member
    obtain ⟨cell, found, rfl⟩ := List.mem_map.mp member
    exact bare_of_mem_encode (bare cell found)
  · rw [← encode_joined]
    exact Text.encode_ne_nil (joined_ne_nil wide)

-----------------------------------------------------------------------------------------
-- Lines
-----------------------------------------------------------------------------------------

/-- The text is the lines one below the other. Each ends in LF, CRLF or CR, with any number of empty
lines behind it; the last need not end.
-/
inductive Lined : List (List Char) → List Char → Prop
  | last (line ends : List Char) (h : AreBreaks ends) : Lined [line] (line ++ ends)
  | next (line ends : List Char) (h : AreBreaks ends) (present : ends ≠ [])
    {lines : List (List Char)} {text : List Char} (rest : Lined lines text)
    : Lined (line :: lines) (line ++ ends ++ text)

theorem split_line_ends {line ends : List Char} (closed : IsClosed (encode line))
    (h : AreBreaks ends) (present : ends ≠ []) (rest : List UInt8)
    : split (encode (line ++ ends) ++ rest) = split (encode line) ++ split rest := by
  rw [Text.encode_append, List.append_assoc]
  have breaks := encode_breaks h
  cases shown : encode ends with
  | nil => exact absurd shown (Text.encode_ne_nil present)
  | cons b later =>
      rw [shown] at breaks
      obtain ⟨first, others⟩ := List.forall_mem_cons.mp breaks
      rw [List.cons_append, split_append_break closed first, split_breaks others]

theorem Lined.forall_mem {p : Char → Prop} {lines : List (List Char)} {text : List Char}
    (h : Lined lines text) (ends : p '\n' ∧ p '\r') (inside : ∀ line ∈ lines, ∀ c ∈ line, p c)
    : ∀ c ∈ text, p c := by
  have breaking {breaks : List Char} (h : AreBreaks breaks) : ∀ c ∈ breaks, p c := by
    intro c member
    rcases h c member with rfl | rfl
    · exact ends.1
    · exact ends.2
  induction h with
  | last line breaks h =>
      exact List.forall_mem_append.mpr ⟨inside line (by simp), breaking h⟩
  | next line breaks h present rest ih =>
      obtain ⟨first, others⟩ := List.forall_mem_cons.mp inside
      exact List.forall_mem_append.mpr
        ⟨List.forall_mem_append.mpr ⟨first, breaking h⟩, ih others⟩

/-- Lines that close their quotes are cut one by one, by induction on the lines. -/
theorem split_lined {lines : List (List Char)} {text : List Char} (h : Lined lines text)
    (closed : ∀ line ∈ lines, IsClosed (encode line))
    : split (encode text) = lines.flatMap fun line => split (encode line) := by
  induction h with
  | last line ends breaks =>
      rw [List.flatMap_singleton]
      by_cases none : ends = []
      · rw [none, List.append_nil]
      · have cut := split_line_ends (closed line (by simp)) breaks none []
        simpa using cut
  | next line ends breaks present rest ih =>
      obtain ⟨first, others⟩ := List.forall_mem_cons.mp closed
      rw [Text.encode_append, split_line_ends first breaks present, ih others, List.flatMap_cons]

end AllocTrace.Csv
