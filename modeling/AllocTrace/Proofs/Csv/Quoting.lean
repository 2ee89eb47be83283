import AllocTrace.Proofs.Csv.Lines

/-! Lines that end inside quotes. Whether a line does is a matter of its text alone: its last field
opens quotes and does not close them. Main statement: the splitter is inside quotes behind a line
exactly if the line has this shape.
-/

namespace AllocTrace.Csv

open Splitter
open Text (encode)

-----------------------------------------------------------------------------------------
-- The shape of a line
-----------------------------------------------------------------------------------------

/-- Quotes stand in pairs only: inside quotes, the text does not close them. -/
inductive Quoted : List Char → Prop
  | nil : Quoted []
  | plain {c rest} (h : c ≠ '"') (tail : Quoted rest) : Quoted (c :: rest)
  | pair {rest} (tail : Quoted rest) : Quoted ('"' :: '"' :: rest)

/-- Outside quotes, the text neither opens them nor ends the field. A quote behind its first
character is taken as it stands.
-/
structure Unquoted (cs : List Char) : Prop where
  first : cs.head? ≠ some '"'
  noComma : ',' ∉ cs

/-- The text of one field that closes the quotes it opens. -/
inductive IsField : List Char → Prop
  | bare {cell} (h : Unquoted cell) : IsField cell
  | quoted {body tail} (h : Quoted body) (rest : Unquoted tail)
    : IsField ('"' :: body ++ '"' :: tail)

/-- The last field of the line opens quotes and does not close them. -/
inductive LeavesOpen : List Char → Prop
  | last {body} (h : Quoted body) : LeavesOpen ('"' :: body)
  | next {cell rest} (field : IsField cell) (tail : LeavesOpen rest)
    : LeavesOpen (cell ++ ',' :: rest)

theorem LeavesOpen.quote_mem {line : List Char} (h : LeavesOpen line)
    : '"' ∈ line := by
  induction h with
  | last => simp
  | next _ _ ih => exact List.mem_append_right _ (List.mem_cons_of_mem _ ih)

/-- Behind an opening quote, either the quotes stay open or the first quote that has no pair closes
them, by induction on two characters at a time.
-/
theorem quoted_or_closed (cs : List Char)
    : Quoted cs
      ∨ ∃ body tail, cs = body ++ '"' :: tail ∧ Quoted body ∧ tail.head? ≠ some '"' := by
  induction cs using List.twoStepInduction with
  | nil => exact Or.inl .nil
  | singleton c =>
      by_cases quote : c = '"'
      · subst quote
        exact Or.inr ⟨[], [], rfl, .nil, by simp⟩
      · exact Or.inl (.plain quote .nil)
  | cons_cons c d rest behindPair behind =>
      by_cases quote : c = '"'
      · subst quote
        by_cases pair : d = '"'
        · subst pair
          rcases behindPair with whole | ⟨body, tail, rfl, inside, first⟩
          · exact Or.inl (.pair whole)
          · exact Or.inr ⟨'"' :: '"' :: body, tail, rfl, .pair inside, first⟩
        · exact Or.inr ⟨[], d :: rest, rfl, .nil, by simpa using pair⟩
      · rcases behind d with whole | ⟨body, tail, same, inside, first⟩
        · exact Or.inl (.plain quote whole)
        · exact Or.inr ⟨c :: body, tail, by rw [same]; rfl, .plain quote inside, first⟩

/-- Outside quotes, a field ends at the first comma. -/
theorem unquoted_or_comma {cs : List Char} (first : cs.head? ≠ some '"')
    : Unquoted cs ∨ ∃ cell rest, cs = cell ++ ',' :: rest ∧ Unquoted cell := by
  by_cases comma : ',' ∈ cs
  · obtain ⟨cell, rest, rfl, absent⟩ := List.eq_append_cons_of_mem comma
    refine Or.inr ⟨cell, rest, rfl, ?_, absent⟩
    cases cell with
    | nil => simp
    | cons c more => exact first
  · exact Or.inl ⟨first, comma⟩

/-- A line is quotes left open, or one field, or a field with a comma behind it. -/
theorem quotes_or_field (line : List Char)
    : (∃ body, line = '"' :: body ∧ Quoted body)
      ∨ IsField line
      ∨ ∃ cell rest, line = cell ++ ',' :: rest ∧ IsField cell := by
  by_cases quote : line.head? = some '"'
  · obtain ⟨cs, rfl⟩ := List.head?_eq_some_iff.mp quote
    rcases quoted_or_closed cs with whole | ⟨body, tail, rfl, inside, first⟩
    · exact Or.inl ⟨cs, rfl, whole⟩
    · rcases unquoted_or_comma first with outside | ⟨cell, rest, rfl, outside⟩
      · exact Or.inr (Or.inl (.quoted inside outside))
      · exact Or.inr (Or.inr ⟨'"' :: body ++ '"' :: cell, rest, by simp, .quoted inside outside⟩)
  · rcases unquoted_or_comma quote with outside | ⟨cell, rest, same, outside⟩
    · exact Or.inr (Or.inl (.bare outside))
    · exact Or.inr (Or.inr ⟨cell, rest, same, .bare outside⟩)

-----------------------------------------------------------------------------------------
-- The splitter on a line
-----------------------------------------------------------------------------------------

namespace Splitter

/-- The next byte is the first of a field. -/
def AtField (s : Splitter) : Prop :=
  s.mode = .recordStart ∨ s.mode = .fieldStart

theorem AtField.closed {s : Splitter} (h : s.AtField)
    : s.mode ≠ .quoted := by
  rcases h with mode | mode <;> simp [mode]

/-- A quote opens quotes only at the start of a field. -/
theorem AtField.push_quote {s : Splitter} (h : s.AtField)
    : (s.push 0x22).mode = .quoted := by
  rcases h with mode | mode <;> simp [push, pushFirst, mode, isQuote, isBreak]

theorem push_closing {s : Splitter} (opened : s.mode = .quoted)
    : (s.push 0x22).mode = .closingQuote := by
  simp [push, opened, isQuote]

/-- Of two quotes inside quotes the second joins the open field. -/
theorem push_pair {s : Splitter} (opened : s.mode = .quoted)
    : ((s.push 0x22).push 0x22).mode = .quoted := by
  simp [push, opened, isQuote, append]

/-- Once a field has begun without quotes, they do not matter to it. -/
theorem foldl_begun {bytes : List UInt8}
    (h : ∀ b ∈ bytes, isComma b = false ∧ isBreak b = false) {s : Splitter}
    (begun : s.mode = .unquoted)
    : (bytes.foldl push s).mode = .unquoted := by
  induction bytes generalizing s with
  | nil => exact begun
  | cons b rest ih =>
      obtain ⟨⟨noComma, noBreak⟩, others⟩ := List.forall_mem_cons.mp h
      exact ih others (by simp [push, begun, pushBare, noComma, noBreak, append])

end Splitter

theorem encode_quote_cons (rest : List Char)
    : encode ('"' :: rest) = 0x22 :: encode rest :=
  Text.encode_cons_ascii (by decide) rest

theorem encode_comma_cons (rest : List Char)
    : encode (',' :: rest) = 0x2c :: encode rest :=
  Text.encode_cons_ascii (by decide) rest

theorem Quoted.foldl_mode {body : List Char} (h : Quoted body) {s : Splitter}
    (opened : s.mode = .quoted)
    : ((encode body).foldl push s).mode = .quoted := by
  induction h generalizing s with
  | nil => exact opened
  | @plain c rest other tail ih =>
      have plain : ∀ b ∈ encode [c], isQuote b = false :=
        isQuote_of_mem_encode fun member => other (List.mem_singleton.mp member).symm
      rw [← List.singleton_append, Text.encode_append, List.foldl_append, foldl_quoted plain opened]
      exact ih opened
  | pair tail ih =>
      rw [encode_quote_cons, encode_quote_cons]
      exact ih (push_pair opened)

/-- The first byte begins the field, and the others join it. -/
theorem Unquoted.foldl_mode {cs : List Char} (h : Unquoted cs) (oneLine : IsLine cs)
    {s : Splitter} (closed : s.mode ≠ .quoted)
    : ((encode cs).foldl push s).mode ≠ .quoted := by
  cases cs with
  | nil => exact closed
  | cons c rest =>
      have separates : ∀ b ∈ encode (c :: rest), isComma b = false ∧ isBreak b = false := by
        intro b member
        exact ⟨beq_false_of_ne (ne_of_mem_encode (c := ',') (by decide) h.noComma b member),
          isBreak_of_mem_encode oneLine b member⟩
      have noQuote : '"' ∉ [c] := by
        intro member
        exact h.first (congrArg some (List.mem_singleton.mp member).symm)
      rw [Text.encode_cons] at separates ⊢
      cases shown : String.utf8EncodeChar c with
      | nil => exact absurd shown String.utf8EncodeChar_ne_nil
      | cons b more =>
          rw [shown, List.cons_append] at separates
          obtain ⟨⟨noComma, noBreak⟩, others⟩ := List.forall_mem_cons.mp separates
          have bare : Bare b := {
            noQuote := isQuote_of_mem_encode noQuote b (by simp [Text.encode_cons, shown])
            noComma := noComma
            noBreak := noBreak
          }
          rw [List.cons_append, List.foldl_cons, push_bare bare closed, foldl_begun others rfl]
          decide

theorem IsField.foldl_mode {cell : List Char} (h : IsField cell) (oneLine : IsLine cell)
    {s : Splitter} (fresh : s.AtField)
    : ((encode cell).foldl push s).mode ≠ .quoted := by
  cases h with
  | bare h => exact h.foldl_mode oneLine fresh.closed
  | @quoted body tail inside outside =>
      have behind : IsLine tail := fun c member => oneLine c (by simp [member])
      rw [List.cons_append, encode_quote_cons, Text.encode_append, encode_quote_cons,
        List.foldl_cons, List.foldl_append, List.foldl_cons]
      have opened := inside.foldl_mode fresh.push_quote
      exact outside.foldl_mode behind (by simp [push_closing opened])

/-- The comma behind a field leads to the next. -/
theorem IsField.atField {cell : List Char} (h : IsField cell) (oneLine : IsLine cell)
    {s : Splitter} (fresh : s.AtField)
    : (((encode cell).foldl push s).push 0x2c).AtField := by
  rw [push_comma (h.foldl_mode oneLine fresh)]
  exact Or.inr rfl

theorem foldl_next_field (cell rest : List Char) (s : Splitter)
    : (encode (cell ++ ',' :: rest)).foldl push s
      = (encode rest).foldl push (((encode cell).foldl push s).push 0x2c) := by
  rw [Text.encode_append, encode_comma_cons, List.foldl_append, List.foldl_cons]

theorem IsLine.of_append {front rest : List Char} (h : IsLine (front ++ ',' :: rest))
    : IsLine front ∧ IsLine rest :=
  ⟨fun c member => h c (List.mem_append_left _ member),
    fun c member => h c (List.mem_append_right _ (List.mem_cons_of_mem _ member))⟩

/-- By induction on the fields of the line. -/
theorem LeavesOpen.foldl_mode {line : List Char} (h : LeavesOpen line) (oneLine : IsLine line)
    {s : Splitter} (fresh : s.AtField)
    : ((encode line).foldl push s).mode = .quoted := by
  induction h generalizing s with
  | last inside =>
      rw [encode_quote_cons]
      exact inside.foldl_mode fresh.push_quote
  | next field tail ih =>
      obtain ⟨front, behind⟩ := oneLine.of_append
      rw [foldl_next_field]
      exact ih behind (field.atField front fresh)

/-- By induction on the length of the line, which is cut at its first field. -/
theorem leavesOpen_of_foldl_mode {line : List Char} (oneLine : IsLine line) {s : Splitter}
    (fresh : s.AtField) (opened : ((encode line).foldl push s).mode = .quoted)
    : LeavesOpen line := by
  rcases quotes_or_field line with ⟨body, rfl, inside⟩ | field | ⟨cell, rest, rfl, field⟩
  · exact .last inside
  · exact absurd opened (field.foldl_mode oneLine fresh)
  · obtain ⟨front, behind⟩ := oneLine.of_append
    rw [foldl_next_field] at opened
    exact .next field (leavesOpen_of_foldl_mode behind (field.atField front fresh) opened)
termination_by line.length

/-- A line closes its quotes unless it has the shape of one that leaves them open. -/
theorem isClosed_encode_iff {line : List Char} (oneLine : IsLine line)
    : IsClosed (encode line) ↔ ¬ LeavesOpen line := by
  have fresh : start.AtField := Or.inl rfl
  exact not_congr ⟨leavesOpen_of_foldl_mode oneLine fresh, fun h => h.foldl_mode oneLine fresh⟩

end AllocTrace.Csv
