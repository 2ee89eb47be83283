import AllocTrace.Proofs.Text.Numerals
import Mathlib.Data.List.Basic
import Mathlib.Data.List.Induction
import Mathlib.Data.Nat.Digits.Defs

/-! The integers that texts denote. Main statement: reading a cell gives the integer that its
stripped text denotes, exactly if it denotes one of the range; a cell of white space is missing, and
any other is refused together with its stripped text.
-/

namespace AllocTrace

namespace Text

-----------------------------------------------------------------------------------------
-- Signs and digits
-----------------------------------------------------------------------------------------

/-- One or more decimal digits. -/
def Digits (ds : List Char) : Prop :=
  ds ≠ [] ∧ ∀ d ∈ ds, '0' ≤ d ∧ d ≤ '9'

/-- What digits count by their places, the last of them being the units. -/
def placeValue (ds : List Char) : Nat :=
  Nat.ofDigits 10 (ds.reverse.map fun d => d.toNat - '0'.toNat)

/-- The characters denote the integer: digits, after at most one sign. -/
inductive Denotes : List Char → Int → Prop
  | bare {ds : List Char} (digits : Digits ds) : Denotes ds (placeValue ds)
  | plus {ds : List Char} (digits : Digits ds) : Denotes ('+' :: ds) (placeValue ds)
  | minus {ds : List Char} (digits : Digits ds) : Denotes ('-' :: ds) (-placeValue ds)

theorem isDigit_iff {c : Char}
    : c.isDigit = true ↔ '0' ≤ c ∧ c ≤ '9' := by
  simp [Char.isDigit, Char.le_def]

theorem placeValue_concat (ds : List Char) (d : Char)
    : placeValue (ds ++ [d]) = 10 * placeValue ds + (d.toNat - '0'.toNat) := by
  rw [placeValue, List.reverse_concat, List.map_cons, Nat.ofDigits_cons, placeValue]
  exact Nat.add_comm _ _

/-- Reading digits from the first one on counts them by their places, by induction from the last
one.
-/
theorem ofDigitChars_eq_placeValue (ds : List Char)
    : Nat.ofDigitChars 10 ds 0 = placeValue ds := by
  induction ds using List.reverseRecOn with
  | nil => rfl
  | append_singleton rest d ih =>
      rw [Nat.ofDigitChars_append, ih, Nat.ofDigitChars_cons, Nat.ofDigitChars_nil,
        placeValue_concat]

theorem natural?_eq_some_iff {ds : List Char} {n : Nat}
    : natural? ds = some n ↔ Digits ds ∧ placeValue ds = n := by
  have digits : (ds ≠ [] ∧ ds.all Char.isDigit = true) ↔ Digits ds :=
    and_congr_right fun _ => by simp only [List.all_eq_true, isDigit_iff]
  rw [natural?, Option.ite_none_right_eq_some, digits, ofDigitChars_eq_placeValue, Option.some.injEq]

/-- A text that denotes an integer is read as that integer, by cases on its sign. -/
theorem Denotes.integer? {cs : List Char} {n : Int} (h : Denotes cs n)
    : integer? cs = some n := by
  cases h with
  | bare digits =>
      have value := natural?_eq_some_iff.mpr ⟨digits, rfl⟩
      obtain ⟨d, rest, rfl⟩ := List.exists_cons_of_ne_nil digits.1
      have first : d.isDigit = true := isDigit_iff.mpr (digits.2 d List.mem_cons_self)
      rw [integer?_of_digit first, value]
      rfl
  | plus digits =>
      rw [Text.integer?, natural?_eq_some_iff.mpr ⟨digits, rfl⟩]
      rfl
  | minus digits =>
      rw [Text.integer?, natural?_eq_some_iff.mpr ⟨digits, rfl⟩]
      rfl

/-- What is read as an integer denotes it. -/
theorem denotes_of_integer? {cs : List Char} {n : Int} (h : integer? cs = some n)
    : Denotes cs n := by
  have value {ds : List Char} {f : Nat → Int} (h : (natural? ds).map f = some n)
      : Digits ds ∧ f (placeValue ds) = n := by
    obtain ⟨value, read, shown⟩ := Option.map_eq_some_iff.mp h
    obtain ⟨digits, rfl⟩ := natural?_eq_some_iff.mp read
    exact ⟨digits, shown⟩
  unfold integer? at h
  split at h
  · obtain ⟨digits, rfl⟩ := value h
    exact .plus digits
  · obtain ⟨digits, rfl⟩ := value h
    exact .minus digits
  · obtain ⟨digits, rfl⟩ := value h
    exact .bare digits

theorem integer?_eq_some_iff {cs : List Char} {n : Int}
    : integer? cs = some n ↔ Denotes cs n :=
  ⟨denotes_of_integer?, Denotes.integer?⟩

/-- No text denotes two integers. -/
theorem Denotes.unique {cs : List Char} {m n : Int} (hm : Denotes cs m) (hn : Denotes cs n)
    : m = n :=
  Option.some.inj (hm.integer?.symm.trans hn.integer?)

-----------------------------------------------------------------------------------------
-- Stripped texts
-----------------------------------------------------------------------------------------

/-- The text stands in the cell between white space, and has none at either end itself. -/
structure Stripped (cell text : List Char) : Prop where
  padded
    : ∃ left right,
        (∀ c ∈ left, isWhite c = true)
        ∧ (∀ c ∈ right, isWhite c = true)
        ∧ cell = left ++ text ++ right
  first : ∀ c ∈ text.head?, isWhite c = false
  last : ∀ c ∈ text.getLast?, isWhite c = false

theorem isWhite_head?_dropWhile {c : Char} {cs : List Char}
    (h : c ∈ (cs.dropWhile isWhite).head?)
    : isWhite c = false := by
  have shown := List.head?_dropWhile_not isWhite cs
  rw [h] at shown
  exact shown

theorem dropWhile_of_head? {cs : List Char} (h : ∀ c ∈ cs.head?, isWhite c = false)
    : cs.dropWhile isWhite = cs := by
  cases cs with
  | nil => rfl
  | cons c rest => exact List.dropWhile_cons_of_neg (by simp [h c rfl])

/-- A text without white space at its ends is stripped already. -/
theorem strip_of_ends {cs : List Char} (first : ∀ c ∈ cs.head?, isWhite c = false)
    (last : ∀ c ∈ cs.getLast?, isWhite c = false)
    : strip cs = cs := by
  rw [strip, dropWhile_of_head? first, dropWhile_of_head? (by simpa using last),
    List.reverse_reverse]

theorem stripped_strip (cs : List Char)
    : Stripped cs (strip cs) := by
  refine {
    padded := exists_padding cs
    first := ?_
    last := ?_
  }
  · intro c member
    -- What is stripped begins as it does before the white space at the end is removed.
    have front : strip cs <+: cs.dropWhile isWhite := by
      have suffix := List.dropWhile_suffix (l := (cs.dropWhile isWhite).reverse) isWhite
      simpa [strip] using List.reverse_prefix.mpr suffix
    obtain ⟨rest, whole⟩ := front
    have kept : c ∈ (cs.dropWhile isWhite).head? := by
      rw [← whole]
      exact List.mem_head?_append_of_mem_head? member
    exact isWhite_head?_dropWhile kept
  · intro c member
    rw [strip, List.getLast?_reverse] at member
    exact isWhite_head?_dropWhile member

theorem stripped_iff {cs ds : List Char}
    : Stripped cs ds ↔ strip cs = ds := by
  constructor
  · rintro ⟨⟨left, right, hl, hr, rfl⟩, first, last⟩
    rw [strip_padded hl hr, strip_of_ends first last]
  · rintro rfl
    exact stripped_strip cs

theorem Denotes.ne_nil {cs : List Char} {n : Int} (h : Denotes cs n)
    : cs ≠ [] := by
  cases h with
  | bare digits => exact digits.1
  | plus digits => exact List.cons_ne_nil _ _
  | minus digits => exact List.cons_ne_nil _ _

end Text

-----------------------------------------------------------------------------------------
-- Cells
-----------------------------------------------------------------------------------------

namespace Amount

theorem ofInt?_eq_some_iff {n : Int} {a : Amount}
    : ofInt? n = some a ↔ a.val = n := by
  constructor
  · intro h
    unfold ofInt? at h
    split at h
    · rw [← Option.some.inj h]
    · cases h
  · rintro rfl
    exact a.ofInt?_val

theorem exists_val_eq_iff {n : Int}
    : (∃ a : Amount, a.val = n) ↔ -2 ^ 63 ≤ n ∧ n ≤ 2 ^ 63 - 1 := by
  constructor
  · rintro ⟨a, rfl⟩
    exact ⟨a.lower, a.upper⟩
  · rintro ⟨lower, upper⟩
    exact ⟨⟨n, lower, upper⟩, rfl⟩

theorem ofText?_eq_some_iff {text : String} {a : Amount}
    : ofText? text = some a ↔ Text.Denotes text.toList a.val := by
  simp only [ofText?, Option.bind_eq_some_iff, Text.integer?_eq_some_iff, ofInt?_eq_some_iff,
    exists_eq_right']

end Amount

variable {column cell : String}

theorem readInteger_eq_ok_iff {a : Amount}
    : readInteger column cell = .ok a ↔ Text.Denotes (Text.trim cell).toList a.val := by
  rw [← Amount.ofText?_eq_some_iff]
  unfold readInteger
  dsimp only
  by_cases blank : Text.trim cell = ""
  · have nothing : Amount.ofText? "" = none := rfl
    simp [blank, nothing]
  · rw [if_neg blank]
    cases Amount.ofText? (Text.trim cell) <;> simp

/-- A cell that holds no integer is missing if it is blank, and otherwise refused with its text. -/
theorem readInteger_eq_error_iff {error : CellError}
    : readInteger column cell = .error error
      ↔ (∀ a, readInteger column cell ≠ .ok a)
        ∧ error = if Text.trim cell = "" then .missingField column
          else .invalidInteger column (Text.trim cell) := by
  unfold readInteger
  dsimp only
  split
  · simp [eq_comm]
  · cases Amount.ofText? (Text.trim cell) <;> simp [eq_comm]

theorem readInteger_eq_missing_iff
    : readInteger column cell = .error (.missingField column) ↔ Text.trim cell = "" := by
  rw [readInteger_eq_error_iff]
  constructor
  · rintro ⟨-, same⟩
    by_contra present
    simp [present] at same
  · intro blank
    refine ⟨fun a read => ?_, by rw [if_pos blank]⟩
    exact (readInteger_eq_ok_iff.mp read).ne_nil (by rw [blank]; rfl)

theorem readInteger_eq_invalid_iff
    : readInteger column cell = .error (.invalidInteger column (Text.trim cell))
      ↔ Text.trim cell ≠ "" ∧ ∀ a, readInteger column cell ≠ .ok a := by
  rw [readInteger_eq_error_iff, and_comm]
  refine and_congr_left fun _ => ⟨fun same blank => ?_, fun present => by rw [if_neg present]⟩
  simp [blank] at same

/-- A cell holds no integer exactly if what its text denotes, if anything, is out of range. -/
theorem readInteger_ne_ok_iff
    : (∀ a, readInteger column cell ≠ .ok a)
      ↔ ∀ n, Text.Denotes (Text.trim cell).toList n → ¬(-2 ^ 63 ≤ n ∧ n ≤ 2 ^ 63 - 1) := by
  simp only [ne_eq, readInteger_eq_ok_iff, ← Amount.exists_val_eq_iff]
  constructor
  · rintro none n denotes ⟨a, rfl⟩
    exact none a denotes
  · exact fun none a denotes => none a.val denotes ⟨a, rfl⟩

/-- What reading a cell in a column comes to, by the text that is left of it once it is stripped. -/
structure ReadsStripped (column cell text : String) : Prop where
  stripped (other : String) : Text.Stripped cell.toList other.toList ↔ other = text
  missing : readInteger column cell = .error (.missingField column) ↔ text = ""
  integer (n : Int)
    : (∃ a : Amount, a.val = n ∧ readInteger column cell = .ok a)
      ↔ Text.Denotes text.toList n ∧ -2 ^ 63 ≤ n ∧ n ≤ 2 ^ 63 - 1
  invalid
    : readInteger column cell = .error (.invalidInteger column text)
      ↔ text ≠ "" ∧ ∀ n, Text.Denotes text.toList n → ¬(-2 ^ 63 ≤ n ∧ n ≤ 2 ^ 63 - 1)
  error (error : CellError)
    : readInteger column cell = .error error
      → error = .missingField column ∨ error = .invalidInteger column text
  unique (m n : Int) : Text.Denotes text.toList m → Text.Denotes text.toList n → m = n

/-- The text is nothing but white space, if it is anything. -/
def Text.Blank (text : String) : Prop :=
  ∀ c ∈ text.toList, Text.isWhite c = true

instance (text : String) : Decidable (Text.Blank text) :=
  List.decidableBAll (fun c => Text.isWhite c = true) text.toList

/-- Reading a cell accepts exactly the signed digits of its stripped text, whatever their number, if
the integer that they denote is in range. What is written in decimal is read back from any padding.
-/
theorem readInteger_stripped (column : String)
    : (∀ cell, ReadsStripped column cell (Text.trim cell))
      ∧ ∀ (a : Amount) (left right : String),
          Text.Blank left
          → Text.Blank right
          → readInteger column (left ++ a.text ++ right) = .ok a := by
  refine ⟨fun cell => ?_, ?_⟩
  · refine {
      stripped := ?_
      missing := readInteger_eq_missing_iff
      integer := ?_
      invalid := by rw [readInteger_eq_invalid_iff, readInteger_ne_ok_iff]
      error := ?_
      unique := fun _ _ hm hn => hm.unique hn
    }
    · intro other
      rw [Text.stripped_iff, Text.trim, String.ext_iff, String.toList_ofList, eq_comm]
    · intro n
      simp only [readInteger_eq_ok_iff, ← Amount.exists_val_eq_iff]
      constructor
      · rintro ⟨a, rfl, denotes⟩
        exact ⟨denotes, a, rfl⟩
      · rintro ⟨denotes, a, rfl⟩
        exact ⟨a, rfl, denotes⟩
    · intro error failed
      obtain ⟨-, rfl⟩ := readInteger_eq_error_iff.mp failed
      split
      · exact Or.inl rfl
      · exact Or.inr rfl
  · intro a left right hl hr
    refine readInteger_numeral (Text.Numeral.ofDecimal a) column ?_
    have numeral := (Text.Numeral.ofDecimal a).no_white
    rw [Text.trim, Amount.text, String.toList_append, String.toList_append, String.toList_ofList,
      Text.strip_padded hl hr, Text.strip_of_no_white numeral]

/-- The least amount, with a superfluous zero and between ideographic and other spaces, and one less
than it.
-/
theorem readInteger_stripped_least
    : Text.Denotes "-09223372036854775808".toList (-2 ^ 63)
      ∧ (∃ a : Amount,
          a.val = -2 ^ 63
          ∧ readInteger "count" "\u3000-09223372036854775808\u2003" = .ok a)
      ∧ readInteger "count" " -9223372036854775809\u0085"
        = .error (.invalidInteger "count" "-9223372036854775809")
      ∧ readInteger "count" ("\t" ++ (0 : Amount).text ++ " ") = .ok 0 := by
  obtain ⟨reads, padded⟩ := readInteger_stripped "count"
  have least : Text.Denotes "-09223372036854775808".toList (-2 ^ 63) :=
    Text.denotes_of_integer? (by decide +kernel)
  have less : Text.Denotes "-9223372036854775809".toList (-2 ^ 63 - 1) :=
    Text.denotes_of_integer? (by decide +kernel)
  have within : Text.trim "\u3000-09223372036854775808\u2003" = "-09223372036854775808" := by
    decide +kernel
  have beyond : Text.trim " -9223372036854775809\u0085" = "-9223372036854775809" := by
    decide +kernel
  refine ⟨least, (reads _).integer _ |>.mpr ⟨within ▸ least, by decide⟩, ?_,
    padded 0 "\t" " " (by decide +kernel) (by decide +kernel)⟩
  rw [← beyond]
  refine (reads _).invalid.mpr ⟨by rw [beyond]; decide, ?_⟩
  rw [beyond]
  intro n denotes
  rw [denotes.unique less]
  decide

end AllocTrace
