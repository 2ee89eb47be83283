import AllocTrace.Column
import AllocTrace.Proofs.Text.Stripping

/-! Written integers and the cells that hold them. An amount may be written with a plus sign and
with leading zeros; the reader takes every such numeral, padded or not, as the amount it denotes.
-/

namespace AllocTrace

namespace Text

/-- The characters write the amount: in decimal, with any number of leading zeros, and with a plus
sign or not unless the amount is negative.
-/
inductive Numeral (a : Amount) : List Char → Prop
  | bare (zeros : Nat) (h : 0 ≤ a.val)
    : Numeral a (List.replicate zeros '0' ++ decimal a.val)
  | plus (zeros : Nat) (h : 0 ≤ a.val)
    : Numeral a ('+' :: (List.replicate zeros '0' ++ decimal a.val))
  | minus (zeros : Nat) (h : a.val < 0)
    : Numeral a ('-' :: (List.replicate zeros '0' ++ decimal (-a.val)))

theorem decimal_of_nonneg {n : Int} (h : 0 ≤ n)
    : decimal n = Nat.toDigits 10 n.natAbs := by
  rw [decimal, if_neg (by omega)]

theorem decimal_of_neg {n : Int} (h : n < 0)
    : decimal n = '-' :: decimal (-n) := by
  have digits : decimal (-n) = Nat.toDigits 10 n.natAbs := by
    rw [decimal_of_nonneg (by omega), Int.natAbs_neg]
  rw [digits, decimal, if_pos h]

/-- The decimal form of an amount writes it. -/
theorem Numeral.ofDecimal (a : Amount)
    : Numeral a (decimal a.val) := by
  rcases Int.lt_or_le a.val 0 with h | h
  · rw [decimal_of_neg h]
    exact Numeral.minus 0 h
  · exact Numeral.bare 0 h

theorem isDigit_padded {zeros n : Nat} {c : Char}
    (h : c ∈ List.replicate zeros '0' ++ Nat.toDigits 10 n)
    : c.isDigit = true := by
  rcases List.mem_append.mp h with zero | digit
  · rw [List.eq_of_mem_replicate zero]
    decide
  · exact Nat.isDigit_of_mem_toDigits (by decide) (by decide) digit

/-- Leading zeros do not change the value of digits. -/
theorem natural?_padded (zeros n : Nat)
    : natural? (List.replicate zeros '0' ++ Nat.toDigits 10 n) = some n := by
  have present : List.replicate zeros '0' ++ Nat.toDigits 10 n ≠ [] := by
    simp [Nat.toDigits_ne_nil]
  have digits : (List.replicate zeros '0' ++ Nat.toDigits 10 n).all Char.isDigit = true :=
    List.all_eq_true.mpr fun c member => isDigit_padded member
  rw [natural?, if_pos ⟨present, digits⟩, Nat.ofDigitChars_append,
    Nat.ofDigitChars_replicate_zero, Nat.mul_zero, Nat.ofDigitChars_ten_toDigits]

/-- A digit is no sign, so a text that begins with one is read as it stands. -/
theorem integer?_of_digit {c : Char} (h : c.isDigit = true) (cs : List Char)
    : integer? (c :: cs) = (natural? (c :: cs)).map Int.ofNat := by
  unfold integer?
  split
  · rename_i same
    rw [(List.cons.inj same).1] at h
    exact absurd h (by decide)
  · rename_i same
    rw [(List.cons.inj same).1] at h
    exact absurd h (by decide)
  · rfl

theorem integer?_padded (zeros n : Nat)
    : integer? (List.replicate zeros '0' ++ Nat.toDigits 10 n) = some (n : Int) := by
  have value := natural?_padded zeros n
  have digit {c : Char} : c ∈ List.replicate zeros '0' ++ Nat.toDigits 10 n → c.isDigit = true :=
    isDigit_padded
  generalize List.replicate zeros '0' ++ Nat.toDigits 10 n = cs at value digit
  cases cs with
  | nil => contradiction
  | cons c rest =>
      rw [integer?_of_digit (digit List.mem_cons_self), value]
      rfl

/-- Reading a numeral gives the amount that it writes, by cases on its sign. -/
theorem Numeral.integer? {a : Amount} {cs : List Char} (h : Numeral a cs)
    : integer? cs = some a.val := by
  cases h with
  | bare zeros h =>
      rw [decimal_of_nonneg h, integer?_padded, Int.natAbs_of_nonneg h]
  | plus zeros h =>
      rw [decimal_of_nonneg h, Text.integer?, natural?_padded]
      simp only [Option.map_some, Option.some.injEq, Int.ofNat_eq_natCast]
      omega
  | minus zeros h =>
      rw [decimal_of_nonneg (by omega), Text.integer?, natural?_padded]
      simp only [Option.map_some, Option.some.injEq, Int.ofNat_eq_natCast]
      omega

theorem Numeral.ne_nil {a : Amount} {cs : List Char} (h : Numeral a cs)
    : cs ≠ [] := by
  rintro rfl
  exact absurd h.integer? (by simp [Text.integer?, natural?])

theorem isDigit_of_natural? {cs : List Char} {n : Nat} (h : natural? cs = some n)
    : ∀ c ∈ cs, c.isDigit = true := by
  unfold natural? at h
  split at h
  · rename_i digits
    exact List.all_eq_true.mp digits.2
  · contradiction

/-- What reads as an integer is a sign, if it has one, and digits. -/
theorem sign_or_digit_of_integer? {cs : List Char} {n : Int} (h : integer? cs = some n)
    : ∀ c ∈ cs, c = '+' ∨ c = '-' ∨ c.isDigit = true := by
  have digits {ds : List Char} {f : Nat → Int} (h : (natural? ds).map f = some n)
      : ∀ c ∈ ds, c = '+' ∨ c = '-' ∨ c.isDigit = true := by
    obtain ⟨value, read, -⟩ := Option.map_eq_some_iff.mp h
    exact fun c member => Or.inr (Or.inr (isDigit_of_natural? read c member))
  unfold integer? at h
  split at h
  · exact List.forall_mem_cons.mpr ⟨Or.inl rfl, digits h⟩
  · exact List.forall_mem_cons.mpr ⟨Or.inr (Or.inl rfl), digits h⟩
  · exact digits h

theorem toNat_of_isDigit {c : Char} (h : c.isDigit = true)
    : 48 ≤ c.toNat ∧ c.toNat ≤ 57 := by
  simpa [Char.isDigit, UInt32.le_iff_toNat_le] using h

/-- The characters of a numeral are printable and separate nothing. -/
theorem Numeral.toNat_bounds {a : Amount} {cs : List Char} (h : Numeral a cs)
    : ∀ c ∈ cs, c.toNat = 43 ∨ c.toNat = 45 ∨ 48 ≤ c.toNat ∧ c.toNat ≤ 57 := by
  intro c member
  rcases sign_or_digit_of_integer? h.integer? c member with rfl | rfl | digit
  · exact Or.inl rfl
  · exact Or.inr (Or.inl rfl)
  · exact Or.inr (Or.inr (toNat_of_isDigit digit))

theorem isWhite_of_bounds {c : Char} (low : 33 ≤ c.toNat) (high : c.toNat ≤ 126)
    : isWhite c = false := by
  simp only [isWhite, Bool.or_eq_false_iff, Bool.and_eq_false_iff, decide_eq_false_iff_not,
    beq_eq_false_iff_ne]
  omega

theorem Numeral.no_white {a : Amount} {cs : List Char} (h : Numeral a cs)
    : ∀ c ∈ cs, isWhite c = false := by
  intro c member
  have bounds := h.toNat_bounds c member
  exact isWhite_of_bounds (by omega) (by omega)

theorem Numeral.trim_eq {a : Amount} {cs : List Char} (h : Numeral a cs)
    : trim (String.ofList cs) = String.ofList cs := by
  rw [trim_ofList, strip_of_no_white h.no_white]

end Text

/-- A cell whose stripped text is a numeral is read as the amount. -/
theorem readInteger_numeral {a : Amount} {cs : List Char} (h : Text.Numeral a cs)
    (column : String) {cell : String} (written : Text.trim cell = String.ofList cs)
    : readInteger column cell = .ok a := by
  have present : String.ofList cs ≠ "" := by
    intro empty
    exact h.ne_nil (by simpa using congrArg String.toList empty)
  have value : Amount.ofText? (String.ofList cs) = some a := by
    rw [Amount.ofText?, String.toList_ofList, h.integer?]
    exact a.ofInt?_val
  unfold readInteger
  simp only [written, if_neg present, value]

/-- A cell with a comma in it holds no integer: a comma is neither white space nor part of one. -/
theorem readInteger_ne_ok_of_comma {cell : String} (h : ',' ∈ cell.toList) (column : String)
    (a : Amount)
    : readInteger column cell ≠ .ok a := by
  intro read
  have kept : ',' ∈ (Text.trim cell).toList := by
    rw [Text.trim, String.toList_ofList]
    exact Text.mem_strip h (by decide)
  unfold readInteger at read
  dsimp only at read
  split at read
  · cases read
  split at read
  · rename_i value
    obtain ⟨n, digits, -⟩ := Option.bind_eq_some_iff.mp value
    exact absurd (Text.sign_or_digit_of_integer? digits _ kept) (by decide)
  · cases read

end AllocTrace
