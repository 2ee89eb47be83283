import AllocTrace.Text.Utf8
import Mathlib.Data.List.Induction

/-! Texts as bytes in UTF-8. The bytes below 128 of an encoded text are exactly its ASCII
characters, so a text can be cut at them byte by byte, and what is left on either side decodes.
-/

namespace AllocTrace.Text

/-- The bytes of the text in UTF-8. -/
def encode (cs : List Char) : List UInt8 :=
  cs.flatMap String.utf8EncodeChar

theorem encode_append (left right : List Char)
    : encode (left ++ right) = encode left ++ encode right := by
  simp [encode]

theorem encode_cons (c : Char) (rest : List Char)
    : encode (c :: rest) = String.utf8EncodeChar c ++ encode rest := by
  simp [encode]

theorem encode_ne_nil {cs : List Char} (h : cs ≠ [])
    : encode cs ≠ [] := by
  cases cs with
  | nil => contradiction
  | cons c rest => simp [encode_cons]

theorem bytes_encode (cs : List Char)
    : ByteArray.mk (encode cs).toArray = cs.utf8Encode := by
  rw [List.utf8Encode, ByteArray.ext_iff, List.data_toByteArray]
  rfl

/-- Reading an encoded text gives the text. -/
theorem decode?_encode (cs : List Char)
    : decode? (encode cs) = some (String.ofList cs) := by
  rw [decode?, bytes_encode, List.utf8Decode?_utf8Encode]
  simp

/-- Bytes that decode are the encoding of some text. -/
theorem exists_encode_of_decode? {bytes : List UInt8} (h : (decode? bytes).isSome = true)
    : ∃ cs, bytes = encode cs := by
  rw [decode?, Option.isSome_map] at h
  obtain ⟨cs, whole⟩ := ByteArray.isSome_utf8Decode?_iff.mp h
  refine ⟨cs, ?_⟩
  rw [← bytes_encode] at whole
  exact Array.toList_inj.mpr (congrArg ByteArray.data whole)

/-- An ASCII character is one byte. -/
theorem utf8EncodeChar_ascii {c : Char} (h : c.toNat < 128)
    : String.utf8EncodeChar c = [UInt8.ofNat c.toNat] := by
  have low : c.val.toNat ≤ 127 := Nat.le_of_lt_succ h
  rw [String.utf8EncodeChar]
  exact if_pos low

theorem encode_cons_ascii {c : Char} (h : c.toNat < 128) (rest : List Char)
    : encode (c :: rest) = UInt8.ofNat c.toNat :: encode rest := by
  rw [encode_cons, utf8EncodeChar_ascii h, List.singleton_append]

theorem le_toNat_ofNat {n : Nat} (low : 128 ≤ n) (high : n < 256)
    : 128 ≤ (UInt8.ofNat n).toNat := by
  rw [UInt8.toNat_ofNat_of_lt' high]
  exact low

/-- Every byte of any other character is at least 128, by cases on how many there are. -/
theorem le_of_mem_utf8EncodeChar {c : Char} (h : 128 ≤ c.toNat) {b : UInt8}
    (member : b ∈ String.utf8EncodeChar c)
    : 128 ≤ b.toNat := by
  have high : ¬ c.val.toNat ≤ 127 := Nat.not_le.mpr h
  unfold String.utf8EncodeChar at member
  dsimp only at member
  rw [if_neg high] at member
  split at member
  · simp only [List.mem_cons, List.not_mem_nil, or_false] at member
    rcases member with rfl | rfl <;>
      exact le_toNat_ofNat (by omega) (by omega)
  split at member
  · simp only [List.mem_cons, List.not_mem_nil, or_false] at member
    rcases member with rfl | rfl | rfl <;>
      exact le_toNat_ofNat (by omega) (by omega)
  · simp only [List.mem_cons, List.not_mem_nil, or_false] at member
    rcases member with rfl | rfl | rfl | rfl <;>
      exact le_toNat_ofNat (by omega) (by omega)

/-- An ASCII byte of an encoded character is the character. -/
theorem eq_of_mem_utf8EncodeChar {c : Char} {b : UInt8} (h : b.toNat < 128)
    (member : b ∈ String.utf8EncodeChar c)
    : String.utf8EncodeChar c = [b] ∧ b.toNat = c.toNat := by
  have ascii : c.toNat < 128 := by
    rcases Nat.lt_or_ge c.toNat 128 with ascii | high
    · exact ascii
    · have := le_of_mem_utf8EncodeChar high member
      omega
  rw [utf8EncodeChar_ascii ascii] at member ⊢
  obtain rfl := List.mem_singleton.mp member
  exact ⟨rfl, UInt8.toNat_ofNat_of_lt' (Nat.lt_trans ascii (by decide))⟩

/-- A text holds no ASCII byte but those of its characters. -/
theorem toNat_ne_of_mem_encode {cs : List Char} {n : Nat} (h : n < 128)
    (absent : ∀ c ∈ cs, c.toNat ≠ n)
    : ∀ b ∈ encode cs, b.toNat ≠ n := by
  rintro b member rfl
  obtain ⟨c, found, byte⟩ := List.mem_flatMap.mp member
  exact absent c found (eq_of_mem_utf8EncodeChar h byte).2.symm

theorem toNat_lt_of_mem_encode {cs : List Char} (ascii : ∀ c ∈ cs, c.toNat < 128)
    : ∀ b ∈ encode cs, b.toNat < 128 := by
  intro b member
  obtain ⟨c, found, byte⟩ := List.mem_flatMap.mp member
  rw [utf8EncodeChar_ascii (ascii c found)] at byte
  rw [List.mem_singleton.mp byte, UInt8.toNat_ofNat_of_lt' (Nat.lt_trans (ascii c found) (by decide))]
  exact ascii c found

/-- What stands before a trailing ASCII byte decodes if the whole does: the byte is the last
character.
-/
theorem isSome_decode?_of_concat {bytes : List UInt8} {b : UInt8} (ascii : b.toNat < 128)
    (h : (decode? (bytes ++ [b])).isSome = true)
    : (decode? bytes).isSome = true := by
  obtain ⟨cs, whole⟩ := exists_encode_of_decode? h
  rcases List.eq_nil_or_concat cs with rfl | ⟨init, c, rfl⟩
  · simp [encode] at whole
  · obtain ⟨before, last, shape⟩ :=
      (List.eq_nil_or_concat (String.utf8EncodeChar c)).resolve_left String.utf8EncodeChar_ne_nil
    rw [List.concat_eq_append] at whole shape
    rw [encode_append, encode_cons, shape] at whole
    change bytes ++ [b] = encode init ++ (before ++ [last] ++ []) at whole
    rw [List.append_nil, ← List.append_assoc] at whole
    obtain ⟨start, same⟩ := List.append_inj' whole rfl
    obtain rfl := List.singleton_inj.mp same
    have single := (eq_of_mem_utf8EncodeChar ascii (c := c) (by simp [shape])).1
    rw [shape] at single
    have nothing : before = [] := List.append_left_eq_self.mp single
    rw [start, nothing, List.append_nil, decode?_encode]
    rfl

/-- What stands before ASCII bytes decodes if the whole does, by induction from the end. -/
theorem isSome_decode?_of_append {bytes suffix : List UInt8} (ascii : ∀ b ∈ suffix, b.toNat < 128)
    (h : (decode? (bytes ++ suffix)).isSome = true)
    : (decode? bytes).isSome = true := by
  induction suffix using List.reverseRecOn with
  | nil => simpa using h
  | append_singleton rest b ih =>
      rw [← List.append_assoc] at h
      exact ih (fun d member => ascii d (by simp [member]))
        (isSome_decode?_of_concat (ascii b (by simp)) h)

end AllocTrace.Text
