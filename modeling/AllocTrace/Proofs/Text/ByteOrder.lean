import AllocTrace.Proofs.Text.Encoding

/-! The order of texts. Main statement: two texts compare character by character as their encodings
compare byte by byte.
-/

namespace AllocTrace.Text

/-- Below the bound a greater number has greater bytes, whatever follows them. -/
def Ascends (bound : Nat) (bytes : Nat → List UInt8) : Prop :=
  ∀ m n, m < n → n < bound → ∀ s t, bytes m ++ s < bytes n ++ t

theorem cons_ofNat_lt {m n : Nat} (h : m < n) (high : n < 256) (s t : List UInt8)
    : UInt8.ofNat m :: s < UInt8.ofNat n :: t := by
  refine List.cons_lt_cons_iff.mpr (Or.inl ?_)
  rw [UInt8.lt_iff_toNat_lt, UInt8.toNat_ofNat_of_lt' (Nat.lt_trans h high),
    UInt8.toNat_ofNat_of_lt' high]
  exact h

/-- Of two numbers the smaller has a smaller quotient, or the same quotient and a smaller rest. -/
theorem div_lt_or_mod_lt {m n : Nat} (h : m < n) (base : Nat)
    : m / base < n / base ∨ m / base = n / base ∧ m % base < n % base := by
  rcases Nat.lt_or_eq_of_le (Nat.div_le_div_right (c := base) (Nat.le_of_lt h)) with below | same
  · exact Or.inl below
  · refine Or.inr ⟨same, ?_⟩
    have left := Nat.div_add_mod m base
    have right := Nat.div_add_mod n base
    rw [same] at left
    omega

namespace Ascends

/-- One byte can hold the number beside a mark. -/
theorem marked {size mark : Nat} (fits : size + mark ≤ 256)
    : Ascends size fun n => [UInt8.ofNat (n % size + mark)] := by
  intro m n less high s t
  dsimp only
  rw [Nat.mod_eq_of_lt high, Nat.mod_eq_of_lt (Nat.lt_trans less high)]
  exact cons_ofNat_lt (by omega) (by omega) s t

/-- The last six bits can stand in a byte of their own, behind those of the other bits. -/
theorem continued {bound : Nat} {bytes : Nat → List UInt8} (ascends : Ascends bound bytes)
    : Ascends (bound * 64) fun n => bytes (n / 64) ++ [UInt8.ofNat (n % 64 + 128)] := by
  intro m n less high s t
  rw [List.append_assoc, List.append_assoc]
  rcases div_lt_or_mod_lt less 64 with below | ⟨same, below⟩
  · exact ascends _ _ below (by omega) _ _
  · rw [same]
    exact List.append_left_lt (cons_ofNat_lt (by omega) (by omega) s t)

/-- Small numbers and the others can be written apart, if the bytes of the latter are greater. -/
theorem glued {last bound : Nat} {small great : Nat → List UInt8}
    (lower : Ascends (last + 1) small) (upper : Ascends bound great)
    (across : ∀ m n s t, m ≤ last → small m ++ s < great n ++ t)
    : Ascends bound fun n => if n ≤ last then small n else great n := by
  intro m n less high s t
  dsimp only
  by_cases hn : n ≤ last
  · rw [if_pos (by omega), if_pos hn]
    exact lower m n less (by omega) s t
  · rw [if_neg hn]
    split
    · exact across m n s t (by assumption)
    · exact upper m n less high s t

theorem one
    : Ascends 128 fun n => [UInt8.ofNat n] :=
  fun _ _ less high s t => cons_ofNat_lt less (by omega) s t

theorem two
    : Ascends 2048 fun n => [UInt8.ofNat (n / 64 % 32 + 192), UInt8.ofNat (n % 64 + 128)] :=
  (marked (by decide : 32 + 192 ≤ 256)).continued

theorem three
    : Ascends 65536 fun n =>
        [UInt8.ofNat (n / 4096 % 16 + 224), UInt8.ofNat (n / 64 % 64 + 128),
          UInt8.ofNat (n % 64 + 128)] := by
  have places := (marked (by decide : 16 + 224 ≤ 256)).continued.continued
  simp only [Nat.div_div_eq_div_mul] at places
  exact places

theorem four
    : Ascends 2097152 fun n =>
        [UInt8.ofNat (n / 262144 % 8 + 240), UInt8.ofNat (n / 4096 % 64 + 128),
          UInt8.ofNat (n / 64 % 64 + 128), UInt8.ofNat (n % 64 + 128)] := by
  have places := (marked (by decide : 8 + 240 ≤ 256)).continued.continued.continued
  simp only [Nat.div_div_eq_div_mul] at places
  exact places

/-- The more bytes a number takes, the greater is the first of them. -/
theorem utf8
    : Ascends 2097152 fun n =>
        if n ≤ 127 then [UInt8.ofNat n]
        else if n ≤ 2047 then [UInt8.ofNat (n / 64 % 32 + 192), UInt8.ofNat (n % 64 + 128)]
        else if n ≤ 65535 then
          [UInt8.ofNat (n / 4096 % 16 + 224), UInt8.ofNat (n / 64 % 64 + 128),
            UInt8.ofNat (n % 64 + 128)]
        else
          [UInt8.ofNat (n / 262144 % 8 + 240), UInt8.ofNat (n / 4096 % 64 + 128),
            UInt8.ofNat (n / 64 % 64 + 128), UInt8.ofNat (n % 64 + 128)] := by
  refine one.glued (two.glued (three.glued four ?_) ?_) ?_
  · intro m n s t small
    exact cons_ofNat_lt (by omega) (by omega) _ _
  · intro m n s t small
    split_ifs <;> exact cons_ofNat_lt (by omega) (by omega) _ _
  · intro m n s t small
    split_ifs <;> exact cons_ofNat_lt (by omega) (by omega) _ _

end Ascends

theorem utf8EncodeChar_append_lt {c d : Char} (h : c < d) (s t : List UInt8)
    : String.utf8EncodeChar c ++ s < String.utf8EncodeChar d ++ t := by
  have high : d.val.toNat < 2097152 := by
    rcases d.valid with low | ⟨-, high⟩
    · exact Nat.lt_trans low (by decide)
    · exact Nat.lt_trans high (by decide)
  exact Ascends.utf8 c.val.toNat d.val.toNat h high s t

/-- The first character in which two texts differ decides, by induction on the smaller text. -/
theorem encode_lt_encode {left right : List Char} (h : left < right)
    : encode left < encode right := by
  induction left generalizing right with
  | nil =>
      cases right with
      | nil => exact absurd h (List.lt_irrefl _)
      | cons d rest =>
          cases found : encode (d :: rest) with
          | nil => exact absurd found (encode_ne_nil (List.cons_ne_nil d rest))
          | cons b bytes => exact List.nil_lt_cons b bytes
  | cons c rest ih =>
      cases right with
      | nil => exact absurd h (List.not_lt_nil _)
      | cons d others =>
          rw [encode_cons, encode_cons]
          rcases List.cons_lt_cons_iff.mp h with less | ⟨rfl, less⟩
          · exact utf8EncodeChar_append_lt less _ _
          · exact List.append_left_lt (ih less)

/-- Texts are in the order of their bytes. -/
theorem encode_lt_encode_iff {left right : String}
    : encode left.toList < encode right.toList ↔ left < right := by
  refine ⟨fun less => ?_, encode_lt_encode⟩
  by_contra above
  rcases Std.le_iff_lt_or_eq.mp (String.not_lt.mp above) with below | same
  · exact List.lt_asymm less (encode_lt_encode below)
  · rw [same] at less
    exact List.lt_irrefl _ less

end AllocTrace.Text
