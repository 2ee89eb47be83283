import AllocTrace.Text.White
import Mathlib.Data.List.TakeWhile

/-! White space at the ends of a text. Removing it once removes it all, and padding never shows. -/

namespace AllocTrace.Text

theorem dropWhile_white {pad : List Char} (white : ∀ c ∈ pad, isWhite c = true)
    (cs : List Char)
    : (pad ++ cs).dropWhile isWhite = cs.dropWhile isWhite := by
  induction pad with
  | nil => rfl
  | cons c rest ih =>
      rw [List.cons_append, List.dropWhile_cons_of_pos (white c (by simp))]
      exact ih fun d member => white d (by simp [member])

/-- Padding at either end is removed with the white space that it pads. -/
theorem strip_padded {left right : List Char} (hl : ∀ c ∈ left, isWhite c = true)
    (hr : ∀ c ∈ right, isWhite c = true) (cs : List Char)
    : strip (left ++ cs ++ right) = strip cs := by
  unfold strip
  rw [List.append_assoc, dropWhile_white hl, List.dropWhile_append]
  split
  · -- All of the text was white, and then so is the padding behind it.
    rename_i empty
    have gone : cs.dropWhile isWhite = [] := by simpa using empty
    have padding := dropWhile_white hr []
    rw [List.append_nil] at padding
    simp [gone, padding]
  · rw [List.reverse_append, dropWhile_white (by simpa using hr)]

theorem strip_of_no_white {cs : List Char} (h : ∀ c ∈ cs, isWhite c = false)
    : strip cs = cs := by
  have none {ds : List Char} (h : ∀ c ∈ ds, isWhite c = false)
      : ds.dropWhile isWhite = ds := by
    cases ds with
    | nil => rfl
    | cons d rest => exact List.dropWhile_cons_of_neg (by simp [h d (by simp)])
  unfold strip
  rw [none h, none (by simpa using h), List.reverse_reverse]

/-- A text is its stripped text between padding. -/
theorem exists_padding (cs : List Char)
    : ∃ left right : List Char,
        (∀ c ∈ left, isWhite c = true)
        ∧ (∀ c ∈ right, isWhite c = true)
        ∧ cs = left ++ strip cs ++ right := by
  let kept := cs.dropWhile isWhite
  refine ⟨cs.takeWhile isWhite, (kept.reverse.takeWhile isWhite).reverse, ?_, ?_, ?_⟩
  · exact fun c member => List.mem_takeWhile_imp member
  · intro c member
    exact List.mem_takeWhile_imp (List.mem_reverse.mp member)
  · have tail := congrArg List.reverse (List.takeWhile_append_dropWhile (p := isWhite) (l := kept.reverse))
    rw [List.reverse_append, List.reverse_reverse] at tail
    rw [strip, List.append_assoc, tail, List.takeWhile_append_dropWhile]

/-- Stripping removes nothing but white space. -/
theorem mem_strip {c : Char} {cs : List Char} (h : c ∈ cs) (shown : isWhite c = false)
    : c ∈ strip cs := by
  obtain ⟨left, right, hl, hr, whole⟩ := exists_padding cs
  rw [whole] at h
  rcases List.mem_append.mp h with front | member
  · rcases List.mem_append.mp front with member | inside
    · exact absurd (hl c member) (by simp [shown])
    · exact inside
  · exact absurd (hr c member) (by simp [shown])

/-- Stripping twice is stripping once: what was removed was padding. -/
theorem strip_strip (cs : List Char)
    : strip (strip cs) = strip cs := by
  obtain ⟨left, right, hl, hr, whole⟩ := exists_padding cs
  calc
    strip (strip cs) = strip (left ++ strip cs ++ right) := (strip_padded hl hr _).symm
    _ = strip cs := by rw [← whole]

theorem trim_trim (text : String)
    : trim (trim text) = trim text := by
  simp [trim, strip_strip]

theorem trim_ofList (cs : List Char)
    : trim (String.ofList cs) = String.ofList (strip cs) := by
  simp [trim]

end AllocTrace.Text
