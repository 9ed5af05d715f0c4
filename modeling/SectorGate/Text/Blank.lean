import SectorGate.Text.Range

/-!
# Blanks

The characters with the Unicode property White_Space.
-/

namespace SectorGate.Text

def blankRanges : List (Nat × Nat) := [
  (9, 13), (0x20, 0x20), (0x85, 0x85), (0xA0, 0xA0), (0x1680, 0x1680), (0x2000, 0x200A),
  (0x2028, 0x2029), (0x202F, 0x202F), (0x205F, 0x205F), (0x3000, 0x3000)]

def isBlank (c : Char) : Bool :=
  inRanges blankRanges c

def trim (text : List Char) : List Char :=
  ((text.dropWhile isBlank).reverse.dropWhile isBlank).reverse

theorem dropWhile_isBlank {text : List Char} (hhead : ∀ c ∈ text.head?, isBlank c = false) :
    text.dropWhile isBlank = text := by
  cases text with
  | nil => rfl
  | cons c rest => simp [hhead c (by simp)]

/-- A text that neither begins nor ends with white space is left as it is. -/
theorem trim_eq_self {text : List Char} (hhead : ∀ c ∈ text.head?, isBlank c = false)
    (hlast : ∀ c ∈ text.getLast?, isBlank c = false) : trim text = text := by
  rw [trim, dropWhile_isBlank hhead, dropWhile_isBlank (by simpa using hlast),
    List.reverse_reverse]

/-- A text that does not begin with white space is trimmed at its end alone. -/
theorem exists_trim_append {text : List Char} (hhead : ∀ c ∈ text.head?, isBlank c = false) :
    ∃ behind, text = trim text ++ behind := by
  have hsplit := List.takeWhile_append_dropWhile (p := isBlank) (l := text.reverse)
  refine ⟨(text.reverse.takeWhile isBlank).reverse, ?_⟩
  rw [trim, dropWhile_isBlank hhead, ← List.reverse_append, hsplit, List.reverse_reverse]

end SectorGate.Text
