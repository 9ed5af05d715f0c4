/-!
# Byte offsets

Places in a text, counted in the bytes of its encoding. Not every offset is the place of a
character, so to cut a text at one can fail.
-/

namespace SectorGate.Text

/-- The number of bytes that encode a text. -/
def width : List Char → Nat
  | [] => 0
  | c :: rest => c.utf8Size + width rest

/-- What follows the first bytes of a text, if they are whole characters. -/
def drop? (n : Nat) : List Char → Option (List Char)
  | [] => if n = 0 then some [] else none
  | c :: rest =>
    if n = 0 then some (c :: rest)
    else if c.utf8Size ≤ n then drop? (n - c.utf8Size) rest
    else none

/-- The first bytes of a text, if they are whole characters. -/
def take? (n : Nat) : List Char → Option (List Char)
  | [] => if n = 0 then some [] else none
  | c :: rest =>
    if n = 0 then some []
    else if c.utf8Size ≤ n then (take? (n - c.utf8Size) rest).map (c :: ·)
    else none

def slice? (text : List Char) (start stop : Nat) : Option (List Char) :=
  (drop? start text).bind (take? (stop - start))

theorem width_append (first second : List Char) :
    width (first ++ second) = width first + width second := by
  induction first with
  | nil => simp [width]
  | cons c rest ih => simp [width, ih, Nat.add_assoc]

theorem drop?_width_append (first second : List Char) :
    drop? (width first) (first ++ second) = some second := by
  induction first with
  | nil => cases second <;> simp [drop?, width]
  | cons c rest ih =>
    have hne : c.utf8Size ≠ 0 := Nat.ne_of_gt c.utf8Size_pos
    simp [drop?, width, hne, ih]

theorem take?_width_append (first second : List Char) :
    take? (width first) (first ++ second) = some first := by
  induction first with
  | nil => cases second <;> simp [take?, width]
  | cons c rest ih =>
    have hne : c.utf8Size ≠ 0 := Nat.ne_of_gt c.utf8Size_pos
    simp [take?, width, hne, ih]

/-- A part of a text is found between its own offsets. -/
theorem slice?_append (first second third : List Char) :
    slice? (first ++ (second ++ third)) (width first) (width first + width second) =
      some second := by
  simp [slice?, drop?_width_append, take?_width_append]

end SectorGate.Text
