import Mathlib.Data.List.Basic
import Mathlib.Data.List.DropRight

/-!
# Numerals

Words are written as decimal numerals: digits only, at least one, and different ones for different
words. So a numeral is found again in a text, from its front or from its end, if what it is next to
is no digit.
-/

namespace SectorGate.Text

/-- Two texts that are cut at the first place of a character are equal if their parts are. -/
theorem append_cons_inj_of_first {α : Type} {a : α} {front front' rest rest' : List α}
    (hfront : a ∉ front) (hfront' : a ∉ front') :
    front ++ a :: rest = front' ++ a :: rest' ↔ front = front' ∧ rest = rest' := by
  induction front generalizing front' with
  | nil =>
      cases front' with
      | nil => simp
      | cons b front' =>
          have hne : a ≠ b := fun h => hfront' (by simp [h])
          simp [hne]
  | cons c front ih =>
      rw [List.mem_cons, not_or] at hfront
      cases front' with
      | nil => simp [Ne.symm hfront.1]
      | cons b front' =>
          rw [List.mem_cons, not_or] at hfront'
          simp only [List.cons_append, List.cons.injEq, ih hfront.2 hfront'.2, and_assoc]

/-- The digits of a number. -/
def digits (n : Nat) : List Char := (toString n).toList

theorem digits_eq_toDigits (n : Nat) : digits n = Nat.toDigits 10 n := by
  rw [digits, Nat.toString_eq_ofList_toDigits, String.toList_ofList]

theorem isDigit_of_mem_digits {n : Nat} {c : Char} (hc : c ∈ digits n) : c.isDigit = true := by
  rw [digits_eq_toDigits] at hc
  exact Nat.isDigit_of_mem_toDigits (by decide) (by decide) hc

theorem ofDigitChars_digits (n : Nat) : Nat.ofDigitChars 10 (digits n) 0 = n := by
  rw [digits_eq_toDigits, Nat.ofDigitChars_ten_toDigits]

theorem digits_inj {n n' : Nat} : digits n = digits n' ↔ n = n' := by
  refine ⟨fun h => ?_, congrArg digits⟩
  rw [← ofDigitChars_digits n, h, ofDigitChars_digits]

/-- A numeral ends where something stands that is no digit. -/
theorem digits_append_cons_inj {n n' : Nat} {c : Char} (hc : c.isDigit = false)
    {rest rest' : List Char} :
    digits n ++ c :: rest = digits n' ++ c :: rest' ↔ n = n' ∧ rest = rest' := by
  have hnot : ∀ n, c ∉ digits n := by
    intro n hmem
    rw [isDigit_of_mem_digits hmem] at hc
    cases hc
  rw [append_cons_inj_of_first (hnot n) (hnot n'), digits_inj]

/-! ## Words at the end of a text -/

/-- The word of which these are the digits. Leading zeros are none. -/
def word? (text : List Char) : Option UInt64 :=
  let n := Nat.ofDigitChars 10 text 0
  if text = digits n ∧ n < UInt64.size then some (.ofNat n) else none

theorem word?_eq_some_iff {text : List Char} {w : UInt64} :
    word? text = some w ↔ text = digits w.toNat := by
  unfold word?
  constructor
  · intro h
    dsimp only at h
    split at h
    · next hcan =>
      obtain rfl := Option.some.inj h
      rw [UInt64.toNat_ofNat_of_lt' hcan.2]
      exact hcan.1
    · cases h
  · rintro rfl
    simp [ofDigitChars_digits, w.toNat_lt_size]

/-- A text in front of a numeral, and the word that this numeral at the end writes. -/
def wordAtEnd? (text : List Char) : Option (List Char × UInt64) :=
  (word? (text.rtakeWhile Char.isDigit)).map (text.rdropWhile Char.isDigit, ·)

theorem wordAtEnd?_eq_some {text front : List Char} {w : UInt64}
    (h : wordAtEnd? text = some (front, w)) : text = front ++ digits w.toNat := by
  obtain ⟨w', hw, heq⟩ := Option.map_eq_some_iff.mp h
  obtain ⟨rfl, rfl⟩ := Prod.mk.inj heq
  rw [← word?_eq_some_iff.mp hw, List.rdropWhile_append_rtakeWhile]

/-- A numeral at the end of a text is found again behind a text that ends in no digit. -/
theorem wordAtEnd?_append {front stop : List Char}
    (hstop : stop.getLast?.map Char.isDigit = some false) (w : UInt64) :
    wordAtEnd? (front ++ stop ++ digits w.toNat) = some (front ++ stop, w) := by
  obtain ⟨c, hlast, hc⟩ := Option.map_eq_some_iff.mp hstop
  obtain ⟨init, rfl⟩ := List.getLast?_eq_some_iff.mp hlast
  have hdigits : ∀ d ∈ (digits w.toNat).reverse, d.isDigit = true :=
    fun d hd => isDigit_of_mem_digits (List.mem_reverse.mp hd)
  have hnumeral : (front ++ (init ++ [c]) ++ digits w.toNat).rtakeWhile Char.isDigit =
      digits w.toNat := by
    simp [List.rtakeWhile, List.takeWhile_append_of_pos hdigits, hc]
  have hrest : (front ++ (init ++ [c]) ++ digits w.toNat).rdropWhile Char.isDigit =
      front ++ (init ++ [c]) := by
    simp [List.rdropWhile, List.dropWhile_append_of_pos hdigits, hc]
  rw [wordAtEnd?, hnumeral, hrest, word?_eq_some_iff.mpr rfl, Option.map_some]

end SectorGate.Text
