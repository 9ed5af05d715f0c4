/-!
# Sector budgets

Each boot image has a number of disk sectors reserved for it. This module holds the
budgets, the two that a check uses, and the arithmetic on 64-bit words that compares
bytes with sectors. A product that leaves 64 bits has no value (`none`): it is never
wrapped. The lemmas say what each operation computes on natural numbers.
-/

namespace SectorGate

/-- Bytes in one disk sector. -/
def sectorSize : UInt64 := 512

/-- An image file, the sectors reserved for it, and the exit code that reports an overrun. -/
structure Budget where
  fileName : String
  sectorCount : UInt64
  exitCode : Int32
  deriving DecidableEq, Repr

/-- The boot loader comes first on the disk and has four sectors. -/
def loader : Budget := ⟨"loader.bin", 4, -1⟩

/-- The kernel has a hundred sectors. -/
def kernel : Budget := ⟨"kernel.bin", 100, -2⟩

/-- The images of a boot disk in the order in which they are checked. -/
def images : List Budget := [loader, kernel]

/-- The product of two words, if it fits into one. -/
def checkedMul (a b : UInt64) : Option UInt64 :=
  if a.toNat * b.toNat < UInt64.size then some (a * b) else none

namespace Budget

/-- The bytes that the reserved sectors hold, if 64 bits can say. -/
def maxBytes? (b : Budget) : Option UInt64 :=
  checkedMul b.sectorCount sectorSize

/-- Whether an image of this size leaves its sectors; one that exactly fills them does not. -/
def exceededBy? (b : Budget) (size : UInt64) : Option Bool :=
  b.maxBytes?.map (decide <| · < size)

/-- The bytes still free behind an image of this size, none if it is too long. -/
def headroom? (b : Budget) (size : UInt64) : Option UInt64 :=
  b.maxBytes?.map fun max => if size ≤ max then max - size else 0

end Budget

/-- The sectors that an image of this size touches. -/
def sectorsUsed (size : UInt64) : UInt64 :=
  size / sectorSize + if size % sectorSize = 0 then 0 else 1

/-! ## What the words mean -/

@[simp] theorem toNat_sectorSize : sectorSize.toNat = 512 := rfl

theorem checkedMul_eq_none_iff {a b : UInt64} :
    checkedMul a b = none ↔ UInt64.size ≤ a.toNat * b.toNat := by
  simp [checkedMul]

theorem toNat_of_checkedMul {a b c : UInt64} (h : checkedMul a b = some c) :
    c.toNat = a.toNat * b.toNat := by
  unfold checkedMul at h
  split at h
  · obtain rfl := Option.some.inj h
    rw [UInt64.toNat_mul]
    exact Nat.mod_eq_of_lt ‹_›
  · cases h

namespace Budget

theorem maxBytes?_eq_none_iff (b : Budget) :
    b.maxBytes? = none ↔ UInt64.size ≤ b.sectorCount.toNat * 512 :=
  checkedMul_eq_none_iff

theorem maxBytes?_isSome_iff (b : Budget) :
    b.maxBytes?.isSome ↔ b.sectorCount.toNat * 512 < UInt64.size := by
  rw [Option.isSome_iff_ne_none, ne_eq, maxBytes?_eq_none_iff, Nat.not_le]

theorem toNat_of_maxBytes? {b : Budget} {max : UInt64} (h : b.maxBytes? = some max) :
    max.toNat = b.sectorCount.toNat * 512 :=
  toNat_of_checkedMul h

end Budget

theorem toNat_sectorsUsed (size : UInt64) :
    (sectorsUsed size).toNat = (size.toNat + 511) / 512 := by
  have hsize := size.toNat_lt
  have hmod : size % sectorSize = 0 ↔ size.toNat % 512 = 0 := by
    rw [← UInt64.toNat_inj, UInt64.toNat_mod]
    rfl
  rw [sectorsUsed, UInt64.toNat_add, UInt64.toNat_div, toNat_sectorSize]
  split
  · next h =>
    have := hmod.mp h
    rw [UInt64.toNat_zero]
    omega
  · next h =>
    have := mt hmod.mpr h
    rw [UInt64.toNat_one]
    omega

end SectorGate
