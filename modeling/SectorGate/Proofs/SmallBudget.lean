import Mathlib.Algebra.Group.Nat.Defs
import SectorGate.Gate

/-!
# Budgets that 64 bits can count

A budget of fewer than `2 ^ 55` sectors has its bytes within one word, so every operation on it
has a value. This module says what the values are as natural numbers, and what a check notes about
an image under such a budget.
-/

namespace SectorGate

namespace Budget

/-- A budget whose bytes 64 bits can count. -/
def Small (b : Budget) : Prop := b.sectorCount.toNat < 2 ^ 55

/-- The bytes that the reserved sectors hold, however many. -/
def bytes (b : Budget) : Nat := b.sectorCount.toNat * 512

theorem small_of_mem_images : ∀ b ∈ images, b.Small := by
  simp only [images, List.forall_mem_cons, Small]
  exact ⟨by decide, by decide, by simp⟩

@[simp] theorem bytes_loader : loader.bytes = 2048 := rfl

@[simp] theorem bytes_kernel : kernel.bytes = 51200 := rfl

theorem Small.bytes_lt {b : Budget} (hsmall : b.Small) : b.bytes < UInt64.size := by
  unfold Small at hsmall
  unfold bytes UInt64.size
  omega

theorem exists_maxBytes? {b : Budget} (hsmall : b.Small) :
    ∃ max, b.maxBytes? = some max ∧ max.toNat = b.bytes := by
  obtain ⟨max, hmax⟩ := Option.isSome_iff_exists.mp
    (b.maxBytes?_isSome_iff.mpr hsmall.bytes_lt)
  exact ⟨max, hmax, toNat_of_maxBytes? hmax⟩

theorem exceededBy?_eq {b : Budget} (hsmall : b.Small) (size : UInt64) :
    b.exceededBy? size = some (decide (b.bytes < size.toNat)) := by
  obtain ⟨max, hmax, hbytes⟩ := exists_maxBytes? hsmall
  simp only [exceededBy?, hmax, Option.map_some, UInt64.lt_iff_toNat_lt, hbytes]

theorem exists_headroom? {b : Budget} (hsmall : b.Small) (size : UInt64) :
    ∃ room, b.headroom? size = some room ∧ room.toNat = b.bytes - size.toNat := by
  obtain ⟨max, hmax, hbytes⟩ := exists_maxBytes? hsmall
  refine ⟨_, by rw [headroom?, hmax, Option.map_some], ?_⟩
  split
  · next hle =>
    rw [UInt64.toNat_sub_of_le _ _ hle, hbytes]
  · next hgt =>
    rw [UInt64.le_iff_toNat_le, hbytes] at hgt
    rw [UInt64.toNat_zero]
    omega

end Budget

/-! ## What is noted about an image -/

namespace Event

variable {b : Budget} {size : UInt64}

theorem exists_ofSize?_of_over (hsmall : b.Small) (hover : b.bytes < size.toNat) :
    ∃ max, ofSize? b size = some (.overBudget b.fileName size max) ∧ max.toNat = b.bytes := by
  obtain ⟨max, hmax, hbytes⟩ := Budget.exists_maxBytes? hsmall
  refine ⟨max, ?_, hbytes⟩
  simp [ofSize?, Budget.exceededBy?_eq hsmall, hover, hmax]

theorem exists_ofSize?_of_fits (hsmall : b.Small) (hfits : size.toNat ≤ b.bytes) :
    ∃ room, ofSize? b size =
        some (.fits b.fileName size (sectorsUsed size) b.sectorCount room) ∧
      size.toNat + room.toNat = b.bytes := by
  obtain ⟨room, hroom, hrest⟩ := Budget.exists_headroom? hsmall size
  refine ⟨room, ?_, by omega⟩
  simp [ofSize?, Budget.exceededBy?_eq hsmall, Nat.not_lt.mpr hfits, hroom]

end Event

/-! ## Bytes and sectors -/

/-- The sectors of an image are the least that hold it. -/
theorem size_le_sectorsUsed (size : UInt64) :
    size.toNat ≤ (sectorsUsed size).toNat * 512 ∧
      (sectorsUsed size).toNat * 512 < size.toNat + 512 := by
  rw [toNat_sectorsUsed]
  omega

/-- An image whose bytes fit into a budget needs no more sectors than it has. -/
theorem sectorsUsed_le_of_fits {b : Budget} {size : UInt64} (hfits : size.toNat ≤ b.bytes) :
    (sectorsUsed size).toNat ≤ b.sectorCount.toNat := by
  rw [toNat_sectorsUsed]
  unfold Budget.bytes at hfits
  omega

end SectorGate
