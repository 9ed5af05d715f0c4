import SectorGate.Proofs.SmallBudget

/-!
# Slack

An image is measured in bytes and in sectors. This module shows that the two agree: an image has
more bytes than its budget exactly if it touches more sectors, and the headroom is exactly what it
can still grow by, of which the whole sectors are those that it does not touch.
-/

namespace SectorGate

theorem toNat_add_of_lt {a b : UInt64} (hlt : a.toNat + b.toNat < UInt64.size) :
    (a + b).toNat = a.toNat + b.toNat := by
  rw [UInt64.toNat_add]
  exact Nat.mod_eq_of_lt hlt

namespace Budget

variable {b : Budget} {size : UInt64}

theorem bytes_lt_iff (b : Budget) (size : UInt64) :
    b.bytes < size.toNat ↔ b.sectorCount < sectorsUsed size := by
  rw [UInt64.lt_iff_toNat_lt, toNat_sectorsUsed, bytes]
  omega

/-- The last byte of a word is never reserved, so an image that fills its sectors can grow. -/
theorem Small.bytes_add_one_lt (hsmall : b.Small) : b.bytes + 1 < UInt64.size := by
  unfold Small at hsmall
  unfold bytes UInt64.size
  omega

theorem exceededBy?_eq_some_false_iff (hsmall : b.Small) :
    b.exceededBy? size = some false ↔ size.toNat ≤ b.bytes := by
  simp [exceededBy?_eq hsmall]

/-- What becomes of an image that grows, if its size stays within a word. -/
theorem exceededBy?_add (hsmall : b.Small) {more : UInt64}
    (hlt : size.toNat + more.toNat < UInt64.size) :
    b.exceededBy? (size + more) = some (decide (b.bytes < size.toNat + more.toNat)) := by
  rw [exceededBy?_eq hsmall, toNat_add_of_lt hlt]

/-- The sectors that an image touches and the whole ones behind it are all that it has. -/
theorem sectorsUsed_add_free {free : Nat} (hfree : size.toNat + free = b.bytes) :
    (sectorsUsed size).toNat + free / 512 = b.sectorCount.toNat := by
  rw [toNat_sectorsUsed]
  unfold bytes at hfree
  omega

/-- That `room` is just what an image of this size can grow by within its budget: so many bytes and
not one more, in as many whole sectors as it does not touch. -/
structure IsSlack (b : Budget) (size room : UInt64) : Prop where
  fits_within : ∀ more ≤ room, b.exceededBy? (size + more) = some false
  /-- One byte more still makes a word. -/
  beyond_lt : size.toNat + room.toNat + 1 < UInt64.size
  over_beyond : b.exceededBy? (size + (room + 1)) = some true
  sectors : (sectorsUsed size).toNat + room.toNat / 512 = b.sectorCount.toNat

theorem isSlack_of_add_eq {room : UInt64} (hsmall : b.Small)
    (hroom : size.toNat + room.toNat = b.bytes) : b.IsSlack size room := by
  have hword := hsmall.bytes_add_one_lt
  have hone : (room + 1).toNat = room.toNat + 1 :=
    toNat_add_of_lt (by rw [UInt64.toNat_one]; omega)
  refine ⟨?_, by omega, ?_, sectorsUsed_add_free hroom⟩
  · intro more hmore
    have hle : more.toNat ≤ room.toNat := UInt64.le_iff_toNat_le.mp hmore
    rw [exceededBy?_add hsmall (by omega), decide_eq_false (by omega)]
  · rw [exceededBy?_add hsmall (by omega), decide_eq_true (by omega)]

/-- Bytes and sectors give the same answer under every small budget. The headroom fills an image up
to its budget and, if it fits, is its slack. -/
theorem bytes_agree_with_sectors (hsmall : b.Small) (size : UInt64) :
    b.exceededBy? size = some (decide (b.sectorCount < sectorsUsed size)) ∧
      ∃ limit room, b.maxBytes? = some limit ∧ b.headroom? size = some room ∧
        size.toNat + room.toNat = max size.toNat limit.toNat ∧
        (b.exceededBy? size = some false → b.IsSlack size room) := by
  obtain ⟨limit, hlimit, hbytes⟩ := exists_maxBytes? hsmall
  obtain ⟨room, hroom, hrest⟩ := exists_headroom? hsmall size
  refine ⟨?_, limit, room, hlimit, hroom, ?_, fun hfits => isSlack_of_add_eq hsmall ?_⟩
  · rw [exceededBy?_eq hsmall, decide_eq_decide.mpr (bytes_lt_iff b size)]
  · omega
  · have hle := (exceededBy?_eq_some_false_iff hsmall).mp hfits
    omega

/-- The greatest small budget, at an image that lacks one byte of its last sector but one. -/
theorem bytes_agree_with_sectors_greatest :
    let b : Budget := ⟨"disk.bin", 0x7fffffffffffff, 1⟩
    let size : UInt64 := 0xfffffffffffffbff
    b.Small ∧ b.exceededBy? size = some false ∧ b.headroom? size = some 513 ∧
      b.IsSlack size 513 := by
  intro b size
  have hsmall : b.Small := by
    unfold Small
    decide
  obtain ⟨hsectors, limit, room, hlimit, hroom, -, hslack⟩ :=
    bytes_agree_with_sectors hsmall size
  have hfits : b.exceededBy? size = some false := hsectors.trans (by decide)
  have hknown : b.headroom? size = some 513 := by decide
  obtain rfl : room = 513 := Option.some.inj (hroom.symm.trans hknown)
  exact ⟨hsmall, hfits, hknown, hslack hfits⟩

end Budget

end SectorGate
