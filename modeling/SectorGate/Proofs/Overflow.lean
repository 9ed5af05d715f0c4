import Mathlib.Algebra.Order.Floor.Semiring
import Mathlib.Data.Rat.Floor
import SectorGate.Proofs.Gate.Run

/-!
# Where the arithmetic leaves 64 bits

The operations on a budget are those of the integers as long as its bytes make a word, that is, for
fewer than `2 ^ 55` sectors. From there on none of them has a value, whatever the size of the image
is. To count the sectors of an image never overflows. The boot images are far below the bound, so no
check of them ends for this reason, and every event of it has all its numbers.
-/

namespace SectorGate

namespace Budget

variable {b : Budget}

/-! ## The bound -/

theorem maxBytes?_eq_none_iff_le : b.maxBytes? = none ↔ 2 ^ 55 ≤ b.sectorCount.toNat := by
  rw [maxBytes?_eq_none_iff, UInt64.size]
  omega

theorem exceededBy?_eq_none_iff (size : UInt64) :
    b.exceededBy? size = none ↔ b.maxBytes? = none := by
  rw [exceededBy?, Option.map_eq_none_iff]

/-- The slack is cut off at zero only after the product has been found. -/
theorem headroom?_eq_none_iff (size : UInt64) : b.headroom? size = none ↔ b.maxBytes? = none := by
  rw [headroom?, Option.map_eq_none_iff]

end Budget

/-! ## Sectors -/

/-- One sector more than the whole ones of an image can still be counted. -/
theorem div_sectorSize_add_one_lt (size : UInt64) :
    (size / sectorSize).toNat + 1 < UInt64.size := by
  have hsize := size.toNat_lt
  rw [UInt64.toNat_div, toNat_sectorSize, UInt64.size]
  omega

theorem toNat_sectorsUsed_eq_ceil (size : UInt64) :
    (sectorsUsed size).toNat = ⌈(size.toNat : ℚ) / 512⌉₊ := by
  have hpos : (0 : ℚ) < 512 := by norm_num
  obtain ⟨hle, hlt⟩ := size_le_sectorsUsed size
  apply le_antisymm
  · have hceil := Nat.le_ceil ((size.toNat : ℚ) / 512)
    rw [div_le_iff₀ hpos] at hceil
    have hnat : size.toNat ≤ ⌈(size.toNat : ℚ) / 512⌉₊ * 512 := by exact_mod_cast hceil
    omega
  · rw [Nat.ceil_le, div_le_iff₀ hpos]
    exact_mod_cast hle

/-! ## Operations on a budget -/

namespace Budget

variable {b : Budget}

theorem toInt_headroom {size room : UInt64} (hroom : room.toNat = b.bytes - size.toNat) :
    (room.toNat : ℤ) = max ((b.sectorCount.toNat : ℤ) * 512 - size.toNat) 0 := by
  unfold bytes at hroom
  omega

/-- That the operations on a budget are those of the integers at an image of some size, except that
those on its bytes have no value if the bytes leave 64 bits. -/
structure IsExact (b : Budget) (size : UInt64) : Prop where
  /-- The only sum in counting sectors, of the whole ones and one more, makes a word. -/
  whole_add_one_lt : (size / sectorSize).toNat + 1 < UInt64.size
  sectors_eq : (sectorsUsed size).toNat = ⌈(size.toNat : ℚ) / 512⌉₊
  maxBytes_none_iff : b.maxBytes? = none ↔ 2 ^ 55 ≤ b.sectorCount.toNat
  exceededBy_none_iff : b.exceededBy? size = none ↔ 2 ^ 55 ≤ b.sectorCount.toNat
  headroom_none_iff : b.headroom? size = none ↔ 2 ^ 55 ≤ b.sectorCount.toNat
  of_lt : b.sectorCount.toNat < 2 ^ 55 → ∃ limit room : UInt64,
    b.maxBytes? = some limit ∧ (limit.toNat : ℤ) = (b.sectorCount.toNat : ℤ) * 512 ∧
      b.exceededBy? size =
        some (decide ((b.sectorCount.toNat : ℤ) * 512 < (size.toNat : ℤ))) ∧
      b.headroom? size = some room ∧
      (room.toNat : ℤ) = max ((b.sectorCount.toNat : ℤ) * 512 - size.toNat) 0

theorem isExact (b : Budget) (size : UInt64) : b.IsExact size where
  whole_add_one_lt := div_sectorSize_add_one_lt size
  sectors_eq := toNat_sectorsUsed_eq_ceil size
  maxBytes_none_iff := maxBytes?_eq_none_iff_le
  exceededBy_none_iff := (exceededBy?_eq_none_iff size).trans maxBytes?_eq_none_iff_le
  headroom_none_iff := (headroom?_eq_none_iff size).trans maxBytes?_eq_none_iff_le
  of_lt := by
    intro hsmall
    obtain ⟨limit, hlimit, hbytes⟩ := exists_maxBytes? hsmall
    obtain ⟨room, hroom, hrest⟩ := exists_headroom? hsmall size
    refine ⟨limit, room, hlimit, ?_, ?_, hroom, toInt_headroom hrest⟩
    · rw [hbytes, bytes]
      norm_cast
    · rw [exceededBy?_eq hsmall, bytes]
      norm_cast

/-- An image that fills all the words there are needs just the sectors that no word has bytes for.
-/
example : sectorsUsed 0xffffffffffffffff = 0x80000000000000 ∧
    (⟨"disk.bin", 0x80000000000000, 1⟩ : Budget).headroom? 0xffffffffffffffff = none := by decide

end Budget

/-! ## Checks -/

namespace Event

variable {b : Budget} {size : UInt64}

theorem ofSize?_of_over {max : UInt64} (hsmall : b.Small) (hmax : max.toNat = b.bytes)
    (hover : b.bytes < size.toNat) : ofSize? b size = some (.overBudget b.fileName size max) := by
  obtain ⟨max', hevent, hmax'⟩ := exists_ofSize?_of_over hsmall hover
  obtain rfl : max = max' := UInt64.toNat_inj.mp (hmax.trans hmax'.symm)
  exact hevent

theorem ofSize?_of_fits {room : UInt64} (hsmall : b.Small)
    (hroom : size.toNat + room.toNat = b.bytes) :
    ofSize? b size = some (.fits b.fileName size (sectorsUsed size) b.sectorCount room) := by
  have hle : size.toNat ≤ b.bytes := by omega
  obtain ⟨room', hevent, hroom'⟩ := exists_ofSize?_of_fits hsmall hle
  obtain rfl : room = room' := by
    apply UInt64.toNat_inj.mp
    omega
  exact hevent

end Event

namespace Gate

variable {g : Gate} {m : Machine} {budgets : List Budget} {run : Interview Check}

theorem CheckRun.result_ne_overflow (hrun : CheckRun g m budgets run) :
    run.result.result ≠ .error .overflow := by
  induction hrun with
  | pass => nofun
  | unreadable hreply => nofun
  | overrun hreply hmax hover => nofun
  | fits hreply hroom hlater ih => exact ih

/-- Wherever a run reads a size, its event has all its numbers, and is noted in its place. -/
theorem CheckRun.exists_event_of_read (hrun : CheckRun g m budgets run)
    (hsmall : ∀ b ∈ budgets, b.Small) {i : Nat} {b : Budget} {path : String} {size : UInt64}
    (hb : budgets[i]? = some b) (hread : run.exchanges[i]? = some (.fileSize path (.ok size))) :
    ∃ e, Event.ofSize? b size = some e ∧ run.result.events[i]? = some e := by
  induction hrun generalizing i with
  | pass => simp at hb
  | unreadable hreply =>
      cases i with
      | zero => simp at hread
      | succ i => simp at hread
  | @overrun m first rest bytes max hreply hmax hover =>
      cases i with
      | zero =>
          obtain rfl : first = b := by simpa using hb
          obtain ⟨-, rfl⟩ : g.imagePath first = path ∧ bytes = size := by simpa using hread
          exact ⟨_, Event.ofSize?_of_over (hsmall first (by simp)) hmax hover, rfl⟩
      | succ i => simp at hread
  | @fits m first rest bytes room later hreply hroom hlater ih =>
      cases i with
      | zero =>
          obtain rfl : first = b := by simpa using hb
          obtain ⟨-, rfl⟩ : g.imagePath first = path ∧ bytes = size := by simpa using hread
          exact ⟨_, Event.ofSize?_of_fits (hsmall first (by simp)) hroom, rfl⟩
      | succ i =>
          exact ih (fun b hb => hsmall b (by simp [hb])) (by simpa using hb)
            (by simpa using hread)

end Gate

/-- The arithmetic of every budget is that of the integers up to a bound that is the same for all
operations on its bytes, and counting sectors has no bound. No check of the boot images reaches the
bound, neither for its result nor for the numbers of its events, whatever the machine replies. -/
theorem arithmetic_exact :
    (∀ (b : Budget) (size : UInt64), b.IsExact size) ∧
      ∀ (g : Gate) (m : Machine),
        (g.check.interview m).result.result ≠ .error .overflow ∧
          ∀ (i : Nat) (b : Budget) (path : String) (size : UInt64), images[i]? = some b →
            (g.check.interview m).exchanges[i]? = some (.fileSize path (.ok size)) →
            ∃ e, Event.ofSize? b size = some e ∧
              (g.check.interview m).result.events[i]? = some e := by
  refine ⟨Budget.isExact, fun g m => ?_⟩
  have hrun : g.CheckRun m images (g.check.interview m) :=
    Gate.checkRun_interview Budget.small_of_mem_images m
  refine ⟨hrun.result_ne_overflow, fun i b path size hb hread => ?_⟩
  exact hrun.exists_event_of_read Budget.small_of_mem_images hb hread

end SectorGate
