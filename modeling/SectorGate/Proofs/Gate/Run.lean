import SectorGate.Proofs.SmallBudget

/-!
# Runs of a check

What a check of images does, said without the code: a relation between a machine, the budgets
that are left, and the interview that comes of them. There is one rule for each way in which a
check goes on or ends, and all numbers are natural numbers.

* `checkRun_interview`: a check of small budgets goes like this.
* `CheckRun.unique`: on the same machine it goes in one way only.
-/

namespace SectorGate.Gate

variable {g : Gate} {m : Machine} {b : Budget}

/-- The ways in which a check of images on a machine can go. -/
inductive CheckRun (g : Gate) : Machine → List Budget → Interview Check → Prop
  | pass {m : Machine} : CheckRun g m [] ⟨[], ⟨[], .ok .pass⟩⟩
  | unreadable {m : Machine} {b : Budget} {rest : List Budget} {fault : Fault}
      (hreply : m.fileSize 0 (g.imagePath b) = .error fault) :
      CheckRun g m (b :: rest)
        ⟨[.fileSize (g.imagePath b) (.error fault)],
          ⟨[], .error (.unreadable ⟨g.imagePath b, fault⟩)⟩⟩
  | overrun {m : Machine} {b : Budget} {rest : List Budget} {size max : UInt64}
      (hreply : m.fileSize 0 (g.imagePath b) = .ok size)
      (hmax : max.toNat = b.bytes) (hover : b.bytes < size.toNat) :
      CheckRun g m (b :: rest)
        ⟨[.fileSize (g.imagePath b) (.ok size)],
          ⟨[.overBudget b.fileName size max],
            .ok (.overrun ⟨b.fileName, size, b.sectorCount, b.exitCode⟩)⟩⟩
  | fits {m : Machine} {b : Budget} {rest : List Budget} {size room : UInt64}
      {later : Interview Check}
      (hreply : m.fileSize 0 (g.imagePath b) = .ok size)
      (hroom : size.toNat + room.toNat = b.bytes)
      (hlater : CheckRun g m.later rest later) :
      CheckRun g m (b :: rest)
        ⟨.fileSize (g.imagePath b) (.ok size) :: later.exchanges,
          ⟨.fits b.fileName size (sectorsUsed size) b.sectorCount room :: later.result.events,
            later.result.result⟩⟩

/-! ## One image at a time -/

theorem interview_imageSize_bind_of_error {α : Type} {fault : Fault}
    (hreply : m.fileSize 0 (g.imagePath b) = .error fault)
    (f : Except Unreadable UInt64 → Inquiry α) :
    (g.imageSize b >>= f).interview m =
      let later := (f (.error ⟨g.imagePath b, fault⟩)).interview m.later
      ⟨.fileSize (g.imagePath b) (.error fault) :: later.exchanges, later.result⟩ := by
  rw [imageSize, Inquiry.fileSize_bind, Inquiry.interview_fileSize, hreply]
  rfl

theorem interview_imageSize_bind_of_ok {α : Type} {size : UInt64}
    (hreply : m.fileSize 0 (g.imagePath b) = .ok size)
    (f : Except Unreadable UInt64 → Inquiry α) :
    (g.imageSize b >>= f).interview m =
      let later := (f (.ok size)).interview m.later
      ⟨.fileSize (g.imagePath b) (.ok size) :: later.exchanges, later.result⟩ := by
  rw [imageSize, Inquiry.fileSize_bind, Inquiry.interview_fileSize, hreply]
  rfl

theorem interview_checkAll_of_error (rest : List Budget) {fault : Fault}
    (hreply : m.fileSize 0 (g.imagePath b) = .error fault) :
    (g.checkAll (b :: rest)).interview m =
      ⟨[.fileSize (g.imagePath b) (.error fault)],
        ⟨[], .error (.unreadable ⟨g.imagePath b, fault⟩)⟩⟩ := by
  simp [checkAll, interview_imageSize_bind_of_error hreply]

theorem interview_checkAll_of_over (rest : List Budget) {size : UInt64} (hsmall : b.Small)
    (hreply : m.fileSize 0 (g.imagePath b) = .ok size) (hover : b.bytes < size.toNat) :
    ∃ max : UInt64, max.toNat = b.bytes ∧
      (g.checkAll (b :: rest)).interview m =
        ⟨[.fileSize (g.imagePath b) (.ok size)],
          ⟨[.overBudget b.fileName size max],
            .ok (.overrun ⟨b.fileName, size, b.sectorCount, b.exitCode⟩)⟩⟩ := by
  obtain ⟨max, hevent, hmax⟩ := Event.exists_ofSize?_of_over hsmall hover
  refine ⟨max, hmax, ?_⟩
  simp [checkAll, interview_imageSize_bind_of_ok hreply, Budget.exceededBy?_eq hsmall, hover,
    hevent, Overrun.ofBudget]

theorem interview_checkAll_of_fits (rest : List Budget) {size : UInt64} (hsmall : b.Small)
    (hreply : m.fileSize 0 (g.imagePath b) = .ok size) (hfits : size.toNat ≤ b.bytes) :
    ∃ room : UInt64, size.toNat + room.toNat = b.bytes ∧
      (g.checkAll (b :: rest)).interview m =
        let later := (g.checkAll rest).interview m.later
        ⟨.fileSize (g.imagePath b) (.ok size) :: later.exchanges,
          ⟨.fits b.fileName size (sectorsUsed size) b.sectorCount room :: later.result.events,
            later.result.result⟩⟩ := by
  obtain ⟨room, hevent, hroom⟩ := Event.exists_ofSize?_of_fits hsmall hfits
  refine ⟨room, hroom, ?_⟩
  simp [checkAll, interview_imageSize_bind_of_ok hreply, Budget.exceededBy?_eq hsmall,
    Nat.not_lt.mpr hfits, hevent, Inquiry.interview_map]

/-! ## All images -/

/-- A check of small budgets goes in one of the ways. -/
theorem checkRun_interview {budgets : List Budget} (hsmall : ∀ b ∈ budgets, b.Small)
    (m : Machine) : CheckRun g m budgets ((g.checkAll budgets).interview m) := by
  induction budgets generalizing m with
  | nil => exact .pass
  | cons b rest ih =>
      have hb : b.Small := hsmall b (by simp)
      cases hreply : m.fileSize 0 (g.imagePath b) with
      | error fault =>
          rw [interview_checkAll_of_error rest hreply]
          exact .unreadable hreply
      | ok size =>
          by_cases hover : b.bytes < size.toNat
          · obtain ⟨max, hmax, hrun⟩ := interview_checkAll_of_over rest hb hreply hover
            rw [hrun]
            exact .overrun hreply hmax hover
          · obtain ⟨room, hroom, hrun⟩ :=
              interview_checkAll_of_fits rest hb hreply (Nat.not_lt.mp hover)
            rw [hrun]
            exact .fits hreply hroom (ih (fun b hb => hsmall b (by simp [hb])) m.later)

/-- The replies settle a run: the words in its events are given by their numbers. -/
theorem CheckRun.unique {budgets : List Budget} {first second : Interview Check}
    (hfirst : CheckRun g m budgets first) (hsecond : CheckRun g m budgets second) :
    first = second := by
  induction hfirst generalizing second with
  | pass =>
      cases hsecond
      rfl
  | unreadable hreply =>
      cases hsecond with
      | unreadable hreply' =>
          cases hreply.symm.trans hreply'
          rfl
      | overrun hreply' => cases hreply.symm.trans hreply'
      | fits hreply' => cases hreply.symm.trans hreply'
  | overrun hreply hmax hover =>
      cases hsecond with
      | unreadable hreply' => cases hreply.symm.trans hreply'
      | overrun hreply' hmax' =>
          cases hreply.symm.trans hreply'
          obtain rfl := UInt64.toNat_inj.mp (hmax.trans hmax'.symm)
          rfl
      | fits hreply' hroom' =>
          cases hreply.symm.trans hreply'
          omega
  | fits hreply hroom hlater ih =>
      cases hsecond with
      | unreadable hreply' => cases hreply.symm.trans hreply'
      | overrun hreply' hmax' hover' =>
          cases hreply.symm.trans hreply'
          omega
      | fits hreply' hroom' hlater' =>
          cases hreply.symm.trans hreply'
          obtain rfl := UInt64.toNat_inj.mp (Nat.add_left_cancel (hroom.trans hroom'.symm))
          obtain rfl := ih hlater'
          rfl

end SectorGate.Gate
