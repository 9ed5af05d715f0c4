import SectorGate.Proofs.Gate.Run

/-!
# The log of a check and its result

A check leaves its events beside its result. This module shows that the two never disagree: there
is one event for each size that was read, all of them but the last say that an image fits, the last
one says otherwise exactly if the result is an overrun, and then it has the same name and size. The
numbers of every event fit together.
-/

namespace SectorGate

namespace Event

def image : Event → String
  | fits image .. => image
  | overBudget image .. => image

def size : Event → UInt64
  | fits _ size .. => size
  | overBudget _ size _ => size

def IsFits : Event → Prop
  | fits .. => True
  | overBudget .. => False

variable {name : String} {bytes sectors budget headroom max : UInt64}

@[simp] theorem image_fits : (fits name bytes sectors budget headroom).image = name := rfl

@[simp] theorem image_overBudget : (overBudget name bytes max).image = name := rfl

@[simp] theorem size_fits : (fits name bytes sectors budget headroom).size = bytes := rfl

@[simp] theorem size_overBudget : (overBudget name bytes max).size = bytes := rfl

@[simp] theorem isFits_fits : (fits name bytes sectors budget headroom).IsFits := trivial

@[simp] theorem not_isFits_overBudget : ¬ (overBudget name bytes max).IsFits := id

end Event

namespace Gate

/-- The name and the size of an image whose size was read. -/
def sizeRead? (g : Gate) : Budget × Exchange → Option (String × UInt64)
  | (b, .fileSize path (.ok size)) =>
    if path = g.imagePath b then some (b.fileName, size) else none
  | _ => none

/-- The ways in which a check ends, with the number of events that it leaves. -/
inductive CheckEnd (g : Gate) (budgets : List Budget) (run : Interview Check) : Prop
  | passed (hresult : run.result.result = .ok .pass)
      (hcount : run.result.events.length = budgets.length)
      (hfits : ∀ e ∈ run.result.events, e.IsFits)
  | unreadable (k : Nat) (b : Budget) (fault : Fault) (hb : budgets[k]? = some b)
      (hasked : run.exchanges.length = k + 1)
      (hlast : run.exchanges[k]? = some (.fileSize (g.imagePath b) (.error fault)))
      (hresult : run.result.result = .error (.unreadable ⟨g.imagePath b, fault⟩))
      (hcount : run.result.events.length = k)
      (hfits : ∀ e ∈ run.result.events, e.IsFits)
  | overrun (k : Nat) (b : Budget) (size max : UInt64) (noted : List Event)
      (hb : budgets[k]? = some b)
      (hasked : run.exchanges.length = k + 1)
      (hlast : run.exchanges[k]? = some (.fileSize (g.imagePath b) (.ok size)))
      (hresult : run.result.result =
        .ok (.overrun ⟨b.fileName, size, b.sectorCount, b.exitCode⟩))
      (hevents : run.result.events = noted ++ [.overBudget b.fileName size max])
      (hcount : noted.length = k)
      (hfits : ∀ e ∈ noted, e.IsFits)
      (hmax : max.toNat = b.bytes) (hover : b.bytes < size.toNat)

variable {g : Gate} {m : Machine} {budgets : List Budget} {run : Interview Check}

/-! ## What a run keeps -/

/-- A run leaves one event for each size that it reads, in the order of the images. -/
theorem CheckRun.events_eq_sizes (hrun : CheckRun g m budgets run) :
    run.result.events.map (fun e => (e.image, e.size)) =
      (budgets.zip run.exchanges).filterMap g.sizeRead? := by
  induction hrun with
  | pass => rfl
  | unreadable hreply => simp [sizeRead?]
  | overrun hreply hmax hover => simp [sizeRead?]
  | fits hreply hroom hlater ih => simp [sizeRead?, ih]

theorem CheckRun.ends (hrun : CheckRun g m budgets run) : CheckEnd g budgets run := by
  induction hrun with
  | pass => exact .passed rfl rfl (by simp)
  | unreadable hreply => exact .unreadable 0 _ _ rfl rfl rfl rfl rfl (by simp)
  | overrun hreply hmax hover =>
      exact .overrun 0 _ _ _ [] rfl rfl rfl rfl rfl rfl (by simp) hmax hover
  | @fits m first rest bytes room later hreply hroom hlater ih =>
      cases ih with
      | passed hresult hcount hfits =>
          refine .passed hresult (by simpa using hcount) ?_
          simpa using hfits
      | unreadable k b fault hb hasked hlast hresult hcount hfits =>
          refine .unreadable (k + 1) b fault (by simpa using hb) (by simpa using hasked)
            (by simpa using hlast) hresult (by simpa using hcount) ?_
          simpa using hfits
      | overrun k b size max noted hb hasked hlast hresult hevents hcount hfits hmax hover =>
          refine .overrun (k + 1) b size max
            (.fits first.fileName bytes (sectorsUsed bytes) first.sectorCount room :: noted)
            (by simpa using hb) (by simpa using hasked) (by simpa using hlast) hresult ?_
            (by simpa using hcount) ?_ hmax hover
          · exact congrArg (List.cons _) hevents
          · simpa using hfits

/-- The numbers of an event that says that an image fits. -/
structure FitsNumbers (b : Budget) (image : String) (size sectors budget headroom : UInt64) :
    Prop where
  image_eq : image = b.fileName
  budget_eq : budget = b.sectorCount
  size_le : size.toNat ≤ sectors.toNat * 512
  lt_size : sectors.toNat * 512 < size.toNat + 512
  sectors_of_empty : size = 0 → sectors = 0
  sectors_le : sectors.toNat ≤ budget.toNat
  size_add_headroom : size.toNat + headroom.toNat = budget.toNat * 512

theorem fitsNumbers_of_room {b : Budget} {size room : UInt64}
    (hroom : size.toNat + room.toNat = b.bytes) :
    FitsNumbers b b.fileName size (sectorsUsed size) b.sectorCount room := by
  obtain ⟨hle, hlt⟩ := size_le_sectorsUsed size
  have hfits : size.toNat ≤ b.bytes := by omega
  refine ⟨rfl, rfl, hle, hlt, ?_, sectorsUsed_le_of_fits hfits, hroom⟩
  rintro rfl
  rfl

/-- The numbers of an event are those of the image in its place. -/
theorem CheckRun.fits_numbers (hrun : CheckRun g m budgets run) (i : Nat) {image : String}
    {size sectors budget headroom : UInt64}
    (hevent : run.result.events[i]? = some (.fits image size sectors budget headroom)) :
    ∃ b, budgets[i]? = some b ∧ FitsNumbers b image size sectors budget headroom := by
  induction hrun generalizing i with
  | pass => simp at hevent
  | unreadable hreply => simp at hevent
  | overrun hreply hmax hover =>
      cases i with
      | zero => simp at hevent
      | succ i => simp at hevent
  | fits hreply hroom hlater ih =>
      cases i with
      | zero =>
          simp only [List.getElem?_cons_zero, Option.some.injEq, Event.fits.injEq] at hevent
          obtain ⟨rfl, rfl, rfl, rfl, rfl⟩ := hevent
          exact ⟨_, rfl, fitsNumbers_of_room hroom⟩
      | succ i => exact ih i (by simpa using hevent)

/-! ## Events and result -/

/-- That the events of a check agree with its result. -/
structure LogAgrees (g : Gate) (budgets : List Budget) (run : Interview Check) : Prop where
  /-- There is one event for each size that was read, in checking order. -/
  events_eq_sizes : run.result.events.map (fun e => (e.image, e.size)) =
    (budgets.zip run.exchanges).filterMap g.sizeRead?
  /-- Before the last event all images fit. -/
  fits_before_last : ∀ e ∈ run.result.events.dropLast, e.IsFits
  /-- The last event tells of an image over its budget exactly if the result does. -/
  last_over_iff : (∃ e, run.result.events.getLast? = some e ∧ ¬ e.IsFits) ↔
    ∃ o, run.result.result = .ok (.overrun o)
  /-- It then has the name, the size and the budget of the result. -/
  last_of_overrun : ∀ o, run.result.result = .ok (.overrun o) →
    ∃ max, run.result.events.getLast? = some (.overBudget o.fileName o.size max) ∧
      max.toNat = o.sectorCount.toNat * 512 ∧ max.toNat < o.size.toNat
  /-- The numbers of each fitting image belong together. -/
  fits_numbers : ∀ (i : Nat) image size sectors budget headroom,
    run.result.events[i]? = some (Event.fits image size sectors budget headroom) →
    ∃ b, budgets[i]? = some b ∧ FitsNumbers b image size sectors budget headroom
  /-- At an image that cannot be read, as many images fit as come before it. -/
  count_of_error : ∀ e, run.result.result = .error e → ∃ (k : Nat) (b : Budget) (fault : Fault),
    e = .unreadable ⟨g.imagePath b, fault⟩ ∧ budgets[k]? = some b ∧
      run.exchanges.length = k + 1 ∧
      run.exchanges[k]? = some (.fileSize (g.imagePath b) (.error fault)) ∧
      run.result.events.length = k ∧ ∀ e ∈ run.result.events, e.IsFits
  /-- An image over its budget has an event of its own. -/
  count_of_overrun : ∀ o, run.result.result = .ok (.overrun o) → ∃ (k : Nat) (b : Budget),
    o.fileName = b.fileName ∧ budgets[k]? = some b ∧
      run.exchanges.length = k + 1 ∧
      run.exchanges[k]? = some (.fileSize (g.imagePath b) (.ok o.size)) ∧
      run.result.events.length = k + 1
  /-- If all pass, each image has its event. -/
  count_of_pass : run.result.result = .ok .pass →
    run.result.events.length = budgets.length ∧ ∀ e ∈ run.result.events, e.IsFits

theorem CheckEnd.fits_before_last (hend : CheckEnd g budgets run) :
    ∀ e ∈ run.result.events.dropLast, e.IsFits := by
  intro e he
  cases hend with
  | passed hresult hcount hfits => exact hfits e (List.dropLast_subset _ he)
  | unreadable k b fault hb hasked hlast hresult hcount hfits =>
      exact hfits e (List.dropLast_subset _ he)
  | overrun k b size max noted hb hasked hlast hresult hevents hcount hfits =>
      rw [hevents, List.dropLast_concat] at he
      exact hfits e he

theorem CheckEnd.last_over_iff (hend : CheckEnd g budgets run) :
    (∃ e, run.result.events.getLast? = some e ∧ ¬ e.IsFits) ↔
      ∃ o, run.result.result = .ok (.overrun o) := by
  constructor
  · rintro ⟨e, he, hover⟩
    cases hend with
    | passed hresult hcount hfits => exact absurd (hfits e (List.mem_of_getLast? he)) hover
    | unreadable k b fault hb hasked hlast hresult hcount hfits =>
        exact absurd (hfits e (List.mem_of_getLast? he)) hover
    | overrun k b size max noted hb hasked hlast hresult => exact ⟨_, hresult⟩
  · rintro ⟨o, ho⟩
    cases hend with
    | passed hresult => cases hresult.symm.trans ho
    | unreadable k b fault hb hasked hlast hresult => cases hresult.symm.trans ho
    | overrun k b size max noted hb hasked hlast hresult hevents =>
        exact ⟨_, by rw [hevents, List.getLast?_concat], Event.not_isFits_overBudget⟩

theorem CheckEnd.last_of_overrun (hend : CheckEnd g budgets run) {o : Overrun}
    (ho : run.result.result = .ok (.overrun o)) :
    ∃ max, run.result.events.getLast? = some (.overBudget o.fileName o.size max) ∧
      max.toNat = o.sectorCount.toNat * 512 ∧ max.toNat < o.size.toNat := by
  cases hend with
  | passed hresult => cases hresult.symm.trans ho
  | unreadable k b fault hb hasked hlast hresult => cases hresult.symm.trans ho
  | overrun k b size max noted hb hasked hlast hresult hevents hcount hfits hmax hover =>
      cases hresult.symm.trans ho
      exact ⟨max, by rw [hevents, List.getLast?_concat], hmax, hmax ▸ hover⟩

theorem CheckEnd.count_of_error (hend : CheckEnd g budgets run) {e : CheckError}
    (he : run.result.result = .error e) :
    ∃ (k : Nat) (b : Budget) (fault : Fault),
      e = .unreadable ⟨g.imagePath b, fault⟩ ∧ budgets[k]? = some b ∧
        run.exchanges.length = k + 1 ∧
        run.exchanges[k]? = some (.fileSize (g.imagePath b) (.error fault)) ∧
        run.result.events.length = k ∧ ∀ e ∈ run.result.events, e.IsFits := by
  cases hend with
  | passed hresult => cases hresult.symm.trans he
  | unreadable k b fault hb hasked hlast hresult hcount hfits =>
      cases hresult.symm.trans he
      exact ⟨k, b, fault, rfl, hb, hasked, hlast, hcount, hfits⟩
  | overrun k b size max noted hb hasked hlast hresult => cases hresult.symm.trans he

theorem CheckEnd.count_of_overrun (hend : CheckEnd g budgets run) {o : Overrun}
    (ho : run.result.result = .ok (.overrun o)) :
    ∃ (k : Nat) (b : Budget), o.fileName = b.fileName ∧ budgets[k]? = some b ∧
      run.exchanges.length = k + 1 ∧
      run.exchanges[k]? = some (.fileSize (g.imagePath b) (.ok o.size)) ∧
      run.result.events.length = k + 1 := by
  cases hend with
  | passed hresult => cases hresult.symm.trans ho
  | unreadable k b fault hb hasked hlast hresult => cases hresult.symm.trans ho
  | overrun k b size max noted hb hasked hlast hresult hevents hcount =>
      cases hresult.symm.trans ho
      refine ⟨k, b, rfl, hb, hasked, hlast, ?_⟩
      rw [hevents, List.length_append, hcount, List.length_singleton]

theorem CheckEnd.count_of_pass (hend : CheckEnd g budgets run)
    (hpass : run.result.result = .ok .pass) :
    run.result.events.length = budgets.length ∧ ∀ e ∈ run.result.events, e.IsFits := by
  cases hend with
  | passed hresult hcount hfits => exact ⟨hcount, hfits⟩
  | unreadable k b fault hb hasked hlast hresult => cases hresult.symm.trans hpass
  | overrun k b size max noted hb hasked hlast hresult => cases hresult.symm.trans hpass

/-- The events of a check of small budgets agree with its result, whatever the machine replies. -/
theorem logAgrees_checkAll (hsmall : ∀ b ∈ budgets, b.Small) (g : Gate) (m : Machine) :
    LogAgrees g budgets ((g.checkAll budgets).interview m) := by
  have hrun := checkRun_interview (g := g) hsmall m
  have hend := hrun.ends
  exact {
    events_eq_sizes := hrun.events_eq_sizes
    fits_before_last := hend.fits_before_last
    last_over_iff := hend.last_over_iff
    last_of_overrun := fun _ => hend.last_of_overrun
    fits_numbers := fun i _ _ _ _ _ => hrun.fits_numbers i
    count_of_error := fun _ => hend.count_of_error
    count_of_overrun := fun _ => hend.count_of_overrun
    count_of_pass := hend.count_of_pass }

/-- A machine with a full loader and a kernel one byte too long. -/
def kernelTooLong : Machine where
  workingDirectory := .error (.system .noEntry)
  fileSize n _ := if n = 0 then .ok 2048 else .ok 51201

theorem logAgrees_kernelTooLong :
    (∀ b ∈ images, b.Small) ∧
      ∃ max, ((Gate.mk "").check.interview kernelTooLong).result.events.getLast? =
          some (.overBudget "kernel.bin" 51201 max) ∧
        max.toNat = 100 * 512 ∧ max.toNat < 51201 :=
  ⟨Budget.small_of_mem_images,
    (logAgrees_checkAll Budget.small_of_mem_images ⟨""⟩ kernelTooLong).last_of_overrun
      ⟨"kernel.bin", 51201, 100, -2⟩ rfl⟩

end Gate

end SectorGate
