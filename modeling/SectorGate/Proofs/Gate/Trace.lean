import SectorGate.Proofs.Gate.Run

/-!
# What a check asks

A check asks about images in the order of their budgets, about each once, up to the first whose
reply decides: the size cannot be read, or it is over the budget. That one reply makes the result,
and what the machine would say about later images does not matter. Machines may change between
two questions; one whose replies depend on their number alone answers with a fixed sequence.
-/

namespace SectorGate

/-- Whether a reply about an image ends a check: there is no size, or one over the budget. -/
def Budget.DecidedBy (b : Budget) : Except Fault UInt64 → Prop
  | .error _ => True
  | .ok size => b.bytes < size.toNat

@[simp] theorem Budget.decidedBy_error (b : Budget) (fault : Fault) :
    b.DecidedBy (.error fault) := trivial

@[simp] theorem Budget.decidedBy_ok (b : Budget) (size : UInt64) :
    b.DecidedBy (.ok size) ↔ b.bytes < size.toNat := Iff.rfl

namespace Gate

/-- The reply about an image if `n` sizes were asked for before. -/
def reply (g : Gate) (m : Machine) (n : Nat) (b : Budget) : Except Fault UInt64 :=
  m.fileSize n (g.imagePath b)

@[simp] theorem reply_later (g : Gate) (m : Machine) (n : Nat) (b : Budget) :
    g.reply m.later n b = g.reply m (n + 1) b := rfl

/-- The questions about some images, one for each in order, with the replies to them. -/
def inquiries (g : Gate) (m : Machine) (budgets : List Budget) : List Exchange :=
  budgets.mapIdx fun n b => .fileSize (g.imagePath b) (g.reply m n b)

/-- What a check comes to at an image whose reply decides. -/
def decision (g : Gate) (b : Budget) : Except Fault UInt64 → Except CheckError Verdict
  | .error fault => .error (.unreadable ⟨g.imagePath b, fault⟩)
  | .ok size => .ok (.overrun ⟨b.fileName, size, b.sectorCount, b.exitCode⟩)

variable {g : Gate} {m : Machine} {budgets : List Budget} {run : Interview Check}

@[simp] theorem inquiries_nil : g.inquiries m [] = [] := rfl

@[simp] theorem inquiries_cons (b : Budget) (rest : List Budget) :
    g.inquiries m (b :: rest) =
      .fileSize (g.imagePath b) (g.reply m 0 b) :: g.inquiries m.later rest := by
  rw [inquiries, List.mapIdx_cons]
  rfl

@[simp] theorem length_inquiries : (g.inquiries m budgets).length = budgets.length := by
  simp [inquiries]

/-! ## Runs up to the image that decides -/

theorem CheckRun.of_decided {k : Nat} (hrun : CheckRun g m budgets run)
    (hk : k < budgets.length) (hdecided : budgets[k].DecidedBy (g.reply m k budgets[k]))
    (hbefore : ∀ i (hi : i < k), ¬ budgets[i].DecidedBy (g.reply m i budgets[i])) :
    run.exchanges = g.inquiries m (budgets.take (k + 1)) ∧
      run.result.result = g.decision budgets[k] (g.reply m k budgets[k]) := by
  induction hrun generalizing k with
  | pass => simp at hk
  | @unreadable m b rest fault hreply =>
      have hfirst : g.reply m 0 b = .error fault := hreply
      cases k with
      | zero => simp [hfirst, decision]
      | succ k => simpa [hfirst] using hbefore 0 (by omega)
  | @overrun m b rest size max hreply hmax hover =>
      have hfirst : g.reply m 0 b = .ok size := hreply
      cases k with
      | zero => simp [hfirst, decision]
      | succ k => exact absurd (by simpa [hfirst] using hover) (hbefore 0 (by omega))
  | @fits m b rest size room later hreply hroom hlater ih =>
      have hfirst : g.reply m 0 b = .ok size := hreply
      cases k with
      | zero =>
          simp only [List.getElem_cons_zero, hfirst, Budget.decidedBy_ok] at hdecided
          omega
      | succ k =>
          have hnext := ih (k := k) (by simpa using hk) hdecided
            fun i hi => hbefore (i + 1) (by omega)
          simp [hfirst, hnext.1, hnext.2]

theorem CheckRun.of_undecided (hrun : CheckRun g m budgets run)
    (hall : ∀ i (hi : i < budgets.length), ¬ budgets[i].DecidedBy (g.reply m i budgets[i])) :
    run.exchanges = g.inquiries m budgets ∧ run.result.result = .ok .pass := by
  induction hrun with
  | pass => simp
  | @unreadable m b rest fault hreply =>
      have hfirst : g.reply m 0 b = .error fault := hreply
      have hnot := hall 0 (Nat.zero_lt_succ _)
      simp [hfirst] at hnot
  | @overrun m b rest size max hreply hmax hover =>
      have hfirst : g.reply m 0 b = .ok size := hreply
      have hnot := hall 0 (Nat.zero_lt_succ _)
      exact absurd (by simpa [hfirst] using hover) hnot
  | @fits m b rest size room later hreply hroom hlater ih =>
      have hfirst : g.reply m 0 b = .ok size := hreply
      have hnext := ih fun i hi => hall (i + 1) (by simpa using hi)
      simp [hfirst, hnext.1, hnext.2]

/-- A run is one on every machine that gives the same replies to its questions. -/
theorem CheckRun.congr {m' : Machine} (hrun : CheckRun g m budgets run)
    (hagree : ∀ i b, i < run.exchanges.length → budgets[i]? = some b →
      g.reply m' i b = g.reply m i b) : CheckRun g m' budgets run := by
  induction hrun generalizing m' with
  | pass => exact .pass
  | unreadable hreply => exact .unreadable ((hagree 0 _ (by simp) rfl).trans hreply)
  | overrun hreply hmax hover =>
      exact .overrun ((hagree 0 _ (by simp) rfl).trans hreply) hmax hover
  | fits hreply hroom hlater ih =>
      refine .fits ((hagree 0 _ (by simp) rfl).trans hreply) hroom (ih ?_)
      intro i b hi hb
      exact hagree (i + 1) b (by simpa using hi) hb

/-! ## The check itself -/

theorem interview_checkAll_congr {m' : Machine} (hsmall : ∀ b ∈ budgets, b.Small)
    (hagree : ∀ i b, i < ((g.checkAll budgets).interview m).exchanges.length →
      budgets[i]? = some b → g.reply m' i b = g.reply m i b) :
    (g.checkAll budgets).interview m' = (g.checkAll budgets).interview m :=
  (checkRun_interview hsmall m').unique ((checkRun_interview hsmall m).congr hagree)

/-- A check of small budgets asks about the images up to the first whose reply decides, about each
once and in order, and comes to what that reply says; so it goes in the same way on every machine
that gives the same replies so far. If no reply decides, it asks about all images and passes. -/
theorem checkAll_ends_at_first_decisive (hsmall : ∀ b ∈ budgets, b.Small) (g : Gate)
    (m : Machine) :
    (∀ k (hk : k < budgets.length),
      budgets[k].DecidedBy (g.reply m k budgets[k]) →
      (∀ i (hi : i < k), ¬ budgets[i].DecidedBy (g.reply m i budgets[i])) →
      ((g.checkAll budgets).interview m).exchanges = g.inquiries m (budgets.take (k + 1)) ∧
      ((g.checkAll budgets).interview m).result.result =
        g.decision budgets[k] (g.reply m k budgets[k]) ∧
      ∀ m' : Machine,
        (∀ i (hi : i ≤ k), g.reply m' i budgets[i] = g.reply m i budgets[i]) →
        (g.checkAll budgets).interview m' = (g.checkAll budgets).interview m) ∧
    ((∀ k (hk : k < budgets.length), ¬ budgets[k].DecidedBy (g.reply m k budgets[k])) →
      ((g.checkAll budgets).interview m).exchanges = g.inquiries m budgets ∧
      ((g.checkAll budgets).interview m).result.result = .ok .pass) := by
  have hrun := checkRun_interview (g := g) hsmall m
  constructor
  · intro k hk hdecided hbefore
    obtain ⟨hasked, hresult⟩ := hrun.of_decided hk hdecided hbefore
    refine ⟨hasked, hresult, fun m' hagree => interview_checkAll_congr hsmall ?_⟩
    intro i b hi hb
    have hle : i ≤ k := by
      rw [hasked, length_inquiries, List.length_take] at hi
      omega
    obtain ⟨_, rfl⟩ := List.getElem?_eq_some_iff.mp hb
    exact hagree i hle
  · exact hrun.of_undecided

/-- A machine on which the kernel is gone by the time its size is asked for. -/
def kernelVanishes : Machine where
  workingDirectory := .error (.system .noEntry)
  fileSize n _ := if n = 0 then .ok 2048 else .error (.system .noEntry)

theorem check_kernelVanishes :
    (∀ b ∈ images, b.Small) ∧
      ((Gate.mk "boot/").check.interview kernelVanishes).exchanges =
        [.fileSize "boot/loader.bin" (.ok 2048),
          .fileSize "boot/kernel.bin" (.error (.system .noEntry))] ∧
      ((Gate.mk "boot/").check.interview kernelVanishes).result.result =
        .error (.unreadable ⟨"boot/kernel.bin", .system .noEntry⟩) := by
  have hkernel := (checkAll_ends_at_first_decisive Budget.small_of_mem_images ⟨"boot/"⟩
    kernelVanishes).1 1 (by decide) trivial (by
      intro i hi
      obtain rfl : i = 0 := by omega
      simp [images, reply, kernelVanishes])
  exact ⟨Budget.small_of_mem_images, hkernel.1.trans rfl, hkernel.2.1.trans rfl⟩

end Gate

end SectorGate
