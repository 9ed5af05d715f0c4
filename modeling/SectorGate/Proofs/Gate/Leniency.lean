import Mathlib.Data.List.Forall2
import Mathlib.Data.Nat.Find
import SectorGate.Proofs.Gate.Trace

/-!
# Smaller images and larger budgets

Two checks of the same images, of which the second finds no image longer and no budget smaller than
the first. An image that decides the second check would also have decided the first, so the second
passes or goes on for at least as long. The two may end at different images and for different
reasons.
-/

namespace SectorGate

/-- That a budget of the same image has at least as many sectors. -/
structure Budget.RaisedTo (b raised : Budget) : Prop where
  fileName_eq : raised.fileName = b.fileName
  sectorCount_le : b.sectorCount ≤ raised.sectorCount

theorem Budget.RaisedTo.refl (b : Budget) : b.RaisedTo b :=
  ⟨rfl, UInt64.le_refl _⟩

theorem Budget.RaisedTo.bytes_le {b raised : Budget} (hraised : b.RaisedTo raised) :
    b.bytes ≤ raised.bytes := by
  have hle := UInt64.le_iff_toNat_le.mp hraised.sectorCount_le
  unfold bytes
  omega

/-- That one reply about an image is the same fault as another, or a size that is not greater. -/
inductive ShrunkTo : Except Fault UInt64 → Except Fault UInt64 → Prop
  | fault (fault : Fault) : ShrunkTo (.error fault) (.error fault)
  | size {size less : UInt64} (hle : less ≤ size) : ShrunkTo (.ok size) (.ok less)

theorem ShrunkTo.refl (reply : Except Fault UInt64) : ShrunkTo reply reply := by
  cases reply with
  | error fault => exact .fault fault
  | ok size => exact .size (UInt64.le_refl size)

theorem ShrunkTo.eq_fault {fault : Fault} {reply : Except Fault UInt64}
    (hshrunk : ShrunkTo (.error fault) reply) : reply = .error fault := by
  cases hshrunk
  rfl

/-- What decides about a smaller image under a larger budget decides already without these. -/
theorem Budget.DecidedBy.of_eased {b raised : Budget} {reply eased : Except Fault UInt64}
    (hraised : b.RaisedTo raised) (hshrunk : ShrunkTo reply eased)
    (hdecided : raised.DecidedBy eased) : b.DecidedBy reply := by
  cases hshrunk with
  | fault fault => trivial
  | @size size less hle =>
      have hbytes := hraised.bytes_le
      have hsize := UInt64.le_iff_toNat_le.mp hle
      rw [decidedBy_ok] at hdecided ⊢
      omega

namespace Gate

/-- That a check asks about the images up to the one in place `k`, the first whose reply decides,
and comes to what that reply says. -/
structure EndsAt (g : Gate) (m : Machine) (budgets : List Budget) (run : Interview Check)
    (k : Nat) : Prop where
  lt : k < budgets.length
  decided : budgets[k].DecidedBy (g.reply m k budgets[k])
  first : ∀ i (hi : i < budgets.length), budgets[i].DecidedBy (g.reply m i budgets[i]) → k ≤ i
  exchanges_eq : run.exchanges = g.inquiries m (budgets.take (k + 1))
  result_eq : run.result.result = g.decision budgets[k] (g.reply m k budgets[k])

variable {g : Gate} {m m' : Machine} {budgets budgets' : List Budget} {run run' : Interview Check}
  {k : Nat}

theorem reply_eq_of_fileName_eq {b b' : Budget} (hname : b'.fileName = b.fileName) (k : Nat) :
    g.reply m k b' = g.reply m k b := by
  rw [reply, reply, imagePath, imagePath, hname]

/-! ## Where a check ends -/

theorem CheckRun.endsAt (hrun : CheckRun g m budgets run) (hk : k < budgets.length)
    (hdecided : budgets[k].DecidedBy (g.reply m k budgets[k]))
    (hfirst : ∀ i (hi : i < budgets.length),
      budgets[i].DecidedBy (g.reply m i budgets[i]) → k ≤ i) :
    EndsAt g m budgets run k := by
  obtain ⟨hasked, hresult⟩ := hrun.of_decided hk hdecided fun i hi hearlier => by
    have hle := hfirst i (Nat.lt_trans hi hk) hearlier
    omega
  exact ⟨hk, hdecided, hfirst, hasked, hresult⟩

/-- A check passes because no reply decides, or ends at the first image whose reply does. -/
theorem CheckRun.passes_or_endsAt (hrun : CheckRun g m budgets run) :
    (run.result.result = .ok .pass ∧
      ∀ i (hi : i < budgets.length), ¬ budgets[i].DecidedBy (g.reply m i budgets[i])) ∨
    ∃ k, EndsAt g m budgets run k := by
  classical
  by_cases hsome : ∃ i, ∃ hi : i < budgets.length, budgets[i].DecidedBy (g.reply m i budgets[i])
  · obtain ⟨hk, hdecided⟩ := Nat.find_spec hsome
    refine .inr ⟨_, hrun.endsAt hk hdecided fun i hi hdecided => ?_⟩
    exact Nat.find_min' hsome ⟨hi, hdecided⟩
  · push Not at hsome
    exact .inl ⟨(hrun.of_undecided hsome).2, hsome⟩

theorem EndsAt.result_ne_pass (hends : EndsAt g m budgets run k) :
    run.result.result ≠ .ok .pass := by
  have hlt := hends.lt
  rw [hends.result_eq]
  cases g.reply m k budgets[k] with
  | error fault => nofun
  | ok size => nofun

/-! ## Two checks -/

/-- An image whose reply decides in the second of two checks decides in the first. -/
theorem decidedBy_of_eased (hraised : List.Forall₂ Budget.RaisedTo budgets budgets')
    (hshrunk : ∀ i b, budgets[i]? = some b → ShrunkTo (g.reply m i b) (g.reply m' i b))
    {i : Nat} (hi : i < budgets.length) (hi' : i < budgets'.length)
    (hdecided : budgets'[i].DecidedBy (g.reply m' i budgets'[i])) :
    budgets[i].DecidedBy (g.reply m i budgets[i]) := by
  have hb : budgets[i].RaisedTo budgets'[i] := hraised.get hi hi'
  rw [reply_eq_of_fileName_eq hb.fileName_eq] at hdecided
  exact hdecided.of_eased hb (hshrunk i _ (List.getElem?_eq_getElem hi))

/-- If the first check ends at a fault, nothing decides before in the second, and there it finds the
same fault at the same path. -/
theorem EndsAt.result_eq_of_fault (hends : EndsAt g m budgets run k)
    (heased : CheckRun g m' budgets' run')
    (hraised : List.Forall₂ Budget.RaisedTo budgets budgets')
    (hshrunk : ∀ i b, budgets[i]? = some b → ShrunkTo (g.reply m i b) (g.reply m' i b))
    {e : CheckError} (herror : run.result.result = .error e) : run'.result.result = .error e := by
  have hk : k < budgets.length := hends.lt
  have hk' : k < budgets'.length := hraised.length_eq ▸ hk
  have hname : budgets'[k].fileName = budgets[k].fileName := (hraised.get hk hk').fileName_eq
  have hsame := hshrunk k _ (List.getElem?_eq_getElem hk)
  have hresult := hends.result_eq.symm.trans herror
  cases hreply : g.reply m k budgets[k] with
  | ok size =>
      rw [hreply] at hresult
      cases hresult
  | error fault =>
      rw [hreply] at hsame hresult
      have hreply' : g.reply m' k budgets'[k] = .error fault := by
        rw [reply_eq_of_fileName_eq hname, hsame.eq_fault]
      have hdecided : budgets'[k].DecidedBy (g.reply m' k budgets'[k]) := by
        rw [hreply']
        trivial
      have hends' : EndsAt g m' budgets' run' k := by
        apply heased.endsAt hk' hdecided
        intro i hi' hlater
        have hi : i < budgets.length := hraised.length_eq ▸ hi'
        exact hends.first i hi (decidedBy_of_eased hraised hshrunk hi hi' hlater)
      rw [hends'.result_eq, hreply', ← hresult, decision, decision, imagePath, imagePath, hname]

/-- Smaller images and larger budgets never make a check stricter. If it passes, so does the second;
if it ends at a fault, the second ends at the same fault of the same path; and if it ends at an
image over its budget, the second passes or ends at this image or a later one, by its size or by a
fault. The images alone may be smaller, or the budgets alone larger, since sizes and budgets can be
the same in both. -/
theorem checkAll_eased_not_stricter (hsmall : ∀ b ∈ budgets, b.Small)
    (hsmall' : ∀ b ∈ budgets', b.Small) (hraised : List.Forall₂ Budget.RaisedTo budgets budgets')
    (hshrunk : ∀ i b, budgets[i]? = some b → ShrunkTo (g.reply m i b) (g.reply m' i b)) :
    let run := (g.checkAll budgets).interview m
    let eased := (g.checkAll budgets').interview m'
    (run.result.result = .ok .pass → eased.result.result = .ok .pass) ∧
      (∀ e, run.result.result = .error e → eased.result.result = .error e) ∧
      ∀ o, run.result.result = .ok (.overrun o) → ∃ k, EndsAt g m budgets run k ∧
        (eased.result.result = .ok .pass ∨ ∃ k', k ≤ k' ∧ EndsAt g m' budgets' eased k') := by
  intro run eased
  have heased : CheckRun g m' budgets' eased := checkRun_interview hsmall' m'
  have hlater : ∀ k', EndsAt g m' budgets' eased k' → ∃ hlt : k' < budgets.length,
      budgets[k'].DecidedBy (g.reply m k' budgets[k']) := by
    intro k' hk'
    have hlt : k' < budgets.length := hraised.length_eq ▸ hk'.lt
    exact ⟨hlt, decidedBy_of_eased hraised hshrunk hlt hk'.lt hk'.decided⟩
  obtain ⟨hpass, hnone⟩ | ⟨k, hk⟩ := (checkRun_interview (g := g) hsmall m).passes_or_endsAt
  · refine ⟨fun _ => ?_, fun e herror => ?_, fun o hover => ?_⟩
    · obtain ⟨hpass', -⟩ | ⟨k', hk'⟩ := heased.passes_or_endsAt
      · exact hpass'
      · obtain ⟨hlt, hdecided⟩ := hlater k' hk'
        exact absurd hdecided (hnone k' hlt)
    · cases hpass.symm.trans herror
    · cases hpass.symm.trans hover
  · refine ⟨fun hpass => ?_, fun e herror => ?_, fun o _ => ⟨k, hk, ?_⟩⟩
    · exact absurd hpass hk.result_ne_pass
    · exact hk.result_eq_of_fault heased hraised hshrunk herror
    · obtain ⟨hpass', -⟩ | ⟨k', hk'⟩ := heased.passes_or_endsAt
      · exact .inl hpass'
      · obtain ⟨hlt, hdecided⟩ := hlater k' hk'
        exact .inr ⟨k', hk.first k' hlt hdecided, hk'⟩

/-- A machine with a loader one byte too long and no kernel. -/
def loaderTooLong : Machine where
  workingDirectory := .error (.system .noEntry)
  fileSize n _ := if n = 0 then .ok 2049 else .error (.system .noEntry)

/-- The loader one byte shorter, and twice the sectors for the kernel: the second check ends later,
at the kernel that neither finds. -/
theorem checkAll_eased_loaderTooLong :
    let doubled : List Budget := [loader, ⟨"kernel.bin", 200, -2⟩]
    (∀ b ∈ images, b.Small) ∧ (∀ b ∈ doubled, b.Small) ∧
      List.Forall₂ Budget.RaisedTo images doubled ∧
      (∀ i b, images[i]? = some b →
        ShrunkTo ((Gate.mk "").reply loaderTooLong i b) ((Gate.mk "").reply kernelVanishes i b)) ∧
      ∃ k, EndsAt ⟨""⟩ loaderTooLong images
          (((Gate.mk "").checkAll images).interview loaderTooLong) k ∧
        ∃ k', k ≤ k' ∧ EndsAt ⟨""⟩ kernelVanishes doubled
          (((Gate.mk "").checkAll doubled).interview kernelVanishes) k' := by
  intro doubled
  have hsmall : ∀ b ∈ doubled, b.Small := by
    simp only [doubled, List.forall_mem_cons, Budget.Small]
    exact ⟨by decide, by decide, by simp⟩
  have hraised : List.Forall₂ Budget.RaisedTo images doubled :=
    .cons (.refl loader) (.cons ⟨rfl, by decide⟩ .nil)
  have hshrunk : ∀ i b, images[i]? = some b →
      ShrunkTo ((Gate.mk "").reply loaderTooLong i b) ((Gate.mk "").reply kernelVanishes i b) := by
    intro i b _
    cases i with
    | zero => exact .size (by decide)
    | succ i => exact .refl (.error (.system .noEntry))
  obtain ⟨-, -, hover⟩ :=
    checkAll_eased_not_stricter Budget.small_of_mem_images hsmall hraised hshrunk
  obtain ⟨k, hk, hpass | hlater⟩ := hover ⟨"loader.bin", 2049, 4, -1⟩ rfl
  · cases hpass
  · exact ⟨Budget.small_of_mem_images, hsmall, hraised, hshrunk, k, hk, hlater⟩

end Gate

end SectorGate
