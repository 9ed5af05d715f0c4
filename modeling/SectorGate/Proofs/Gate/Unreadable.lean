import SectorGate.Proofs.Gate.Events
import SectorGate.Proofs.Path
import SectorGate.Proofs.TwoStage

/-!
# What the report of an unreadable image tells

An image that cannot be read is reported by the path that was asked for. From the headline of this
report the image and its directory can be read off (`Unreadable.told?`), but for a slash at the end
of the directory, which the path may have brought itself.
-/

namespace SectorGate

/-- The image that a headline is about, and its directory. -/
def Unreadable.told? (headline : String) : Option (Budget × String) := do
  let text ← headline.toList.dropPrefix? "failed to read size of ".toList
  let path := String.ofList text
  let b ← images.find? (·.fileName = Path.lastName path)
  return (b, Path.directory path)

namespace Gate

variable {g : Gate} {b : Budget}

/-! ## Paths of images -/

theorem interview_imageSize (g : Gate) (b : Budget) (m : Machine) :
    (g.imageSize b).interview m =
      ⟨[.fileSize (g.imagePath b) (m.fileSize 0 (g.imagePath b))],
        (m.fileSize 0 (g.imagePath b)).mapError (Unreadable.mk (g.imagePath b))⟩ := rfl

theorem path_of_imageSize_eq_error {m : Machine} {u : Unreadable}
    (hresult : ((g.imageSize b).interview m).result = .error u) : u.path = g.imagePath b := by
  rw [interview_imageSize] at hresult
  cases hreply : m.fileSize 0 (g.imagePath b) with
  | ok size =>
      rw [hreply] at hresult
      cases hresult
  | error fault =>
      rw [hreply] at hresult
      cases hresult
      rfl

theorem imageSize_of_isAbsolute (habsolute : Path.isAbsolute b.fileName) (dir dir' : String) :
    (Gate.mk dir).imageSize b = (Gate.mk dir').imageSize b := by
  simp only [imageSize, imagePath, Path.join_of_isAbsolute habsolute]

theorem toList_imagePath (hrelative : ¬ Path.isAbsolute b.fileName) (g : Gate) :
    (g.imagePath b).toList =
      g.dir.toList ++ (if g.dir = "" ∨ g.dir.toList.getLast? = some '/' then [] else ['/']) ++
        b.fileName.toList := by
  have hslash : Path.endsInSlash g.dir ↔ g.dir.toList.getLast? = some '/' := beq_iff_eq
  rw [imagePath, Path.join_of_relative (Bool.eq_false_iff.mpr hrelative), Path.opened]
  simp only [hslash]
  split <;> simp

/-! ## Failed checks -/

/-- A check that fails does so at one of the boot images, and reports its path. -/
theorem exists_image_of_unreadable {m : Machine} {u : Unreadable}
    (hresult : (g.check.interview m).result.result = .error (.unreadable u)) :
    ∃ b ∈ images, u.path = g.imagePath b := by
  have hrun : CheckRun g m images (g.check.interview m) :=
    checkRun_interview Budget.small_of_mem_images m
  obtain ⟨k, b, fault, hunreadable, hb, -⟩ := hrun.ends.count_of_error hresult
  cases hunreadable
  exact ⟨b, List.mem_of_getElem? hb, rfl⟩

theorem find?_fileName : ∀ b ∈ images, images.find? (·.fileName = b.fileName) = some b := by
  decide

theorem told?_message (hb : b ∈ images) {u : Unreadable} (hpath : u.path = g.imagePath b) :
    Unreadable.told? u.message = some (b, Path.opened g.dir) := by
  have hnames : ∀ b ∈ images, '/' ∉ b.fileName.toList := by decide
  have hname := hnames b hb
  have hmessage : u.message.toList = "failed to read size of ".toList ++ u.path.toList :=
    String.toList_append
  have hdrop : u.message.toList.dropPrefix? "failed to read size of ".toList =
      some u.path.toList :=
    List.dropPrefix?_eq_some_iff.mpr ⟨_, hmessage, beq_self_eq_true _⟩
  unfold Unreadable.told?
  rw [hdrop, Option.bind_eq_bind, Option.bind_some]
  simp [hpath, imagePath, Path.lastName_join hname, Path.directory_join hname, find?_fileName b hb]

theorem imagePath_loader_ne_kernel (g g' : Gate) : g.imagePath loader ≠ g'.imagePath kernel := by
  intro hpath
  obtain ⟨hname, -⟩ := (Path.join_eq_join_iff (by decide) (by decide)).mp hpath
  exact absurd hname (by decide)

/-- The path of an image is the one that is asked for and the one that a failure reports. An
absolute name stands for itself; before any other stands the directory as it is, with a slash if it
lacks one. So names without slashes have the same path only if they are the same and their
directories are, but for one slash at the end; the loader and the kernel never share one; and from
the headline of a failed check the image can be read off, and the directory but for that slash. -/
theorem unreadable_path_tells_image_and_directory :
    (∀ (g : Gate) (b : Budget) (m : Machine),
      let run := (g.imageSize b).interview m
      run.exchanges = [.fileSize (g.imagePath b) (m.fileSize 0 (g.imagePath b))] ∧
        ∀ u, run.result = .error u → u.path = g.imagePath b) ∧
    (∀ b : Budget, Path.isAbsolute b.fileName → ∀ dir dir' : String,
      (Gate.mk dir).imageSize b = (Gate.mk dir').imageSize b) ∧
    (∀ b : Budget, ¬ Path.isAbsolute b.fileName → ∀ g : Gate,
      (g.imagePath b).toList =
        g.dir.toList ++ (if g.dir = "" ∨ g.dir.toList.getLast? = some '/' then [] else ['/']) ++
          b.fileName.toList) ∧
    (∀ (g g' : Gate) (b b' : Budget), '/' ∉ b.fileName.toList → '/' ∉ b'.fileName.toList →
      (g.imagePath b = g'.imagePath b' ↔
        b.fileName = b'.fileName ∧ Path.SameUpToSlash g.dir g'.dir)) ∧
    (∀ g g' : Gate, g.imagePath loader ≠ g'.imagePath kernel) ∧
    ∀ (g : Gate) (m : Machine) (u : Unreadable),
      (g.check.interview m).result.result = .error (.unreadable u) →
      ∃ b ∈ images, u.path = g.imagePath b ∧
        ∃ dir, Unreadable.told? u.message = some (b, dir) ∧ Path.SameUpToSlash dir g.dir := by
  refine ⟨?_, ?_, ?_, ?_, ?_, ?_⟩
  · intro g b m
    exact ⟨rfl, fun u hresult => path_of_imageSize_eq_error hresult⟩
  · exact fun b habsolute => imageSize_of_isAbsolute habsolute
  · exact fun b hrelative => toList_imagePath hrelative
  · exact fun g g' b b' hname hname' => Path.join_eq_join_iff hname hname'
  · exact imagePath_loader_ne_kernel
  · intro g m u hresult
    obtain ⟨b, hb, hpath⟩ := exists_image_of_unreadable hresult
    exact ⟨b, hb, hpath, _, told?_message hb hpath, Path.sameUpToSlash_opened g.dir⟩

/-- Two directories that make the same path, one that does not, a name that needs none, and a check
that finds no kernel. -/
theorem unreadable_path_kernelMissing :
    let u := Unreadable.mk "out/kernel.bin" (.system .noEntry)
    (Gate.mk "out").imagePath loader = (Gate.mk "out/").imagePath loader ∧
      (Gate.mk "out/").imagePath loader ≠ (Gate.mk "out//").imagePath loader ∧
      (Gate.mk "out").imageSize ⟨"/x", 4, -1⟩ = (Gate.mk "").imageSize ⟨"/x", 4, -1⟩ ∧
      ((Gate.mk "out").check.interview kernelMissing).result.result = .error (.unreadable u) ∧
      ∃ b ∈ images, u.path = (Gate.mk "out").imagePath b ∧
        ∃ dir, Unreadable.told? u.message = some (b, dir) ∧ Path.SameUpToSlash dir "out" := by
  intro u
  obtain ⟨-, habsolute, -, hiff, -, htold⟩ := unreadable_path_tells_image_and_directory
  have hname : '/' ∉ loader.fileName.toList := by decide
  have hresult : ((Gate.mk "out").check.interview kernelMissing).result.result =
      .error (.unreadable u) := by rfl
  refine ⟨?_, ?_, habsolute _ rfl _ _, hresult, htold _ _ u hresult⟩
  · exact (hiff _ _ _ _ hname hname).mpr ⟨rfl, .inr (.inl ⟨by decide, by decide, by decide⟩)⟩
  · intro hpath
    obtain ⟨-, hdirs | ⟨-, hopen, -⟩ | ⟨-, hopen, -⟩⟩ := (hiff _ _ _ _ hname hname).mp hpath
    · exact absurd hdirs (by decide)
    · exact hopen (by decide)
    · exact hopen (by decide)

end Gate

end SectorGate
