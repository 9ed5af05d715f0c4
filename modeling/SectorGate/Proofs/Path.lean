import Mathlib.Data.List.DropRight
import SectorGate.Path

/-!
# Paths of names in directories

A name without slashes is found again behind the last slash of the path that it was joined to. What
stands before it is the directory, as far as a path can tell: one that lacks a slash at its end
makes the same paths with this slash.

* `join_eq_join_iff`: when two names in two directories have the same path.
* `lastName_join`, `directory_join`: the name and the directory, read off the path.
-/

namespace SectorGate.Path

variable {dir dir' name name' : String}

/-! ## What a join puts before a name -/

/-- A directory as it stands before a name: with a slash at its end, unless it is empty. -/
def opened (dir : String) : String :=
  if dir = "" ∨ endsInSlash dir then dir else dir ++ "/"

theorem isAbsolute_eq_false (hname : '/' ∉ name.toList) : isAbsolute name = false := by
  rw [isAbsolute, beq_eq_false_iff_ne]
  exact fun habsolute => hname (List.mem_of_head? habsolute)

theorem join_of_relative (hname : isAbsolute name = false) (dir : String) :
    join dir name = opened dir ++ name := by
  unfold join opened
  rw [hname, if_neg Bool.false_ne_true]
  split <;> rfl

theorem opened_of_open (hdir : dir = "" ∨ endsInSlash dir) : opened dir = dir :=
  if_pos hdir

theorem opened_of_closed (hdir : ¬ (dir = "" ∨ endsInSlash dir)) : opened dir = dir ++ "/" :=
  if_neg hdir

theorem endsInSlash_append_slash (dir : String) : endsInSlash (dir ++ "/") := by
  simp [endsInSlash]

theorem opened_eq_empty_or (dir : String) :
    opened dir = "" ∨ ∃ front, (opened dir).toList = front ++ ['/'] := by
  by_cases hdir : dir = "" ∨ endsInSlash dir
  · rw [opened_of_open hdir]
    exact hdir.imp_right fun hslash => List.getLast?_eq_some_iff.mp (eq_of_beq hslash)
  · rw [opened_of_closed hdir]
    exact .inr ⟨dir.toList, String.toList_append⟩

/-! ## Directories that make the same paths -/

/-- Whether a directory that is not empty and has no slash at its end becomes another one by it. -/
def ClosesTo (dir dir' : String) : Prop :=
  dir ≠ "" ∧ ¬ endsInSlash dir ∧ dir' = dir ++ "/"

/-- Whether two directories are the same but for one slash at the end. -/
def SameUpToSlash (dir dir' : String) : Prop :=
  dir = dir' ∨ ClosesTo dir dir' ∨ ClosesTo dir' dir

theorem ClosesTo.opened_eq (hcloses : ClosesTo dir dir') : opened dir = opened dir' := by
  obtain ⟨hne, hslash, rfl⟩ := hcloses
  rw [opened_of_closed (not_or.mpr ⟨hne, hslash⟩),
    opened_of_open (.inr (endsInSlash_append_slash dir))]

theorem opened_eq_opened_iff : opened dir = opened dir' ↔ SameUpToSlash dir dir' := by
  constructor
  · intro hopened
    by_cases hdir : dir = "" ∨ endsInSlash dir
    · by_cases hdir' : dir' = "" ∨ endsInSlash dir'
      · rw [opened_of_open hdir, opened_of_open hdir'] at hopened
        exact .inl hopened
      · rw [opened_of_open hdir, opened_of_closed hdir'] at hopened
        obtain ⟨hne, hslash⟩ := not_or.mp hdir'
        exact .inr (.inr ⟨hne, hslash, hopened⟩)
    · obtain ⟨hne, hslash⟩ := not_or.mp hdir
      by_cases hdir' : dir' = "" ∨ endsInSlash dir'
      · rw [opened_of_closed hdir, opened_of_open hdir'] at hopened
        exact .inr (.inl ⟨hne, hslash, hopened.symm⟩)
      · rw [opened_of_closed hdir, opened_of_closed hdir'] at hopened
        exact .inl ((String.append_left_inj "/").mp hopened)
  · rintro (rfl | hcloses | hcloses)
    · rfl
    · exact hcloses.opened_eq
    · exact hcloses.opened_eq.symm

theorem sameUpToSlash_opened (dir : String) : SameUpToSlash (opened dir) dir := by
  by_cases hdir : dir = "" ∨ endsInSlash dir
  · exact .inl (opened_of_open hdir)
  · obtain ⟨hne, hslash⟩ := not_or.mp hdir
    exact .inr (.inr ⟨hne, hslash, opened_of_closed hdir⟩)

/-! ## Names and directories read off paths -/

/-- The name behind the last slash of a path. -/
def lastName (path : String) : String :=
  String.ofList (path.toList.rtakeWhile (· ≠ '/'))

/-- What stands before the last name of a path. -/
def directory (path : String) : String :=
  String.ofList (path.toList.rdropWhile (· ≠ '/'))

theorem directory_append_lastName (path : String) : directory path ++ lastName path = path := by
  rw [directory, lastName, ← String.ofList_append, List.rdropWhile_append_rtakeWhile,
    String.ofList_toList]

theorem lastName_eq_self (hname : '/' ∉ name.toList) : lastName name = name := by
  have hall : ∀ c ∈ name.toList, (decide (c ≠ '/')) = true :=
    fun c hc => decide_eq_true fun h => hname (h ▸ hc)
  rw [lastName, List.rtakeWhile_eq_self_iff.mpr hall, String.ofList_toList]

theorem lastName_of_toList {path : String} (front : List Char) (hname : '/' ∉ name.toList)
    (hpath : path.toList = front ++ '/' :: name.toList) : lastName path = name := by
  have hall : ∀ c ∈ name.toList.reverse, (decide (c ≠ '/')) = true :=
    fun c hc => decide_eq_true fun h => hname (h ▸ List.mem_reverse.mp hc)
  rw [lastName, hpath, List.rtakeWhile, List.reverse_append, List.reverse_cons, List.append_assoc,
    List.takeWhile_append_of_pos hall]
  simp

/-- A name without slashes is found again behind its directory. -/
theorem lastName_join (hname : '/' ∉ name.toList) (dir : String) :
    lastName (join dir name) = name := by
  rw [join_of_relative (isAbsolute_eq_false hname)]
  obtain hempty | ⟨front, hfront⟩ := opened_eq_empty_or dir
  · rw [hempty, String.empty_append, lastName_eq_self hname]
  · exact lastName_of_toList front hname (by simp [hfront])

/-- The directory is found again before the name, with a slash at its end. -/
theorem directory_join (hname : '/' ∉ name.toList) (dir : String) :
    directory (join dir name) = opened dir := by
  have hsplit := directory_append_lastName (join dir name)
  rw [lastName_join hname] at hsplit
  rw [← String.append_left_inj name, hsplit, join_of_relative (isAbsolute_eq_false hname)]

/-- Two names without slashes have the same path exactly if they are the same and their directories
are, up to one slash. -/
theorem join_eq_join_iff (hname : '/' ∉ name.toList) (hname' : '/' ∉ name'.toList) :
    join dir name = join dir' name' ↔ name = name' ∧ SameUpToSlash dir dir' := by
  constructor
  · intro hpath
    have hnames := congrArg lastName hpath
    have hdirs := congrArg directory hpath
    rw [lastName_join hname, lastName_join hname'] at hnames
    rw [directory_join hname, directory_join hname'] at hdirs
    exact ⟨hnames, opened_eq_opened_iff.mp hdirs⟩
  · rintro ⟨rfl, hdirs⟩
    rw [join_of_relative (isAbsolute_eq_false hname), join_of_relative (isAbsolute_eq_false hname),
      opened_eq_opened_iff.mpr hdirs]

end SectorGate.Path
