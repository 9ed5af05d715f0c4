import SectorGate.Program

/-!
# The executable

Puts the questions of the program to the machine and writes what it reports.
-/

namespace SectorGate

/-- The number of an error of the operating system. Some operations turn its sign. -/
def errorNumber? : IO.Error → Option Nat
  | .noFileOrDirectory _ code _ | .invalidArgument _ code _ | .permissionDenied _ code _
  | .inappropriateType _ code _ => some code.toInt32.toInt.natAbs
  | _ => none

/-- The fault behind an operation of the machine that failed. -/
def Fault.ofError (error : IO.Error) : Fault :=
  match (errorNumber? error).bind OsError.ofNumber? with
  | some refusal => .system refusal
  | none => .told .other error.toString

def sizeOfFile (path : String) : IO (Except Fault UInt64) := do
  if Path.hasNul path then
    return .error .nulInPath
  let file : IO.FS.DirEntry := ⟨".", path⟩
  try return .ok (← file.path.metadata).byteSize
  catch error => return .error (.ofError error)

/-- The working directory as an absolute path. It is looked up as a path, since only then a failure
tells its number. -/
def currentDirectory : IO (Except Fault String) := do
  let here : IO.FS.DirEntry := ⟨".", "."⟩
  try return .ok (← IO.FS.realPath here.root).toString
  catch error => return .error (.ofError error)

def Inquiry.perform {α : Type} : Inquiry α → IO α
  | done result => return result
  | workingDirectory next => do (next (← currentDirectory)).perform
  | fileSize path next => do (next (← sizeOfFile path)).perform

end SectorGate

def main (arguments : List String) : IO UInt32 := do
  let report ← (SectorGate.program arguments (← IO.getEnv "RUST_LOG")).perform
  IO.print report.stdout
  IO.eprint report.stderr
  return report.status.toUInt32
