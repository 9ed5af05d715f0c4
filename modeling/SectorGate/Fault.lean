/-!
# Faults

Why a question to the machine has no answer. A fault is a cause: an error of the
operating system, a path that cannot be handed to it, or a fault that a caller made.
All wording of faults is in this module.
-/

namespace SectorGate

/-- The errors with which the operating system refuses to look at or change a path. -/
inductive OsError where
  | notPermitted
  | noEntry
  | accessDenied
  | nameTaken
  | notDirectory
  | isDirectory
  | invalidArgument
  | nameTooLong
  | notEmpty
  | linkLoop
  deriving DecidableEq, Repr

inductive FaultKind where
  | notFound
  | permissionDenied
  | alreadyExists
  | notDirectory
  | isDirectory
  | directoryNotEmpty
  | invalidInput
  | invalidFileName
  | linkLoop
  | invalidData
  | timedOut
  | interrupted
  | unexpectedEnd
  | other
  deriving DecidableEq, Repr

/-- What a fault of this kind is called when nothing more is known of it. -/
def FaultKind.description : FaultKind → String
  | notFound => "entity not found"
  | permissionDenied => "permission denied"
  | alreadyExists => "entity already exists"
  | notDirectory => "not a directory"
  | isDirectory => "is a directory"
  | directoryNotEmpty => "directory not empty"
  | invalidInput => "invalid input parameter"
  | invalidFileName => "invalid filename"
  | linkLoop => "filesystem loop or indirection limit (e.g. symlink loop)"
  | invalidData => "invalid data"
  | timedOut => "timed out"
  | interrupted => "operation interrupted"
  | unexpectedEnd => "unexpected end of file"
  | other => "other error"

namespace OsError

def number : OsError → Nat
  | notPermitted => 1
  | noEntry => 2
  | accessDenied => 13
  | nameTaken => 17
  | notDirectory => 20
  | isDirectory => 21
  | invalidArgument => 22
  | nameTooLong => 36
  | notEmpty => 39
  | linkLoop => 40

/-- Every error of this module, by rising number. -/
def all : List OsError :=
  [notPermitted, noEntry, accessDenied, nameTaken, notDirectory, isDirectory, invalidArgument,
    nameTooLong, notEmpty, linkLoop]

def ofNumber? (n : Nat) : Option OsError :=
  all.find? (·.number == n)

/-- The system's own words for the error. -/
def words : OsError → String
  | notPermitted => "Operation not permitted"
  | noEntry => "No such file or directory"
  | accessDenied => "Permission denied"
  | nameTaken => "File exists"
  | notDirectory => "Not a directory"
  | isDirectory => "Is a directory"
  | invalidArgument => "Invalid argument"
  | nameTooLong => "File name too long"
  | notEmpty => "Directory not empty"
  | linkLoop => "Too many levels of symbolic links"

def kind : OsError → FaultKind
  | notPermitted => .permissionDenied
  | noEntry => .notFound
  | accessDenied => .permissionDenied
  | nameTaken => .alreadyExists
  | notDirectory => .notDirectory
  | isDirectory => .isDirectory
  | invalidArgument => .invalidInput
  | nameTooLong => .invalidFileName
  | notEmpty => .directoryNotEmpty
  | linkLoop => .linkLoop

end OsError

/-- Why a question to the machine has no answer. -/
inductive Fault where
  /-- The operating system refused. -/
  | system (error : OsError)
  /-- The path holds U+0000 and cannot be put to the operating system. -/
  | nulInPath
  /-- A fault of which only the kind is known. -/
  | plain (kind : FaultKind)
  /-- A fault told in a caller's words. -/
  | told (kind : FaultKind) (words : String)
  deriving DecidableEq, Repr

namespace Fault

def kind : Fault → FaultKind
  | system error => error.kind
  | nulInPath => .invalidInput
  | plain kind => kind
  | told kind _ => kind

/-- The text of the fault; an error of the system shows its number. -/
def message : Fault → String
  | system error => error.words ++ " (os error " ++ toString error.number ++ ")"
  | nulInPath => "file name contained an unexpected NUL byte"
  | plain kind => kind.description
  | told _ words => words

end Fault

end SectorGate
