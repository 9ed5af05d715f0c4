/-!
# Path text

Paths are text. Joining a directory and a file name normalises nothing; taking a path
apart gives the names that a walk from a directory visits in turn.
-/

namespace SectorGate.Path

def isAbsolute (path : String) : Bool :=
  path.toList.head? == some '/'

/-- Whether a path holds U+0000, which no operating system takes. -/
def hasNul (path : String) : Bool :=
  path.toList.contains (Char.ofNat 0)

/-- Whether a path ends in a slash, and so can only mean a directory. -/
def endsInSlash (path : String) : Bool :=
  path.toList.getLast? == some '/'

/-- The path of a name in a directory: an absolute name stands for itself, and a slash goes
between the two unless the directory is empty or brings one. -/
def join (dir name : String) : String :=
  if isAbsolute name then name
  else if dir = "" ∨ endsInSlash dir then dir ++ name
  else dir ++ "/" ++ name

/-- The names in a path; slashes in a row count as one. -/
def names (path : String) : List String :=
  ((path.toList.splitOn '/').filter (· ≠ [])).map String.ofList

/-- The names that a walk along the path visits. A slash at the end asks for the directory
itself, which is the name `.`. -/
def steps (path : String) : List String :=
  names path ++ if endsInSlash path then ["."] else []

theorem join_of_isAbsolute {name : String} (h : isAbsolute name) (dir : String) :
    join dir name = name := by
  simp [join, h]

end SectorGate.Path
