import SectorGate.Text.Plain

/-!
# The command line

What the arguments of the program can ask for, and what is said to those that ask for
nothing sensible.
-/

namespace SectorGate.CommandLine

/-- The flags that the program knows. Only the first takes a value. -/
inductive Flag where
  | dir
  | verbose
  | help
  | version
  deriving DecidableEq, Repr

namespace Flag

/-- All flags, in the order of the help text. -/
def all : List Flag := [dir, verbose, help, version]

def name : Flag → String
  | dir => "dir"
  | verbose => "verbose"
  | help => "help"
  | version => "version"

def letter : Flag → Char
  | dir => 'd'
  | verbose => 'v'
  | help => 'h'
  | version => 'V'

def ofName? (name : List Char) : Option Flag :=
  all.find? (·.name.toList == name)

def ofLetter? (letter : Char) : Option Flag :=
  all.find? (·.letter == letter)

@[simp] theorem ofName?_name (flag : Flag) : ofName? flag.name.toList = some flag := by
  cases flag <;> decide

@[simp] theorem ofLetter?_letter (flag : Flag) : ofLetter? flag.letter = some flag := by
  cases flag <;> decide

/-- How messages refer to a flag. -/
def usage : Flag → String
  | dir => "--dir <DIR>"
  | flag => "--" ++ flag.name

end Flag

/-- What a run is asked to do. -/
structure Options where
  dir : Option String
  verbose : Bool
  deriving DecidableEq, Repr

/-- What is wrong with a list of arguments. -/
inductive UsageError where
  /-- The directory flag has no value, or an empty one. -/
  | missingValue
  | repeated (flag : Flag)
  | unexpectedArgument (argument : String)
  /-- A value is attached to a flag that takes none. -/
  | unexpectedValue (value : String) (flag : Flag)
  deriving DecidableEq, Repr

/-- The message about a usage error. It repeats arguments as plain text. -/
def UsageError.message : UsageError → String
  | missingValue =>
    "error: a value is required for '" ++ Flag.dir.usage ++ "' but none was supplied"
  | repeated flag =>
    "error: the argument '" ++ flag.usage ++ "' cannot be used multiple times"
  | unexpectedArgument argument =>
    "error: unexpected argument '" ++ Text.plain argument ++ "' found"
  | unexpectedValue value flag =>
    "error: unexpected value '" ++ Text.plain value ++ "' for '" ++ flag.usage ++
      "' found; no more were expected"

/-- Why a list of arguments leads to no run. -/
inductive Stop where
  | help
  | version
  | usage (error : UsageError)
  deriving DecidableEq, Repr

def usageLine : String :=
  "Usage: check-image-size [OPTIONS]"

def helpText : String :=
  "Check that loader.bin and kernel.bin fit in their reserved sectors\n\n" ++ usageLine ++
    "\n\nOptions:\n" ++
    "  -d, --dir <DIR>  Directory holding loader.bin and kernel.bin\n" ++
    "  -v, --verbose    \n" ++
    "  -h, --help       Print help\n" ++
    "  -V, --version    Print version\n"

def versionText : String :=
  "check-image-size 0.1.0\n"

/-- What is told of a usage error: the first line of its message, which a line break in an
argument can cut short. -/
def UsageError.report (error : UsageError) : String :=
  String.ofList (error.message.toList.takeWhile (· ≠ '\n')) ++ "\n"

end SectorGate.CommandLine
