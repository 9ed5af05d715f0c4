import SectorGate.CommandLine.Basic

/-!
# Reading the arguments

Arguments are read from left to right, and the first that decides, decides. A value that
stands apart from its flag is only looked at when the next flag is met or the arguments
end; what is no flag at all is refused before that.
-/

namespace SectorGate.CommandLine

/-- What has become of a directory flag whose value stands apart from it. -/
inductive Pending where
  | nothing
  /-- The flag was read and its value was not. -/
  | awaited
  /-- The value was read and not yet looked at. -/
  | given (value : String)
  deriving DecidableEq, Repr

/-- The state of reading: what was asked for so far, and what is left to look at. -/
structure Progress extends Options where
  pending : Pending
  deriving DecidableEq, Repr

inductive Shape where
  /-- Two hyphens and a name, with what stands behind the first equals sign. -/
  | long (name : List Char) (value : Option (List Char))
  /-- One hyphen and at least one letter. -/
  | letters (first : Char) (rest : List Char)
  | plain
  deriving DecidableEq, Repr

/-- The shape of an argument. One hyphen alone is plain. -/
def Shape.of : List Char → Shape
  | '-' :: '-' :: rest =>
    match rest.dropWhile (· ≠ '=') with
    | [] => long rest none
    | _ :: value => long (rest.takeWhile (· ≠ '=')) (some value)
  | '-' :: first :: rest => letters first rest
  | _ => plain

/-- The value that follows a letter: the text less one equals sign in front. -/
def attachedValue : List Char → List Char
  | '=' :: value => value
  | value => value

namespace Progress

def start : Progress := ⟨⟨none, false⟩, .nothing⟩

/-- Looks at a value that stands apart, if there is one to look at. -/
def settle (p : Progress) : Except Stop Progress :=
  match p.pending with
  | .nothing => .ok p
  | .awaited => .error (.usage .missingValue)
  | .given value =>
    if p.dir.isSome then .error (.usage (.repeated .dir))
    else if value = "" then .error (.usage .missingValue)
    else .ok { p with dir := some value, pending := .nothing }

theorem settle_of_awaited {p : Progress} (h : p.pending = .awaited) :
    p.settle = .error (.usage .missingValue) := by
  simp [settle, h]

theorem settle_of_given {p : Progress} {value : String} (h : p.pending = .given value)
    (hdir : p.dir = none) (hvalue : value ≠ "") :
    p.settle = .ok { p with dir := some value, pending := .nothing } := by
  simp [settle, h, hdir, hvalue]

/-- Meets a flag without a value attached to it. -/
def meet (p : Progress) (flag : Flag) : Except Stop Progress := do
  let p ← p.settle
  match flag with
  | .dir => .ok { p with pending := .awaited }
  | .verbose =>
    if p.verbose then .error (.usage (.repeated .verbose)) else .ok { p with verbose := true }
  | .help => .error .help
  | .version => .error .version

/-- Meets the directory flag with its value attached. -/
def attach (p : Progress) (value : List Char) : Except Stop Progress := do
  let p ← p.settle
  { p with pending := .given (String.ofList value) }.settle

def readLong (p : Progress) (name : List Char) (value : Option (List Char)) :
    Except Stop Progress :=
  match Flag.ofName? name, value with
  | none, _ => .error (.usage (.unexpectedArgument (String.ofList ('-' :: '-' :: name))))
  | some flag, none => p.meet flag
  | some .dir, some value => p.attach value
  | some flag, some value => .error (.usage (.unexpectedValue (String.ofList value) flag))

/-- Reads flags by their letters. What follows the letter of the directory flag is its value. -/
def readLetters (p : Progress) : List Char → Except Stop Progress
  | [] => .ok p
  | c :: rest =>
    match Flag.ofLetter? c with
    | none => .error (.usage (.unexpectedArgument (String.ofList ['-', c])))
    | some .dir =>
      match rest with
      | [] => p.meet .dir
      | _ => p.attach (attachedValue rest)
    | some flag => do (← p.meet flag).readLetters rest

/-- Reads an argument that is no flag. It can only be a value that is awaited. -/
def readPlain (p : Progress) (argument : String) : Except Stop Progress :=
  if p.pending = .awaited then .ok { p with pending := .given argument }
  else .error (.usage (.unexpectedArgument argument))

def readArgument (p : Progress) (argument : String) : Except Stop Progress :=
  match Shape.of argument.toList with
  | .long name value => p.readLong name value
  | .letters first rest => p.readLetters (first :: rest)
  | .plain => p.readPlain argument

def finish (p : Progress) : Except Stop Options :=
  p.settle.map (·.toOptions)

/-- Reads the arguments that are left. Two hyphens end the flags, and nothing may follow. -/
def read (p : Progress) : List String → Except Stop Options
  | [] => p.finish
  | argument :: rest =>
    if argument = "--" then
      match rest.head? with
      | none => p.finish
      | some extra => .error (.usage (.unexpectedArgument extra))
    else do (← p.readArgument argument).read rest

end Progress

/-- What a list of arguments asks for. -/
def parse (arguments : List String) : Except Stop Options :=
  Progress.start.read arguments

end SectorGate.CommandLine
