import SectorGate.Pattern.Bracket
import SectorGate.Text.Alphanumeric

/-!
# Patterns

The patterns by which the value of a field can be described: characters, classes, groups,
alternatives and repetitions, in the usual notation for regular expressions. Nothing is ever
compared with a pattern here, so all that matters is which texts are patterns (`isPattern`). The
braces of a counted repetition have no place in a directive, and are refused.
-/

namespace SectorGate.Pattern

/-- A group that is still open. -/
structure Group where
  /-- The flags that hold again when the group is closed. -/
  flags : Flags
  /-- The heights of the alternatives before the last. -/
  branches : List Nat
  /-- The heights of the parts of the last alternative, the last part first. -/
  parts : List Nat
  /-- The last part can be repeated. -/
  repeatable : Bool
  deriving DecidableEq, Repr

namespace Group

def start (flags : Flags) : Group := ⟨flags, [], [], false⟩

def add (g : Group) (height : Nat) : Group :=
  { g with parts := height :: g.parts, repeatable := true }

/-- The group with one more part that sets flags. -/
def addFlags (g : Group) : Group :=
  { g with parts := 0 :: g.parts, repeatable := false }

/-- The group with its last part repeated. -/
def repeatLast? (g : Group) : Option Group :=
  match g.repeatable, g.parts with
  | true, height :: parts => some { g with parts := (height + 1) :: parts }
  | _, _ => none

def branch (g : Group) : Group :=
  { g with branches := joined g.parts :: g.branches, parts := [], repeatable := false }

def height (g : Group) : Nat :=
  joined (joined g.parts :: g.branches)

end Group

/-- How far a pattern was read. -/
structure State where
  flags : Flags
  names : List (List Char)
  group : Group
  outer : List Group
  deriving DecidableEq, Repr

/-- Whether a group can have this name. -/
def isGroupName : List Char → Bool
  | [] => false
  | first :: rest =>
    (first == '_' || Text.isAlphabetic first) &&
      rest.all fun c => ['_', '.', '[', ']'].contains c || Text.isAlphanumeric c

namespace State

def start : State := ⟨.start, [], .start .start, []⟩

def add (s : State) (height : Nat) : State :=
  { s with group := s.group.add height }

def enter (s : State) (flags : Flags) : State :=
  { s with flags, group := .start s.flags, outer := s.group :: s.outer }

def leave? (s : State) : Option State :=
  match s.outer with
  | [] => none
  | g :: outer =>
    some { s with flags := s.group.flags, group := g.add (s.group.height + 1), outer }

/-- Reads the rest of a name and enters the group that has it. -/
def readName (s : State) (text : List Char) : Option (State × List Char) :=
  let name := text.takeWhile (· ≠ '>')
  match text.dropWhile (· ≠ '>') with
  | [] => none
  | _ :: rest =>
    if isGroupName name && !s.names.contains name then
      some ({ s with names := name :: s.names }.enter s.flags, rest)
    else none

/-- Reads what follows an opening parenthesis up to the first part of the group. -/
def readOpening (s : State) (text : List Char) : Option (State × List Char) :=
  match s.flags.pass text with
  | '?' :: 'P' :: '<' :: rest => s.readName rest
  | '?' :: '<' :: rest => s.readName rest
  | '?' :: ')' :: _ => none
  | '?' :: rest => do
    let (flags, sign, rest) ← s.flags.read [] rest
    if sign = ')' then return ({ s with flags, group := s.group.addFlags }, rest)
    else return (s.enter flags, rest)
  | rest => some (s.enter s.flags, rest)

def read (s : State) (c : Char) (rest : List Char) : Option (State × List Char) :=
  match c with
  | '(' => s.readOpening rest
  | ')' => s.leave?.map (·, rest)
  | '|' => some ({ s with group := s.group.branch }, rest)
  | '[' => do
    let (b, rest) := Bracket.start s.flags rest
    let (height, rest) ← readClass s.flags b [] rest
    return (s.add height, rest)
  | '?' | '*' | '+' => do
    let group ← s.group.repeatLast?
    return ({ s with group }, if rest.head? = some '?' then rest.tail else rest)
  | '{' => none
  | '.' => if s.flags.unicode then some (s.add 0, rest) else none
  | '^' | '$' => some (s.add 0, rest)
  | '\\' => do
    let (atom, rest) ← readEscape s.flags rest
    guard (atom.isPart s.flags)
    return (s.add 0, rest)
  | c => if (Atom.character c).isPart s.flags then some (s.add 0, rest) else none

def readAll (s : State) (text : List Char) : Option State :=
  match s.flags.pass text with
  | [] => some s
  | c :: rest =>
    match s.read c rest with
    | none => none
    | some (s, rest) => if _h : rest.length < text.length then s.readAll rest else none
termination_by text.length

end State

def maxHeight : Nat := 250

/-- Whether a text is a pattern: it can be read, all groups are closed, and none is too deep. -/
def isPattern (text : List Char) : Bool :=
  (State.start.readAll text).any fun s => s.outer.isEmpty && s.group.height ≤ maxHeight

end SectorGate.Pattern
