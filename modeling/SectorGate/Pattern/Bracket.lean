import SectorGate.Pattern.Escape

/-!
# Classes in patterns

A class is a set of characters between brackets: single characters, ranges, named classes and
other classes, joined by three operators. The operators bind from left to right, and less than
the items that stand side by side.
-/

namespace SectorGate.Pattern

/-- The height of what stands side by side: one more than the highest, if there are two. -/
def joined : List Nat → Nat
  | [] => 0
  | [height] => height
  | heights => heights.foldl max 0 + 1

/-- Whether two signs are an operator: an intersection, a difference or a symmetric difference. -/
def isOperator (first : Char) (second : Option Char) : Bool :=
  ['&', '-', '~'].contains first && second = some first

/-- A class whose closing bracket was not yet read. -/
structure Bracket where
  negated : Bool
  /-- The height of the left side of an operator whose right side is being read. -/
  left : Option Nat
  /-- The heights of what was read of the right side, the last item first. -/
  items : List Nat
  /-- Only hyphens were read so far. Here these, or one closing bracket, stand for themselves. -/
  fresh : Bool
  deriving DecidableEq, Repr

/-- What becomes of a class when its next part was read. -/
inductive Turn where
  | stay (b : Bracket)
  | enter (inner : Bracket)
  | leave

namespace Bracket

def add (b : Bracket) (height : Nat) : Bracket :=
  { b with items := height :: b.items, fresh := false }

/-- The class with an atom as one more item, if it can be one. -/
def addAtom? (b : Bracket) (flags : Flags) (atom : Atom) : Option Bracket :=
  if atom.isMember flags then some (b.add 0) else none

def height (b : Bracket) : Nat :=
  match b.left with
  | none => joined b.items
  | some left => max left (joined b.items) + 1

/-- The class behind an operator. -/
def follow (b : Bracket) : Bracket :=
  { b with left := some b.height, items := [], fresh := false }

/-- The height of a class that is closed. -/
def close? (b : Bracket) (flags : Flags) : Option Nat :=
  if flags.allowsClass b.negated then some (b.height + 1) else none

def start (flags : Flags) (text : List Char) : Bracket × List Char :=
  match flags.pass text with
  | '^' :: rest => (⟨true, none, [], true⟩, rest)
  | rest => (⟨false, none, [], true⟩, rest)

def names : List String :=
  ["alnum", "alpha", "ascii", "blank", "cntrl", "digit", "graph", "lower", "print", "punct",
    "space", "upper", "word", "xdigit"]

/-- Reads what follows the opening bracket of a named class, and says whether it is negated. -/
def readName? : List Char → Option (Bool × List Char)
  | ':' :: rest =>
    let negated := rest.head? = some '^'
    let rest := if negated then rest.tail else rest
    match rest.dropWhile (· ≠ ':') with
    | ':' :: ']' :: after =>
      if names.contains (String.ofList (rest.takeWhile (· ≠ ':'))) then some (negated, after)
      else none
    | _ => none
  | _ => none

def readAtom (flags : Flags) (c : Char) (rest : List Char) : Option (Atom × List Char) :=
  if c = '\\' then readEscape flags rest else some (.character c, rest)

/-- Reads a single character or a range. -/
def readRange (flags : Flags) (b : Bracket) (c : Char) (rest : List Char) :
    Option (Bracket × List Char) := do
  let (first, rest) ← readAtom flags c rest
  match flags.pass rest with
  | '-' :: after =>
    if [some ']', some '-'].contains (flags.peek after) then
      return (← b.addAtom? flags first, '-' :: after)
    else
      match flags.pass after with
      | [] => none
      | d :: after =>
        let (last, after) ← readAtom flags d after
        guard (last.isMember flags && (← first.code?) ≤ (← last.code?))
        return (← b.addAtom? flags first, after)
  | rest => return (← b.addAtom? flags first, rest)

def read (flags : Flags) (b : Bracket) (c : Char) (rest : List Char) :
    Option (Turn × List Char) :=
  if b.fresh && c = '-' then do
    let b ← b.addAtom? flags (.character c)
    return (.stay { b with fresh := true }, rest)
  else if b.fresh && b.items.isEmpty && c = ']' then do
    return (.stay (← b.addAtom? flags (.character c)), rest)
  else if c = ']' then
    some (.leave, rest)
  else if c = '[' then
    match readName? rest with
    | some (negated, rest) =>
      if flags.allowsCharacters && flags.allowsClass negated then some (.stay (b.add 0), rest)
      else none
    | none =>
      let (inner, rest) := start flags rest
      some (.enter inner, rest)
  else if isOperator c rest.head? then
    some (.stay b.follow, rest.tail)
  else do
    let (b, rest) ← readRange flags b c rest
    return (.stay b, rest)

end Bracket

/-- Reads a class and those around it to their end, and says how deep it is nested. -/
def readClass (flags : Flags) (b : Bracket) (outer : List Bracket) (text : List Char) :
    Option (Nat × List Char) :=
  match flags.pass text with
  | [] => none
  | c :: rest =>
    match b.read flags c rest with
    | none => none
    | some (turn, rest) =>
      if _h : rest.length < text.length then
        match turn with
        | .stay b => readClass flags b outer rest
        | .enter inner => readClass flags inner (b :: outer) rest
        | .leave =>
          match b.close? flags, outer with
          | none, _ => none
          | some height, [] => some (height, rest)
          | some height, b :: outer => readClass flags (b.add height) outer rest
      else none
termination_by text.length

end SectorGate.Pattern
