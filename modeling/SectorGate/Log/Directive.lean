import SectorGate.Log.Record
import SectorGate.Pattern.Reading
import SectorGate.Text.Decimal
import SectorGate.Text.Offset

/-!
# Log directives

A directive gives a level to the records of a target. It can be limited to records that have a
certain field, or to what happens within spans; the program opens no spans, so directives of the
second kind have no effect. The forms are a level, a target, a target with an equals sign and a
level, and a target with a limit between brackets, with or without a level behind it.

White space around a directive is passed over in looking for its signs, but counts as text when
the pieces between the signs are cut out. So white space in front moves all cuts, and one of them
can fall into a character.
-/

namespace SectorGate.Log

/-- What a directive is limited to. -/
inductive Limit where
  | none
  /-- Records with a field of this name. -/
  | field (name : String)
  /-- What happens within spans, by their name or by the value of a field. -/
  | span
  deriving DecidableEq, Repr

/-- A level for the records of targets that begin with a text, or of all targets. -/
structure Directive where
  target : Option String
  limit : Limit
  level : Level
  deriving DecidableEq, Repr

/-- Why a text is no directive. -/
inductive Refusal where
  | malformed
  /-- The text is cut inside of a character. -/
  | brokenCharacter
  deriving DecidableEq, Repr

def brokenCharacterMessage : String := "byte index is not a char boundary"

def startsDirective (c : Char) : Bool :=
  Text.isAlphanumeric c || c == '-' || c == ':' || c == '_'

namespace Limit

def admits (l : Limit) (r : Record) : Bool :=
  match l with
  | none => true
  | field name => r.fieldNames.contains name
  | span => false

/-- The order in which limits yield to each other: of two fields, the one with the greater name
comes later. -/
def atMost : Limit → Limit → Bool
  | none, _ => true
  | _, none => false
  | field first, field second => first ≤ second
  | _, span => true
  | span, field _ => false

/-- Reads a field, which can have a value: a number or a pattern. -/
def ofText (text : List Char) : Except Refusal Limit :=
  match text.dropWhile (· ≠ '=') with
  | [] => if text = [] then .error .malformed else .ok (field (String.ofList text))
  | _ :: rest =>
    let value := rest.takeWhile (· ≠ '=')
    if Text.isDecimal value || Pattern.isPattern value then .ok span else .error .malformed

end Limit

/-- A text that is read for a directive, and the place in it that was reached. The place is
counted without the white space in front. -/
structure Cursor where
  text : List Char
  place : Nat
  /-- What is left to read, without the white space behind. -/
  rest : List Char

namespace Cursor

def start (text : List Char) : Cursor :=
  ⟨text, 0, Text.trim text⟩

def skip (c : Cursor) : Cursor :=
  { c with place := c.place + Text.width (c.rest.take 1), rest := c.rest.drop 1 }

/-- Moves to the next of some signs, or to the end. -/
def seek (c : Cursor) (signs : List Char) : Cursor :=
  { c with
    place := c.place + Text.width (c.rest.takeWhile (!signs.contains ·))
    rest := c.rest.dropWhile (!signs.contains ·) }

def textUpTo (c stop : Cursor) : Except Refusal (List Char) :=
  match Text.slice? c.text c.place stop.place with
  | some piece => .ok piece
  | none => .error .brokenCharacter

/-- Reads a level up to the end of the text. None at all shows everything. -/
def readLevel (c : Cursor) : Except Refusal Level := do
  match ← c.textUpTo { c with place := Text.width c.text } with
  | [] => .ok .trace
  | piece =>
    match Level.ofText? piece with
    | some level => .ok level
    | none => .error .malformed

def readEnd (c : Cursor) : Except Refusal Level :=
  match c.rest with
  | [] => .ok .trace
  | '=' :: _ => c.skip.readLevel
  | _ => .error .malformed

/-- Reads a field up to the brace and the bracket that close it. -/
def readField (c : Cursor) : Except Refusal (Limit × Cursor) :=
  let stop := c.seek ['}']
  match stop.rest with
  | '}' :: rest => do
    let limit ← Limit.ofText (← c.textUpTo stop)
    if rest.head? = some ']' then .ok (limit, stop.skip.skip) else .error .malformed
  | _ => .error .malformed

/-- Reads a limit up to the bracket that closes it: the name of a span, a field, or both. -/
def readLimit (c : Cursor) : Except Refusal (Limit × Cursor) :=
  let stop := c.seek [']', '{']
  match stop.rest with
  | ']' :: _ => do
    let _ ← c.textUpTo stop
    .ok (.span, stop.skip)
  | '{' :: _ => do
    let name ← c.textUpTo stop
    let (limit, stop) ← stop.skip.readField
    .ok (if name = [] then limit else .span, stop)
  | _ => .error .malformed

end Cursor

namespace Directive

def ofText (text : List Char) : Except Refusal Directive :=
  let start := Cursor.start text
  let stop := start.seek ['=', '[']
  if start.rest.head? = some '[' then do
    let (limit, stop) ← start.skip.readLimit
    .ok ⟨none, limit, ← stop.readEnd⟩
  else if !start.rest.head?.any startsDirective then
    .error .malformed
  else
    match stop.rest with
    | [] =>
      match Level.ofText? text with
      | some level => .ok ⟨none, .none, level⟩
      | none => .ok ⟨some (String.ofList text), .none, .trace⟩
    | sign :: _ => do
      let target := String.ofList (← start.textUpTo stop)
      if sign = '=' then
        .ok ⟨some target, .none, ← stop.skip.readLevel⟩
      else
        let (limit, stop) ← stop.skip.readLimit
        .ok ⟨some target, limit, ← stop.readEnd⟩

/-- Whether a directive speaks of a record. -/
def covers (d : Directive) (r : Record) : Bool :=
  (match d.target with
    | none => true
    | some start => start.toList.isPrefixOf r.target.toList) && d.limit.admits r

/-- How much of a target a directive names; one for all targets names least. -/
def weight (d : Directive) : Nat :=
  match d.target with
  | none => 0
  | some start => start.length + 1

/-- Whether a directive yields to another, if both speak of a record: the one that names more
of the target decides, or else the one with the later limit. -/
def yieldsTo (d other : Directive) : Bool :=
  d.weight < other.weight || (d.weight = other.weight && d.limit.atMost other.limit)

end Directive

end SectorGate.Log
