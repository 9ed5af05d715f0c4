import SectorGate.Text.Blank

/-!
# Flags of patterns

A pattern can raise and lower flags for its parts. Of the seven flags, three bear on whether a
text is a pattern at all.
-/

namespace SectorGate.Pattern

/-- The flags that bear on whether a text is a pattern. -/
structure Flags where
  /-- A letter stands for both its forms. -/
  ignoreCase : Bool
  /-- The pattern is about characters and not about bytes. -/
  unicode : Bool
  /-- White space and comments may stand between the parts. -/
  spaced : Bool
  deriving DecidableEq, Repr

/-- What follows the white space and the comments at the start of a text. A comment begins with
a number sign and ends with its line. -/
def passBlanks (inComment : Bool) : List Char → List Char
  | [] => []
  | c :: rest =>
    if inComment then passBlanks (c ≠ '\n') rest
    else if Text.isBlank c then passBlanks false rest
    else if c = '#' then passBlanks true rest
    else c :: rest

namespace Flags

def start : Flags := ⟨false, true, false⟩

def set (flags : Flags) (letter : Char) (value : Bool) : Flags :=
  match letter with
  | 'i' => { flags with ignoreCase := value }
  | 'u' => { flags with unicode := value }
  | 'x' => { flags with spaced := value }
  | _ => flags

/-- Reads letters up to a colon or a closing parenthesis, which is handed on. A hyphen stands
before those to be lowered. Nothing stands twice, and the hyphen not at the end. -/
def read (flags : Flags) (seen : List Char) : List Char → Option (Flags × Char × List Char)
  | [] => none
  | c :: rest =>
    if c = ':' ∨ c = ')' then
      if seen.head? = some '-' then none else some (flags, c, rest)
    else if ['i', 'm', 's', 'U', 'u', 'R', 'x', '-'].contains c && !seen.contains c then
      (flags.set c (!seen.contains '-')).read (c :: seen) rest
    else
      none

/-- What follows everything that may stand between two parts. -/
def pass (flags : Flags) (text : List Char) : List Char :=
  if flags.spaced then passBlanks false text else text

/-- The next character of a class that is neither white space nor the first sign of a comment. -/
def peek (flags : Flags) (text : List Char) : Option Char :=
  if flags.spaced then
    match text.dropWhile Text.isBlank with
    | '#' :: rest => (rest.dropWhile Text.isBlank).head?
    | rest => rest.head?
  else
    text.head?

/-- Whether single characters can stand in a pattern. To ignore the case of a character takes a
table of cases, and there is one for ASCII only. -/
def allowsCharacters (flags : Flags) : Bool :=
  !(flags.ignoreCase && flags.unicode)

/-- Whether a class can stand in a pattern, if it is negated or not. A class of bytes holds ASCII
alone, and all but that goes beyond it. -/
def allowsClass (flags : Flags) (negated : Bool) : Bool :=
  flags.unicode || !negated

end Flags

end SectorGate.Pattern
