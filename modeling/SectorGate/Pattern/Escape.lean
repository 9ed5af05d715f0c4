import SectorGate.Pattern.Flags

/-!
# Escapes in patterns

What a character behind a backslash stands for, alone or with the digits that follow it.
-/

namespace SectorGate.Pattern

/-- What one character of a pattern, or one escape, stands for. -/
inductive Atom where
  | character (c : Char)
  /-- A byte, or the character of that number. -/
  | byte (c : Char)
  /-- The digits, the blanks or the characters of words, or all but these. -/
  | kind (negated : Bool)
  /-- The start or the end of the text. -/
  | edge
  | wordEdge
  deriving DecidableEq, Repr

namespace Atom

/-- The character of an atom that is one. -/
def code? : Atom → Option Char
  | character c | byte c => some c
  | _ => none

/-- Whether an atom can stand for itself. The tables for the kinds of characters and for words
hold ASCII only, and a pattern that is about bytes may not match half a character. -/
def isPart (flags : Flags) : Atom → Bool
  | character _ => flags.allowsCharacters
  | byte c => flags.allowsCharacters && (flags.unicode || c.toNat < 128)
  | kind negated => !flags.unicode && !negated
  | edge => true
  | wordEdge => !flags.unicode

def isMember (flags : Flags) : Atom → Bool
  | character c | byte c => flags.allowsCharacters && (flags.unicode || c.toNat < 128)
  | kind negated => !flags.unicode && !negated
  | edge | wordEdge => false

end Atom

def hexDigit? (c : Char) : Option Nat :=
  if c.isDigit then some (c.toNat - '0'.toNat)
  else if 'a' ≤ c ∧ c ≤ 'f' then some (c.toNat - 'a'.toNat + 10)
  else if 'A' ≤ c ∧ c ≤ 'F' then some (c.toNat - 'A'.toNat + 10)
  else none

/-- Reads a number of hexadecimal digits and adds them to those read before. -/
def readHex (flags : Flags) : Nat → Nat → List Char → Option (Nat × List Char)
  | 0, value, text => some (value, text)
  | n + 1, value, text =>
    match flags.pass text with
    | [] => none
    | c :: rest => do readHex flags n (16 * value + (← hexDigit? c)) rest

/-- What a letter or sign behind a backslash stands for. All signs but two stand for
themselves. -/
def escaped? (c : Char) : Option Atom :=
  match c with
  | 'a' => some (.character '\x07')
  | 't' => some (.character '\t')
  | 'n' => some (.character '\n')
  | 'v' => some (.character '\x0b')
  | 'f' => some (.character '\x0c')
  | 'r' => some (.character '\r')
  | 'A' | 'z' => some .edge
  | 'b' | 'B' | '<' | '>' => some .wordEdge
  | 'd' | 's' | 'w' => some (.kind false)
  | 'D' | 'S' | 'W' => some (.kind true)
  | c => if c.toNat < 128 && !c.isAlphanum then some (.character c) else none

def readEscape (flags : Flags) : List Char → Option (Atom × List Char)
  | [] => none
  | 'x' :: rest => do
    let (value, rest) ← readHex flags 2 0 rest
    return (.byte (Char.ofNat value), rest)
  | 'u' :: rest => do
    let (value, rest) ← readHex flags 4 0 rest
    guard value.isValidChar
    return (.character (Char.ofNat value), rest)
  | 'U' :: rest => do
    let (value, rest) ← readHex flags 8 0 rest
    guard value.isValidChar
    return (.character (Char.ofNat value), rest)
  | c :: rest => do return (← escaped? c, rest)

end SectorGate.Pattern
