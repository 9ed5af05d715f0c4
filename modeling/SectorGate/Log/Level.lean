/-!
# Log levels

The levels of a log line and of a filter, from silence to everything, with their two
written forms: a name in any case, or a number.
-/

namespace SectorGate.Log

/-- How much is shown. Each level shows what those before it show, and more. -/
inductive Level where
  | off
  | error
  | warn
  | info
  | debug
  | trace
  deriving DecidableEq, Repr

namespace Level

def all : List Level := [off, error, warn, info, debug, trace]

def rank : Level → Nat
  | off => 0
  | error => 1
  | warn => 2
  | info => 3
  | debug => 4
  | trace => 5

def name : Level → String
  | off => "off"
  | error => "error"
  | warn => "warn"
  | info => "info"
  | debug => "debug"
  | trace => "trace"

def ofName? (text : List Char) : Option Level :=
  all.find? fun level => level.name.toList == text.map Char.toLower

/-- The level of this number. A plus sign and leading zeros are allowed. -/
def ofNumber? (text : List Char) : Option Level :=
  let digits := if text.head? = some '+' then text.tail else text
  if digits ≠ [] ∧ digits.all Char.isDigit then all[Nat.ofDigitChars 10 digits 0]? else none

def ofText? (text : List Char) : Option Level :=
  ofNumber? text <|> ofName? text

/-- The level as log lines begin with it: in capitals, right-aligned in five columns. -/
def label (level : Level) : String :=
  String.ofList ((level.name.toList.map Char.toUpper).leftpad 5 ' ')

@[simp] theorem ofText?_name (level : Level) : ofText? level.name.toList = some level := by
  cases level <;> decide

@[simp] theorem ofText?_digit (level : Level) :
    ofText? [Nat.digitChar level.rank] = some level := by
  cases level <;> decide

end Level

end SectorGate.Log
