/-!
# Decimal numbers

Numbers in positional or scientific notation, with or without a sign, and the words for an
infinity and for what is no number.
-/

namespace SectorGate.Text

def unsigned : List Char → List Char
  | '+' :: rest => rest
  | '-' :: rest => rest
  | text => text

/-- Whether a text is empty or an exponent. -/
def isExponent : List Char → Bool
  | [] => true
  | e :: power =>
    (e == 'e' || e == 'E') && !(unsigned power).isEmpty && (unsigned power).all Char.isDigit

/-- Whether a text is a number without a sign. There are digits before or after the point. -/
def isMagnitude (text : List Char) : Bool :=
  match text.dropWhile Char.isDigit with
  | '.' :: rest =>
    (text.head?.any Char.isDigit || rest.head?.any Char.isDigit) &&
      isExponent (rest.dropWhile Char.isDigit)
  | rest => text.head?.any Char.isDigit && isExponent rest

/-- Whether a text is a number, or one of the words for a value that has no digits. -/
def isDecimal (text : List Char) : Bool :=
  isMagnitude (unsigned text) ||
    ["inf", "infinity", "nan"].contains (String.ofList ((unsigned text).map Char.toLower))

example : isDecimal "+5".toList ∧ isDecimal "-.5e+3".toList ∧ isDecimal "+7.".toList ∧
    isDecimal "+NaN".toList := by decide

example : ¬ isDecimal "+".toList ∧ ¬ isDecimal ".".toList ∧ ¬ isDecimal "1e".toList ∧
    ¬ isDecimal "++1".toList := by decide

end SectorGate.Text
