import SectorGate.Text.Alphabetic
import SectorGate.Text.Numeric

/-!
# Letters and digits

The characters with the Unicode property Alphabetic, and those of the categories for numbers.
-/

namespace SectorGate.Text

def isAlphanumeric (c : Char) : Bool :=
  isAlphabetic c || isNumeric c

end SectorGate.Text
