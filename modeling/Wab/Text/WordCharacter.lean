import Wab.Text.LetterCase
import Wab.Text.WordTable

/-!
# Letters and digits

Which characters are letters or digits in any script.

* **`Text.isAlphanumeric c`**: the character is a letter or a numeric character.
* **`Text.isDecimal c`**: the character is a decimal digit.
* **`Text.decimalValue? c`**: the value of a decimal digit.
-/

namespace Wab.Text

/-- The character is a letter or a numeric character. -/
def isAlphanumeric (c : CodePoint) : Bool :=
  c.isAlphanum || inRanges WordTable.alphanumeric c.toNat

/-- The character is a decimal digit. -/
def isDecimal (c : CodePoint) : Bool :=
  c.isDigit || WordTable.zeros.any fun first => first ≤ c.toNat && c.toNat < first + 10

/-- The value of a decimal digit. -/
def decimalValue? (c : CodePoint) : Option Nat :=
  (('0'.toNat :: WordTable.zeros).find? fun first => first ≤ c.toNat && c.toNat < first + 10).map
    fun first => c.toNat - first

example : isAlphanumeric 'é' = true ∧ isAlphanumeric '-' = false := by decide +kernel

end Wab.Text
