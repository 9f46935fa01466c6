import Wab.Text.Basic

/-!
# White space

The characters that separate words: those with the property White_Space of the Unicode character
database and the four information separators U+001C to U+001F.

* **`Text.isBlank c`**: the character is white space.
* **`Text.words s`**: the maximal runs of other characters.
* **`Text.trim s`**: the text without white space at its ends.
-/

namespace Wab.Text

/-- The character is white space. -/
def isBlank (c : CodePoint) : Bool :=
  let n := c.toNat
  (0x09 ≤ n && n ≤ 0x0D) || (0x1C ≤ n && n ≤ 0x20) || n == 0x85 || n == 0xA0 || n == 0x1680 ||
    (0x2000 ≤ n && n ≤ 0x200A) || n == 0x2028 || n == 0x2029 || n == 0x202F || n == 0x205F ||
    n == 0x3000

/-- The words of a text: its maximal runs of characters that are not white space. -/
def words (s : Text) : List Text := (s.splitOnP isBlank).filter fun w => !w.isEmpty

/-- The text without white space at its end. -/
def trimEnd (s : Text) : Text := (s.reverse.dropWhile isBlank).reverse

/-- The text without white space at its ends. -/
def trim (s : Text) : Text := trimEnd (s.dropWhile isBlank)

example : words "b.jar \u2003 ../c.jar\x1d"
    = (["b.jar", "../c.jar"] : List Text) := by decide +kernel

end Wab.Text
