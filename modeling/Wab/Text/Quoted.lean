import Wab.Text.Basic
import Wab.Text.LetterCase
import Wab.Text.PrintTable

/-!
# Quoted texts

How a text is quoted inside a message: between apostrophes, or between double quotes if it holds an
apostrophe and no double quote; the quote in use and the backslash are escaped, line feed, carriage
return and tab have their letters, and any other character without a printed form is written by its
number in two, four or eight hexadecimal digits.

* **`Text.quote s`**: the quoted text.
* **`Text.quoteList`**, **`Text.quoteMap`**: the quoted forms of a list and of a mapping.
-/

namespace Wab.Text

/-- The last `width` hexadecimal digits of a number. -/
def hex : Nat → Nat → Text
  | 0, _ => []
  | width + 1, n => hex width (n / 16) ++ [.scalar (Nat.digitChar (n % 16))]

/-- The code point has a printed form. -/
def isPrintable (c : CodePoint) : Bool := !inRanges PrintTable.unprintable c.toNat

/-- The quote that encloses a text. -/
def quoteMark (s : Text) : CodePoint := if .scalar '\'' ∈ s ∧ .scalar '"' ∉ s then '"' else '\''

/-- A code point inside a quoted text. -/
def quoteChar (mark c : CodePoint) : Text :=
  if c = mark ∨ c = '\\' then ['\\', c]
  else if c = '\n' then ['\\', 'n']
  else if c = '\r' then ['\\', 'r']
  else if c = '\t' then ['\\', 't']
  else if isPrintable c then [c]
  else if c.toNat < 0x100 then '\\' :: 'x' :: hex 2 c.toNat
  else if c.toNat < 0x10000 then '\\' :: 'u' :: hex 4 c.toNat
  else '\\' :: 'U' :: hex 8 c.toNat

/-- The text between quotes. -/
def quote (s : Text) : Text :=
  quoteMark s :: s.flatMap (quoteChar (quoteMark s)) ++ [quoteMark s]

/-- The quoted text as a `String`. -/
abbrev quoted (s : Text) : String := str (quote s)

/-- Several written values between brackets. -/
def enclose (opening closing : CodePoint) (items : List Text) : Text :=
  opening :: List.intercalate ", " items ++ [closing]

/-- A list of quoted texts. -/
def quoteList (items : List Text) : Text := enclose '[' ']' (items.map quote)

/-- A mapping from quoted names to values that are written already. -/
def quoteMap (fields : List (Text × Text)) : Text :=
  enclose '\x7b' '\x7d' (fields.map fun (name, value) => quote name ++ ": " ++ value)

/-- An optional text: quoted, or the word for nothing. -/
def quoteOption : Option Text → Text
  | some s => quote s
  | none => "None"

/-! ## Examples -/

example : quote "it's" = "\"it's\"" := by decide +kernel

example : quote "a\\\n\x00" = "'a\\\\\\n\\x00'" := by decide +kernel

end Wab.Text
