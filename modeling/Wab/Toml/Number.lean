import Wab.Query.Encoding
import Wab.Text.WordCharacter
import Wab.Value

/-!
# Numbers in TOML

Numbers are read liberally: digits may come from any script, white space may stand around, and
single underscores between digits. What else a number has to observe is asked for separately.

* **`Toml.wholeNumber?`**: a whole number of decimal digits.
* **`Toml.literal?`**: a whole number of one of four bases.
* **`Toml.isFloat`**: a floating-point number.
* **`Toml.isStrict`**: the form of a number is strictly valid.
* **`Toml.number?`**: the number that a word stands for.
-/

namespace Wab.Toml

/-- The character in ASCII that counts for a code point of a number. -/
def plainChar (c : CodePoint) : CodePoint :=
  if c.toNat < 0x7F then c
  else if Text.isBlank c then ' '
  else
    match Text.decimalValue? c with
    | some n => Char.ofNat ('0'.toNat + n)
    | none => '?'

/-- The character is a space of a number. -/
def isFiller (c : CodePoint) : Bool := c == ' ' || c.isBetween '\t' '\r'

/-- The text of a number in ASCII without white space around it. -/
def plain (s : Text) : Text :=
  (((s.map plainChar).dropWhile isFiller).reverse.dropWhile isFiller).reverse

/-- The text has a minus sign in front, and what follows the sign, if there is one. -/
def splitSign : Text → Bool × Text
  | '+' :: rest => (false, rest)
  | '-' :: rest => (true, rest)
  | s => (false, s)

/-- The digits of a number without the underscores between them, if each of these stands between
two digits. -/
def digits? (isDigit : CodePoint → Bool) (s : Text) : Option Text :=
  let parts := s.splitOn (.scalar '_')
  if parts.all fun part => !part.isEmpty && part.all isDigit then some parts.flatten else none

/-- The number that digits give. -/
def digitsValue (base : Nat) (digits : Text) : Nat :=
  digits.foldl (fun n c => n * base + Query.hexValue c) 0

/-- A number with the sign it has. -/
def signed (negative : Bool) (n : Nat) : Int := if negative then -(n : Int) else n

/-- The whole number without sign that decimal digits are. -/
def decimal? (s : Text) : Option Nat :=
  let digits := (digits? CodePoint.isDigit s).filter fun digits => digits.length ≤ Text.digitRoom
  digits.map (digitsValue 10)

/-- The whole number of decimal digits that a text is. -/
def wholeNumber? (s : Text) : Option Int :=
  let (negative, digits) := splitSign (plain s)
  (decimal? digits).map (signed negative)

/-- The whole number without sign that a text is: decimal without leading zeros, or with the mark of
another base. -/
def natural? : Text → Option Nat
  | '0' :: mark :: rest =>
    let rest := if rest.head? = some (.scalar '_') then rest.tail else rest
    if mark.toLower = 'x' then (digits? Query.isHexDigit rest).map (digitsValue 16)
    else if mark.toLower = 'o' then
      (digits? (CodePoint.isBetween '0' '7') rest).map (digitsValue 8)
    else if mark.toLower = 'b' then
      (digits? (fun c => c == '0' || c == '1') rest).map (digitsValue 2)
    else
      (decimal? ('0' :: mark :: rest)).filter (· = 0)
  | s => decimal? s

/-- The whole number of any base that a text is. -/
def literal? (s : Text) : Option Int :=
  let (negative, rest) := splitSign (plain s)
  (natural? rest).map (signed negative)

/-- The text without its underscores, if each stands between two digits. The character in front of
the text is given. -/
def ungrouped? (before : CodePoint) : Text → Option Text
  | [] => some []
  | '_' :: rest =>
    if before.isDigit && (rest.head?.map CodePoint.isDigit).getD false then ungrouped? '_' rest
    else none
  | c :: rest => (ungrouped? c rest).map (c :: ·)

/-- The text is an exponent with its mark, or empty. -/
def isExponent : Text → Bool
  | [] => true
  | _ :: rest =>
    let digits := (splitSign rest).2
    !digits.isEmpty && digits.all CodePoint.isDigit

/-- The text is a decimal number: digits, among which there may be a point, and an exponent. -/
def isDecimalNumber (s : Text) : Bool :=
  let (mantissa, exponent) := s.span fun c => c ≠ .scalar 'e' ∧ c ≠ .scalar 'E'
  let digits := match Text.cut? ['.'] mantissa with
    | some (whole, fraction) => whole ++ fraction
    | none => mantissa
  !digits.isEmpty && digits.all CodePoint.isDigit && isExponent exponent

/-- The words that stand for numbers that are not finite. -/
def notFinite : List Text := ["inf", "infinity", "nan"]

/-- The text is a floating-point number. -/
def isFloat (s : Text) : Bool :=
  let rest := (splitSign (plain s)).2
  notFinite.contains (rest.map CodePoint.toLower)
    || ((ungrouped? ' ' rest).map isDecimalNumber).getD false

/-- The form of a number is strictly valid: no underscore at its ends, next to a point or to another
one, and no leading zero. -/
def isStrict (s : Text) : Bool :=
  match Text.trim s with
  | [] => false
  | [c] => c ≠ '_'
  | c :: d :: rest =>
    let s := c :: d :: rest
    let unsigned := if c = '+' ∨ c = '-' then d :: rest else s
    let zeroLeads := (c == '0' && !(['.', 'o', 'b', 'x'] : Text).contains d)
      || (unsigned.length != s.length && d == '0' && !rest.isEmpty
        && rest.head? != some (.scalar '.'))
    c ≠ '_' && s.getLast? != some (.scalar '_') && !Text.includes ['_', '.'] s
      && !Text.includes ['.', '_'] s && !zeroLeads && !Text.includes ['_', '_'] unsigned

/-- The number that a word stands for. -/
def number? (s : Text) : Option Value :=
  let (negative, rest) := splitSign s
  let word := rest.filter (· ≠ .scalar '_')
  if word.contains '.' || (!word.contains 'x' && (word.contains 'e' || word.contains 'E')) then
    let pointAtEnd := (Text.cut? ['.'] word).map (·.2) == some []
    let digitFirst := (word.head?.map CodePoint.isDigit).getD false
    if !pointAtEnd && digitFirst && isFloat word then some (.float s) else none
  else if word.length == 3 && notFinite.contains (word.map CodePoint.toLower) then some (.float s)
  else (literal? word).map fun n => .int (if negative then -n else n)

/-! ## Examples -/

example : (number? "1_000").map Value.typeName = some "int" := by decide +kernel

example : (number? "1.e5").map Value.typeName = some "float" := by decide +kernel

example : wholeNumber? " +1_2 " = some 12 ∧ wholeNumber? "1__2" = none := by
  decide +kernel

example : isStrict "01" = false ∧ isStrict "-0.5" = true := by decide +kernel

end Wab.Toml
