/-!
# Code points

A text consists of code points: the characters of Unicode, which are called its scalar values, and
the surrogates U+D800 to U+DFFF. A surrogate stands for nothing by itself and has no form in UTF-8,
but it can come into a text: an argument of the command line whose bytes are not UTF-8 has one for
each such byte.

* **`CodePoint`**: a character or a surrogate. A character stands for its code point.
* **`CodePoint.toNat`**, **`CodePoint.ofNat?`**: the number of a code point.
* **`CodePoint.char?`**: the character that a code point is.
-/

namespace Wab

/-- A code point. -/
inductive CodePoint where
  /-- A character. -/
  | scalar (c : Char)
  /-- A surrogate, by its distance from U+D800. -/
  | surrogate (n : Fin 0x800)
  deriving DecidableEq, Repr

namespace CodePoint

instance : Coe Char CodePoint := ⟨scalar⟩

/-- The number of a code point. -/
def toNat : CodePoint → Nat
  | scalar c => c.toNat
  | surrogate n => 0xD800 + n

/-- The code point of a number. -/
def ofNat? (n : Nat) : Option CodePoint :=
  if n.isValidChar then some (Char.ofNat n)
  else if h : n < 0xE000 ∧ 0xD800 ≤ n then some (surrogate ⟨n - 0xD800, by omega⟩)
  else none

/-- The character that a code point is. -/
def char? : CodePoint → Option Char
  | scalar c => some c
  | surrogate _ => none

/-- The code point is a surrogate. -/
def isSurrogate (c : CodePoint) : Bool := c.char?.isNone

/-- The code point is a digit of ASCII. -/
def isDigit (c : CodePoint) : Bool := c.char?.any Char.isDigit

/-- The code point is a letter of ASCII. -/
def isAlpha (c : CodePoint) : Bool := c.char?.any Char.isAlpha

/-- The code point is a letter or digit of ASCII. -/
def isAlphanum (c : CodePoint) : Bool := c.char?.any Char.isAlphanum

/-- The code point lies between two characters or is one of them. -/
def isBetween (first last : Char) (c : CodePoint) : Bool :=
  first.toNat ≤ c.toNat && c.toNat ≤ last.toNat

/-- The code point with a capital letter of ASCII made small. -/
def toLower : CodePoint → CodePoint
  | scalar c => c.toLower
  | surrogate n => surrogate n

/-! ## Readings -/

@[simp] theorem toNat_scalar (c : Char) : (scalar c).toNat = c.toNat := rfl

@[simp] theorem char?_scalar (c : Char) : (scalar c).char? = some c := rfl

@[simp] theorem isDigit_scalar (c : Char) : (scalar c).isDigit = c.isDigit := rfl

@[simp] theorem isAlpha_scalar (c : Char) : (scalar c).isAlpha = c.isAlpha := rfl

@[simp] theorem isAlphanum_scalar (c : Char) : (scalar c).isAlphanum = c.isAlphanum := rfl

@[simp] theorem toLower_scalar (c : Char) : (scalar c).toLower = scalar c.toLower := rfl

/-- A code point below the surrogates is a character. -/
theorem exists_of_toNat_lt {c : CodePoint} (h : c.toNat < 0xD800) : ∃ d, c = scalar d := by
  cases c with
  | scalar d => exact ⟨d, rfl⟩
  | surrogate n => exact absurd h (Nat.not_lt.2 (Nat.le_add_right _ _))

/-- A letter or digit is a character. -/
theorem exists_of_isAlphanum {c : CodePoint} (h : c.isAlphanum = true) :
    ∃ d, c = scalar d ∧ d.isAlphanum = true := by
  cases c with
  | scalar d => exact ⟨d, rfl, h⟩
  | surrogate n => exact absurd h Bool.false_ne_true

end CodePoint

end Wab
