/-!
# Binary floating-point numbers

The numbers of binary64 that are not negative: 53 binary digits at most, counted in units that are
no smaller than the smallest number. What is no such number is rounded to the nearest one, and half
way between two of them to the even one.

* **`roundedQuotient`**: the whole number nearest to a quotient.
* **`Binary64.ofQuotient`**: the number nearest to a quotient.
* **`Binary64.ofNat?`**: the number nearest to a whole number, if it is not too great.
* **`Binary64.mul`**: the number nearest to a product.
-/

namespace Wab

/-- The whole number nearest to `n / d`. Half way between two of them it is the even one. -/
def roundedQuotient (n d : Nat) : Nat :=
  let q := n / d
  let twice := 2 * (n % d)
  if d < twice ∨ (twice = d ∧ q % 2 = 1) then q + 1 else q

/-- A floating-point number that is not negative. -/
structure Binary64 where
  /-- How often it holds the smallest number. -/
  units : Nat
  deriving DecidableEq, Repr

namespace Binary64

/-- The binary digits behind the point of the smallest number. -/
def unitPlaces : Nat := 1074

/-- The greatest number of binary digits from the first to the last that is not zero. -/
def digitRoom : Nat := 53

/-- The greatest number of binary digits in front of the point. -/
def wholeRoom : Nat := 1024

/-- The number nearest to `n / d`, were there no greatest number. -/
def ofQuotient (n d : Nat) : Binary64 :=
  let n := n <<< unitPlaces
  let surplus := (n / d).log2 + 1 - digitRoom
  ⟨roundedQuotient n (d <<< surplus) <<< surplus⟩

/-- The whole part of a number. -/
def floor (x : Binary64) : Nat := x.units >>> unitPlaces

/-- The number nearest to a whole number, unless that is too great. -/
def ofNat? (n : Nat) : Option Binary64 :=
  let x := ofQuotient n 1
  if x.floor < 1 <<< wholeRoom then some x else none

/-- The number nearest to a product. -/
def mul (x y : Binary64) : Binary64 := ofQuotient (x.units * y.units) (1 <<< (2 * unitPlaces))

end Binary64

example : Binary64.ofQuotient 1 10 = ⟨7205759403792794 <<< 1018⟩ := by decide +kernel

example : ((Binary64.ofNat? 9999999999999999).map Binary64.floor) = some 10000000000000000 := by
  decide +kernel

example : Binary64.ofNat? (Nat.pow 10 309) = none := by decide +kernel

end Wab
