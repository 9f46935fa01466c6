import Wab.Accident
import Wab.Text.Quoted

/-!
# Generated names

The symbolic names of bundles that nobody has named: a stem with a number behind it that grows by
one with each name. A number that is too long to be written gives no name.

* **`NameGenerator.name`**: the name that comes next.
* **`NameGenerator.advance`**: the generator after that name.
* **`NameGenerator.take`**: several names in a row.
-/

namespace Wab

/-- What every generated name begins with unless configured otherwise. -/
def defaultNameStem : Text := "org.glassfish.fighterfish.autogenerated_"

/-- A source of names. -/
structure NameGenerator where
  /-- What every name begins with. -/
  stem : Text := defaultNameStem
  /-- The number of the next name. -/
  counter : Int := 0
  deriving DecidableEq, Repr

namespace NameGenerator

/-- The name that comes next. -/
def name (g : NameGenerator) : Except Accident Text :=
  if Text.hasRoom g.counter then .ok (g.stem ++ Text.ofInt g.counter) else .error .numberTooLong

/-- The generator after its next name. -/
def advance (g : NameGenerator) : NameGenerator := { g with counter := g.counter + 1 }

/-- The next `n` names. -/
def take (g : NameGenerator) : Nat → Except Accident (List Text)
  | 0 => .ok []
  | n + 1 => do return (← g.name) :: (← take g.advance n)

/-- A one-line picture of the generator. -/
def picture (g : NameGenerator) : Text :=
  "SymbolicNameGenerator(prefix=" ++ Text.quote g.stem ++ ")"

/-! ## Readings -/

theorem name_eq_ok_iff {g : NameGenerator} {s : Text} :
    g.name = .ok s ↔ Text.hasRoom g.counter = true ∧ s = g.stem ++ Text.ofInt g.counter := by
  by_cases h : Text.hasRoom g.counter = true <;> simp [name, h, eq_comm]

example : (take { stem := ['p'], counter := -1 } 3).toOption
    = some (["p-1", "p0", "p1"] : List Text) := by
  decide +kernel

example : (take { stem := ['p'], counter := Nat.pow 10 4300 - 1 } 2).toOption = none := by
  decide +kernel

end NameGenerator

end Wab
