import Wab.Accident
import Wab.Text.Basic

/-!
# Failures of reading TOML

A document may be malformed, which is reported with its name, or reading it may come to an accident,
which ends the run.

* **`Toml.Failure`**: why a text gives no document.
-/

namespace Wab.Toml

/-- Why a text gives no document. -/
inductive Failure where
  /-- The text is malformed. -/
  | malformed
  /-- A value is not what it is taken for. -/
  | accident (cause : Accident)
  deriving DecidableEq, Repr

/-- The value, or else an accident. -/
def orAccident {α : Type} (result : Except Accident α) : Except Failure α :=
  result.mapError .accident

/-- The value, or else the text is malformed. -/
def orMalformed {α : Type} : Option α → Except Failure α
  | some a => .ok a
  | none => .error .malformed

@[simp] theorem orAccident_ok {α : Type} (a : α) : orAccident (.ok a) = .ok a := rfl

@[simp] theorem orAccident_error {α : Type} (cause : Accident) :
    orAccident (.error cause : Except Accident α) = .error (.accident cause) := rfl

@[simp] theorem orMalformed_some {α : Type} (a : α) : orMalformed (some a) = .ok a := rfl

@[simp] theorem orMalformed_none {α : Type} : orMalformed (none : Option α) = .error .malformed :=
  rfl

/-- The character is a quote. -/
def isQuote (c : CodePoint) : Bool := c == '\'' || c == '"'

/-- An odd number of backslashes stands in front of a place, so that what follows is escaped. The
text in front is given backwards. -/
def isEscapedBy (before : Text) : Bool := (before.takeWhile (· == .scalar '\\')).length % 2 == 1

/-- The text ends with an odd number of backslashes. -/
def endsEscaping (s : Text) : Bool := isEscapedBy s.reverse

example : endsEscaping "a\\" = true ∧ endsEscaping "a\\\\" = false := by
  decide +kernel

end Wab.Toml
