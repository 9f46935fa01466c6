import Wab.Text.Blank
import Wab.Toml.Failure

/-!
# Pieces of a line

The second pass cuts lines at marks that stand outside quotes. It takes a line for pieces between
quotes, of which every other one is inside; how many marks are inside before the first one outside
tells at which one the line is cut.

* **`Toml.pieces`**: the pieces of a line.
* **`Toml.cutPoint`**: the number of the mark at which a line is cut.
-/

namespace Wab.Toml

/-- Goes on with pieces between apostrophes until an apostrophe is not left open, where double
quotes inside of them are not counted. What is left are pieces between double quotes. -/
def closeApostrophes (pieces : List Text) : List Text → List Text × List Text
  | [] => (pieces, [])
  | part :: rest =>
    if pieces.length % 2 = 0 then
      let last := pieces.getLast?.getD [] ++ .scalar '"' :: part
      closeApostrophes (pieces.dropLast ++ last.splitOn (.scalar '\'')) rest
    else (pieces, part :: rest)

/-- The pieces of parts between double quotes, of which only the first one is cut at apostrophes. -/
def piecesOfParts : List Text → List Text
  | [] => []
  | first :: rest => first.splitOn (.scalar '\'') ++ rest

/-- The pieces of a line between its quotes, the first one outside of them. -/
def pieces (line : Text) : List Text :=
  match line.splitOn (.scalar '"') with
  | first :: second :: rest =>
    if .scalar '\'' ∈ first then
      let (closed, left) := closeApostrophes (first.splitOn (.scalar '\'')) (second :: rest)
      closed ++ piecesOfParts left
    else piecesOfParts (first :: second :: rest)
  | parts => piecesOfParts parts

/-- The number of marks inside quotes before the first one outside, if the first piece is inside or
not as given. -/
def marksInside (mark : Text) (inside : Bool) : List Text → Nat
  | [] => 0
  | piece :: rest =>
    if !inside && Text.includes mark piece then 0
    else (Text.parts mark piece).length - 1 + marksInside mark (!inside) rest

/-- The number of the mark at which a line is cut, from one. -/
def cutPoint (mark line : Text) : Nat := marksInside mark false (pieces line) + 1

/-- The text that the parts between marks are of. -/
def rejoin (mark : Text) (parts : List Text) : Text := List.intercalate mark parts

example : pieces "a.\"b.c\" = 'd'"
    = (["a.", "b.c", " = 'd'"] : List Text) := by
  decide +kernel

example : cutPoint ['='] "\"a=b\" = 1" = 2 := by decide +kernel

end Wab.Toml
