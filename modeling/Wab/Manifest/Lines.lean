import Wab.Text.Basic

/-!
# Lines and sections

A line ends at a carriage return with the line feed that may follow it, or at a line feed alone.
Sections are the maximal runs of non-empty lines; each remembers the number of its first line.

* **`Lines.split`**: the lines of a text, the last of which has no line end.
* **`Lines.sections`**: the sections of numbered lines.
* **`Lines.startsWithBreak`**: the first line of a text is empty and has an end.
-/

namespace Wab.Lines

/-- The lines of a text without their ends. -/
def split : Text → List Text
  | [] => [[]]
  | '\r' :: '\n' :: rest => [] :: split rest
  | '\r' :: rest => [] :: split rest
  | '\n' :: rest => [] :: split rest
  | c :: rest => (split rest).modifyHead (c :: ·)

/-- The text begins with a line end. -/
def startsWithBreak : Text → Bool
  | '\r' :: _ => true
  | '\n' :: _ => true
  | _ => false

/-- Consecutive non-empty lines. -/
structure Section where
  /-- The number of the first line. -/
  start : Nat
  /-- The first line. -/
  first : Text
  /-- The lines after it. -/
  rest : List Text
  deriving DecidableEq, Repr

/-- The lines of a section. -/
def Section.lines (s : Section) : List Text := s.first :: s.rest

/-- The sections of lines whose first one has the number `line`. -/
def sections (line : Nat) : List Text → List Section
  | [] => []
  | [] :: rest => sections (line + 1) rest
  | (c :: cs) :: rest =>
    let body := rest.takeWhile fun l => !l.isEmpty
    ⟨line, c :: cs, body⟩ :: sections (line + 1 + body.length) (rest.drop body.length)
termination_by lines => lines.length
decreasing_by
  · simp
  · simp only [List.length_drop, List.length_cons]
    exact Nat.lt_succ_of_le (Nat.sub_le ..)

/-! ## Readings -/

@[simp] theorem split_nil : split [] = [[]] := rfl

/-- A text has at least one line. -/
theorem split_ne_nil (s : Text) : split s ≠ [] := by
  induction s using split.induct with
  | case1 => simp
  | case2 _ _ => simp [split]
  | case3 _ _ _ => simp [split]
  | case4 _ _ => simp [split]
  | case5 c rest _ _ _ ih => simp_all [split, List.modifyHead_eq_nil_iff]

example : split "a\r\n\rb\n" = (["a", [], "b", []] : List Text) := by
  decide +kernel

end Wab.Lines
