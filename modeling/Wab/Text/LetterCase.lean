import Wab.Text.Basic
import Wab.Text.CaseTable

/-!
# Lower and upper case

The full case mappings of Unicode: one character may become several, and the lower case of a capital
sigma depends on its neighbours. Names that are compared without regard to case are compared by
their lower-case forms.

* **`Text.lower`**, **`Text.upper`**: the mapped text.
* **`Text.isFinalSigma before after`**: a sigma between these two texts ends a word.
-/

namespace Wab.Text

open CaseTable

/-- The number lies in one of the ranges. -/
def inRanges (ranges : List (Nat × Nat)) (n : Nat) : Bool :=
  ranges.any fun (first, last) => first ≤ n && n ≤ last

/-- The image of a character under the first run that holds it. -/
def imageIn? (runs : List Run) (n : Nat) : Option Char :=
  let holds := fun (first, last, step, _) => first ≤ n && n ≤ last && (n - first) % step == 0
  match runs.find? holds with
  | some (first, _, _, image) => some (Char.ofNat (image + (n - first)))
  | none => none

/-- The image of a character outside ASCII under a table of single images and one of expansions. -/
def mapped (runs : List Run) (expansions : List (Nat × List Nat)) (c : Char) : Text :=
  match expansions.lookup c.toNat with
  | some images => images.map fun n => Char.ofNat n
  | none => [(imageIn? runs c.toNat).getD c]

/-- The lower case of a code point that stands alone. A surrogate has no other case. -/
def lowerChar : CodePoint → Text
  | .scalar c => if c.toNat < 0x80 then [c.toLower] else mapped lowerRuns lowerExpansions c
  | .surrogate n => [.surrogate n]

/-- The upper case of a code point. -/
def upperChar : CodePoint → Text
  | .scalar c => if c.toNat < 0x80 then [c.toUpper] else mapped upperRuns upperExpansions c
  | .surrogate n => [.surrogate n]

/-- The first character of `s` that is not case-ignorable is cased. -/
def meetsCased (s : Text) : Bool :=
  match s.dropWhile fun c => inRanges caseIgnorable c.toNat with
  | [] => false
  | c :: _ => inRanges cased c.toNat

/-- A sigma ends a word if it follows a cased character and none follows it, case-ignorable ones
passed over. The text before it is given backwards. -/
def isFinalSigma (before after : Text) : Bool := meetsCased before && !meetsCased after

/-- The lower case of the rest of a text whose characters so far are given backwards. -/
def lowerAfter (before : Text) : Text → Text
  | [] => []
  | c :: rest =>
    (if c = 'Σ' then [.scalar (if isFinalSigma before rest then 'ς' else 'σ')] else lowerChar c)
      ++ lowerAfter (c :: before) rest

/-- The text in lower case. -/
def lower (s : Text) : Text := lowerAfter [] s

/-- The text in upper case. -/
def upper (s : Text) : Text := s.flatMap upperChar

/-! ## Readings -/

@[simp] theorem lower_nil : lower [] = [] := rfl

@[simp] theorem upper_nil : upper [] = [] := rfl

/-- In ASCII the mapping is the one of the letters. -/
theorem lowerChar_of_ascii {c : Char} (h : c.toNat < 0x80) : lowerChar c = [↑c.toLower] := by
  simp [lowerChar, h]

/-- Without a sigma each character is mapped by itself. -/
theorem lowerAfter_eq_flatMap {before s : Text} (h : .scalar 'Σ' ∉ s) :
    lowerAfter before s = s.flatMap lowerChar := by
  induction s generalizing before with
  | nil => rfl
  | cons c rest ih =>
    simp only [List.mem_cons, not_or] at h
    simp [lowerAfter, Ne.symm h.1, ih h.2]

end Wab.Text
