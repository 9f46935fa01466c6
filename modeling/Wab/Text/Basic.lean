import Wab.Text.CodePoint

/-!
# Texts

Every text the library reads or writes is a list of code points, so that a reader is a recursion on
the list and a statement about it is an induction. Most texts consist of characters only; one that
holds a surrogate has no form in UTF-8 and cannot be written. `String` appears only where a text
leaves the library (messages, log lines). Splitting at a character and joining are `List.splitOn`
and `List.intercalate`.

* **`Text.cut? mark s`**: the parts of `s` before and after the first occurrence of `mark`.
* **`Text.parts mark s`**: the parts of `s` between the occurrences of `mark`.
* **`Text.startsWith`, `Text.endsWith`, `Text.includes`**: how one text lies in another.
* **`Text.hasRoom`**: the numbers that are not too long to be written.
* **`Text.precedes`**: the order of texts by the numbers of their code points.
* **`Text.str`**: a text as it is shown.
-/

namespace Wab

/-- A text is the list of its code points. -/
abbrev Text := List CodePoint

namespace Text

/-- The text of the characters of a string. -/
def of (s : String) : Text := s.toList.map .scalar

instance : Coe String Text := ⟨of⟩

/-- A code point as it is shown: a surrogate, which no output takes, by its number in hexadecimal
digits. -/
def shown : CodePoint → List Char
  | .scalar c => [c]
  | .surrogate n => '\\' :: 'u' :: Nat.toDigits 16 (0xD800 + n)

/-- The text as a `String`, for messages. -/
def str (s : Text) : String := String.ofList (s.flatMap shown)

/-- The decimal form of a natural number. -/
def ofNat (n : Nat) : Text := toString n

/-- The decimal form of an integer, with a minus sign in front of a negative one. -/
def ofInt : Int → Text
  | .ofNat n => ofNat n
  | .negSucc n => '-' :: ofNat (n + 1)

/-- The greatest number of decimal digits of a whole number in a text that is read or made. -/
def digitRoom : Nat := 4300

/-- There is room for the decimal digits of an integer. -/
def hasRoom (n : Int) : Bool := n.natAbs < Nat.pow 10 digitRoom

/-- `s` begins with `part`. -/
def startsWith (part s : Text) : Bool := part.isPrefixOf s

/-- `s` ends with `part`. -/
def endsWith (part s : Text) : Bool := part.isSuffixOf s

/-- The parts of a text before and after the first occurrence of `mark`, or nothing if it does not
occur. -/
def cut? (mark : Text) : Text → Option (Text × Text)
  | [] => if mark.isEmpty then some ([], []) else none
  | c :: rest =>
    if startsWith mark (c :: rest) then some ([], (c :: rest).drop mark.length)
    else (cut? mark rest).map fun (before, after) => (c :: before, after)

/-- The text without its first and its last `n` characters. -/
def inner (n : Nat) (s : Text) : Text := (s.drop n).take (s.length - 2 * n)

/-- `part` occurs somewhere in `s`. -/
def includes (part s : Text) : Bool := (cut? part s).isSome

/-- A text comes no later than another one, where the first code points in which they differ decide
by their numbers. -/
def precedes : Text → Text → Bool
  | [], _ => true
  | _ :: _, [] => false
  | a :: s, b :: t => a.toNat < b.toNat || (a == b && precedes s t)

/-! ## Readings -/

/-- Cutting loses nothing: the text is the part before, the mark and the part after. -/
theorem eq_of_cut? {mark s before after : Text} (h : cut? mark s = some (before, after)) :
    s = before ++ mark ++ after := by
  induction s generalizing before with
  | nil =>
    cases mark with
    | nil => simp_all [cut?]
    | cons m ms => simp [cut?] at h
  | cons c rest ih =>
    by_cases hp : startsWith mark (c :: rest) = true
    · obtain ⟨tail, htail⟩ := List.isPrefixOf_iff_prefix.1 hp
      simp only [cut?, hp, if_true, Option.some.injEq, Prod.mk.injEq] at h
      obtain ⟨rfl, rfl⟩ := h
      simp [← htail]
    · simp only [cut?, if_neg hp, Option.map_eq_some_iff, Prod.mk.injEq] at h
      obtain ⟨⟨b, a⟩, hcut, rfl, rfl⟩ := h
      simp [ih hcut]

/-- The parts of a text between the occurrences of a mark, from left to right. -/
def parts (mark s : Text) : List Text :=
  if _hm : mark = [] then [s]
  else
    match _h : cut? mark s with
    | some (before, after) => before :: parts mark after
    | none => [s]
termination_by s.length
decreasing_by
  have hlen := congrArg List.length (eq_of_cut? _h)
  have hpos := List.length_pos_iff.2 _hm
  simp only [List.length_append] at hlen
  omega

end Text

end Wab
