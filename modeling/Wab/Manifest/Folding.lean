import Wab.Text.Utf8

/-!
# Folding lines

A line of a manifest takes at most 72 bytes, line end apart. A longer logical line is cut into
chunks: each later chunk begins with a space, no character is cut in two, and each chunk but the
last is as long as it can be. A logical line with a surrogate has no chunks, as a surrogate takes no
bytes.

* **`Folding.maxBytes`**: the room of a line.
* **`Folding.fold`**: the chunks of a logical line.
-/

namespace Wab.Folding

/-- The bytes that a line may take. -/
def maxBytes : Nat := 72

/-- The chunks of the rest of a line, the first of which goes on where `used` bytes are taken. -/
def foldAfter (used : Nat) : Text → Except Utf8.Flaw (List Text)
  | [] => .ok [[]]
  | c :: rest => do
    let size := (← Utf8.encode [c]).length
    if used + size ≤ maxBytes then return (← foldAfter (used + size) rest).modifyHead (c :: ·)
    else return [] :: (← foldAfter (1 + size) rest).modifyHead (' ' :: c :: ·)

/-- The chunks of a logical line. -/
def fold (line : Text) : Except Utf8.Flaw (List Text) := foldAfter 0 line

end Wab.Folding
