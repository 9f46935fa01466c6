import Wab.Manifest.Basic
import Wab.Manifest.Lines
import Wab.Text.Utf8

/-!
# Reading manifests

A text is read section by section. In a section a line that begins with a space continues the line
before it; each logical line then is a name, a colon with a space, and a value, or ends with the
colon. The first section is the main one unless the text begins with a blank line; each later
section begins with the header `Name`, and sections of one entry are merged.

* **`Manifest.unfold`**: the numbered logical lines of a section.
* **`Manifest.NamedLine.ofLine`**: a logical line as a header.
* **`Manifest.parse`**, **`Manifest.parseBytes`**: the manifest, or why there is none.
-/

namespace Wab.Manifest

/-- A logical line that is a header, with the number of the line it begins on. -/
structure NamedLine where
  /-- The number of its first line. -/
  line : Nat
  /-- The header's name. -/
  name : Text
  /-- The header's value. -/
  value : Text
  deriving DecidableEq, Repr

/-- Joins continuation lines to the logical line that is open and has the given number and
content. The next line has the number `line`. -/
def unfoldFrom (start : Nat) (content : Text) (line : Nat) : List Text → List (Nat × Text)
  | [] => [(start, content)]
  | (' ' :: more) :: rest => unfoldFrom start (content ++ more) (line + 1) rest
  | next :: rest => (start, content) :: unfoldFrom line next (line + 1) rest

/-- The numbered logical lines of a section. -/
def unfold (s : Lines.Section) : Except ManifestError (List (Nat × Text)) :=
  match s.first with
  | ' ' :: _ => .error (.continuationWithoutHeader s.start)
  | _ => .ok (unfoldFrom s.start s.first (s.start + 1) s.rest)

/-- The mark between a name and a value. -/
def separator : Text := ": "

/-- The name and the value of a logical line. -/
def splitHeader? (content : Text) : Option (Text × Text) :=
  match Text.cut? separator content with
  | some parts => some parts
  | none => if content.getLast? = some (.scalar ':') then some (content.dropLast, []) else none

/-- A logical line as a header. -/
def NamedLine.ofLine (line : Nat) (content : Text) : Except ManifestError NamedLine :=
  match splitHeader? content with
  | none => .error (.invalidHeader line content)
  | some ([], _) => .error (.emptyHeaderName line)
  | some (name, value) => .ok ⟨line, name, value⟩

/-- The headers of a section. -/
def readSection (s : Lines.Section) : Except ManifestError (List NamedLine) := do
  (← unfold s).mapM fun (line, content) => NamedLine.ofLine line content

/-- Stores headers in a section. -/
def store (a : Attributes) (headers : List NamedLine) : Except ManifestError Attributes :=
  headers.foldlM (fun a h => (a.insert h.name h.value).mapError .header) a

/-- Adds the main section. -/
def addMain (m : Manifest) (s : Lines.Section) : Except ManifestError Manifest := do
  return { m with main := ← store m.main (← readSection s) }

/-- Adds the section of an entry to what is known of the entry. -/
def addEntry (m : Manifest) (s : Lines.Section) : Except ManifestError Manifest := do
  match ← readSection s with
  -- A section has a header at least, see `ne_nil_of_readSection`, so this is not reached.
  | [] => return m
  | first :: rest =>
    if HeaderName.same first.name HeaderName.entryName then
      let known := (Dictionary.get? m.entries first.value).getD .empty
      return { m with entries := Dictionary.insert m.entries first.value (← store known rest) }
    else throw (.missingEntryName first.line)

/-- The manifest that a text is. -/
def parse (text : Text) : Except ManifestError Manifest :=
  let sections := Lines.sections 1 (Lines.split text)
  if Lines.startsWithBreak text then sections.foldlM addEntry {}
  else match sections with
    | [] => .ok {}
    | main :: entries => do entries.foldlM addEntry (← addMain {} main)

/-- The manifest that the bytes of a text are. -/
def parseBytes (bytes : Bytes) : Except ManifestError Manifest :=
  match Utf8.decode? bytes with
  | some text => parse text
  | none => .error .notUtf8

end Wab.Manifest
