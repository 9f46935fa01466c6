import Wab.Manifest.Basic
import Wab.Manifest.Folding
import Wab.Manifest.Parser
import Wab.Text.Utf8

/-!
# Writing manifests

A header is written on one logical line, folded to the room of a line; an empty line ends each
section. The main section begins with `Manifest-Version` if it has that header. A manifest with a
surrogate in it cannot be written.

* **`Manifest.writeSection`**: the text of a section.
* **`Manifest.ordered`**: the main headers in the order in which they are written.
* **`Manifest.text`**, **`Manifest.bytes`**: the written manifest.
-/

namespace Wab.Manifest

/-- The end of a line. -/
def lineEnd : Text := ['\r', '\n']

/-- The logical line of a header. -/
def headerLine (h : Header) : Text := h.name ++ separator ++ h.value

/-- The text of a header. -/
def writeHeader (h : Header) : Except Utf8.Flaw Text := do
  return (← Folding.fold (headerLine h)).flatMap fun chunk => chunk ++ lineEnd

/-- The text of a section. -/
def writeSection (headers : List Header) : Except Utf8.Flaw Text := do
  return (← headers.mapM writeHeader).flatten ++ lineEnd

/-- The headers with `Manifest-Version`, in any letter case, in front. -/
def ordered (headers : List Header) : List Header :=
  let isVersion := fun h : Header => HeaderName.same h.name HeaderName.manifestVersion
  headers.filter isVersion ++ headers.filter fun h => !isVersion h

/-- The headers of all sections as they are written. -/
def written (m : Manifest) : List (List Header) :=
  ordered m.main.headers
    :: m.entries.map fun (name, a) => ⟨HeaderName.entryName, name⟩ :: a.headers

/-- The text of the manifest. -/
def text (m : Manifest) : Except Utf8.Flaw Text := do
  return (← m.written.mapM writeSection).flatten

/-- The bytes of the manifest. -/
def bytes (m : Manifest) : Except Utf8.Flaw Bytes := do Utf8.encode (← m.text)

end Wab.Manifest
