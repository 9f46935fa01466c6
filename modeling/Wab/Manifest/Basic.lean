import Wab.Manifest.Attributes

/-!
# Manifests

A manifest holds the headers of an archive as a whole and, for some of its entries, headers of the
entry.

* **`Manifest`**: the main section and the entry sections, by entry name.
* **`Manifest.same`**: equal main sections, and equal sections for the same entries in any order.
* **`ManifestError`**: what makes a text no manifest.
-/

namespace Wab

/-- The headers of an archive and of its entries. -/
structure Manifest where
  /-- The headers of the archive. -/
  main : Attributes := .empty
  /-- The headers of entries, in the order in which their names first came. -/
  entries : Dictionary Attributes := []
  deriving DecidableEq, Repr

/-- What makes a text no manifest. Line numbers count from one. -/
inductive ManifestError where
  /-- The bytes are not a text. -/
  | notUtf8
  /-- A section begins with a continuation line. -/
  | continuationWithoutHeader (line : Nat)
  /-- A logical line is no header. -/
  | invalidHeader (line : Nat) (content : Text)
  /-- A header has no name. -/
  | emptyHeaderName (line : Nat)
  /-- A section after the main one does not say which entry it is about. -/
  | missingEntryName (line : Nat)
  /-- A header cannot be stored. -/
  | header (cause : AttributeError)
  deriving DecidableEq, Repr

/-- The error in words. -/
def ManifestError.message : ManifestError → String
  | notUtf8 => "manifest is not valid UTF-8"
  | continuationWithoutHeader line => s!"line {line}: continuation line without header"
  | invalidHeader line content => s!"line {line}: invalid header {Text.quoted content}"
  | emptyHeaderName line => s!"line {line}: empty header name"
  | missingEntryName line => s!"line {line}: entry section does not start with a Name header"
  | header cause => cause.message

namespace Manifest

/-- The manifests have equal main sections and, whatever the order of the entries, equal sections
for the same entries. -/
def same (a b : Manifest) : Bool :=
  a.main.sameHeaders b.main && Dictionary.sameBy Attributes.sameHeaders a.entries b.entries

/-- A one-line picture of the manifest. -/
def picture (m : Manifest) : Text :=
  "Manifest(main=" ++ m.main.picture ++ ", entries="
    ++ Text.quoteMap (m.entries.map fun (name, a) => (name, a.picture)) ++ ")"

end Manifest

end Wab
