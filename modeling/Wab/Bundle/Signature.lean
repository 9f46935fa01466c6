import Wab.Manifest.Basic

/-!
# Signatures

The manifest of a signed archive holds digests of the entries. They are of no use once the manifest
has been changed and are left out.

* **`Signature.isHeader`**: the header belongs to a signature.
* **`Signature.strip`**: the manifest without signatures of its entries.
-/

namespace Wab.Signature

/-- The header belongs to a signature: it is named `Magic` or for a digest. -/
def isHeader (name : Text) : Bool :=
  Text.endsWith "-Digest" name || Text.includes "-Digest-" name
    || name == "Magic"

/-- The manifest without the headers of entries that belong to a signature. -/
def strip (m : Manifest) : Manifest :=
  { m with entries := m.entries.map fun (name, a) => (name, a.filterNames fun n => !isHeader n) }

/-- The main section stays as it is. -/
@[simp] theorem main_strip (m : Manifest) : (strip m).main = m.main := rfl

example : isHeader "SHA-256-Digest-Manifest" = true := by decide +kernel

example : isHeader "Digest" = false := by decide +kernel

end Wab.Signature
