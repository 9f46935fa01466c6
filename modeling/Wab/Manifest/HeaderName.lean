import Wab.Text.LetterCase

/-!
# Header names

Which texts may name a header of a manifest, and the names of the headers this library knows. Names
are compared by their lower-case forms.

* **`HeaderName.isValid`**: a name that a header may be stored under.
* **`HeaderName.customizable`**: the headers that a deployer can set and whose presence makes an
  archive a bundle.
-/

namespace Wab.HeaderName

/-- A character that a header name may begin with. -/
def isInitial (c : CodePoint) : Bool := c.isAlphanum

/-- A character that may follow in a header name. -/
def isFollowing (c : CodePoint) : Bool := c.isAlphanum || c == '-' || c == '_'

/-- A letter or digit of ASCII and at most 69 further letters, digits, hyphens and underscores. -/
def isPlain : Text → Bool
  | [] => false
  | c :: rest => isInitial c && rest.all isFollowing && rest.length ≤ 69

/-- A plain name, or one that a single line feed follows: the line feed counts as the end of the
line the name stands on. -/
def isValid (name : Text) : Bool :=
  isPlain name || (name.getLast? == some (.scalar '\n') && isPlain name.dropLast)

/-- The two names are the same name. -/
def same (a b : Text) : Bool := Text.lower a == Text.lower b

/-! ## Known headers -/

/-- The version of the manifest format, which a main section begins with. -/
def manifestVersion : Text := "Manifest-Version"

/-- The name that identifies a bundle. -/
def bundleSymbolicName : Text := "Bundle-SymbolicName"

/-- The version of a bundle. -/
def bundleVersion : Text := "Bundle-Version"

/-- The version of the bundle format. -/
def bundleManifestVersion : Text := "Bundle-ManifestVersion"

/-- Where in the archive classes are looked for. -/
def bundleClassPath : Text := "Bundle-ClassPath"

/-- The packages a bundle needs. -/
def importPackage : Text := "Import-Package"

/-- The packages a bundle may ask for later. -/
def dynamicImportPackage : Text := "DynamicImport-Package"

/-- The path under which a web application is served. -/
def webContextPath : Text := "Web-ContextPath"

/-- The archives that a library refers to. -/
def classPath : Text := "Class-Path"

/-- The header that begins the section of an entry. -/
def entryName : Text := "Name"

/-- The headers that a deployer can set. -/
def customizable : List Text :=
  [bundleSymbolicName, bundleVersion, bundleManifestVersion, importPackage, webContextPath]

example : isValid "Web-ContextPath" = true := by decide +kernel

example : isValid "-x" = false ∧ isValid "x\n" = true := by decide +kernel

end Wab.HeaderName
