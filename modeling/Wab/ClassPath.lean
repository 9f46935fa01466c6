import Wab.Archive.Basic
import Wab.Manifest.HeaderName
import Wab.Text.Blank
import Wab.Uri.Resolve

/-!
# The class path of a bundle

The libraries of a web archive are the jars directly in its library folder and the jars that those
refer to. The entries are walked once; a reference counts whether its jar comes before or after it,
and references of jars that are only referred to are not followed. The libraries that the archive
has pass a filter of a package for streams (`nr.stream`), of which it is assumed that it does what
`List.filter` does: it tests each element once, in order, and keeps those that pass.

* **`ClassPath.isLibraryJar`**: the name is one of a jar directly in the library folder.
* **`ClassPath.resolve`**: the entry names that a class path of a jar refers to.
* **`ClassPath.scan`**: the jars and libraries of an archive.
* **`ClassPath.derive`**: the class path of the bundle.
-/

namespace Wab.ClassPath

/-- What the name of a jar ends with. -/
def jarEnding : Text := ".jar"

/-- The folder of libraries. -/
def libraryFolder : Text := "WEB-INF/lib/"

/-- The folder of classes, which every class path begins with. -/
def classFolder : Text := "WEB-INF/classes"

/-- The name is one of a jar. -/
def isJar (name : Text) : Bool := Text.endsWith jarEnding name

/-- The name is one of a jar directly in the library folder. -/
def isLibraryJar (name : Text) : Bool :=
  isJar name && Text.startsWith libraryFolder name
    && !(name.drop libraryFolder.length).contains '/'

/-- The entry names that a class path refers to, which stands in the manifest of the entry
`name`. -/
def resolve (name classPath : Text) : Except Uri.Error (List Text) :=
  (Text.words classPath).mapM (Uri.join name)

/-- The jars found in an archive. -/
structure Scan where
  /-- The names of all jars, in the order of the archive. -/
  jars : List Text := []
  /-- The names of libraries in the order in which they were found. -/
  libraries : List Text := []
  deriving DecidableEq, Repr

namespace Scan

/-- One more jar. -/
def addJar (s : Scan) (name : Text) : Scan := { s with jars := s.jars ++ [name] }

/-- One more library, unless it is known. -/
def addLibrary (s : Scan) (name : Text) : Scan :=
  if s.libraries.contains name then s else { s with libraries := s.libraries ++ [name] }

/-- The libraries that there are in the archive. -/
def present (s : Scan) : List Text := s.libraries.filter s.jars.contains

/-- The names of all jars in order, each once. -/
def sortedJars (s : Scan) : List Text := (s.jars.eraseDups).mergeSort Text.precedes

/-- The class path: the folder of classes and the libraries that there are. -/
def classPath (s : Scan) : Text := List.intercalate [','] (classFolder :: s.present)

/-- A one-line picture of what was found. -/
def picture (s : Scan) : Text :=
  "ClasspathScan(library_jars=" ++ Text.quoteList s.libraries ++ ")"

end Scan

/-- The entry names that a library refers to. A library whose manifest is unreadable refers to
nothing. -/
def references (e : Archive.Entry) : Traced Fault (List Text) := do
  match ← e.manifest.get.attempt with
  | .error (.unreadable name reason) =>
    .say .warning s!"Skipping Class-Path of {Text.str name}: {reason.message}"
    return []
  | .error (.fault cause) => .ofExcept (.error cause)
  | .ok manifest =>
    let classPath := (manifest.main.get? HeaderName.classPath).getD []
    if classPath.isEmpty then return []
    .say .debug s!"jar {Text.str e.name} has a Class-Path entry of {Text.str classPath}"
    -- All references are resolved before the first one is reported.
    let names ← .ofExcept ((resolve e.name classPath).mapError .uri)
    names.forM fun name =>
      .say .info s!"Resolved Class-Path {Text.str classPath} to entry name {Text.str name}"
    return names

/-- What is found in one more entry. -/
def visit (s : Scan) (e : Archive.Entry) : Traced Fault Scan := do
  if (← .ofExcept (e.isFolder.mapError .accident)) || !isJar e.name then return s
  if !isLibraryJar e.name then return s.addJar e.name
  return (← references e).foldl Scan.addLibrary ((s.addJar e.name).addLibrary e.name)

/-- The jars and libraries among entries. -/
def scan (entries : List Archive.Entry) : Traced Fault Scan := entries.foldlM visit {}

/-- The class path of what was found, with a report of the libraries that there are not. -/
def ofScan (s : Scan) : Traced Fault Text := do
  (s.libraries.filter fun name => !s.jars.contains name).forM fun name =>
    .say .info s!"Excluding {Text.str name}, as there is no jar by this name in the war"
  return s.classPath

/-- The class path of the bundle that an archive with the entries becomes. -/
def derive (entries : List Archive.Entry) : Traced Fault Text := do
  let classPath ← ofScan (← scan entries)
  .say .debug s!"cp = {Text.str classPath}"
  return classPath

/-! ## Readings -/

/-- A library that was added is a library, and no other one has become one. -/
@[simp] theorem Scan.mem_addLibrary {s : Scan} {name other : Text} :
    other ∈ (s.addLibrary name).libraries ↔ other ∈ s.libraries ∨ other = name := by
  unfold addLibrary
  split
  · rename_i hold
    have hname : name ∈ s.libraries := by simpa using hold
    constructor
    · exact Or.inl
    · rintro (h | rfl) <;> assumption
  · simp

/-- Adding libraries leaves the jars as they are. -/
@[simp] theorem Scan.jars_addLibrary (s : Scan) (name : Text) :
    (s.addLibrary name).jars = s.jars := by
  unfold addLibrary
  split <;> rfl

/-! ## Examples -/

example : isLibraryJar "WEB-INF/lib/a.jar" = true := by decide +kernel

example : isLibraryJar "WEB-INF/lib/x/a.jar" = false := by decide +kernel

end Wab.ClassPath
