import Wab.Archive.Obstacle
import Wab.Log
import Wab.Manifest.Parser
import Wab.Text.LetterCase
import Wab.Zip.Content

/-!
# Archives

An archive is opened from its bytes: its own manifest is read at once, its entries when they are
asked for. An entry can be read as an archive in turn, of which only the manifest counts.

* **`Archive`**: an open archive.
* **`Archive.Entry`**: an entry, with the manifest that it has as an archive.
* **`Archive.ofBytes`**: opens an archive.
* **`Archive.entries`**: the entries in the order of the directory.
-/

namespace Wab

/-- The name of the entry that holds the manifest, in upper case. -/
def manifestName : Text := "META-INF/MANIFEST.MF"

/-- Why an archive cannot be opened. -/
inductive ArchiveError where
  /-- What is at the location cannot be read as an archive. -/
  | unreadable (locator : Text) (reason : Reason)
  /-- The run ends. -/
  | fault (cause : Fault)
  deriving DecidableEq, Repr

/-- The error in words. -/
def ArchiveError.message : ArchiveError → String
  | unreadable locator reason => s!"could not read archive {Text.quoted locator}: {reason.message}"
  | fault cause => cause.message

/-- An obstacle to opening an archive as an error. -/
def ArchiveError.ofObstacle (locator : Text) : Obstacle → ArchiveError
  | .reason reason => unreadable locator reason
  | .fault cause => fault cause

/-- Why an entry has no manifest as an archive. -/
inductive EntryError where
  /-- The entry cannot be read as an archive. -/
  | unreadable (name : Text) (reason : Reason)
  /-- The run ends. -/
  | fault (cause : Fault)
  deriving DecidableEq, Repr

/-- The error in words. -/
def EntryError.message : EntryError → String
  | unreadable name reason => s!"could not read nested archive {Text.quoted name}: {reason.message}"
  | fault cause => cause.message

/-- An obstacle to reading an entry as an error. -/
def EntryError.ofObstacle (name : Text) : Obstacle → EntryError
  | .reason reason => unreadable name reason
  | .fault cause => fault cause

/-- An open archive. -/
structure Archive where
  /-- The locator it was opened with. -/
  locator : Text
  /-- Its bytes and directory. -/
  zip : Zip.Archive
  /-- Where its bytes are. -/
  medium : Medium
  /-- Its own manifest. -/
  manifest : Manifest
  deriving DecidableEq, Repr

namespace Archive

/-- The content of an entry. -/
def readMember (zip : Zip.Archive) (medium : Medium) (m : Zip.Member) : Except Obstacle Bytes :=
  (zip.read m).mapError (.ofZip medium)

/-- The manifest of a zip archive, empty if there is none. Of several entries with its name, in any
letter case, the first one counts. -/
def readManifest (zip : Zip.Archive) (medium : Medium) (label : Text) : Traced Obstacle Manifest :=
  match zip.members.find? fun m => Text.upper m.entry.name == manifestName with
  | some m => .ofExcept do
    (Manifest.parseBytes (← readMember zip medium m)).mapError fun e => .reason (.manifest e)
  | none => do
    .say .debug s!"{Text.str label}: no {Text.str manifestName}"
    return {}

/-- The archive that the bytes are, opened with a locator. -/
def ofBytes (locator : Text) (medium : Medium) (bytes : Bytes) : Traced ArchiveError Archive :=
  Traced.mapError (.ofObstacle locator) do
    let zip ← .ofExcept ((Zip.Archive.ofBytes medium bytes).mapError (.ofZip medium))
    return ⟨locator, zip, medium, ← readManifest zip medium locator⟩

/-- An entry of an archive. What it holds is read when it is asked for. -/
structure Entry where
  /-- The name. -/
  name : Text
  /-- The entry is a folder, if it has a name. -/
  isFolder : Except Accident Bool
  /-- The content. -/
  content : Thunk (Except Obstacle Bytes)
  /-- The manifest that the entry has as an archive. -/
  manifest : Thunk (Traced EntryError Manifest)

/-- The manifest of an entry that is an archive. -/
def readNested (zip : Zip.Archive) (medium : Medium) (m : Zip.Member) :
    Traced EntryError Manifest :=
  Traced.mapError (.ofObstacle m.entry.name) do
    let bytes ← .ofExcept (readMember zip medium m)
    let nested ← .ofExcept ((Zip.Archive.ofBytes .memory bytes).mapError (.ofZip .memory))
    readManifest nested .memory m.entry.name

/-- The entries in the order of the directory. -/
def entries (a : Archive) : List Entry :=
  a.zip.members.map fun m =>
    { name := m.entry.name
      isFolder := m.entry.isFolder
      content := Thunk.mk fun _ => readMember a.zip a.medium m
      manifest := Thunk.mk fun _ => readNested a.zip a.medium m }

/-- A one-line picture of the archive. -/
def picture (a : Archive) : Text := "WebArchive(" ++ Text.quote a.locator ++ ")"

/-- A one-line picture of an entry. -/
def Entry.picture (e : Entry) : Text := "ArchiveEntry(" ++ Text.quote e.name ++ ")"

end Archive

end Wab
