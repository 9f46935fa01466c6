import Wab.Archive.Obstacle
import Wab.Log
import Wab.Query.Encoding
import Wab.Uri.Reference
import Wab.World

/-!
# Locators

A locator says where an archive is and may add a query. The location is the address of a page or the
path of a file, which may be written as a reference with the scheme `file`.

* **`Locator.split`**: the location and the query of a locator.
* **`Locator.source`**: what a location stands for.
* **`Locator.fetch`**: the bytes of the archive at a location.
-/

namespace Wab.Locator

/-- The scheme of a locator that marks the archive as one to be turned into a bundle. -/
def bundleScheme : Text := "webbundle:"

/-- The locator without its scheme. -/
def withoutScheme (locator : Text) : Text :=
  if Text.startsWith bundleScheme (Text.lower locator) then locator.drop bundleScheme.length
  else locator

/-- The location and, if there is a question mark, the query after the first one. -/
def split (locator : Text) : Text × Option Text :=
  match Text.cut? ['?'] (withoutScheme locator) with
  | some (location, query) => (location, some query)
  | none => (withoutScheme locator, none)

/-- What a location stands for. -/
inductive Source where
  /-- The page of an address. -/
  | page (url : Text)
  /-- The file of a path. -/
  | file (path : Text)
  deriving DecidableEq, Repr

/-- The schemes of pages. -/
def pageSchemes : List Text := ["http", "https"]

/-- The scheme of files. -/
def fileScheme : Text := "file"

/-- What a location stands for. Whatever has no known scheme is a path. -/
def source (location : Text) : Except Uri.Error Source := do
  let uri ← Uri.split [] location
  if pageSchemes.contains uri.scheme then return .page location
  if uri.scheme = fileScheme then return .file (Query.unescape uri.path)
  return .file location

/-- The greatest number of bytes of a page that are kept at hand. -/
def memoryRoom : Nat := 16 * 1024 * 1024

/-- The content of a page. -/
def fetchPage (w : World) (url : Text) : Except Reason (Bytes × Medium) :=
  match Dictionary.get? w.pages url with
  | none => .error .noPage
  | some page =>
    if 400 ≤ page.status ∧ page.status < 600 then .error (.status page.status page.phrase url)
    else .ok (page.content, if page.content.length ≤ memoryRoom then .memory else .disk)

/-- The content of a file. -/
def fetchFile (w : World) (path : Text) : Except Obstacle (Bytes × Medium) := do
  return (← (w.readFile path).mapError (.ofAccess (w.expand path)), .disk)

/-- The bytes at a location. -/
def fetch (w : World) (location : Text) : Traced Obstacle (Bytes × Medium) := do
  match ← .ofExcept ((source location).mapError fun e => .fault (.uri e)) with
  | .page url =>
    .say .debug s!"Fetching archive from {Text.str url}"
    .ofExcept ((fetchPage w url).mapError .reason)
  | .file path => .ofExcept (fetchFile w path)

/-! ## Examples -/

example : split "webbundle:a.war?b?c" = (↑"a.war", some ↑"b?c") := by
  decide +kernel

example : (source "file:a%20b.war").toOption = some (.file "a b.war") := by
  decide +kernel

end Wab.Locator
