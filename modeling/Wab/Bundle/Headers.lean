import Wab.Archive.Obstacle
import Wab.Archive.Basic
import Wab.Manifest.Attributes
import Wab.Query.Params

/-!
# The headers of a bundle

How the parameters of a deployer, the headers of the developer and the defaults come together. A
value of the deployer wins over one of the developer, which wins over a default.

* **`BundleError`**: why an archive is not turned into a bundle.
* **`Bundle.classify`**: whether the archive is a bundle already.
* **`Bundle.settle`**: one header that all three may determine.
* **`Bundle.setContextPath`**: the path of the application, which only the deployer determines.
* **`Bundle.passThrough`**: all other parameters, written as they are.
-/

namespace Wab

/-- Why an archive is not turned into a bundle. -/
inductive BundleError where
  /-- A parameter has a line break or NUL in its value. -/
  | brokenParameter (name : Text)
  /-- The archive is a bundle already, and other parameters than the context path are given. -/
  | notCustomizable (given : List Text)
  /-- The context path is not given. -/
  | missingContextPath
  /-- A header cannot be stored. -/
  | header (cause : AttributeError)
  /-- The archive is unreadable. -/
  | unreadable (locator : Text) (reason : Reason)
  /-- The run ends. -/
  | fault (cause : Fault)
  deriving DecidableEq, Repr

namespace BundleError

/-- The names of parameters as a message lists them. -/
def listNames (names : List Text) : String :=
  -- A single empty name is listed as nothing, and so reads like no name.
  let listed : Text := List.intercalate ", " (names.mergeSort Text.precedes)
  if listed.isEmpty then "no parameters" else Text.str listed

/-- The error in words. -/
def message : BundleError → String
  | brokenParameter name =>
    s!"parameter {Text.quoted name} has a line break or NUL in its value"
  | notCustomizable given =>
    s!"Only {Text.str HeaderName.webContextPath} can be customized for an archive that is already "
      ++ s!"a bundle, got {listNames given}"
  | missingContextPath => s!"missing required parameter: {Text.str HeaderName.webContextPath}"
  | header cause => cause.message
  | unreadable locator reason => (ArchiveError.unreadable locator reason).message
  | fault cause => cause.message

/-- An archive that cannot be opened as an error. -/
def ofArchive : ArchiveError → BundleError
  | .unreadable locator reason => unreadable locator reason
  | .fault cause => fault cause

end BundleError

namespace Bundle

/-- What an archive is before it is processed. -/
inductive Kind where
  /-- A bundle already. -/
  | wab
  /-- A plain web archive. -/
  | plain
  deriving DecidableEq, Repr

/-- The kind in words. -/
def Kind.name : Kind → String
  | wab => "wab"
  | plain => "plain"

/-- An archive is a bundle if its manifest has one of the headers that a deployer can set. -/
def classify (a : Attributes) : Kind :=
  if HeaderName.customizable.any a.contains then .wab else .plain

/-- The value that a header is to have. -/
def chosen? (key : Text) (default : Option Text) (params : Params) (a : Attributes) : Option Text :=
  params.value? key <|> a.get? key <|> default

/-- Settles a header: the value of the deployer, or else the one it has, or else the default. -/
def settle (key : Text) (default : Option Text) (params : Params) (a : Attributes) :
    Except AttributeError Attributes :=
  match chosen? key default params a with
  | none => .ok a
  | some value => if a.get? key = some value then .ok a else a.insert key value

/-- The path of the application, which begins with a slash. -/
def rooted (path : Text) : Text := if Text.startsWith ['/'] path then path else '/' :: path

/-- Sets the path of the application as the deployer gives it. -/
def setContextPath (params : Params) (a : Attributes) : Except BundleError Attributes :=
  match params.value? HeaderName.webContextPath with
  | none => .error .missingContextPath
  | some path => (a.insert HeaderName.webContextPath (rooted path)).mapError .header

/-- No parameter has a line break or NUL in its value: each is written on one logical line. -/
def checkValues (params : Params) : Except BundleError Unit :=
  match params.find? fun (_, value) => (value.getD []).any Attributes.isBreaking with
  | some (name, _) => .error (.brokenParameter name)
  | none => .ok ()

/-- The headers up to one that cannot be stored, and why it cannot. -/
structure Interrupted where
  /-- The headers so far. -/
  reached : Attributes
  /-- Why the next one cannot be stored. -/
  cause : AttributeError
  deriving DecidableEq, Repr

/-- Writes a parameter as a header. Headers that are settled, parameters without a value and names
that no header can have are left out. -/
def passOne (a : Attributes) (name : Text) (value : Option Text) : Traced Interrupted Attributes :=
  match value with
  | none => return a
  | some value => do
    if HeaderName.customizable.contains name then return a
    if !HeaderName.isValid name then
      .say .warning s!"Ignoring parameter {Text.quoted name}, it is not a valid header name"
      return a
    .say .debug s!"Applying parameter {Text.str name}={Text.str value}"
    .ofExcept ((a.insert name value).mapError (Interrupted.mk a))

/-- Writes the parameters that no rule is about as headers. -/
def passThrough (params : Params) (a : Attributes) : Traced Interrupted Attributes :=
  params.foldlM (fun a (name, value) => passOne a name value) a

end Bundle

end Wab
