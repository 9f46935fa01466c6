import Wab.Bundle.Headers
import Wab.Bundle.Signature
import Wab.ClassPath
import Wab.Config
import Wab.Locator
import Wab.Manifest.Writer

/-!
# From archives to bundles

A processor turns the manifest of a web archive into the manifest of a bundle. An archive that is a
bundle already only has its context path changed. For a plain archive the work has two stages: the
checks and the headers that come before the generated name, and the rest. A number is drawn if and
only if the first stage of a plain archive succeeds, whether or not the name is used. A manifest
that cannot be written because of a surrogate is refused in the end.

* **`Processor`**: a configuration and a source of names.
* **`Processor.prepare`**, **`Processor.finish`**: the two stages.
* **`Processor.process`**: the manifest for an open archive, and the processor afterwards.
* **`Processor.processAt`**: the same for a locator.
-/

namespace Wab

/-- What turns archives into bundles. -/
structure Processor where
  /-- What is configured. -/
  config : Config := {}
  /-- The names for bundles that nobody has named. -/
  names : NameGenerator := { stem := config.nameStem }
  deriving DecidableEq, Repr

namespace Processor

/-- Where the work on a manifest is after the first stage. -/
inductive Stage where
  /-- It is done. -/
  | done (manifest : Manifest)
  /-- The name and what comes after it are missing. -/
  | unnamed (params : Params) (manifest : Manifest)
  deriving DecidableEq, Repr

/-- A number is drawn for the second stage. -/
def Stage.draws : Stage → Bool
  | done _ => false
  | unnamed _ _ => true

/-- All packages. -/
def anyPackage : Text := ['*']

/-- The manifest of a bundle with its context path changed. Only this may be given. -/
def customize (params : Params) (m : Manifest) : Except BundleError Manifest :=
  if params.names ≠ [HeaderName.webContextPath] then .error (.notCustomizable params.names)
  else return { m with main := ← Bundle.setContextPath params m.main }

/-- The manifest of a plain archive with the headers that come before the name. -/
def begin (c : Config) (params : Params) (m : Manifest) : Except BundleError Manifest := do
  let main ← Bundle.setContextPath params m.main
  let main ← (Bundle.settle HeaderName.bundleManifestVersion (some c.manifestVersion) params
    main).mapError .header
  return { m with main := main }

/-- The first stage: the parameters are read and checked. -/
def prepare (c : Config) (a : Archive) (query : Option Text) : Traced BundleError Stage := do
  let params ← Params.ofRawQuery query
  .ofExcept (Bundle.checkValues params)
  let kind := Bundle.classify a.manifest.main
  .say .debug s!"{Text.str a.locator} is a {kind.name} archive"
  match kind with
  | .wab => return .done (← .ofExcept (customize params a.manifest))
  | .plain => return .unnamed params (← .ofExcept (begin c params a.manifest))

/-- The second stage of a plain archive: the headers from the name on. -/
def complete (c : Config) (name : Text) (entries : List Archive.Entry) (params : Params)
    (main : Attributes) : Traced BundleError Attributes := do
  let settle := fun key default main =>
    Traced.ofExcept ((Bundle.settle key default params main).mapError BundleError.header)
  let main ← settle HeaderName.bundleSymbolicName (some name) main
  let main ← settle HeaderName.bundleVersion none main
  -- The class path is derived, with its reports, whether or not the deployer gives one.
  let classPath ← (ClassPath.derive entries).mapError .fault
  let main ← settle HeaderName.bundleClassPath (some classPath) main
  let main ← settle HeaderName.importPackage (some c.importPackage) main
  let main ← (Bundle.passThrough params main).mapError fun e => .header e.cause
  .ofExcept ((main.insert HeaderName.dynamicImportPackage anyPackage).mapError .header)

/-- The second stage. Only a plain archive is given a name. -/
def finish (c : Config) (names : NameGenerator) (entries : List Archive.Entry) :
    Stage → Traced BundleError Manifest
  | .done m => return m
  | .unnamed params m => do
    let name ← .ofExcept (names.name.mapError fun cause => .fault (.accident cause))
    return Signature.strip { m with main := ← complete c name entries params m.main }

/-- The manifest for an open archive, with a report, for which it is written. -/
def manifestFor (p : Processor) (a : Archive) (query : Option Text) : Traced BundleError Manifest :=
  do
    let stage ← prepare p.config a query
    let m ← finish p.config p.names a.entries stage
    let bytes ← .ofExcept (m.bytes.mapError fun flaw => .fault (.surrogates flaw))
    .say .debug s!"New manifest of the bundle:\n{Text.str (Utf8.decodeLossy bytes)}"
    return m

/-- A number is drawn for an archive: the first stage succeeds and leaves the name open. -/
def draws (p : Processor) (a : Archive) (query : Option Text) : Bool :=
  match (prepare p.config a query).result with
  | .ok stage => stage.draws
  | .error _ => false

/-- The processor after one more number. -/
def advance (p : Processor) : Processor := { p with names := p.names.advance }

/-- The manifest for an open archive, and the processor afterwards. -/
def process (p : Processor) (a : Archive) (query : Option Text) :
    Traced BundleError Manifest × Processor :=
  (p.manifestFor a query, if p.draws a query then p.advance else p)

/-- Opens the archive at a location. -/
def openAt (w : World) (location : Text) : Traced ArchiveError Archive := do
  let (bytes, medium) ← (Locator.fetch w location).mapError (.ofObstacle location)
  Archive.ofBytes location medium bytes

/-- The manifest for the archive at a locator, and the processor afterwards. The query of the
locator counts if no other one is given. -/
def processAt (p : Processor) (w : World) (locator : Text) (query : Option Text) :
    Traced BundleError Manifest × Processor :=
  let (location, own) := Locator.split locator
  let opened := (openAt w location).mapError BundleError.ofArchive
  match opened.result with
  | .error e => (⟨opened.log, .error e⟩, p)
  | .ok a =>
    let (made, after) := p.process a (query <|> own)
    (⟨opened.log ++ made.log, made.result⟩, after)

/-! ## Readings -/

@[simp] theorem config_process (p : Processor) (a : Archive) (query : Option Text) :
    (p.process a query).2.config = p.config := by
  simp only [process]
  split <;> rfl

/-- The stem of generated names stays the same. -/
@[simp] theorem stem_process (p : Processor) (a : Archive) (query : Option Text) :
    (p.process a query).2.names.stem = p.names.stem := by
  simp only [process]
  split <;> rfl

/-- A call draws one number or none. -/
theorem counter_process (p : Processor) (a : Archive) (query : Option Text) :
    (p.process a query).2.names.counter
      = p.names.counter + if p.draws a query then 1 else 0 := by
  simp only [process]
  split <;> simp [advance, NameGenerator.advance]

end Processor

end Wab
