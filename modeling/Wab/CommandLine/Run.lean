import Wab.Bundle.Processor
import Wab.CommandLine.Arguments
import Wab.Config.File

/-!
# Runs of the command line

A run reads the configuration, processes one archive and puts the manifest of the bundle out or
writes it to a file. The output is opened last: whatever goes wrong before leaves all files as they
are and puts nothing out. Once a file is open it is empty, and it stays cut short if there is no
space for the manifest. What is put out is taken by whoever reads it.

* **`Outcome`**: how a run ends and what it leaves.
* **`CommandLine.run`**: the run for some arguments.
-/

namespace Wab

/-- How a run ends. -/
inductive Ending where
  /-- With an exit code. -/
  | exit (code : Nat)
  /-- With a fault. -/
  | fault (cause : Fault)
  deriving DecidableEq, Repr

/-- How a run ends and what it leaves. -/
structure Outcome where
  /-- How it ends. -/
  ending : Ending
  /-- What it puts out. -/
  output : Bytes := []
  /-- What it reports. -/
  report : String := ""
  /-- The file tree afterwards. -/
  files : Files
  deriving DecidableEq, Repr

namespace CommandLine

/-- The name of the program. -/
def program : String := "webbundle"

/-- The description of the arguments. -/
def description : String :=
  s!"usage: {program} [options] locator\n\n"
    ++ "Compute the OSGi Web Application Bundle manifest of a web archive.\n\n"
    ++ "  locator            path or URL of the archive, with an optional query\n"
    ++ "  -Q, --query        override parameters, instead of the query of the locator\n"
    ++ "  -o, --output       file to write the manifest to\n"
    ++ "  --config-file      configuration file\n"
    ++ "  -O, --option       an option as section:name=value\n"
    ++ "  -v, --verbose      log every step\n"
    ++ "  -q, --quiet        log warnings only\n"

/-- The weight from which log lines are reported. -/
def level (i : Invocation) : Log.Level :=
  if i.quiet then .warning else if i.verbose then .debug else .info

/-- The reported log lines. -/
def written (level : Log.Level) (log : List Log.Entry) : String :=
  String.join ((Log.atLeast level log).map fun e => s!"{e.level.name}: {e.message}\n")

/-- The configuration file of a run: the given one, or else the default one if it is a file. -/
def configFile (files : Files) (i : Invocation) : Option Text :=
  if !i.configFile.isEmpty then some i.configFile
  else if files.isFile Config.defaultFile then some Config.defaultFile
  else none

/-- Why the options of the configuration cannot be taken from the arguments. -/
inductive SettingError where
  /-- Something is wrong with an argument. -/
  | usage (cause : UsageError)
  /-- The run ends. -/
  | fault (cause : Fault)
  deriving DecidableEq, Repr

/-- The name and the value of an option of the configuration. -/
def splitSetting : OptionValue → Except SettingError (Text × Value)
  | .dropped => .error (.fault (.accident .listCut))
  | .text setting =>
    match Text.cut? ['='] setting with
    | some (name, value) => .ok (name, .text value)
    | none => .error (.usage (.malformedSetting setting))

/-- The options of the configuration. -/
def overrides (i : Invocation) : Except SettingError (Dictionary Value) :=
  (i.settings.mapM splitSetting).map Dictionary.ofList

/-- The run that ends before anything is logged because of the arguments. -/
def refuse (files : Files) (e : UsageError) : Outcome :=
  { ending := .exit 2, report := s!"{program}: error: {e.message}\n", files := files }

/-- The run that ends with an error. -/
def fail (files : Files) (report message : String) : Outcome :=
  { ending := .exit 1, report := report ++ s!"fatal: {message}\n", files := files }

/-- Puts the manifest out, or writes it to a file. -/
def deliver (files : Files) (destination : Text) (report : String) (m : Manifest) : Outcome :=
  if destination.isEmpty then
    match m.bytes with
    | .ok bytes => { ending := .exit 0, output := bytes, report := report, files := files }
    | .error flaw => { ending := .fault (.surrogates flaw), report := report, files := files }
  else
    match files.create destination with
    | .ok (place, opened) =>
      match m.bytes with
      | .ok bytes =>
        { ending := if opened.hasSpace bytes then .exit 0 else .fault .noSpace
          report := report
          files := opened.fill place bytes }
      -- The manifest is written when it is made already, so this is not reached.
      | .error flaw => { ending := .fault (.surrogates flaw), report := report, files := opened }
    | .error (.unencodable flaw) =>
      { ending := .fault (.surrogates flaw), report := report, files := files }
    | .error .nul => { ending := .fault .nulInPath, report := report, files := files }
    | .error (.refused cause) =>
      { ending := .fault (.output cause destination), report := report, files := files }

/-- Opens the archive and meets a dropped query, which cannot be decoded. -/
def stumble (w : World) (locator : Text) : Traced BundleError Manifest := do
  let _ ← (Processor.openAt w (Locator.split locator).1).mapError BundleError.ofArchive
  .say .debug "encodedQuery = []"
  .ofExcept (.error (.fault (.accident .listCompared)))

/-- The manifest of the bundle, computed with a configuration. -/
def compute (w : World) (i : Invocation) (c : Config) : Traced BundleError Manifest :=
  let locator := i.locator.getD []
  let processed := fun query => (Processor.processAt { config := c } w locator query).1
  match i.query with
  | none => processed none
  | some (.text query) => processed (some query)
  | some .dropped => stumble w locator

/-- The run with a configuration. -/
def runWith (w : World) (i : Invocation) (c : Config) : Outcome :=
  let made := compute w i c
  let report := written (level i) made.log
  match made.result with
  | .ok m => deliver w.files i.output report m
  | .error (.fault cause) => { ending := .fault cause, report := report, files := w.files }
  | .error e => fail w.files report e.message

/-- The run for an invocation. -/
def execute (read : Config.TableReader) (w : World) (i : Invocation) : Outcome :=
  match overrides i with
  | .error (.usage e) => refuse w.files e
  | .error (.fault cause) => { ending := .fault cause, files := w.files }
  | .ok given =>
    match Config.load read w.files (configFile w.files i) given with
    | .ok c => runWith w i c
    | .error (.fault cause) => { ending := .fault cause, files := w.files }
    | .error e => fail w.files "" e.message

/-- The run for some arguments. -/
def run (read : Config.TableReader) (w : World) (arguments : List Text) : Outcome :=
  match parse arguments with
  | .ok i => execute read w i
  | .error .help =>
    { ending := .exit 0, output := Utf8.bytes description.toList, files := w.files }
  | .error (.usage e) => refuse w.files e

end CommandLine

end Wab
