import Wab.Config
import Wab.Manifest.Lines
import Wab.Toml.Document

/-!
# Configuration files

A configuration file holds tables in some notation, which its reader understands: `Toml.parse` for
the run of the program. Options that are given besides take the place of those of the file.

* **`Config.TableReader`**: how a text becomes tables.
* **`Config.readTables`**: the tables of a file.
* **`Config.load`**: the configuration of a file, if one is named, and further options.
-/

namespace Wab.Config

/-- The name of the file that is read if no other one is given. -/
def defaultFile : Text := "webbundle.toml"

/-- How a text becomes tables. -/
abbrev TableReader := Text → Except Toml.Failure (Dictionary Value)

/-- The text with a line feed at the end of each line. -/
def withLineFeeds (s : Text) : Text := List.intercalate ['\n'] (Lines.split s)

variable (read : TableReader)

/-- The tables that a file consists of. -/
def parseTables (file : Text) (bytes : Bytes) : Except ConfigError (Dictionary Value) :=
  match Utf8.decode? bytes with
  | none => .error (.fault .illFormedText)
  | some text =>
    match read (withLineFeeds text) with
    | .error .malformed => .error (.malformed file)
    | .error (.accident cause) => .error (.fault (.accident cause))
    | .ok tables => .ok tables

/-- The tables of a file. An empty name is no file, and no file has no tables. -/
def readTables (files : Files) : Option Text → Except ConfigError (Dictionary Value)
  | none | some [] => .ok []
  | some file =>
    match files.read file with
    | .error (.unencodable flaw) => .error (.fault (.surrogates flaw))
    | .error .nul => .error (.fault .nulInPath)
    | .error (.refused cause) => .error (.unreadableFile file cause)
    | .ok bytes => parseTables read file bytes

/-- The configuration of a file, if one is named, and options that take the place of its own. -/
def load (files : Files) (file : Option Text) (overrides : Dictionary Value) :
    Except ConfigError Config := do
  ofTables (← readTables read files file) overrides

end Wab.Config
