import Wab.Accident
import Wab.Files
import Wab.Manifest.Basic
import Wab.Uri.Host
import Wab.Zip.Directory

/-!
# What stands in the way of reading

An archive or an entry of one may be unreadable for many reasons, and each is reported together with
the name of what was to be read. A fault is another matter: it is reported as it is and ends the
run.

* **`Reason`**: why an archive is unreadable.
* **`Fault`**: what ends the run.
* **`Obstacle.ofZip`**: which of the two an error of the zip format is.
-/

namespace Wab

/-- Why an archive or an entry of one is unreadable. -/
inductive Reason where
  /-- The bytes are no zip archive or hold no readable entry. -/
  | zip (cause : Zip.Error)
  /-- The manifest is none. -/
  | manifest (cause : ManifestError)
  /-- The file at a path cannot be read. -/
  | file (cause : FileError) (path : Text)
  /-- An entry would begin before the file. -/
  | placeBeforeFile
  /-- The request for a page was answered with an error. -/
  | status (code : Nat) (phrase url : Text)
  /-- There is no such page. -/
  | noPage
  deriving DecidableEq, Repr

/-- The reason in words. -/
def Reason.message : Reason → String
  | zip cause => cause.message
  | manifest cause => cause.message
  | file cause path => cause.messageAt path
  | placeBeforeFile => "[Errno 22] Invalid argument"
  | status code phrase url =>
    let side := if code < 500 then "Client" else "Server"
    s!"{code} {side} Error: {Text.str phrase} for url: {Text.str url}"
  | noPage => "no such page"

/-- What ends the run. -/
inductive Fault where
  /-- A reference cannot be taken apart. -/
  | uri (cause : Uri.Error)
  /-- A path holds NUL. -/
  | nulInPath
  /-- A path or a manifest holds surrogates. -/
  | surrogates (flaw : Utf8.Flaw)
  /-- The name of an entry or a configuration file is not well-formed UTF-8. -/
  | illFormedText
  /-- An entry would begin before the bytes at hand. -/
  | placeBeforeStart (place : Int)
  /-- An entry would begin where no place is. -/
  | placeTooGreat (medium : Medium)
  /-- LZMA data are none. -/
  | lzma (flaw : Lzma.Flaw)
  /-- The output file cannot be opened. -/
  | output (cause : FileError) (path : Text)
  /-- There is no space for all of the output. -/
  | noSpace
  /-- A value is not what it is taken for. -/
  | accident (cause : Accident)
  deriving DecidableEq, Repr

/-- The fault in words. -/
def Fault.message : Fault → String
  | uri cause => cause.message
  | nulInPath => "embedded null byte"
  | surrogates flaw => flaw.message
  | illFormedText => ""
  | placeBeforeStart place => s!"negative seek value {Text.str (Text.ofInt place)}"
  | placeTooGreat .memory => "Python int too large to convert to C ssize_t"
  | placeTooGreat .disk => "cannot fit 'int' into an offset-sized integer"
  | lzma flaw => flaw.message
  | output cause path => cause.messageAt path
  | noSpace => "[Errno 28] No space left on device"
  | accident cause => cause.message

/-- What stands in the way of reading an archive. -/
inductive Obstacle where
  /-- A reason that is reported with the name of what was to be read. -/
  | reason (r : Reason)
  /-- A fault. -/
  | fault (f : Fault)
  deriving DecidableEq, Repr

/-- An error of the zip format as an obstacle. Four of them are faults: a name that is not the UTF-8
it is marked as, a place before the bytes at hand, one that does not exist, and LZMA data that are
none. -/
def Obstacle.ofZip (medium : Medium) : Zip.Error → Obstacle
  | .nameEncoding => .fault .illFormedText
  | .placeBeforeStart place =>
    match medium with
    | .memory => .fault (.placeBeforeStart place)
    | .disk => .reason .placeBeforeFile
  | .placeTooGreat => .fault (.placeTooGreat medium)
  | .lzma flaw => .fault (.lzma flaw)
  | cause => .reason (.zip cause)

/-- A path that cannot be opened as an obstacle. -/
def Obstacle.ofAccess (path : Text) : AccessError → Obstacle
  | .unencodable flaw => .fault (.surrogates flaw)
  | .nul => .fault .nulInPath
  | .refused cause => .reason (.file cause path)

end Wab
