import Wab.Zip.Crc32
import Wab.Zip.Directory

/-!
# Writing zip archives

The archive that stores given files without compression, in the given order and under the given
names. Names outside ASCII are marked as UTF-8.

* **`Zip.store files`**: the bytes of the archive.
-/

namespace Wab.Zip

/-- A file of an archive to be written. -/
structure File where
  /-- The name. -/
  name : List Char
  /-- The content. -/
  content : Bytes
  deriving DecidableEq, Repr

/-- The name of the file in the archive, which ends before a NUL. -/
def File.storedName (f : File) : Bytes := Utf8.bytes (f.name.takeWhile (· ≠ '\x00'))

/-- The fields that the header of a file and its record in the directory have in common. -/
def File.commonFields (f : File) : Bytes :=
  let isAscii := f.storedName.all (· < 0x80)
  Fields.number 2 20 ++ Fields.number 2 (if isAscii then 0 else 1 <<< utf8Flag)
    ++ Fields.number 2 0 ++ Fields.number 2 0 ++ Fields.number 2 33
    ++ Fields.number 4 (Crc32.ofBytes f.content).toNat
    ++ Fields.number 4 f.content.length ++ Fields.number 4 f.content.length
    ++ Fields.number 2 f.storedName.length ++ Fields.number 2 0

/-- The header of a file with its content. -/
def File.header (f : File) : Bytes :=
  [0x50, 0x4B, 0x03, 0x04] ++ f.commonFields ++ f.storedName ++ f.content

/-- The record of a file whose header is at a place. -/
def File.record (f : File) (place : Nat) : Bytes :=
  recordMark ++ Fields.number 2 20 ++ f.commonFields ++ Fields.number 2 0 ++ Fields.number 2 0
    ++ Fields.number 2 0 ++ Fields.number 4 0 ++ Fields.number 4 place ++ f.storedName

/-- The headers of files, the first of which is at a place, and their records. -/
def layOut (place : Nat) : List File → Bytes × Bytes
  | [] => ([], [])
  | f :: rest =>
    let (headers, records) := layOut (place + f.header.length) rest
    (f.header ++ headers, f.record place ++ records)

/-- The archive of some files. -/
def store (files : List File) : Bytes :=
  let (headers, records) := layOut 0 files
  headers ++ records ++ endMark ++ Fields.number 2 0 ++ Fields.number 2 0
    ++ Fields.number 2 files.length ++ Fields.number 2 files.length
    ++ Fields.number 4 records.length ++ Fields.number 4 headers.length ++ Fields.number 2 0

end Wab.Zip
