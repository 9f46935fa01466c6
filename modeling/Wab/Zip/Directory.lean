import Wab.Accident
import Wab.Text.CodePage
import Wab.Text.Quoted
import Wab.Zip.Fields
import Wab.Zip.Lzma

/-!
# The directory of a zip archive

A zip archive ends with a record that tells where its directory is; the directory lists the entries
in order. Bytes may stand in front of the archive and behind it: places are counted from where the
archive begins, which follows from where the end record is found. Numbers that do not fit into 32
bits are in a wide end record in front of the other one and in an extra field of each entry.

* **`Zip.Error`**: what makes bytes no zip archive or an entry unreadable.
* **`Zip.Entry`**: an entry as the directory describes it.
* **`Zip.endRecord?`**: the place of the end record.
* **`Zip.listing`**: what the end records tell of the directory.
* **`Zip.directory`**: the entries of an archive.
-/

namespace Wab

/-- Where the bytes of an archive are. -/
inductive Medium where
  /-- They are at hand. -/
  | memory
  /-- They are in a file. -/
  | disk
  deriving DecidableEq, Repr

namespace Zip

/-- A number of an entry for which 32 bits may not be enough. -/
inductive WideField where
  /-- The size of the content. -/
  | size
  /-- The size of the compressed content. -/
  | compressedSize
  /-- The place of the header. -/
  | place
  deriving DecidableEq, Repr

/-- The field in words. -/
def WideField.name : WideField → String
  | size => "File size"
  | compressedSize => "Compress size"
  | place => "Header offset"

/-- What makes bytes no zip archive or an entry of one unreadable. -/
inductive Error where
  /-- There is no end record. -/
  | noEndRecord
  /-- The archive is spread over several disks. -/
  | manyDisks
  /-- The directory would begin before the bytes. -/
  | directoryOffset
  /-- The directory ends inside a record. -/
  | directoryTruncated
  /-- A record of the directory does not begin with its mark. -/
  | directoryMark
  /-- The name of an entry is marked as UTF-8 and is none. -/
  | nameEncoding
  /-- An entry needs a newer version of the format, given in tenths. -/
  | version (tenths : Nat)
  /-- An extra field of an entry is longer than the room for it. -/
  | extraField (id size : Nat)
  /-- The extra field that holds a number of an entry ends before it. -/
  | wideField (field : WideField)
  /-- The header of an entry would begin before the bytes. -/
  | placeBeforeStart (place : Int)
  /-- The header of an entry would begin where no place is. -/
  | placeTooGreat
  /-- The bytes end inside the header of an entry. -/
  | headerTruncated
  /-- The header of an entry does not begin with its mark. -/
  | headerMark
  /-- The content of an entry is a patch. -/
  | patched
  /-- An entry is strongly encrypted. -/
  | strongEncryption
  /-- The header of an entry has another name than the directory. -/
  | nameMismatch
  /-- The content of an entry runs into what follows it. -/
  | overlap (name : Text)
  /-- An entry is encrypted. -/
  | encrypted
  /-- An entry is compressed in an unknown way. -/
  | method
  /-- The deflated content of an entry is broken. -/
  | compressedData
  /-- The bzip2 content of an entry is broken. -/
  | compressedStream
  /-- The LZMA content of an entry is broken. -/
  | lzma (flaw : Lzma.Flaw)
  /-- The bytes end before the content of an entry does. -/
  | contentTruncated
  /-- The content of an entry does not have the checksum the directory gives. -/
  | checksum (name : Text)
  deriving DecidableEq, Repr

/-- The error in words. -/
def Error.message : Error → String
  | noEndRecord => "File is not a zip file"
  | manyDisks => "zipfiles that span multiple disks are not supported"
  | directoryOffset => "Bad offset for central directory"
  | directoryTruncated => "Truncated central directory"
  | directoryMark => "Bad magic number for central directory"
  | nameEncoding => ""
  | version tenths => s!"zip file version {tenths / 10}.{tenths % 10}"
  | extraField id size => s!"Corrupt extra field {Text.str (Text.hex 4 id)} (size={size})"
  | wideField field => s!"Corrupt zip64 extra field. {field.name} not found."
  | placeBeforeStart place => s!"negative seek value {Text.str (Text.ofInt place)}"
  | placeTooGreat => ""
  | headerTruncated => "Truncated file header"
  | headerMark => "Bad magic number for file header"
  | patched => "compressed patched data (flag bit 5)"
  | strongEncryption => "strong encryption (flag bit 6)"
  | nameMismatch => "File names differ."
  | overlap name => s!"Overlapped entries: {Text.quoted name} (possible zip bomb)"
  | encrypted => "File is encrypted, password required for extraction"
  | method => "That compression method is not supported"
  | compressedData => "broken compressed data"
  | compressedStream => "Invalid data stream"
  | lzma flaw => flaw.message
  | contentTruncated => ""
  | checksum name => s!"Bad CRC-32 for file {Text.quoted name}"

/-- An entry as the directory describes it. -/
structure Entry where
  /-- The name as it is written. -/
  fullName : Text
  /-- The general purpose flags. -/
  flags : Nat
  /-- How the content is compressed. -/
  method : Nat
  /-- The checksum of the content. -/
  checksum : Nat
  /-- The size of the compressed content. -/
  compressedSize : Nat
  /-- The size of the content. -/
  size : Nat
  /-- The place of the entry's header among all bytes. -/
  place : Int
  deriving DecidableEq, Repr

/-- The name of an entry, which ends before a NUL. -/
def Entry.name (e : Entry) : Text := e.fullName.takeWhile (· ≠ .scalar '\x00')

/-- The entry is a directory of files, which the last character of its name tells. -/
def Entry.isFolder (e : Entry) : Except Accident Bool :=
  match e.name.getLast? with
  | some c => .ok (c == '/')
  | none => .error .noCharacter

/-- A general purpose flag. -/
def Entry.flag (e : Entry) (n : Nat) : Bool := e.flags.testBit n

/-! ## The end record -/

/-- The mark of the end record. -/
def endMark : Bytes := [0x50, 0x4B, 0x05, 0x06]

/-- The size of the end record without its comment. -/
def endSize : Nat := 22

/-- The greatest size of the comment that may follow the end record, and one byte. -/
def commentRoom : Nat := 65536

/-- The place of the end record: the last one where the bytes can end with it and no comment, or
else the last place where its mark stands, not too far from the end. -/
def endRecord? (bytes : Bytes) : Option Nat :=
  let size := bytes.length
  if size < endSize then none
  else
    -- Most archives have no comment, so the last possible place is tried first.
    let tail := bytes.drop (size - endSize)
    if endMark.isPrefixOf tail && Fields.word 2 tail 20 == 0 then some (size - endSize)
    else
      let start := size - (commentRoom + endSize)
      match Fields.lastPlace? endMark (bytes.drop start) with
      | some place => if start + place + endSize ≤ size then some (start + place) else none
      | none => none

/-- A place so many bytes before another one. Who goes too far back in bytes at hand is at their
first one, and nowhere in a file. -/
def back? (medium : Medium) (place size : Nat) : Option Nat :=
  if size ≤ place then some (place - size)
  else
    match medium with
    | .memory => some 0
    | .disk => none

/-- The mark of the locator of the wide end record. -/
def locatorMark : Bytes := [0x50, 0x4B, 0x06, 0x07]

/-- The size of this locator. -/
def locatorSize : Nat := 20

/-- The mark of the wide end record. -/
def wideEndMark : Bytes := [0x50, 0x4B, 0x06, 0x06]

/-- The size of the wide end record. -/
def wideEndSize : Nat := 56

/-- What the end records tell of the directory. -/
structure Listing where
  /-- Its size. -/
  size : Nat
  /-- Its place, counted from the beginning of the archive. -/
  offset : Nat
  /-- The size of what stands between the directory and the end record. -/
  gap : Nat
  deriving DecidableEq, Repr

/-- What the end record at a place tells of the directory. -/
def narrowListing (bytes : Bytes) (place : Nat) : Listing :=
  ⟨Fields.word 4 bytes (place + 12), Fields.word 4 bytes (place + 16), 0⟩

/-- What the wide end record tells of the directory, whose own place its locator does not change. -/
def wideListing? (record : Bytes) : Option Listing :=
  if record.length = wideEndSize ∧ wideEndMark.isPrefixOf record then
    some ⟨Fields.word 8 record 40, Fields.word 8 record 48, locatorSize + wideEndSize⟩
  else none

/-- What the end records tell of the directory, the second of which is at a place. The wide one
counts if its locator is there. -/
def listing (medium : Medium) (bytes : Bytes) (place : Nat) : Except Error Listing :=
  let locator := ((back? medium place locatorSize).map fun start =>
    Fields.slice bytes start locatorSize).getD []
  if locator.length < locatorSize ∨ !locatorMark.isPrefixOf locator then
    .ok (narrowListing bytes place)
  else if Fields.word 4 locator 4 ≠ 0 ∨ 1 < Fields.word 4 locator 16 then .error .manyDisks
  else
    match back? medium place (locatorSize + wideEndSize) with
    | none => .error .noEndRecord
    | some start =>
      .ok ((wideListing? (Fields.slice bytes start wideEndSize)).getD (narrowListing bytes place))

/-! ## The directory -/

/-- The mark of a record of the directory. -/
def recordMark : Bytes := [0x50, 0x4B, 0x01, 0x02]

/-- The size of a record of the directory without its name, extra field and comment. -/
def recordSize : Nat := 46

/-- The newest version of the format that is known, in tenths. -/
def newestVersion : Nat := 63

/-- The flag that marks a name as UTF-8. -/
def utf8Flag : Nat := 11

/-- The name of an entry. -/
def decodeName (flags : Nat) (bytes : Bytes) : Except Error Text :=
  if flags.testBit utf8Flag then
    match Utf8.decode? bytes with
    | some name => .ok name
    | none => .error .nameEncoding
  else .ok (CodePage.decode bytes)

/-- The numbers of an entry for which 32 bits may not be enough. -/
structure Extent where
  /-- The size of the content. -/
  size : Nat
  /-- The size of the compressed content. -/
  compressedSize : Nat
  /-- The place of the header, counted from the beginning of the archive. -/
  place : Nat
  deriving DecidableEq, Repr

/-- What stands in a narrow field for a number that does not fit into it. -/
def narrowMark : Nat := 0xFFFFFFFF

/-- What stands in a wide field for a number that is not known. -/
def wideMark : Nat := 0xFFFFFFFFFFFFFFFF

/-- A number, which is the next wide one instead if it is marked so, and the data behind it. -/
def widen (field : WideField) (marked : Bool) (number : Nat) (data : Bytes) :
    Except Error (Nat × Bytes) :=
  if !marked then .ok (number, data)
  else if data.length < 8 then .error (.wideField field)
  else .ok (Fields.word 8 data 0, data.drop 8)

/-- The numbers of an entry with those that are in an extra field, in which they stand in order. -/
def Extent.widen (x : Extent) (data : Bytes) : Except Error Extent := do
  let (size, data) ← Zip.widen .size (x.size == wideMark || x.size == narrowMark) x.size data
  let (compressedSize, data) ←
    Zip.widen .compressedSize (x.compressedSize == narrowMark) x.compressedSize data
  let (place, _) ← Zip.widen .place (x.place == narrowMark) x.place data
  return ⟨size, compressedSize, place⟩

/-- The extra field that holds wide numbers. -/
def wideId : Nat := 1

/-- The numbers of an entry behind an extra field. -/
def Extent.behind (x : Extent) (id : Nat) (data : Bytes) : Except Error Extent :=
  if id = wideId then x.widen data else .ok x

/-- Reads extra fields, each of which must have room for what it announces. -/
def readExtra (x : Extent) (extra : Bytes) : Except Error Extent :=
  if extra.length < 4 then .ok x
  else
    let id := Fields.word 2 extra 0
    let size := Fields.word 2 extra 2
    if extra.length < size + 4 then .error (.extraField id size)
    else do
      let x ← x.behind id (Fields.slice extra 4 size)
      readExtra x (extra.drop (size + 4))
termination_by extra.length
decreasing_by simp only [List.length_drop]; omega

/-- The numbers of an entry as they stand in the record itself. -/
def narrowExtent (bytes : Bytes) : Extent :=
  ⟨Fields.word 4 bytes 24, Fields.word 4 bytes 20, Fields.word 4 bytes 42⟩

/-- Reads the record that the bytes begin with. All places are shifted by `shift`. -/
def readRecord (shift : Int) (bytes : Bytes) : Except Error Entry := do
  if bytes.length < recordSize then throw .directoryTruncated
  if !recordMark.isPrefixOf bytes then throw .directoryMark
  let flags := Fields.word 2 bytes 8
  let nameSize := Fields.word 2 bytes 28
  let name ← decodeName flags (Fields.slice bytes recordSize nameSize)
  let version := Fields.word 1 bytes 6
  if newestVersion < version then throw (.version version)
  let extra := Fields.slice bytes (recordSize + nameSize) (Fields.word 2 bytes 30)
  let x ← readExtra (narrowExtent bytes) extra
  return {
    fullName := name
    flags := flags
    method := Fields.word 2 bytes 10
    checksum := Fields.word 4 bytes 16
    compressedSize := x.compressedSize
    size := x.size
    place := shift + x.place }

/-- The whole size of the record that the bytes begin with. -/
def wholeSize (bytes : Bytes) : Nat :=
  recordSize + Fields.word 2 bytes 28 + Fields.word 2 bytes 30 + Fields.word 2 bytes 32

/-- Reads records to the end of the bytes. -/
def readRecords (shift : Int) : Bytes → Except Error (List Entry)
  | [] => .ok []
  | byte :: rest => do
    let entry ← readRecord shift (byte :: rest)
    return entry :: (← readRecords shift ((byte :: rest).drop (wholeSize (byte :: rest))))
termination_by bytes => bytes.length
decreasing_by
  simp only [List.length_drop, List.length_cons, wholeSize, recordSize]
  omega

/-- The place where the directory begins and its entries in order. -/
def directory (medium : Medium) (bytes : Bytes) : Except Error (Nat × List Entry) :=
  match endRecord? bytes with
  | none => .error .noEndRecord
  | some place => do
    let l ← listing medium bytes place
    if place < l.size + l.gap then throw .directoryOffset
    -- The directory ends where the end records begin, whatever offset is written there; the
    -- difference of the two is what stands in front of the archive.
    let start := place - l.gap - l.size
    return (start, ← readRecords ((start : Int) - l.offset) (Fields.slice bytes start l.size))

/-- The place up to which the content of an entry may reach: the next place after its own where an
entry or the directory begins. Of entries at one place only the first has any room. -/
def roomEnd (start : Nat) (before : List Entry) (e : Entry) (after : List Entry) : Int :=
  if before.any fun other => other.place == e.place then e.place
  else
    let later := ((before ++ after).map (·.place)).filter fun place => e.place < place
    match later with
    | [] => start
    | first :: rest => rest.foldl min first

end Zip

end Wab
