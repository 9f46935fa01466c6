import Wab.Zip.Bzip2
import Wab.Zip.Crc32
import Wab.Zip.Directory
import Wab.Zip.Inflate

/-!
# The content of entries

The content of an entry follows a header of its own, which must agree with the directory. It is
stored, deflated, or compressed as bzip2 or LZMA data; what comes out is cut to the size that the
directory gives and must have the checksum it gives. Memory is taken to suffice for whatever comes
out, and the system to find any place of 64 bits in a file, where nothing is read behind the end.

* **`Zip.unpack`**: what compressed content gives.
* **`Zip.contentStart`**: where the compressed content begins, if the header is in order.
* **`Zip.Archive.read`**: the content of an entry.
* **`Zip.Archive.ofBytes`**: an archive with its entries.
-/

namespace Wab.Zip

/-- The mark of an entry's header. -/
def headerMark : Bytes := [0x50, 0x4B, 0x03, 0x04]

/-- The size of an entry's header without name and extra field. -/
def headerSize : Nat := 30

/-- The least place of 64 bits with a sign that there is not. -/
def placeRoom : Nat := 0x8000000000000000

/-- The place where the compressed content of an entry begins. The checks are made in the order of
what they look at. -/
def contentStart (bytes : Bytes) (e : Entry) (room : Int) : Except Error Nat := do
  if e.place < -placeRoom ∨ placeRoom ≤ e.place then throw .placeTooGreat
  if e.place < 0 then throw (.placeBeforeStart e.place)
  let place := e.place.toNat
  let header := Fields.slice bytes place headerSize
  if header.length < headerSize then throw .headerTruncated
  if !headerMark.isPrefixOf header then throw .headerMark
  let nameSize := Fields.word 2 header 26
  let extraSize := Fields.word 2 header 28
  if e.flag 5 then throw .patched
  if e.flag 6 then throw .strongEncryption
  let name ← decodeName (Fields.word 2 header 6) (Fields.slice bytes (place + headerSize) nameSize)
  if name ≠ e.fullName then throw .nameMismatch
  -- Reading stops at the end of the bytes, even inside the name or the extra field.
  let start := min bytes.length (place + headerSize + nameSize + extraSize)
  if room < start + e.compressedSize then throw (.overlap e.fullName)
  if e.flag 0 then throw .encrypted
  return start

/-- Content that has come out, cut to the size of the entry, with its checksum compared. -/
def verified (e : Entry) (content : Bytes) : Except Error Bytes :=
  let content := content.take e.size
  if (Crc32.ofBytes content).toNat = e.checksum then .ok content else .error (.checksum e.name)

/-- The compression methods that are known: none, deflate, bzip2 and LZMA. -/
def methods : List Nat := [0, 8, 12, 14]

/-- What content that is compressed by one of these methods gives. Stored content has no end of its
own. -/
def unpack (method : Nat) (bytes : Bytes) : Except Error Bits.Unpacked :=
  match method with
  | 8 => (Inflate.inflate bytes).elim (.error .compressedData) .ok
  | 12 => (Bzip2.decode bytes).elim (.error .compressedStream) .ok
  | 14 => (Lzma.decode bytes).mapError .lzma
  | _ => .ok ⟨bytes, false⟩

/-- The content of an entry whose compressed content begins with the bytes. -/
def extract (e : Entry) (bytes : Bytes) : Except Error Bytes :=
  let present := bytes.take e.compressedSize
  if e.method ∉ methods then .error .method
  -- Nothing is decompressed where nothing is stored, not even an empty block.
  else if e.compressedSize = 0 then verified e []
  else if present = [] then .error .contentTruncated
  else do
    let data ← unpack e.method present
    if data.ended ∨ present.length = e.compressedSize ∨ e.size ≤ data.output.length then
      verified e data.output
    else throw .contentTruncated

/-- An entry of an archive with the place up to which its content may reach. -/
structure Member where
  /-- The entry. -/
  entry : Entry
  /-- The place up to which its content may reach. -/
  room : Int
  deriving DecidableEq, Repr

/-- Entries with their rooms, of which those in `before` come first, given backwards. -/
def withRooms (start : Nat) (before : List Entry) : List Entry → List Member
  | [] => []
  | e :: after => ⟨e, roomEnd start before e after⟩ :: withRooms start (e :: before) after

/-- A zip archive: its bytes and its entries in the order of the directory. -/
structure Archive where
  /-- All bytes. -/
  bytes : Bytes
  /-- The entries. -/
  members : List Member
  deriving DecidableEq, Repr

/-- The archive that the bytes are. -/
def Archive.ofBytes (medium : Medium) (bytes : Bytes) : Except Error Archive := do
  let (start, entries) ← directory medium bytes
  return ⟨bytes, withRooms start [] entries⟩

/-- The content of an entry. -/
def Archive.read (a : Archive) (m : Member) : Except Error Bytes := do
  let start ← contentStart a.bytes m.entry m.room
  extract m.entry (a.bytes.drop start)

end Wab.Zip
