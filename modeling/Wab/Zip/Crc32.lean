import Wab.Text.Utf8

/-!
# Checksums

The cyclic redundancy check of 32 bits with the reversed polynomial EDB88320, by which a zip archive
guards the content of its entries.
-/

namespace Wab.Crc32

/-- One division step. -/
def step (crc : UInt32) : UInt32 :=
  if crc &&& 1 = 1 then (crc >>> 1) ^^^ 0xEDB88320 else crc >>> 1

/-- The remainder after one more byte. -/
def update (crc : UInt32) (byte : UInt8) : UInt32 :=
  (step ∘ step ∘ step ∘ step ∘ step ∘ step ∘ step ∘ step) (crc ^^^ byte.toUInt32)

/-- The checksum of a byte sequence. -/
def ofBytes (bytes : Bytes) : UInt32 := bytes.foldl update 0xFFFFFFFF ^^^ 0xFFFFFFFF

example : ofBytes [] = 0 := by decide

example : ofBytes [0x61] = 0xE8B7BE43 := by decide

end Wab.Crc32
