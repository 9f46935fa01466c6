import Wab.Zip.Bits

/-!
# Deflated data

The decompression of the deflate format: blocks of stored bytes, of symbols in the fixed code and of
symbols in a code of the block's own, where a symbol is a byte or refers to bytes that came before.

* **`Inflate.readBlocks`**: the reader of blocks.
* **`Inflate.inflate`**: the output, and whether it is complete.
-/

namespace Wab.Inflate

open Bits

/-- The bits of bytes, the least significant bit of each first. -/
def bitsOf (bytes : Bytes) : List Bool :=
  bytes.flatMap fun byte => (List.range 8).map byte.toNat.testBit

/-- Reads a number of so many bits, the least significant first. -/
def number : Nat → Reader Nat
  | 0 => return 0
  | n + 1 => do
    let low ← bit
    let rest ← number n
    return low.toNat + 2 * rest

/-! ## Prefix codes -/

/-- The words that remain free after words of the lengths 1, 2, … have been taken from a code in
which `free` words of the length before are left, or nothing if there are not enough. -/
def remaining? (free : Nat) : List Nat → Option Nat
  | [] => some free
  | count :: rest => if count ≤ 2 * free then remaining? (2 * free - count) rest else none

/-- The lengths give a prefix code in which every sequence of bits begins with a word, or one with
at most one word, of length one. -/
def isUsable (code : Code) : Bool :=
  match remaining? 1 code.counts with
  | none => false
  | some 0 => true
  | some _ => code.counts.length ≤ 1

/-- Reads a symbol. In a code without words one bit is read in vain. -/
def readSymbol (code : Code) : Reader Nat :=
  match code.counts with
  | [] => do
    let _ ← bit
    throw .broken
  | counts => readWord code.symbols 0 0 0 counts

/-! ## References to earlier bytes -/

/-- The least length of a reference and the number of further bits, by symbol from 257 on. -/
def lengthBases : List (Nat × Nat) :=
  [(3, 0), (4, 0), (5, 0), (6, 0), (7, 0), (8, 0), (9, 0), (10, 0), (11, 1), (13, 1), (15, 1),
   (17, 1), (19, 2), (23, 2), (27, 2), (31, 2), (35, 3), (43, 3), (51, 3), (59, 3), (67, 4),
   (83, 4), (99, 4), (115, 4), (131, 5), (163, 5), (195, 5), (227, 5), (258, 0)]

/-- The least distance of a reference and the number of further bits, by symbol. -/
def distanceBases : List (Nat × Nat) :=
  [(1, 0), (2, 0), (3, 0), (4, 0), (5, 1), (7, 1), (9, 2), (13, 2), (17, 3), (25, 3), (33, 4),
   (49, 4), (65, 5), (97, 5), (129, 6), (193, 6), (257, 7), (385, 7), (513, 8), (769, 8),
   (1025, 9), (1537, 9), (2049, 10), (3073, 10), (4097, 11), (6145, 11), (8193, 12), (12289, 12),
   (16385, 13), (24577, 13)]

/-- Reads the rest of a length or distance. -/
def readBase (bases : List (Nat × Nat)) (symbol : Nat) : Reader Nat := do
  match bases[symbol]? with
  | some (least, more) => return least + (← number more)
  | none => throw .broken

/-- Puts out again bytes from a distance back. -/
def repeatBytes (distance : Nat) : Nat → Reader Unit
  | 0 => return ()
  | n + 1 => do
    let s ← get
    match s.output[s.output.size - distance]? with
    | some byte => emit byte
    | none => throw .broken
    repeatBytes distance n

/-! ## Blocks -/

/-- Reads the symbols of a block to its end. Each symbol takes a bit at least, so the number of bits
at hand bounds the number of symbols. -/
def readSymbols (literals distances : Code) : Nat → Reader Unit
  | 0 => throw .short
  | fuel + 1 => do
    let symbol ← readSymbol literals
    if symbol < 256 then
      emit (UInt8.ofNat symbol)
      readSymbols literals distances fuel
    else if symbol = 256 then return ()
    else
      let length ← readBase lengthBases (symbol - 257)
      let distance ← readBase distanceBases (← readSymbol distances)
      if (← get).output.size < distance then throw .broken
      repeatBytes distance length
      readSymbols literals distances fuel

/-- The lengths of the words of the fixed code for bytes and lengths. -/
def fixedLiterals : Code :=
  .ofLengths (List.replicate 144 8 ++ List.replicate 112 9 ++ List.replicate 24 7
    ++ List.replicate 8 8)

/-- The fixed code for distances. -/
def fixedDistances : Code := .ofLengths (List.replicate 32 5)

/-- Reads so many bytes of a stored block. -/
def readStored : Nat → Reader Unit
  | 0 => return ()
  | n + 1 => do
    emit (UInt8.ofNat (← number 8))
    readStored n

/-- Reads a stored block, which begins with the next whole byte. -/
def storedBlock : Reader Unit := do
  -- The bits ahead end with whole bytes, so the remainder is what is left of the byte at hand.
  modify fun s => { s with bits := s.bits.drop (s.bits.length % 8) }
  let size ← number 16
  let complement ← number 16
  if size + complement ≠ 0xFFFF then throw .broken
  readStored size

/-- The places of the word lengths in the description of a block's code. -/
def lengthOrder : List Nat := [16, 17, 18, 0, 8, 7, 9, 6, 10, 5, 11, 4, 12, 3, 13, 2, 14, 1, 15]

/-- Reads a symbol of the code for word lengths, in which a code without words reads as zeros. -/
def readLengthSymbol (code : Code) : Reader Nat :=
  match code.counts with
  | [] => do
    let _ ← bit
    return 0
  | _ => readSymbol code

/-- Reads word lengths until there are `total` of them. -/
def readLengths (code : Code) (total : Nat) (lengths : List Nat) : Nat → Reader (List Nat)
  | 0 => throw .short
  | fuel + 1 => do
    if total ≤ lengths.length then return lengths
    let symbol ← readLengthSymbol code
    if symbol < 16 then readLengths code total (lengths ++ [symbol]) fuel
    else
      let repeated ←
        if symbol = 16 then do
          let times := 3 + (← number 2)
          match lengths.getLast? with
          | some last => pure (List.replicate times last)
          | none => throw .broken
        else if symbol = 17 then do pure (List.replicate (3 + (← number 3)) 0)
        else do pure (List.replicate (11 + (← number 7)) 0)
      if total < lengths.length + repeated.length then throw .broken
      readLengths code total (lengths ++ repeated) fuel

/-- Reads `n` numbers of three bits. -/
def readTriples : Nat → Reader (List Nat)
  | 0 => return []
  | n + 1 => do
    let first ← number 3
    return first :: (← readTriples n)

/-- Reads the codes of a block. -/
def readCodes : Reader (Code × Code) := do
  let literalCount := 257 + (← number 5)
  let distanceCount := 1 + (← number 5)
  let tripleCount := 4 + (← number 4)
  if 286 < literalCount ∨ 30 < distanceCount then throw .broken
  let triples ← readTriples tripleCount
  let given := lengthOrder.zip triples
  let lengthCode := Code.ofLengths ((List.range 19).map fun n => (given.lookup n).getD 0)
  -- Unlike the other two codes, this one must leave no word free, unless it has no words at all.
  if lengthCode.counts ≠ [] ∧ remaining? 1 lengthCode.counts ≠ some 0 then throw .broken
  let total := literalCount + distanceCount
  let lengths ← readLengths lengthCode total [] (total + 1)
  -- Without a word for the end of the block the block could not end.
  if lengths[256]? = some 0 then throw .broken
  let literals := Code.ofLengths (lengths.take literalCount)
  let distances := Code.ofLengths (lengths.drop literalCount)
  if !isUsable literals then throw .broken
  if !isUsable distances then throw .broken
  return (literals, distances)

/-- Reads blocks to the last one. Each block takes three bits at least. -/
def readBlocks : Nat → Reader Unit
  | 0 => throw .short
  | fuel + 1 => do
    let last ← bit
    let kind ← number 2
    let left := (← get).bits.length + 1
    if kind = 0 then storedBlock
    else if kind = 1 then readSymbols fixedLiterals fixedDistances left
    else if kind = 2 then do
      let (literals, distances) ← readCodes
      readSymbols literals distances left
    else throw .broken
    if last then return () else readBlocks fuel

/-- The bytes that deflated data stand for, or nothing if the data are broken. -/
def inflate (data : Bytes) : Option Unpacked :=
  let bits := bitsOf data
  (readBlocks (bits.length + 1)).unpack bits

example : inflate [0x4B, 0x04, 0x00] = some ⟨[0x61], true⟩ := by decide +kernel

end Wab.Inflate
