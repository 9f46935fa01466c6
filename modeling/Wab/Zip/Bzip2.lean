import Wab.Zip.Bits

/-!
# Bzip2 data

The decompression of bzip2 data: blocks in which runs of equal bytes are shortened, the bytes are
sorted by what comes next, their places in a list of recently seen bytes are taken, and these are
written in prefix codes that take turns.

* **`Bzip2.restore`**: the bytes in the order that they had before sorting.
* **`Bzip2.expandRuns`**: the bytes with their runs in full length.
* **`Bzip2.readBlock`**: the reader of a block.
* **`Bzip2.decode`**: the output, and whether it is complete.
-/

namespace Wab.Bzip2

open Bits

/-- The bits of bytes, the most significant bit of each first. -/
def bitsOf (bytes : Bytes) : List Bool :=
  bytes.flatMap fun byte => (List.range 8).map fun n => byte.toNat.testBit (7 - n)

/-- Reads `n` more bits behind a number, the most significant first. -/
def moreBits : (n number : Nat) → Reader Nat
  | 0, number => return number
  | n + 1, number => do moreBits n (2 * number + (← bit).toNat)

/-- Reads a number of so many bits. -/
def number (n : Nat) : Reader Nat := moreBits n 0

/-- Reads bytes that must stand there. -/
def expect : Bytes → Reader Unit
  | [] => return ()
  | byte :: rest => do
    if (← number 8) ≠ byte.toNat then throw .broken
    expect rest

/-! ## Checksums -/

/-- The checksum with one more byte. -/
def checksumStep (sum : UInt32) (byte : UInt8) : UInt32 :=
  (List.range 8).foldl
    (fun sum _ => if 0x80000000 ≤ sum then (sum <<< 1) ^^^ 0x04C11DB7 else sum <<< 1)
    (sum ^^^ (byte.toUInt32 <<< 24))

/-- The checksum of a block. -/
def checksum (bytes : Bytes) : UInt32 := bytes.foldl checksumStep 0xFFFFFFFF ^^^ 0xFFFFFFFF

/-- The checksum of the blocks so far with one more. -/
def combine (sum block : UInt32) : UInt32 := ((sum <<< 1) ||| (sum >>> 31)) ^^^ block

/-! ## The bytes of a block -/

/-- The item at a place of a list, and the list with this item in front. -/
def moveToFront {α : Type} (items : List α) (place : Nat) : Option (α × List α) :=
  items[place]?.map fun item => (item, item :: items.eraseIdx place)

/-- For each place in the sorted bytes, the place of this byte in the block. Equal bytes keep their
order. -/
def sortedPlaces (block : Array UInt8) : Array Nat :=
  let counts := block.foldl (fun counts byte => counts.modify byte.toNat (· + 1))
    (Array.replicate 256 0)
  let starts := (counts.foldl (fun (starts, sum) count => (starts.push sum, sum + count))
    ((#[] : Array Nat), 0)).1
  ((List.range block.size).foldl
    (fun (next, places) place =>
      let byte := (block.getD place 0).toNat
      (next.modify byte (· + 1), places.setIfInBounds (next.getD byte 0) place))
    (starts, Array.replicate block.size 0)).2

/-- Puts behind the output the bytes that follow each other from a place on. -/
def follow (block : Array UInt8) (places : Array Nat) (output : Array UInt8) :
    (count place : Nat) → Array UInt8
  | 0, _ => output
  | count + 1, place =>
    follow block places (output.push (block.getD place 0)) count (places.getD place 0)

/-- The bytes in the order that they had before sorting, where the first of them is at a place of
the sorted ones. -/
def restore (block : Array UInt8) (first : Nat) : Array UInt8 :=
  let places := sortedPlaces block
  follow block places #[] block.size (places.getD first 0)

/-- The distances between bytes of which a bit is changed, over and over again. Old programs changed
these bits to make sorting easier. -/
def gaps : List Nat :=
  [619, 720, 127, 481, 931, 816, 813, 233, 566, 247, 985, 724, 205, 454, 863, 491, 741, 242, 949,
   214, 733, 859, 335, 708, 621, 574, 73, 654, 730, 472, 419, 436, 278, 496, 867, 210, 399, 680,
   480, 51, 878, 465, 811, 169, 869, 675, 611, 697, 867, 561, 862, 687, 507, 283, 482, 129, 807,
   591, 733, 623, 150, 238, 59, 379, 684, 877, 625, 169, 643, 105, 170, 607, 520, 932, 727, 476,
   693, 425, 174, 647, 73, 122, 335, 530, 442, 853, 695, 249, 445, 515, 909, 545, 703, 919, 874,
   474, 882, 500, 594, 612, 641, 801, 220, 162, 819, 984, 589, 513, 495, 799, 161, 604, 958, 533,
   221, 400, 386, 867, 600, 782, 382, 596, 414, 171, 516, 375, 682, 485, 911, 276, 98, 553, 163,
   354, 666, 933, 424, 341, 533, 870, 227, 730, 475, 186, 263, 647, 537, 686, 600, 224, 469, 68,
   770, 919, 190, 373, 294, 822, 808, 206, 184, 943, 795, 384, 383, 461, 404, 758, 839, 887, 715,
   67, 618, 276, 204, 918, 873, 777, 604, 560, 951, 160, 578, 722, 79, 804, 96, 409, 713, 940, 652,
   934, 970, 447, 318, 353, 859, 672, 112, 785, 645, 863, 803, 350, 139, 93, 354, 99, 820, 908, 609,
   772, 154, 274, 580, 184, 79, 626, 630, 742, 653, 282, 762, 623, 680, 81, 927, 626, 789, 125, 411,
   521, 938, 300, 821, 78, 343, 175, 128, 250, 170, 774, 972, 275, 999, 639, 495, 78, 352, 126, 857,
   956, 358, 619, 580, 124, 737, 594, 701, 612, 669, 112, 134, 694, 363, 992, 809, 743, 168, 974,
   944, 375, 748, 52, 600, 747, 642, 182, 862, 81, 344, 805, 988, 739, 511, 655, 814, 334, 249, 515,
   897, 955, 664, 981, 649, 113, 974, 459, 893, 228, 433, 837, 553, 268, 926, 240, 102, 654, 459,
   51, 686, 754, 806, 760, 493, 403, 415, 394, 687, 700, 946, 670, 656, 610, 738, 392, 760, 799,
   887, 653, 978, 321, 576, 617, 626, 502, 894, 679, 243, 440, 680, 879, 194, 572, 640, 724, 926,
   56, 204, 700, 707, 151, 457, 449, 797, 195, 791, 558, 945, 679, 297, 59, 87, 824, 713, 663, 412,
   693, 342, 606, 134, 108, 571, 364, 631, 212, 174, 643, 304, 329, 343, 97, 430, 751, 497, 314,
   983, 374, 822, 928, 140, 206, 73, 263, 980, 736, 876, 478, 430, 305, 170, 514, 364, 692, 829, 82,
   855, 953, 676, 246, 369, 970, 294, 750, 807, 827, 150, 790, 288, 923, 804, 378, 215, 828, 592,
   281, 565, 555, 710, 82, 896, 831, 547, 261, 524, 462, 293, 465, 502, 56, 661, 821, 976, 991, 658,
   869, 905, 758, 745, 193, 768, 550, 608, 933, 378, 286, 215, 979, 792, 961, 61, 688, 793, 644,
   986, 403, 106, 366, 905, 644, 372, 567, 466, 434, 645, 210, 389, 550, 919, 135, 780, 773, 635,
   389, 707, 100, 626, 958, 165, 504, 920, 176, 193, 713, 857, 265, 203, 50, 668, 108, 645, 990,
   626, 197, 510, 357, 358, 850, 858, 364, 936, 638]

/-- Changes the bit of one more byte back, where `left` bytes come before the next one of which a
bit is changed. -/
def undisturbStep : List Nat × Nat × Array UInt8 → UInt8 → List Nat × Nat × Array UInt8
  | (ahead, left + 1, output), byte => (ahead, left, output.push byte)
  | (ahead, 0, output), byte =>
    let ahead := if ahead.isEmpty then gaps else ahead
    (ahead.tail, ahead.headD 0 - 1, output.push (byte ^^^ 1))

/-- Changes the bits back. -/
def undisturb (bytes : Array UInt8) : Array UInt8 :=
  (bytes.foldl undisturbStep (gaps.tail, gaps.headD 0 - 2, #[])).2.2

/-- Bytes with their runs in full length, and the run at their end. -/
structure Runs where
  /-- The byte at the end. -/
  last : UInt8 := 0
  /-- How often it was seen in a row, or zero behind a full run. -/
  count : Nat := 0
  /-- The bytes. -/
  output : Array UInt8 := #[]

/-- One more byte. Behind four equal ones it tells how many more there are. -/
def Runs.step (runs : Runs) (byte : UInt8) : Runs :=
  if runs.count = 4 then
    { runs with count := 0, output := runs.output ++ Array.replicate byte.toNat runs.last }
  else
    { last := byte
      count := if byte = runs.last ∧ runs.count ≠ 0 then runs.count + 1 else 1
      output := runs.output.push byte }

/-- The bytes with their runs in full length, or nothing if the length of the last one is
missing. -/
def expandRuns (bytes : Array UInt8) : Option Bytes :=
  let runs := bytes.foldl Runs.step {}
  if runs.count = 4 then none else some runs.output.toList

/-! ## The codes of a block -/

/-- Reads a number in ones before a zero, of which there are fewer than `limit`. -/
def ones : (limit : Nat) → Reader Nat
  | 0 => throw .broken
  | limit + 1 => do if ← bit then return 1 + (← ones limit) else return 0

/-- Reads which codes take turns, each by its place in the list of recently used ones. -/
def readTurns (codes : List Nat) (turns : Array Nat) : (count : Nat) → Reader (Array Nat)
  | 0 => return turns
  | count + 1 => do
    match moveToFront codes (← ones codes.length) with
    | some (code, codes) => readTurns codes (turns.push code) count
    | none => throw .broken

/-- Reads the length of a word by its difference from another one. Each step takes a bit at least,
so the number of bits at hand bounds the number of steps. -/
def readLength (length : Nat) : (fuel : Nat) → Reader Nat
  | 0 => throw .short
  | fuel + 1 => do
    if length < 1 ∨ 20 < length then throw .broken
    if !(← bit) then return length
    if ← bit then readLength (length - 1) fuel else readLength (length + 1) fuel

/-- Reads so many lengths, each by its difference from the one before. -/
def readLengths (length : Nat) : (count : Nat) → Reader (List Nat)
  | 0 => return []
  | count + 1 => do
    let length ← readLength length ((← get).bits.length + 1)
    return length :: (← readLengths length count)

/-- Reads a code for so many symbols. Reading a word goes on to a length that no word has. -/
def readCode (symbols : Nat) : Reader Code := do
  let code := Code.ofLengths (← readLengths (← number 5) symbols)
  return { code with counts := code.counts ++ List.replicate (21 - code.counts.length) 0 }

/-- Reads so many codes. -/
def readCodes (symbols : Nat) : (count : Nat) → Reader (List Code)
  | 0 => return []
  | count + 1 => do
    let code ← readCode symbols
    return code :: (← readCodes symbols count)

/-- Reads which of 16 parts are there. -/
def readPresent : Reader (List Nat) := do
  let present ← number 16
  return (List.range 16).filter fun n => present.testBit (15 - n)

/-- Reads which bytes there are in these parts of sixteen bytes each. -/
def readBytesIn : List Nat → Reader Bytes
  | [] => return []
  | part :: rest => do
    let bytes := (← readPresent).map fun n => UInt8.ofNat (16 * part + n)
    return bytes ++ (← readBytesIn rest)

/-! ## Blocks -/

/-- The number of symbols for which a code has its turn. -/
def turnLength : Nat := 50

/-- Reads the symbol with the number `n` of a block. -/
def readSymbol (turns : Array Code) (n : Nat) : Reader Nat :=
  match turns[n / turnLength]? with
  | some code => readWord code.symbols 0 0 0 code.counts
  | none => throw .broken

/-- Reads the symbols of a block to its end, of which `n` have been read. The symbols 0 and 1 are
digits of the length of a run, of which the lower ones give `run` and the next one has a weight;
the others are places in the list of recently seen bytes. -/
def readSymbols (turns : Array Code) (room : Nat) (n run weight : Nat) (recent : Bytes)
    (block : Array UInt8) : (fuel : Nat) → Reader (Array UInt8)
  | 0 => throw .short
  | fuel + 1 => do
    let symbol ← readSymbol turns n
    if symbol < 2 then
      if 0x200000 ≤ weight then throw .broken
      readSymbols turns room (n + 1) (run + (symbol + 1) * weight) (2 * weight) recent block fuel
    else
      if room < block.size + run then throw .broken
      let block := block ++ Array.replicate run (recent.headD 0)
      if symbol = recent.length + 1 then return block
      if room ≤ block.size then throw .broken
      match moveToFront recent (symbol - 1) with
      | some (byte, recent) =>
        readSymbols turns room (n + 1) 0 1 recent (block.push byte) fuel
      | none => throw .broken

/-- Reads a block behind its mark, of at most so many bytes, and gives its checksum. -/
def readBlock (room : Nat) : Reader UInt32 := do
  let sum ← number 32
  let disturbed ← bit
  let first ← number 24
  if 10 + room < first then throw .broken
  let bytes ← readBytesIn (← readPresent)
  if bytes.isEmpty then throw .broken
  let codeCount ← number 3
  if codeCount < 2 ∨ 6 < codeCount then throw .broken
  let turnCount ← number 15
  if turnCount < 1 then throw .broken
  let turns ← readTurns (List.range codeCount) #[] turnCount
  let codes ← readCodes (bytes.length + 2) codeCount
  let turns := turns.filterMap (codes[·]?)
  let block ← readSymbols turns room 0 0 1 bytes #[] ((← get).bits.length + 1)
  if block.size ≤ first then throw .broken
  let sorted := restore block first
  match expandRuns (if disturbed then undisturb sorted else sorted) with
  | none => throw .broken
  | some content =>
    if (checksum content).toNat ≠ sum then throw .broken
    modify fun s => { s with output := s.output ++ content }
    return checksum content

/-- Reads blocks to the end of the data. Each block takes a bit at least. -/
def readBlocks (room : Nat) (sum : UInt32) : (fuel : Nat) → Reader Unit
  | 0 => throw .short
  | fuel + 1 => do
    let mark ← number 8
    if mark = 0x31 then
      expect [0x41, 0x59, 0x26, 0x53, 0x59]
      let block ← readBlock room
      readBlocks room (combine sum block) fuel
    else if mark = 0x17 then
      expect [0x72, 0x45, 0x38, 0x50, 0x90]
      if (← number 32) ≠ sum.toNat then throw .broken
    else throw .broken

/-- Reads the data from their mark on, behind which the greatest size of a block is told. -/
def readAll : Reader Unit := do
  expect [0x42, 0x5A, 0x68]
  let size ← number 8
  if size < 0x31 ∨ 0x39 < size then throw .broken
  readBlocks (100000 * (size - 0x30)) 0 ((← get).bits.length + 1)

/-- The bytes that bzip2 data stand for, or nothing if the data are broken. -/
def decode (data : Bytes) : Option Unpacked := readAll.unpack (bitsOf data)

end Wab.Bzip2
