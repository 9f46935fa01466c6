import Wab.Zip.Bits
import Wab.Zip.Fields

/-!
# LZMA data

The decompression of LZMA data as they stand in a zip archive: a version, the properties, and the
range-coded symbols, each of which is a byte or refers to bytes that came before. The symbols are
told by decisions between two cases, whose chances are learnt as they are made.

* **`Lzma.Properties`**: what the data say of their own coding.
* **`Lzma.Decoder`**: a reader of decisions that keeps its output when it stops.
* **`Lzma.decode`**: the output, and whether it is complete.
-/

namespace Wab.Lzma

open Bits (Stop Unpacked)

/-- Why data are no LZMA data. -/
inductive Flaw where
  /-- The properties are none. -/
  | properties
  /-- The symbols are none. -/
  | symbols
  deriving DecidableEq, Repr

/-- The flaw in words. -/
def Flaw.message : Flaw → String
  | properties => "Invalid or unsupported options"
  | symbols => "Corrupt input data"

/-- What the data say of their own coding. -/
structure Properties where
  /-- How many bits of the byte before count for the chances of a byte. -/
  byteBits : Nat
  /-- How many bits of its place do. -/
  bytePlaceBits : Nat
  /-- How many bits of the place count for the chances of everything else. -/
  placeBits : Nat
  /-- How far back a reference may reach. -/
  reach : Nat
  deriving DecidableEq, Repr

/-- The properties that five bytes give, or nothing if they are none. -/
def Properties.ofBytes? : Bytes → Option Properties
  | [first, a, b, c, d] =>
    let n := first.toNat
    if 225 ≤ n ∨ 4 < n % 9 + n / 9 % 5 then none
    else some {
      byteBits := n % 9
      bytePlaceBits := n / 9 % 5
      placeBits := n / 45
      -- The memory for earlier bytes is 4 KiB at least, and whole units of 16 bytes.
      reach := (max 4096 (Fields.value [a, b, c, d]) + 15) / 16 * 16 }
  | _ => none

/-! ## Decisions -/

/-- What is left to read, what is known of it, and what was made of the rest. -/
structure State where
  /-- The bytes ahead. -/
  bytes : Bytes
  /-- The width of the range that is left. -/
  range : Nat := 0xFFFFFFFF
  /-- The place of the data in this range. -/
  code : Nat := 0
  /-- The chances of the first case of each decision, in parts of 2048. -/
  chances : Array Nat
  /-- What the last symbols were, by a number below 12: from 7 on the last one was a reference. -/
  phase : Nat := 0
  /-- The last four distances, less one. -/
  distances : List Nat := [0, 0, 0, 0]
  /-- The bytes so far. -/
  output : Array UInt8 := #[]

/-- A reader of decisions that keeps its output when it stops. -/
abbrev Decoder := ExceptT Stop (StateM State)

/-- The number of values of a word of 32 bits. -/
def wordSize : Nat := 0x100000000

/-- The next byte. -/
def nextByte : Decoder UInt8 := do
  let s ← get
  match s.bytes with
  | [] => throw .short
  | byte :: rest => set { s with bytes := rest }; return byte

/-- Takes a byte into the code. -/
def shift : Decoder Unit := do
  let byte ← nextByte
  modify fun s => { s with code := (s.code * 256 + byte.toNat) % wordSize }

/-- Takes a byte in where the range has become small. -/
def refill : Decoder Unit := do
  if (← get).range < 0x1000000 then
    shift
    modify fun s => { s with range := s.range * 256 }

/-- Makes the decision whose chance is at a place: the second case is `true`. -/
def decision (place : Nat) : Decoder Bool := do
  refill
  let s ← get
  let chance := s.chances.getD place 1024
  let bound := s.range / 2048 * chance
  if s.code < bound then
    modify fun s => { s with
      range := bound
      chances := s.chances.setIfInBounds place (chance + (2048 - chance) / 32) }
    return false
  else
    modify fun s => { s with
      range := s.range - bound
      code := s.code - bound
      chances := s.chances.setIfInBounds place (chance - chance / 32) }
    return true

/-- Makes `n` more decisions, each at the node of a tree of chances that the ones before lead to,
and gives the node that they all lead to. -/
def walk (tree : Nat) : (n node : Nat) → Decoder Nat
  | 0, node => return node
  | n + 1, node => do
    let second ← decision (tree + node)
    walk tree n (2 * node + second.toNat)

/-- Reads a number of `n` bits by decisions in a tree, the most significant first. -/
def number (tree n : Nat) : Decoder Nat := do return (← walk tree n 1) - 1 <<< n

/-- Reads a number by decisions in a tree, the least significant bit first. -/
def numberBackward (tree : Nat) : (n node : Nat) → Decoder Nat
  | 0, _ => return 0
  | n + 1, node => do
    let second ← decision (tree + node)
    return second.toNat + 2 * (← numberBackward tree n (2 * node + second.toNat))

/-- Reads `n` more bits whose cases are equally likely behind a number, the most significant
first. -/
def plainBits : (n number : Nat) → Decoder Nat
  | 0, number => return number
  | n + 1, number => do
    refill
    let s ← get
    let half := s.range / 2
    -- The difference counts as a signed word, whose first bit tells that the code is in front.
    let past := (s.code + wordSize - half) % wordSize
    if past < wordSize / 2 then
      modify fun s => { s with range := half, code := past }
      plainBits n (2 * number + 1)
    else
      modify fun s => { s with range := half }
      plainBits n (2 * number)

/-! ## The places of the chances -/

/-- A byte or a reference, by phase and place. -/
def isReference : Nat := 0

/-- A new distance or an earlier one, by phase. -/
def isEarlier : Nat := 192

/-- The last distance or one before, by phase. -/
def isBefore : Nat := 204

/-- The second last distance or one before, by phase. -/
def isSecondBefore : Nat := 216

/-- The third last distance or the fourth last, by phase. -/
def isThirdBefore : Nat := 228

/-- One byte or more at the last distance, by phase and place. -/
def isLong : Nat := 240

/-- The slot of a new distance, by length. -/
def slots : Nat := 432

/-- The lower bits of a distance in a low slot. -/
def lowSlotBits : Nat := 688

/-- The lowest bits of a distance in a high slot. -/
def highSlotBits : Nat := 803

/-- The length behind a new distance. -/
def newLength : Nat := 819

/-- The length behind an earlier distance. -/
def earlierLength : Nat := 1333

/-- The bytes, by place and byte before. -/
def byteTrees : Nat := 1847

/-- The chances at the beginning. -/
def evenChances (p : Properties) : Array Nat :=
  Array.replicate (byteTrees + 0x300 <<< (p.byteBits + p.bytePlaceBits)) 1024

/-! ## Symbols -/

/-- Puts a byte out. -/
def emit (byte : UInt8) : Decoder Unit := modify fun s => { s with output := s.output.push byte }

/-- The byte at a distance back, or no symbol if there is none. -/
def byteAt (p : Properties) (distance : Nat) : Decoder UInt8 := do
  let s ← get
  if p.reach ≤ distance then throw .broken
  match s.output[s.output.size - 1 - distance]?, decide (distance < s.output.size) with
  | some byte, true => return byte
  | _, _ => throw .broken

/-- Reads a byte whose bits are likely to be those of another byte, up to the first that differs. -/
def walkBeside (tree : Nat) (other : UInt8) : (n node : Nat) → Decoder Nat
  | 0, node => return node
  | n + 1, node => do
    let expected := other.toNat.testBit n
    let second ← decision (tree + (if expected then 0x200 else 0x100) + node)
    let next := 2 * node + second.toNat
    if second = expected then walkBeside tree other n next else walk tree n next

/-- Reads a byte. Behind a reference it is compared with the byte that would have come next. -/
def readByte (p : Properties) : Decoder Unit := do
  let s ← get
  let before := ((s.output.back?).getD 0).toNat
  let context := (s.output.size % 1 <<< p.bytePlaceBits) <<< p.byteBits
    + before >>> (8 - p.byteBits)
  let tree := byteTrees + 0x300 * context
  let node ←
    if s.phase < 7 then walk tree 8 1
    else do walkBeside tree (← byteAt p (s.distances.headD 0)) 8 1
  emit (UInt8.ofNat (node - 256))
  modify fun s => { s with
    phase := if s.phase < 4 then 0 else if s.phase < 10 then s.phase - 3 else s.phase - 6 }

/-- Reads the length of a reference, less two. -/
def readLength (tree place : Nat) : Decoder Nat := do
  if !(← decision tree) then number (tree + 2 + 8 * place) 3
  else if !(← decision (tree + 1)) then return 8 + (← number (tree + 130 + 8 * place) 3)
  else return 16 + (← number (tree + 258) 8)

/-- Reads a new distance, less one, behind a length. -/
def readDistance (length : Nat) : Decoder Nat := do
  let slot ← number (slots + 64 * min length 3) 6
  if slot < 4 then return slot
  else
    let count := slot / 2 - 1
    let base := (2 + slot % 2) <<< count
    if slot < 14 then return base + (← numberBackward (lowSlotBits + base - slot) count 1)
    else
      let high ← plainBits (count - 4) 0
      return base + high * 16 + (← numberBackward highSlotBits 4 1)

/-- Puts out again so many bytes from a distance back. -/
def repeatBytes (p : Properties) (distance : Nat) : Nat → Decoder Unit
  | 0 => return ()
  | n + 1 => do
    emit (← byteAt p distance)
    repeatBytes p distance n

/-- The distance that stands for the end of the data. -/
def endDistance : Nat := 0xFFFFFFFF

/-- Which of the last four distances is meant, which becomes the last one. -/
def chooseEarlier (phase : Nat) : List Nat → Decoder (List Nat)
  | [a, b, c, d] => do
    if !(← decision (isSecondBefore + phase)) then return [b, a, c, d]
    else if !(← decision (isThirdBefore + phase)) then return [c, a, b, d]
    else return [d, a, b, c]
  | other => return other

/-- Reads a reference with an earlier distance. -/
def readEarlier (p : Properties) (phase place : Nat) : Decoder Unit := do
  if (← get).output.isEmpty then throw .broken
  let before ← decision (isBefore + phase)
  let long ← if before then pure true else decision (isLong + 16 * phase + place)
  if before then
    let chosen ← chooseEarlier phase (← get).distances
    modify fun s => { s with distances := chosen }
  let distance := (← get).distances.headD 0
  if long then
    let length ← readLength earlierLength place
    modify fun s => { s with phase := if phase < 7 then 8 else 11 }
    repeatBytes p distance (length + 2)
  else
    modify fun s => { s with phase := if phase < 7 then 9 else 11 }
    emit (← byteAt p distance)

/-- Reads a reference with a new distance, which may be the end of the data. -/
def readNew (p : Properties) (phase place : Nat) : Decoder Bool := do
  let length ← readLength newLength place
  let distance ← readDistance length
  modify fun s => { s with
    phase := if phase < 7 then 7 else 10, distances := distance :: s.distances.take 3 }
  if distance = endDistance then
    refill
    if (← get).code ≠ 0 then throw .broken
    return true
  else
    repeatBytes p distance (length + 2)
    return false

/-- Reads symbols to the end of the data. -/
def readSymbols (p : Properties) : Nat → Decoder Unit
  | 0 => throw .short
  | fuel + 1 => do
    let s ← get
    let place := s.output.size % 1 <<< p.placeBits
    if !(← decision (isReference + 16 * s.phase + place)) then
      readByte p
      readSymbols p fuel
    else if ← decision (isEarlier + s.phase) then
      readEarlier p s.phase place
      readSymbols p fuel
    else if ← readNew p s.phase place then return ()
    else readSymbols p fuel

/-- Reads the data from the first byte, which is zero, on. A decision leaves at most 2017 of 2048
parts of the range, so there are fewer than 400 of them for each byte. -/
def readAll (p : Properties) : Decoder Unit := do
  if (← nextByte) ≠ 0 then throw .broken
  shift
  shift
  shift
  shift
  readSymbols p (400 * ((← get).bytes.length + 1))

/-- The bytes that range-coded symbols stand for. -/
def decodeSymbols (p : Properties) (bytes : Bytes) : Except Flaw Unpacked :=
  match (readAll p).run.run { bytes := bytes, chances := evenChances p } with
  | (.ok (), s) => .ok ⟨s.output.toList, true⟩
  | (.error .short, s) => .ok ⟨s.output.toList, false⟩
  | (.error .broken, _) => .error .symbols

/-- The bytes that LZMA data stand for. The properties come behind the version and their own size,
and count once there is a byte behind them. -/
def decode (data : Bytes) : Except Flaw Unpacked :=
  let size := Fields.word 2 data 2
  if data.length ≤ 4 ∨ data.length ≤ 4 + size then .ok ⟨[], false⟩
  else
    match Properties.ofBytes? (Fields.slice data 4 size) with
    | none => .error .properties
    | some p => decodeSymbols p (data.drop (4 + size))

end Wab.Lzma
