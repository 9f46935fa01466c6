import Wab.Text.Utf8

/-!
# Reading bits

Compressed data are read bit by bit, and much of them are words of prefix codes. The data may break
off before their end. What the bits at hand give is then the output, and that the end was not
reached is told; data that no compressed data begin with are refused.

* **`Bits.Unpacked`**: what compressed data give.
* **`Bits.Reader`**: a reader of bits that keeps its output when it stops.
* **`Bits.Code`**: a prefix code given by the lengths of its words.
-/

namespace Wab.Bits

/-- What compressed data give. -/
structure Unpacked where
  /-- The bytes. -/
  output : Bytes
  /-- The end of the data was reached. -/
  ended : Bool
  deriving DecidableEq, Repr

/-- Why reading stops before the end of the data. -/
inductive Stop where
  /-- The data are used up. -/
  | short
  /-- The data are none of their kind. -/
  | broken
  deriving DecidableEq, Repr

/-- What is left to read and what was made of the rest. -/
structure State where
  /-- The bits ahead, in the order in which they are read. -/
  bits : List Bool
  /-- The bytes so far. -/
  output : Array UInt8

/-- A reader of bits that keeps its output when it stops. -/
abbrev Reader := ExceptT Stop (StateM State)

/-- Reads bits from the beginning, and gives the output unless the data are broken. -/
def Reader.unpack (reader : Reader Unit) (bits : List Bool) : Option Unpacked :=
  match reader.run.run ⟨bits, #[]⟩ with
  | (.ok (), s) => some ⟨s.output.toList, true⟩
  | (.error .short, s) => some ⟨s.output.toList, false⟩
  | (.error .broken, _) => none

/-- Reads one bit. -/
def bit : Reader Bool := do
  let s ← get
  match s.bits with
  | [] => throw .short
  | b :: rest => set { s with bits := rest }; return b

/-- Puts a byte out. -/
def emit (byte : UInt8) : Reader Unit := modify fun s => { s with output := s.output.push byte }

/-! ## Prefix codes -/

/-- A prefix code: how many words it has of each length, and its symbols by length of their word. -/
structure Code where
  /-- The number of words of the lengths 1, 2, …, up to the greatest. -/
  counts : List Nat
  /-- The symbols, those with shorter words first. -/
  symbols : Array Nat

/-- The code whose symbols 0, 1, … have words of the given lengths, where the length 0 means no
word. -/
def Code.ofLengths (lengths : List Nat) : Code :=
  let greatest := lengths.foldl max 0
  let ofLength := fun n => (lengths.zipIdx.filter fun (l, _) => l == n).map (·.2)
  let groups := (List.range greatest).map fun n => ofLength (n + 1)
  ⟨groups.map List.length, groups.flatten.toArray⟩

/-- Reads a word of which the bits so far give the number `word`; the first word of this length is
`first`, and `index` symbols have shorter words. -/
def readWord (symbols : Array Nat) (word first index : Nat) : List Nat → Reader Nat
  | [] => throw .broken
  | count :: rest => do
    let word := 2 * word + (← bit).toNat
    if word < first + count then
      match symbols[index + (word - first)]? with
      | some symbol => return symbol
      | none => throw .broken
    else readWord symbols word (2 * (first + count)) (index + count) rest

end Wab.Bits
