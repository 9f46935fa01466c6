import Wab.Text.Basic

/-!
# Texts as bytes

UTF-8 in both directions. A text that holds a surrogate has no bytes. A byte sequence that is not
well formed is read in one of two ways: it is refused, or each maximal ill-formed part (as much of a
sequence as a well-formed one could begin with, but at least one byte) is replaced by U+FFFD.

* **`Utf8.bytes s`**: the bytes of characters.
* **`Utf8.encode s`**: the bytes of a text, or the surrogates that stand in the way.
* **`Utf8.encodePath s`**: the bytes of the path of a file, where a surrogate may stand for a byte.
* **`Utf8.decode? bytes`**: the text, or nothing if the bytes are ill-formed.
* **`Utf8.decodeLossy bytes`**: the text with replacements.
-/

namespace Wab

/-- A sequence of bytes. -/
abbrev Bytes := List UInt8

namespace Utf8

/-- The bytes of characters. -/
def bytes (s : List Char) : Bytes := s.flatMap String.utf8EncodeChar

/-- Surrogates that stand in the way of the encoding of a text. -/
structure Flaw where
  /-- The place of the first one. -/
  place : Nat
  /-- The first one, by its distance from U+D800. -/
  first : Fin 0x800
  /-- The number of surrogates that follow it without a gap. -/
  more : Nat := 0
  deriving DecidableEq, Repr

/-- The flaw in words. -/
def Flaw.message (f : Flaw) : String :=
  let what := if f.more = 0 then
      s!"character '{Text.str [.surrogate f.first]}' in position {f.place}"
    else s!"characters in position {f.place}-{f.place + f.more}"
  s!"'utf-8' codec can't encode {what}: surrogates not allowed"

/-- The bytes of the rest of a text from a place on. Some surrogates may stand for bytes. -/
def encodeFrom (byte? : Fin 0x800 → Option UInt8) (place : Nat) : Text → Except Flaw Bytes
  | [] => .ok []
  | .scalar c :: rest => do
    return String.utf8EncodeChar c ++ (← encodeFrom byte? (place + 1) rest)
  | .surrogate n :: rest =>
    match byte? n with
    | some byte => do return byte :: (← encodeFrom byte? (place + 1) rest)
    | none => .error ⟨place, n, (rest.takeWhile CodePoint.isSurrogate).length⟩

/-- The bytes of a text, unless there are surrogates in it. -/
def encode (s : Text) : Except Flaw Bytes := encodeFrom (fun _ => none) 0 s

/-- The byte that a surrogate stands for in a path: from U+DC80 on, a byte outside ASCII. -/
def smuggled? (n : Fin 0x800) : Option UInt8 :=
  if 0x480 ≤ n.val ∧ n.val < 0x500 then some (UInt8.ofNat (n.val - 0x400)) else none

/-- The bytes of the path of a file. -/
def encodePath (s : Text) : Except Flaw Bytes := encodeFrom smuggled? 0 s

/-- What the first byte of a sequence announces: its share of the character's number, the number of
bytes that follow, and the range of the first of them. -/
structure Lead where
  /-- The bits of the character's number that the first byte holds. -/
  bits : Nat
  /-- How many bytes follow. -/
  following : Nat
  /-- The least value of the next byte. -/
  least : Nat
  /-- The greatest value of the next byte. -/
  greatest : Nat

/-- What a byte announces if a sequence can begin with it. The ranges leave out overlong forms,
surrogates and numbers above U+10FFFF. -/
def Lead.ofByte? (byte : UInt8) : Option Lead :=
  let n := byte.toNat
  if n < 0x80 then some ⟨n, 0, 0x80, 0xBF⟩
  else if n < 0xC2 then none
  else if n < 0xE0 then some ⟨n - 0xC0, 1, 0x80, 0xBF⟩
  else if n = 0xE0 then some ⟨0, 2, 0xA0, 0xBF⟩
  else if n = 0xED then some ⟨0xD, 2, 0x80, 0x9F⟩
  else if n < 0xF0 then some ⟨n - 0xE0, 2, 0x80, 0xBF⟩
  else if n = 0xF0 then some ⟨0, 3, 0x90, 0xBF⟩
  else if n < 0xF4 then some ⟨n - 0xF0, 3, 0x80, 0xBF⟩
  else if n = 0xF4 then some ⟨4, 3, 0x80, 0x8F⟩
  else none

/-- Reads the bytes that still belong to a sequence and gives its character, or nothing where the
sequence breaks off, and the bytes that are left. -/
def follow (bits : Nat) : (following least greatest : Nat) → Bytes → Option Char × Bytes
  | 0, _, _, bytes => (some (Char.ofNat bits), bytes)
  | _ + 1, _, _, [] => (none, [])
  | following + 1, least, greatest, byte :: bytes =>
    if least ≤ byte.toNat ∧ byte.toNat ≤ greatest then
      follow (bits * 64 + (byte.toNat - 0x80)) following 0x80 0xBF bytes
    else (none, byte :: bytes)

/-- Reads one character or one ill-formed part. -/
def next (byte : UInt8) (bytes : Bytes) : Option Char × Bytes :=
  match Lead.ofByte? byte with
  | some lead => follow lead.bits lead.following lead.least lead.greatest bytes
  | none => (none, bytes)

theorem length_follow_le (bits following least greatest : Nat) (bytes : Bytes) :
    (follow bits following least greatest bytes).2.length ≤ bytes.length := by
  induction following generalizing bits least greatest bytes with
  | zero => simp [follow]
  | succ n ih =>
    cases bytes with
    | nil => simp [follow]
    | cons byte bytes =>
      simp only [follow]
      split
      · exact Nat.le_succ_of_le (ih ..)
      · exact Nat.le_refl _

theorem length_next_le (byte : UInt8) (bytes : Bytes) :
    (next byte bytes).2.length ≤ bytes.length := by
  unfold next
  split
  · exact length_follow_le ..
  · exact Nat.le_refl _

/-- The characters of a byte sequence, with nothing in the place of each ill-formed part. -/
def characters : Bytes → List (Option Char)
  | [] => []
  | byte :: bytes => (next byte bytes).1 :: characters (next byte bytes).2
termination_by bytes => bytes.length
decreasing_by exact Nat.lt_succ_of_le (length_next_le ..)

/-- The text that the bytes encode, or nothing if they are ill-formed. -/
def decode? (bytes : Bytes) : Option Text := (characters bytes).mapM (·.map CodePoint.scalar)

/-- The text that the bytes encode, with U+FFFD for each ill-formed part. -/
def decodeLossy (bytes : Bytes) : Text := (characters bytes).map fun c => c.getD '\uFFFD'

end Utf8

end Wab
