import Wab.Text.Utf8

/-!
# Fields of binary records

The records of a zip archive are sequences of little-endian numbers and byte strings at fixed
places.

* **`Fields.slice`**: the bytes from one place on, up to a number of them.
* **`Fields.word`**, **`Fields.number`**: a little-endian number read and written.
* **`Fields.lastPlace?`**: the last place where a mark stands.
-/

namespace Wab.Fields

/-- At most `size` bytes from the place `start` on. -/
def slice (bytes : Bytes) (start size : Nat) : Bytes := (bytes.drop start).take size

/-- The number that bytes give, the least significant first. -/
def value (bytes : Bytes) : Nat := bytes.foldr (fun byte rest => byte.toNat + 256 * rest) 0

/-- The number in the `size` bytes from the place `start` on. -/
def word (size : Nat) (bytes : Bytes) (start : Nat) : Nat := value (slice bytes start size)

/-- A number in `size` bytes, the least significant first. -/
def number : (size : Nat) → Nat → Bytes
  | 0, _ => []
  | size + 1, n => UInt8.ofNat (n % 256) :: number size (n / 256)

/-- The last place where `mark` stands. -/
def lastPlace? (mark : Bytes) : Bytes → Option Nat
  | [] => none
  | byte :: rest =>
    match lastPlace? mark rest with
    | some place => some (place + 1)
    | none => if mark.isPrefixOf (byte :: rest) then some 0 else none

/-! ## Readings -/

@[simp] theorem length_number (size n : Nat) : (number size n).length = size := by
  induction size generalizing n with
  | zero => rfl
  | succ size ih => simp [number, ih]

end Wab.Fields
