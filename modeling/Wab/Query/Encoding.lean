import Wab.Log
import Wab.Text.Blank
import Wab.Text.Quoted
import Wab.Text.Utf8

/-!
# Percent-encoded queries

The query of a locator is percent-decoded if it is legal: made of the characters that a query may
hold, of characters beyond U+009F that are not white space, and of percent signs with two
hexadecimal digits each. A query that is not legal is taken to be decoded already.

* **`Query.isLegal q`**: the query is to be decoded.
* **`Query.unescape s`**: percent-decoding; escapes between other characters of ASCII give bytes
  that are read as UTF-8.
* **`Query.decode q`**: the query in clear.
-/

namespace Wab.Query

/-- The character is a hexadecimal digit. -/
def isHexDigit (c : CodePoint) : Bool :=
  c.isDigit || c.isBetween 'a' 'f' || c.isBetween 'A' 'F'

/-- The value of a hexadecimal digit. -/
def hexValue (c : CodePoint) : Nat :=
  if c.isDigit then c.toNat - '0'.toNat
  else if 'a'.toNat ≤ c.toNat then c.toNat - 'a'.toNat + 10
  else c.toNat - 'A'.toNat + 10

/-- The marks that a query may hold as they are. -/
def marks : Text := "-._~!$&'()*+,;=:@/?[]"

/-- The character may stand in a query as it is. -/
def isRaw (c : CodePoint) : Bool :=
  c.isAlphanum || c ∈ marks || (0x9F < c.toNat && !Text.isBlank c)

/-- Raw characters and escapes only. -/
def isEncoded : Text → Bool
  | [] => true
  | '%' :: a :: b :: rest => isHexDigit a && isHexDigit b && isEncoded rest
  | c :: rest => isRaw c && isEncoded rest

/-- The query is to be decoded: it is made of raw characters and escapes, a single line feed after
them left out of account. -/
def isLegal (query : Text) : Bool :=
  isEncoded query || (query.getLast? == some (.scalar '\n') && isEncoded query.dropLast)

/-- The character is one of ASCII. -/
def isAscii (c : CodePoint) : Bool := c.toNat < 0x80

/-- The bytes that a text of ASCII characters stands for. -/
def unescapeBytes : Text → Bytes
  | [] => []
  | '%' :: a :: b :: rest =>
    if isHexDigit a && isHexDigit b then
      UInt8.ofNat (hexValue a * 16 + hexValue b) :: unescapeBytes rest
    else 0x25 :: unescapeBytes (a :: b :: rest)
  | c :: rest => UInt8.ofNat c.toNat :: unescapeBytes rest

/-- The text with its escapes resolved: the bytes of each maximal run of ASCII characters are read
as UTF-8, ill-formed parts replaced. -/
def unescape : Text → Text
  | [] => []
  | c :: rest =>
    if isAscii c then
      Utf8.decodeLossy (unescapeBytes (c :: rest.takeWhile isAscii))
        ++ unescape (rest.dropWhile isAscii)
    else c :: unescape rest
termination_by s => s.length
decreasing_by
  · exact Nat.lt_succ_of_le (List.dropWhile_suffix isAscii).length_le
  · simp

/-- The query in clear. -/
def clear (query : Text) : Text := if isLegal query then unescape query else query

variable {ε : Type}

/-- The query in clear, if there is one, with a report on how it was read. -/
def decode : Option Text → Traced ε (Option Text)
  | none => pure none
  | some query => do
    .say .debug s!"encodedQuery = {Text.str query}"
    if !isLegal query then
      .say .info s!"Assuming query {Text.quoted query} is already decoded"
    .say .debug s!"decodedQuery = {Text.str (clear query)}"
    return some (clear query)

/-! ## Readings -/

@[simp] theorem unescape_nil : unescape [] = [] := by simp [unescape]

@[simp] theorem result_decode (query : Option Text) :
    (decode query : Traced ε (Option Text)).result = .ok (query.map clear) := by
  cases query with
  | none => rfl
  | some query =>
    rw [decode]
    cases isLegal query with
    | false => rfl
    | true => rfl

example : clear "a%2Fb%C3%A9" = "a/bé" := by decide +kernel

example : clear "a b%2F" = "a b%2F" := by decide +kernel

end Wab.Query
