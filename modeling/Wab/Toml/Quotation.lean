import Wab.Query.Encoding
import Wab.Toml.Failure

/-!
# Strings in TOML

A string stands between double quotes, in which a backslash begins an escape, or between
apostrophes, in which every character stands for itself; three quotes on either side enclose a long
string. Escapes are resolved in the whole text with its quotes, numbered ones first, and the quotes
are taken off last.

* **`Toml.isClosedOnce`**: nothing follows the closing quote.
* **`Toml.resolve`**: the text with its escapes resolved.
* **`Toml.readString`**: the string that a text with its quotes stands for.
-/

namespace Wab.Toml

/-- The characters after a backslash with what they stand for. -/
def escapes : List (CodePoint × CodePoint) :=
  [('0', '\x00'), ('b', '\x08'), ('f', '\x0c'), ('n', '\n'), ('r', '\r'), ('t', '\t'), ('"', '"')]

/-! ## The end of a string -/

/-- Nothing follows the closing quote of a string, given the parts between its quotes. `closed`
tells that the string has ended, and `run` counts the quotes since the last part. -/
def closesOnce (long closed : Bool) (run : Nat) : List Text → Bool
  | [] => true
  | [] :: rest =>
    if long then closesOnce long closed (run + 1) rest else closesOnce long true run rest
  | part :: rest =>
    if endsEscaping part then closesOnce long closed run rest
    else if closed then false
    else if !long || 1 < run then closesOnce long true run rest
    else closesOnce long closed 0 rest

/-- Nothing follows the closing quote of a string, given what follows its first quote. -/
def isClosedOnce (quote : CodePoint) (s : Text) : Bool :=
  match s.splitOn quote with
  | [] :: [] :: rest => closesOnce true false 0 rest
  | parts => closesOnce false false 0 parts

/-! ## Escapes -/

/-- Every backslash begins an escape, given the parts behind the backslashes. `escaped` tells that
the backslash at hand is escaped by the one before. -/
def areEscapes (escaped : Bool) : List Text → Bool
  | [] => true
  | [] :: rest => areEscapes (!escaped) rest
  | (c :: _) :: rest =>
    (escaped || (escapes.lookup c).isSome || c == 'u' || c == 'U') && areEscapes false rest

/-- The code point of the number that hexadecimal digits give. -/
def numbered (digits : Text) : Except Failure CodePoint := do
  if !digits.all Query.isHexDigit then throw .malformed
  match digits with
  | [] => throw (.accident .noCharacter)
  | [d] => if d.toLower = 'd' then throw (.accident .noCharacter)
  | d :: e :: _ => if d.toLower = 'd' ∧ 8 ≤ Query.hexValue e then throw .malformed
  let n := digits.foldl (fun n c => n * 16 + Query.hexValue c) 0
  if 0x7FFFFFFF < n then throw (.accident .numberTooGreat)
  orMalformed (CodePoint.ofNat? n)

/-- The text with its numbered escapes resolved, given the parts between their marks. An escaped
mark stays as it is. -/
def insertNumbered (mark : Text) (width : Nat) (s : Text) (escaped : Bool) :
    List Text → Except Failure Text
  | [] => .ok s
  | part :: rest =>
    if escaped then insertNumbered mark width (s ++ mark ++ part) (endsEscaping part) rest
    else do
      let c ← numbered (part.take width)
      insertNumbered mark width (s ++ c :: part.drop width) false rest

/-- The text with the numbered escapes of a mark resolved. -/
def resolveNumbered (mark : Text) (width : Nat) (s : Text) : Except Failure Text :=
  match Text.parts mark s with
  | [] => .ok []
  | first :: rest => insertNumbered mark width first (endsEscaping first) rest

/-- The text with its other escapes resolved. Marks of numbered ones stay as they are. -/
def unescape : Text → Except Failure Text
  | '\\' :: c :: rest =>
    match escapes.lookup c with
    | some e => (unescape rest).map (e :: ·)
    | none =>
      if c = '\\' then (unescape rest).map ('\\' :: ·)
      else if c = 'u' ∨ c = 'U' then (unescape rest).map fun s => '\\' :: c :: s
      else .error .malformed
  | c :: rest => (unescape rest).map (c :: ·)
  | [] => .ok []

/-- The text with its escapes resolved. -/
def resolve (s : Text) : Except Failure Text := do
  if !areEscapes false ((s.splitOn (.scalar '\\')).drop 1) then throw .malformed
  let s ← resolveNumbered "\\u" 4 s
  let s ← resolveNumbered "\\U" 8 s
  unescape s

/-! ## Whole strings -/

/-- The text without the quotes around it: three if the second and the third character are quotes or
there are only two, otherwise one. -/
def withoutQuotes (quote : CodePoint) (s : Text) : Text :=
  match s with
  | [_, b] => if b = quote then Text.inner 1 (Text.inner 2 s) else Text.inner 1 s
  | _ :: b :: c :: _ =>
    if b = quote ∧ b = c then Text.inner 1 (Text.inner 2 s) else Text.inner 1 s
  | _ => Text.inner 1 s

/-- The string that a text stands for, whose first character is the quote. -/
def readString (quote : CodePoint) (s : Text) : Except Failure Text := do
  if !isClosedOnce quote (s.drop 1) then throw .malformed
  if quote = '"' then return withoutQuotes quote (← resolve s)
  else return withoutQuotes quote s

/-! ## Examples -/

example : (readString '"' "\"a\\tb\\u00e9\"").toOption = some ↑"a\tbé" := by
  decide +kernel

example : (readString '\'' "'''a\\q'''").toOption = some ↑"a\\q" := by decide +kernel

example : (readString '"' "\"a\" b\"").toOption = none := by decide +kernel

end Wab.Toml
