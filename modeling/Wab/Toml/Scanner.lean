import Wab.Text.Blank
import Wab.Text.WordCharacter
import Wab.Toml.Failure

/-!
# Lines of a TOML document

A document is read in two passes. The first one goes over its characters and leaves a text in which
every line says one thing: comments become spaces, and so do the line ends inside an array; the line
end behind the quotes that begin a long string is dropped together with one of the quotes' places.
On the way it checks the characters of the keys and that every string is closed.

* **`Toml.Scanner`**: what is known after some characters.
* **`Toml.Scanner.step`**: one more character.
* **`Toml.prepare`**: the text that the first pass leaves.
-/

namespace Wab.Toml

/-- How far the key of a value is read. -/
inductive KeyState where
  /-- No key is being read. -/
  | outside
  /-- Inside a name. -/
  | inside
  /-- Behind a name. -/
  | behind
  deriving DecidableEq, Repr

/-- The head that is being read. -/
inductive HeadState where
  /-- None. -/
  | outside
  /-- The head of a table. -/
  | table
  /-- The head of a table in a list. -/
  | listTable
  deriving DecidableEq, Repr

/-- What is known after some characters. -/
structure Scanner where
  /-- The characters as they are left, the last one first. -/
  behind : Text := []
  /-- How far a key is read. -/
  key : KeyState := .outside
  /-- The key has a point. -/
  dotted : Bool := false
  /-- The quote that opened the string at hand. -/
  quote : Option CodePoint := none
  /-- A long string is open. -/
  long : Bool := false
  /-- The head at hand. -/
  head : HeadState := .outside
  /-- The number of open brackets of arrays. -/
  depth : Int := 0
  /-- Nothing but spaces and tabs stands on the line so far. -/
  fresh : Bool := true
  /-- A comment is being passed over. -/
  comment : Bool := false
  deriving DecidableEq, Repr

namespace Scanner

/-- One more character is left as it is given. -/
def push (s : Scanner) (c : CodePoint) : Scanner := { s with behind := c :: s.behind }

/-- A name of a key follows directly. There is an accident at the end of the text. -/
def nameFollows : Text → Except Failure Bool
  | [] => .error (.accident .noItem)
  | c :: _ => .ok (!Text.isBlank c && c != '.')

/-- The state behind one more character of a key, nothing if it is none. -/
def readKey (s : Scanner) (c : CodePoint) (ahead : Text) : Except Failure (Option Scanner) :=
  match s.quote with
  | some quote =>
    if c = quote ∧ !isEscapedBy s.behind then
      .ok (some { s with key := .behind, quote := none })
    else .ok (some s)
  | none =>
    match s.key with
    | .outside => .ok none
    | .inside =>
      if Text.isBlank c then .ok (some { s with key := .behind })
      else if c = '.' then .ok (some { s with dotted := true })
      else if Text.isAlphanumeric c || c == '_' || c == '-' then .ok (some s)
      else if s.dotted && s.behind.head? == some (.scalar '.') && isQuote c then
        .ok (some { s with quote := some c })
      else .ok none
    | .behind => do
      if c = '.' then
        let key := if ← nameFollows ahead then .inside else .behind
        return some { s with dotted := true, key := key }
      if !Text.isBlank c then return none
      if !s.dotted then return some s
      return some { s with key := if ← nameFollows ahead then .inside else .behind }

/-- The characters in front of the one at hand, the nearest first. Where there are only quotes and
backslashes, they go on from the end of the text, once around. -/
def before (s : Scanner) (c : CodePoint) (ahead : Text) : Text :=
  if s.behind.all fun x => isQuote x || x == '\\' then s.behind ++ ahead.reverse ++ c :: s.behind
  else s.behind

/-- How many quotes stand directly in front, where two are as good as more. -/
def quotesBefore (s : Scanner) (c : CodePoint) (ahead : Text) : Nat :=
  min 2 ((s.before c ahead).takeWhile (· == c)).length

/-- The string that a quote opens or closes, where the third one of three is for a long string. -/
def turn (s : Scanner) (c : CodePoint) (third : Bool) : Scanner :=
  let isOpen := if third then !s.long else s.quote.isNone
  { s with
    long := if third then !s.long else s.long
    quote := if isOpen then some c else none }

/-- The state behind an apostrophe that belongs to no double quotes. -/
def apostrophe (s : Scanner) (ahead : Text) : Scanner :=
  s.turn '\'' (s.quotesBefore '\'' ahead == 2)

/-- The state behind a double quote that belongs to no apostrophes. It does not count if it is
escaped. -/
def doubleQuote (s : Scanner) (ahead : Text) : Scanner :=
  let quotes := s.quotesBefore '"' ahead
  let escaped := quotes != 1 && isEscapedBy ((s.before '"' ahead).drop quotes)
  if escaped then s else s.turn '"' (quotes == 2)

/-- The state behind an opening bracket outside strings and heads. -/
def openBracket (s : Scanner) (ahead : Text) : Scanner :=
  if s.fresh then { s with head := if ahead.head? = some (.scalar '[') then .listTable else .table }
  else { s with depth := s.depth + 1 }

/-- The state behind a closing bracket outside strings. -/
def closeBracket (s : Scanner) : Scanner :=
  match s.head with
  | .table => { s with head := .outside }
  | .listTable => if s.behind.head? = some (.scalar ']') then { s with head := .outside } else s
  | .outside => { s with depth := s.depth - 1 }

/-- The state behind a line end. After two quotes it becomes a quote itself, and the third quote
before it makes room. -/
def lineEnd (s : Scanner) : Except Failure Scanner :=
  if s.long then
    match s.behind with
    | a :: b :: rest =>
      if isQuote a && a == b then
        let rest := match rest with
          | c :: more => if c = a then ' ' :: more else rest
          | [] => []
        .ok { s with behind := a :: a :: b :: rest }
      else .ok (s.push '\n')
    | _ => .ok (s.push '\n')
  else if s.quote.isSome then .error .malformed
  else if s.depth ≠ 0 then .ok (s.push ' ')
  else .ok { s.push '\n' with fresh := true }

/-- The state behind another character. The first one of a line begins a key, whatever it is. -/
def other (s : Scanner) (c : CodePoint) : Except Failure Scanner :=
  if s.fresh && c != ' ' && c != '\t' then
    if s.head ≠ .outside then .ok { s.push c with fresh := false }
    else if c = '=' then .error .malformed
    else .ok { s.push c with fresh := false, key := .inside }
  else .ok (s.push c)

/-- The state behind one more character outside keys and comments. -/
def read (s : Scanner) (c : CodePoint) (ahead : Text) : Except Failure Scanner :=
  if c = '\n' then s.lineEnd
  else if c = '\'' ∧ s.quote ≠ some (.scalar '"') then (s.apostrophe ahead).other c
  else if c = '"' ∧ s.quote ≠ some (.scalar '\'') then (s.doubleQuote ahead).other c
  else if c = ']' ∧ s.quote = none then s.closeBracket.other c
  else if s.quote.isSome || s.head ≠ .outside then s.other c
  else if c = '[' then (s.openBracket ahead).other c
  else if c = '#' then .ok { s.push ' ' with comment := true }
  else s.other c

/-- The state behind one more character. -/
def step (s : Scanner) (c : CodePoint) (ahead : Text) : Except Failure Scanner :=
  if s.comment && c != '\n' then .ok (s.push ' ')
  else if s.key = .outside then { s with comment := false }.read c ahead
  else if c = '\n' then .error .malformed
  else do
    match ← s.readKey c ahead with
    | some s => return s.push c
    | none =>
      if c ≠ '=' then throw .malformed
      return { s.push c with key := .outside, dotted := false }

/-- The state behind a text. -/
def run (s : Scanner) : Text → Except Failure Scanner
  | [] => .ok s
  | c :: ahead => do run (← s.step c ahead) ahead

@[simp] theorem run_nil (s : Scanner) : s.run [] = .ok s := rfl

@[simp] theorem run_cons (s : Scanner) (c : CodePoint) (ahead : Text) :
    s.run (c :: ahead) = s.step c ahead >>= fun s => s.run ahead := rfl

/-- The text that is left at the end, where no key and no string may be open. -/
def finish (s : Scanner) : Except Failure Text :=
  if s.key = .outside ∧ s.quote = none then .ok s.behind.reverse else .error .malformed

end Scanner

/-- The text that the first pass leaves. -/
def prepare (s : Text) : Except Failure Text := do (← Scanner.run {} s).finish

/-! ## Examples -/

example : (prepare "a = [1, # one\n2]\n").toOption = some ↑"a = [1,       2]\n" := by
  decide +kernel

example : (prepare "a = \"x\n").toOption = none := by decide +kernel

example : (prepare "a = '''\nx'''\n").toOption = some ↑"a =  '''x'''\n" := by
  decide +kernel

end Wab.Toml
