import Wab.Toml.Head
import Wab.Toml.Reader
import Wab.Toml.Scanner

/-!
# TOML documents

A document is a table of named values. Its lines fill it one after the other: a head says where the
values below it go, a line with an equals sign gives a value to a key, an inline table gives
several, and lines without an equals sign do not count.

* **`Toml.Document`**: the table so far.
* **`Toml.Document.add`**: the table after one more line.
* **`Toml.parse`**: the table that a text is.
-/

namespace Wab.Toml

/-- A document that is being filled. -/
structure Document where
  /-- The table. -/
  root : Value := .table []
  /-- The names of tables that came into being on the way to another one. -/
  implied : List Text := []
  /-- The place of the level that values go to. -/
  place : List Step := []
  /-- A long string that is being read. -/
  pending : Option Pending := none

namespace Document

/-- The level that values go to. -/
def level (doc : Document) : Except Failure Value := orAccident (follow doc.root doc.place)

/-- The document with another level at the place that values go to. -/
def withLevel (doc : Document) (level : Value) : Except Failure Document := do
  return { doc with root := ← orAccident (replace doc.root level doc.place) }

/-- One more name of a head. -/
def descend (doc : Document) (listed : Bool) (name : Text) (final : Bool) :
    Except Failure Document := do
  let d ← enter (← doc.level) doc.implied name final listed
  let doc ← doc.withLevel d.level
  return { doc with implied := d.implied, place := doc.place ++ d.steps }

/-- The names of a head, down from the place that was reached. -/
def descendAll (doc : Document) (listed : Bool) : List Text → Except Failure Document
  | [] => .ok doc
  | name :: rest => do descendAll (← doc.descend listed name rest.isEmpty) listed rest

/-- The document behind a head. -/
def openHead (doc : Document) (head : Head) : Except Failure Document :=
  descendAll { doc with place := [] } head.listed head.names

/-- The document behind a line that begins with a brace. A long string in it is not read on. -/
def addInline (doc : Document) (line : Text) : Except Failure Document := do
  if line.getLast? ≠ some (.scalar '\x7d') then throw .malformed
  doc.withLevel (← readInline valueOf (← doc.level) line)

/-- The document behind a line with an equals sign. -/
def addValue (doc : Document) (line : Text) : Except Failure Document := do
  let (level, pending) ← readLine valueOf (← doc.level) line
  return { ← doc.withLevel level with pending := pending }

/-- A long string, or an array with one at its end, is closed by a line. -/
def closes (text line : Text) : Except Failure Bool :=
  match text.head?, line.getLast? with
  | some '[', some last => .ok (last == ']')
  | some '[', none => .error (.accident .noCharacter)
  | some quote, _ => .ok (2 < line.length && line.reverse.take 3 == [quote, quote, quote])
  | none, _ => .ok false

/-- The document behind one more line of a long string. -/
def extend (doc : Document) (p : Pending) (line : Text) : Except Failure Document := do
  let text := p.text ++ line
  if ← closes text line then
    let level ← orAccident (assign (← doc.level) p.name (← valueOf true text))
    return { ← doc.withLevel level with pending := none }
  else return { doc with pending := some (unfinished p.name text) }

/-- The document behind one more line. White space around a line does not count, except in a long
string that has a line end already. -/
def add (doc : Document) (line : Text) : Except Failure Document :=
  match doc.pending with
  | some p =>
    let line := if p.continued || !p.text.contains '\n' then Text.trim line else line
    if line.isEmpty && p.continued then .ok doc else doc.extend p line
  | none =>
    match Text.trim line with
    | [] => .ok doc
    | c :: rest => do
      if c = '[' then doc.openHead (← readHead (c :: rest))
      else if c = '\x7b' then doc.addInline (c :: rest)
      else if .scalar '=' ∈ c :: rest then doc.addValue (c :: rest)
      else return doc

end Document

/-- The table that a text is, whose lines end with line feeds. -/
def parse (s : Text) : Except Failure (Dictionary Value) := do
  let doc ← ((← prepare s).splitOn (.scalar '\n')).foldlM Document.add {}
  return doc.root.table?.getD []

/-! ## Examples -/

example : ((parse "[a]\nb = '''x\ny'''\n").toOption.map fun d =>
    d.map fun (n, v) => (n, (v.table?.getD []).map fun (n, v) => (n, v.text?)))
    = some [(↑"a", [(↑"b", some ↑"x\ny")])] := by
  decide +kernel

end Wab.Toml
