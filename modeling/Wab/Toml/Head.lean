import Wab.Text.Blank
import Wab.Toml.Level
import Wab.Toml.Pieces

/-!
# Heads of tables in TOML

The head of a table says where the values below it go: it names tables from the top of the document
down. Two brackets on either side make it the head of one more table of a list. Tables on the way
come into being by themselves; their names are kept, and a table whose name is kept may still get a
head of its own.

* **`Toml.Head`**: a head.
* **`Toml.readHead`**: the head that a line is.
* **`Toml.enter`**: one step down.
-/

namespace Wab.Toml

/-- The head of a table. -/
structure Head where
  /-- The table is one more of a list. -/
  listed : Bool
  /-- The names from the top down. -/
  names : List Text
  deriving DecidableEq, Repr

/-! ## Reading -/

/-- The name can stand in a head without quotes. -/
def isBareName (name : Text) : Bool :=
  !name.isEmpty && name.all fun c => c.isAlphanum || c == '_' || c == '-'

/-- The text ends with the quote that it begins with. -/
def isQuoted (s : Text) : Bool := s.length != 1 && s.head? == s.getLast?

/-- The names in the parts between points. A part that begins with a quote goes on until one that
ends with it, and is given as `quoted`. -/
def headNames (quoted : Option Text) : List Text → Except Failure (List Text)
  | [] =>
    match quoted with
    | some _ => .error .malformed
    | none => .ok []
  | part :: rest => do
    let name := Text.trim (match quoted with
      | some before => before ++ .scalar '.' :: part
      | none => part)
    if quoted.isSome || (name.head?.map isQuote).getD false then
      if isQuoted name then return Text.inner 1 name :: (← headNames none rest)
      else headNames (some (match quoted with
        | some before => before ++ .scalar '.' :: part
        | none => name)) rest
    else if isBareName name then return name :: (← headNames none rest)
    else throw .malformed

/-- The head that a line is, which begins with a bracket. -/
def readHead (line : Text) : Except Failure Head := do
  if line.length = 1 then throw .malformed
  let listed := (line.drop 1).head? == some (.scalar '[')
  let (mark, line) := if listed then (([']', ']'] : Text), line.drop 2) else ([']'], line.drop 1)
  let parts := Text.parts mark line
  let n := cutPoint mark line
  if parts.length ≤ n ∨ Text.trim (rejoin mark (parts.drop n)) ≠ [] then throw .malformed
  return ⟨listed, ← headNames none ((rejoin mark (parts.take n)).splitOn (.scalar '.'))⟩

/-! ## Entering -/

/-- A place on the way down a head. -/
structure Descent where
  /-- The level, which may have got a new table. -/
  level : Value
  /-- The names of tables that came into being on the way to another one. -/
  implied : List Text
  /-- The steps down from the level. -/
  steps : List Step

/-- An empty table, alone or in a list. -/
def newTable (inList : Bool) : Value := if inList then .list [.table []] else .table []

/-- The level with one more table in the list that it has under a name. -/
def extend (level : Value) (name : Text) : Except Accident Value := do
  match ← child level name with
  | .list items => assign level name (.list (items ++ [.table []]))
  | _ => throw .notExtensible

/-- One step down in a table. The last name of a head must be new, or that of a table on the way to
another one, or that of the list of the table. -/
def enterTable (level : Value) (implied : List Text) (name : Text) (final listed : Bool) :
    Except Failure Descent := do
  if ← orAccident (holds level name) then
    if !final then return ⟨level, implied, [.name name]⟩
    else if implied.contains name then
      if listed then throw .malformed
      return ⟨level, implied.erase name, [.name name]⟩
    else if listed then return ⟨← orAccident (extend level name), implied, [.name name]⟩
    else
      -- The level belongs to the report of the name, and must be shown for it.
      match unshowable? nestingRoom level with
      | some cause => throw (.accident cause)
      | none => throw .malformed
  else
    let level ← orAccident (assign level name (newTable (final && listed)))
    return ⟨level, if final then implied else implied ++ [name], [.name name]⟩

/-- One step down in the last item of a list. -/
def enterLast (level : Value) (implied : List Text) (name : Text) (final listed : Bool) :
    Except Accident Descent := do
  let item ← last level
  let item ← if ← holds item name then pure item
    else assign item name (newTable (final && listed))
  -- The name must be that of a value, whether or not it was found.
  let _ ← child item name
  return ⟨setLast level item, implied, [.last, .name name]⟩

/-- One step down. Behind every name of a listed head stands the last item of what it names. -/
def enter (level : Value) (implied : List Text) (name : Text) (final listed : Bool) :
    Except Failure Descent := do
  if name = [] then throw .malformed
  let d ← match level.table? with
    | some _ => enterTable level implied name final listed
    | none => orAccident (enterLast level implied name final listed)
  if !listed then return d
  let _ ← orAccident (last (← orAccident (follow d.level d.steps)))
  return { d with steps := d.steps ++ [.last] }

/-! ## Examples -/

example : (readHead "[[a.\"b.c\"]] ").toOption
    = some ⟨true, ["a", "b.c"]⟩ := by
  decide +kernel

example : (readHead "[a b]").toOption = none := by decide +kernel

end Wab.Toml
