import Wab.Toml.Failure
import Wab.Value

/-!
# Levels of a document

Values are put into a level of a document, which ought to be a table. Nothing keeps a document from
naming a list, a text or a number as a level, and what can be done with it then depends on its type:
a list can be searched and its last item taken, a text too, a number can do nothing.

* **`Toml.holds`**: a level has a value of a name.
* **`Toml.child`**, **`Toml.assign`**: the value of a name, and the level with another one.
* **`Toml.last`**: the last item of a level.
* **`Toml.unshowable?`**: what keeps a level from being shown.
* **`Toml.follow`**, **`Toml.replace`**: what stands at a place, and the level with something else
  there.
-/

namespace Wab.Toml

/-- The value is the text of a name. -/
def isTextOf (name : Text) : Value → Bool
  | .text s => s == name
  | _ => false

/-- The level has a value of a name. In a list a name is found as an item, in a text as a part. -/
def holds (level : Value) (name : Text) : Except Accident Bool :=
  match level with
  | .table fields | .inlineTable fields => .ok (Dictionary.contains fields name)
  | .list items => .ok (items.any (isTextOf name))
  | .text s => .ok (Text.includes name s)
  | v => .error (.notSearchable v.fullTypeName)

/-- The value that a level has of a name that it holds. -/
def child (level : Value) (name : Text) : Except Accident Value :=
  match level with
  | .table fields | .inlineTable fields => .ok ((Dictionary.get? fields name).getD .null)
  | .list _ => .error .nameInList
  | .text _ => .error .nameInText
  | v => .error (.noItems v.fullTypeName)

/-- The level with a value given to a name. -/
def assign (level : Value) (name : Text) (value : Value) : Except Accident Value :=
  match level with
  | .table fields => .ok (.table (Dictionary.insert fields name value))
  | .inlineTable fields => .ok (.inlineTable (Dictionary.insert fields name value))
  | .list _ => .error .nameInList
  | .text _ => .error .fixedText
  | v => .error (.noItems v.fullTypeName)

/-- The last item of a level. A table is not asked for one. -/
def last (level : Value) : Except Accident Value :=
  match level with
  | .table _ | .inlineTable _ => .ok level
  | .list items => items.getLast?.elim (.error .noItem) .ok
  | .text s => s.getLast?.elim (.error .noCharacter) fun c => .ok (.text [c])
  | v => .error (.noItems v.fullTypeName)

/-- The level with a value as its last item. -/
def setLast (level value : Value) : Value :=
  match level with
  | .list items => .list (items.dropLast ++ [value])
  | .table _ | .inlineTable _ => value
  | v => v

/-! ## Showing -/

/-- The room for values within values, in steps. -/
def nestingRoom : Nat := 990

/-- What keeps a value from being shown in the room that is left, of which every value takes a step:
the first whole number that is too long, or the first value that there is no room for. -/
def unshowable? : Nat → Value → Option Accident
  | 0, _ => some .shownTooDeep
  | room + 1, v =>
    match v with
    | .int n => if Text.hasRoom n then none else some .numberTooLong
    | .list items => items.findSome? (unshowable? room)
    | .table fields | .inlineTable fields => fields.findSome? fun (_, v) => unshowable? room v
    | _ => none

/-! ## Places -/

/-- A step down from a level. -/
inductive Step where
  /-- To the value of a name. -/
  | name (name : Text)
  /-- To the last item. -/
  | last
  deriving DecidableEq, Repr

/-- What stands at a place below a level. -/
def follow (level : Value) : List Step → Except Accident Value
  | [] => .ok level
  | .name name :: steps => do follow (← child level name) steps
  | .last :: steps => do follow (← last level) steps

/-- The level with a value at a place below it. -/
def replace (level value : Value) : List Step → Except Accident Value
  | [] => .ok value
  | .name name :: steps => do assign level name (← replace (← child level name) value steps)
  | .last :: steps => do return setLast level (← replace (← last level) value steps)

/-! ## Readings -/

@[simp] theorem follow_nil (level : Value) : follow level [] = .ok level := rfl

@[simp] theorem replace_nil (level value : Value) : replace level value [] = .ok value := rfl

end Wab.Toml
