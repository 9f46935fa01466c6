import Wab.Dictionary

/-!
# Loosely typed values

A configuration file and a caller may give a value of any type where a text is expected. Such a
value is kept as it is until its type is asked for, and a message then names that type.

* **`Value`**: the value, of one of eleven types.
* **`Value.typeName`**: the type as messages name it.
* **`Value.text?`**: the text, if the value is one.
-/

namespace Wab

/-- A value of a configuration file or a call. -/
inductive Value where
  /-- The absent value. -/
  | null
  /-- A truth value. -/
  | bool (b : Bool)
  /-- A whole number. -/
  | int (n : Int)
  /-- A floating-point number as it is written. -/
  | float (written : Text)
  /-- A text. -/
  | text (s : Text)
  /-- A point in time as it is written. -/
  | dateTime (written : Text)
  /-- A calendar day as it is written. -/
  | date (written : Text)
  /-- A time of day as it is written. -/
  | time (written : Text)
  /-- Several values. -/
  | list (items : List Value)
  /-- Named values. -/
  | table (fields : List (Text × Value))
  /-- Named values that are written on one line. -/
  | inlineTable (fields : List (Text × Value))
  deriving Inhabited

namespace Value

/-- The name of the type of a value in messages. -/
def typeName : Value → String
  | null => "NoneType"
  | bool _ => "bool"
  | int _ => "int"
  | float _ => "float"
  | text _ => "str"
  | dateTime _ => "datetime"
  | date _ => "date"
  | time _ => "time"
  | list _ => "list"
  | table _ => "dict"
  | inlineTable _ => "DynamicInlineTableDict"

/-- The name of the type of a value with that of the module it comes from. -/
def fullTypeName (v : Value) : String :=
  match v with
  | dateTime _ | date _ | time _ => "datetime." ++ v.typeName
  | _ => v.typeName

/-- The text that a value is. -/
def text? : Value → Option Text
  | text s => some s
  | _ => none

/-- The named values that a value is. -/
def table? : Value → Option (Dictionary Value)
  | table fields | inlineTable fields => some fields
  | _ => none

@[simp] theorem text?_text (s : Text) : text? (text s) = some s := rfl

theorem text?_eq_some_iff {v : Value} {s : Text} : text? v = some s ↔ v = text s := by
  cases v <;> simp [text?]

end Value

end Wab
