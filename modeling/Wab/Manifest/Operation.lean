import Wab.Manifest.Attributes

/-!
# Operations on a section

What can be asked of a section, one operation after another. Each operation is answered or fails,
and leaves a section behind: the same one if it only looks something up or if it fails, with the
exception of an update, which keeps what it has stored up to the header that it cannot store. A copy
takes the place of the section that it was made of.

* **`Attributes.Operation`**, **`Attributes.Answer`**: what is asked, and what is answered.
* **`Attributes.perform`**: one operation.
* **`Attributes.run`**: several operations in order.
-/

namespace Wab.Attributes

/-- What can be asked of a section. -/
inductive Operation where
  /-- Gives a value to a name. -/
  | set (name : Text) (value : Value)
  /-- Asks for the value of a name. -/
  | get (name : Text)
  /-- Asks for the value of a name, or else the given one. -/
  | getOr (name : Text) (default : Value)
  /-- Removes the header of a name. -/
  | delete (name : Text)
  /-- Asks whether there is a header of a name. What is no text is the name of none. -/
  | holds (name : Value)
  /-- Asks for the number of headers. -/
  | size
  /-- Asks for the names in order. -/
  | names
  /-- Removes the header of a name and asks for its value. -/
  | pop (name : Text)
  /-- The same, or else asks for the given value. -/
  | popOr (name : Text) (default : Value)
  /-- Removes the first header and asks for it. -/
  | popFirst
  /-- Asks for the value of a name, after giving it one if it has none. -/
  | setDefault (name : Text) (value : Value)
  /-- Removes all headers. -/
  | clear
  /-- Gives values to names in order. -/
  | update (entries : List (Text × Value))
  /-- Goes on with a copy, and asks for its headers. -/
  | copy

/-- What an operation is answered with. -/
inductive Answer where
  /-- It is done. -/
  | done
  /-- A value. -/
  | value (v : Value)
  /-- Yes or no. -/
  | truth (b : Bool)
  /-- A number. -/
  | number (n : Nat)
  /-- Names in order. -/
  | names (list : List Text)
  /-- A header. -/
  | header (h : Header)
  /-- Headers in order. -/
  | headers (list : List Header)

/-- The section that a change leads to and its answer; a change that fails leads nowhere. -/
def changed (a : Attributes) :
    Except AttributeError (Answer × Attributes) → Attributes × Except AttributeError Answer
  | .ok (answer, b) => (b, .ok answer)
  | .error e => (a, .error e)

/-- The section after an operation, and its answer. -/
def perform (a : Attributes) : Operation → Attributes × Except AttributeError Answer
  | .set name value => a.changed ((a.insertValue name value).map fun b => (.done, b))
  | .get name => (a, (a.get name).map fun value => .value (.text value))
  | .getOr name default => (a, .ok (.value (((a.get? name).map Value.text).getD default)))
  | .delete name => a.changed ((a.erase name).map fun b => (.done, b))
  | .holds name => (a, .ok (.truth ((name.text?.map a.contains).getD false)))
  | .size => (a, .ok (.number a.size))
  | .names => (a, .ok (.names a.names))
  | .pop name => a.changed ((a.pop name).map fun (value, b) => (.value (.text value), b))
  | .popOr name default =>
    match a.pop name with
    | .ok (value, b) => (b, .ok (.value (.text value)))
    | .error _ => (a, .ok (.value default))
  | .popFirst => a.changed (a.popFirst.map fun (header, b) => (.header header, b))
  | .setDefault name value =>
    a.changed ((a.getOrInsert name value).map fun (value, b) => (.value (.text value), b))
  | .clear => (a.clear, .ok .done)
  | .update entries =>
    let (b, result) := a.insertAll entries
    (b, result.map fun () => .done)
  | .copy => a.changed (a.copy.map fun b => (.headers b.headers, b))

/-- The section after operations in order, and their answers. -/
def run (a : Attributes) : List Operation → Attributes × List (Except AttributeError Answer)
  | [] => (a, [])
  | operation :: operations =>
    let (b, answer) := a.perform operation
    let (c, answers) := run b operations
    (c, answer :: answers)

/-! ## Readings -/

@[simp] theorem run_nil (a : Attributes) : a.run [] = (a, []) := rfl

end Wab.Attributes
