import Wab.Manifest.HeaderName
import Wab.Text.Quoted
import Wab.Value

/-!
# The headers of a section

The headers of one section of a manifest, in order. A header is found under its name in any letter
case and keeps the spelling it was first stored with; a new value takes the place of the old one.
A name must be valid to be stored first, and no value holds a line break or NUL, so that a header
can be written on one logical line.

* **`Header`**, **`Attributes`**: a header and a section of headers.
* **`Attributes.headers`**: the view of a section as a list.
* **`Attributes.insert`**: stores a header or says why it cannot.
* **`Attributes.insertAll`**: stores headers up to the first that cannot be stored.
-/

namespace Wab

/-- A named value of a section. -/
structure Header where
  /-- The name in the spelling it was first stored with. -/
  name : Text
  /-- The value. -/
  value : Text
  deriving DecidableEq, Repr

/-- Why an operation on the headers of a section fails. -/
inductive AttributeError where
  /-- There is no header of this name, which is given in lower case. -/
  | absent (folded : Text)
  /-- There is no header at all. -/
  | empty
  /-- The value of the header is not a text but of this type. -/
  | notText (name : Text) (typeName : String)
  /-- The value of the header holds a line break or NUL. -/
  | illegalValue (name : Text)
  /-- A header cannot have this name. -/
  | invalidName (name : Text)
  deriving DecidableEq, Repr

/-- The error in words. -/
def AttributeError.message : AttributeError → String
  | absent folded => Text.quoted folded
  | empty => ""
  | notText name typeName => s!"header {Text.quoted name} expects a str value, got {typeName}"
  | illegalValue name => s!"header {Text.quoted name} has a line break or NUL in its value"
  | invalidName name => s!"invalid header name {Text.quoted name}"

/-- The headers of a section, each under the lower-case form of its name. -/
structure Attributes where
  /-- The headers in order. -/
  slots : Dictionary Header := []
  deriving DecidableEq, Repr

namespace Attributes

/-- A section without headers. -/
def empty : Attributes := ⟨[]⟩

/-- The headers in order. -/
def headers (a : Attributes) : List Header := a.slots.map (·.2)

/-- The names in order, as they are spelled. -/
def names (a : Attributes) : List Text := a.headers.map (·.name)

/-- The number of headers. -/
def size (a : Attributes) : Nat := a.slots.length

/-- The header of a name, in any letter case. -/
def find? (a : Attributes) (name : Text) : Option Header :=
  Dictionary.get? a.slots (Text.lower name)

/-- The value of a name, in any letter case. -/
def get? (a : Attributes) (name : Text) : Option Text := (a.find? name).map (·.value)

/-- There is a header of this name, in any letter case. -/
def contains (a : Attributes) (name : Text) : Bool := (a.find? name).isSome

/-- The character cannot stand in a value: a line break or NUL. -/
def isBreaking (c : CodePoint) : Bool := c == '\r' || c == '\n' || c == '\x00'

/-- Stores a header: a new one last and under the given spelling, which must be a valid name, the
value of one that is present in its place. -/
def insert (a : Attributes) (name value : Text) : Except AttributeError Attributes :=
  if value.any isBreaking then .error (.illegalValue name)
  else match a.find? name with
    | some header => .ok ⟨Dictionary.insert a.slots (Text.lower name) ⟨header.name, value⟩⟩
    | none =>
      if HeaderName.isValid name then
        .ok ⟨Dictionary.insert a.slots (Text.lower name) ⟨name, value⟩⟩
      else .error (.invalidName name)

/-- Stores a header whose value may be of any type. -/
def insertValue (a : Attributes) (name : Text) (value : Value) : Except AttributeError Attributes :=
  match value.text? with
  | some text => a.insert name text
  | none => .error (.notText name value.typeName)

/-- Stores headers in order. The section holds those before the first that cannot be stored. -/
def insertAll (a : Attributes) : List (Text × Value) → Attributes × Except AttributeError Unit
  | [] => (a, .ok ())
  | (name, value) :: rest =>
    match a.insertValue name value with
    | .ok stored => insertAll stored rest
    | .error e => (a, .error e)

/-- The section with the given headers in order, if all of them can be stored. -/
def ofValues (entries : List (Text × Value)) : Except AttributeError Attributes :=
  match empty.insertAll entries with
  | (a, .ok ()) => .ok a
  | (_, .error e) => .error e

/-- The section with the given headers in order, if all of them can be stored. -/
def ofHeaders (headers : List Header) : Except AttributeError Attributes :=
  headers.foldlM (fun a header => a.insert header.name header.value) empty

/-- Stores the headers of a section one by one in an empty one. -/
def copy (a : Attributes) : Except AttributeError Attributes := ofHeaders a.headers

/-- The value of a name, or the error that there is none. -/
def get (a : Attributes) (name : Text) : Except AttributeError Text :=
  match a.get? name with
  | some value => .ok value
  | none => .error (.absent (Text.lower name))

/-- Removes a header. -/
def erase (a : Attributes) (name : Text) : Except AttributeError Attributes :=
  if a.contains name then .ok ⟨Dictionary.erase a.slots (Text.lower name)⟩
  else .error (.absent (Text.lower name))

/-- Removes a header and gives its value. -/
def pop (a : Attributes) (name : Text) : Except AttributeError (Text × Attributes) := do
  return (← a.get name, ← a.erase name)

/-- Removes the first header, by its name, and gives it. -/
def popFirst (a : Attributes) : Except AttributeError (Header × Attributes) :=
  match a.names with
  | [] => .error .empty
  | name :: _ => do
    let (value, rest) ← a.pop name
    return (⟨name, value⟩, rest)

/-- A section from which a header was removed is smaller. -/
theorem size_of_erase {a b : Attributes} {name : Text} (h : a.erase name = .ok b) :
    b.size < a.size := by
  rw [erase] at h
  split at h
  · rename_i hname
    rw [← Except.ok.inj h]
    exact Dictionary.length_erase_lt hname
  · exact absurd h (by simp)

/-- A section whose first header was removed is smaller. -/
theorem size_of_popFirst {a : Attributes} {first : Header × Attributes}
    (h : a.popFirst = .ok first) : first.2.size < a.size := by
  rw [popFirst] at h
  split at h
  · exact absurd h (by simp)
  · rename_i name _ _
    cases hvalue : a.get name with
    | error e => exact absurd h (by simp [pop, hvalue, bind, Except.bind])
    | ok value =>
      cases hrest : a.erase name with
      | error e => exact absurd h (by simp [pop, hvalue, hrest, bind, Except.bind])
      | ok rest =>
        simp only [pop, hvalue, hrest, bind, Except.bind, pure, Except.pure, Except.ok.injEq] at h
        rw [← h]
        exact size_of_erase hrest

/-- Removes the first header as long as there is one. -/
def clear (a : Attributes) : Attributes :=
  match _h : a.popFirst with
  | .ok (_, rest) => clear rest
  | .error _ => a
termination_by a.size
decreasing_by exact size_of_popFirst _h

/-- The value of a name, which is stored first if there is none. -/
def getOrInsert (a : Attributes) (name : Text) (value : Value) :
    Except AttributeError (Text × Attributes) :=
  match a.get? name with
  | some present => .ok (present, a)
  | none => do
    let stored ← a.insertValue name value
    return (← stored.get name, stored)

/-- Keeps the headers whose names pass a test. -/
def filterNames (keep : Text → Bool) (a : Attributes) : Attributes :=
  ⟨a.slots.filter fun slot => keep slot.2.name⟩

/-- The sections have the same headers in the same order and spelling. -/
def sameHeaders (a b : Attributes) : Bool := a.headers == b.headers

/-- The headers as named values. -/
def toFields (a : Attributes) : Dictionary Value := a.headers.map fun h => (h.name, .text h.value)

/-- The section has exactly these named values, their order left out and spelling counted. -/
def sameFields (a : Attributes) (fields : Dictionary Value) : Bool :=
  Dictionary.sameBy (fun v w => v.text?.isSome && v.text? == w.text?) a.toFields fields

/-- The section has the headers of another one, their order left out and spelling counted. -/
def sameMapping (a b : Attributes) : Bool := a.sameFields b.toFields

/-- A one-line picture of the section. -/
def picture (a : Attributes) : Text :=
  "Attributes("
    ++ Text.quoteMap (a.headers.map fun h => (h.name, Text.quote h.value)) ++ ")"

/-! ## Readings -/

@[simp] theorem headers_empty : empty.headers = [] := rfl

@[simp] theorem get?_empty (name : Text) : empty.get? name = none := rfl

/-- The value that was stored is found under every spelling of its name. -/
theorem get?_of_insert {a b : Attributes} {name value other : Text}
    (h : a.insert name value = .ok b) :
    b.get? other = if Text.lower name = Text.lower other then some value else a.get? other := by
  unfold insert at h
  split at h
  · simp at h
  · split at h
    · cases h
      by_cases ho : Text.lower name = Text.lower other <;>
        simp [get?, find?, Dictionary.get?_insert, ho]
    · split at h
      · cases h
        by_cases ho : Text.lower name = Text.lower other <;>
          simp [get?, find?, Dictionary.get?_insert, ho]
      · simp at h

end Attributes

end Wab
