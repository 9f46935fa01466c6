import Wab.Text.Basic

/-!
# Dictionaries

A dictionary is a list of named values that remembers the order in which the names first came:
giving a value to a name that is present replaces the value where it stands, and a new name is put
at the end.

* **`Dictionary.get?`**, **`Dictionary.insert`**, **`Dictionary.erase`**: the basic operations.
* **`Dictionary.ofList`**: of a name that occurs more than once, the first place and the last value.
* **`Dictionary.sameBy`**: two dictionaries agree, the order of their names left out.
-/

namespace Wab

/-- Named values in the order of their names' first occurrences. -/
abbrev Dictionary (β : Type) := List (Text × β)

namespace Dictionary

variable {β : Type}

/-- The value of a name. -/
def get? (d : Dictionary β) (name : Text) : Option β := List.lookup name d

/-- The name has a value. -/
def contains (d : Dictionary β) (name : Text) : Bool := (get? d name).isSome

/-- The names in order. -/
def names (d : Dictionary β) : List Text := d.map (·.1)

/-- The dictionary with a value given to a name. -/
def insert : Dictionary β → Text → β → Dictionary β
  | [], name, value => [(name, value)]
  | (n, v) :: rest, name, value =>
    if n = name then (n, value) :: rest else (n, v) :: insert rest name value

/-- The dictionary without a name. -/
def erase (d : Dictionary β) (name : Text) : Dictionary β := d.filter fun entry => entry.1 ≠ name

/-- A dictionary extended by named values in order. -/
def insertAll (d : Dictionary β) (entries : List (Text × β)) : Dictionary β :=
  entries.foldl (fun d entry => insert d entry.1 entry.2) d

/-- The dictionary of a list of named values. -/
def ofList (entries : List (Text × β)) : Dictionary β := insertAll [] entries

/-- The dictionaries have the same names, each with values that `same` accepts. -/
def sameBy (same : β → β → Bool) (d e : Dictionary β) : Bool :=
  d.length == e.length && d.all fun (name, value) =>
    match get? e name with
    | some other => same value other
    | none => false

/-! ## Readings -/

@[simp] theorem get?_nil (name : Text) : get? ([] : Dictionary β) name = none := rfl

theorem get?_cons (n : Text) (v : β) (rest : Dictionary β) (name : Text) :
    get? ((n, v) :: rest) name = if n = name then some v else get? rest name := by
  by_cases h : n = name
  · simp [get?, h]
  · have hne : (name == n) = false := by simpa using fun e => h e.symm
    simp [get?, List.lookup_cons, hne, h]

@[simp] theorem insertAll_nil (d : Dictionary β) : insertAll d [] = d := rfl

@[simp] theorem insertAll_cons (d : Dictionary β) (entry : Text × β) (entries : List (Text × β)) :
    insertAll d (entry :: entries) = insertAll (insert d entry.1 entry.2) entries := rfl

/-- A value that was given to a name is found under that name, and no other name is touched. -/
theorem get?_insert (d : Dictionary β) (name other : Text) (value : β) :
    get? (insert d name value) other = if name = other then some value else get? d other := by
  induction d with
  | nil => simp [insert, get?_cons]
  | cons entry rest ih =>
    obtain ⟨n, v⟩ := entry
    by_cases h : n = name
    · subst h
      by_cases ho : n = other <;> simp [insert, get?_cons, ho]
    · by_cases ho : n = other
      · subst ho
        simp [insert, get?_cons, h, Ne.symm h]
      · simp [insert, get?_cons, h, ho, ih]

/-- A dictionary without a name that is present is shorter. -/
theorem length_erase_lt {d : Dictionary β} {name : Text} (h : contains d name = true) :
    (erase d name).length < d.length := by
  induction d with
  | nil => exact absurd h (by simp [contains])
  | cons entry rest ih =>
    obtain ⟨n, v⟩ := entry
    rw [contains, get?_cons] at h
    by_cases hn : n = name
    · subst hn
      simpa [erase] using Nat.lt_succ_of_le (List.length_filter_le _ rest)
    · rw [if_neg hn] at h
      simpa [erase, hn] using ih h

/-- The names stay as they are if the name is present, else it comes last. -/
theorem names_insert (d : Dictionary β) (name : Text) (value : β) :
    names (insert d name value) = if name ∈ names d then names d else names d ++ [name] := by
  induction d with
  | nil => simp [insert, names]
  | cons entry rest ih =>
    obtain ⟨n, v⟩ := entry
    by_cases h : n = name
    · subst h
      simp [insert, names]
    · have hne : ¬ name = n := fun e => h e.symm
      simp only [names] at ih
      by_cases hm : name ∈ rest.map (·.1)
      · simp [insert, names, h, ih, hm]
      · simp [insert, names, h, hne, ih, hm]

end Dictionary

end Wab
