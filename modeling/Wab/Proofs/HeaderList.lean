import Wab.Manifest.Operation
import Wab.Proofs.Attributes
import Wab.Proofs.Outcome

/-! # A section seen as a list of headers

A section keeps its headers under the lower-case forms of their names, and composes some of its
operations of others. On a plain list of headers the same operations can be said directly: a name
stands for the only header that has it in any letter case, a new value takes the place of the old
one, a new header comes last, and what was removed is gone.

* **`HeaderList.perform`**, **`HeaderList.run`** — operations on a list of headers.
* **`HeaderList.find?_eq_some_iff`** — what a name stands for.
* **`Attributes.WellFormed.insertValue_view`**, **`Attributes.WellFormed.pop_view`** — single
  changes of a section and of the list of its headers.
* **`Attributes.WellFormed.popFirst_cons`**, **`Attributes.WellFormed.clear_eq`** — removing headers
  from the front. -/

namespace Wab

/-! ## The list -/

/-- Headers in order. -/
abbrev HeaderList := List Header

namespace HeaderList

open Attributes (Operation Answer isBreaking)

/-- No two headers have the same name, in any letter case. -/
def Distinct (l : HeaderList) : Prop := (l.map fun h => Text.lower h.name).Nodup

/-- The first header of a name, in any letter case. -/
def find? (l : HeaderList) (name : Text) : Option Header :=
  List.find? (fun h => HeaderName.same h.name name) l

/-- The list with a value given to each header of a name, which keeps its place and spelling. -/
def replace (l : HeaderList) (name value : Text) : HeaderList :=
  l.map fun h => if HeaderName.same h.name name then ⟨h.name, value⟩ else h

/-- The list without the headers of a name. -/
def without (l : HeaderList) (name : Text) : HeaderList :=
  l.filter fun h => !HeaderName.same h.name name

/-- Gives a value to a name. A new header comes last, if its name is valid. -/
def set (l : HeaderList) (name : Text) (value : Value) : Except AttributeError HeaderList :=
  match value.text? with
  | none => .error (.notText name value.typeName)
  | some text =>
    if text.any isBreaking then .error (.illegalValue name)
    else match find? l name with
      | some _ => .ok (replace l name text)
      | none =>
        if HeaderName.isValid name then .ok (l ++ [⟨name, text⟩]) else .error (.invalidName name)

/-- Gives values to names in order, up to the first that cannot be given. -/
def setAll (l : HeaderList) : List (Text × Value) → HeaderList × Except AttributeError Unit
  | [] => (l, .ok ())
  | (name, value) :: rest =>
    match set l name value with
    | .ok next => setAll next rest
    | .error e => (l, .error e)

/-- Takes out the header of a name, and gives its value. -/
def take (l : HeaderList) (name : Text) : Except AttributeError (Text × HeaderList) :=
  match find? l name with
  | some h => .ok (h.value, without l name)
  | none => .error (.absent (Text.lower name))

/-- The list that a change leads to and its answer; a change that fails leads nowhere. -/
def changed (l : HeaderList) :
    Except AttributeError (Answer × HeaderList) → HeaderList × Except AttributeError Answer
  | .ok (answer, next) => (next, .ok answer)
  | .error e => (l, .error e)

/-- The list after an operation, and its answer. -/
def perform (l : HeaderList) : Operation → HeaderList × Except AttributeError Answer
  | .set name value => changed l ((set l name value).map fun next => (.done, next))
  | .get name => (l, (take l name).map fun (value, _) => .value (.text value))
  | .getOr name default =>
    (l, .ok (.value (match find? l name with
      | some h => .text h.value
      | none => default)))
  | .delete name => changed l ((take l name).map fun (_, next) => (.done, next))
  | .holds name =>
    (l, .ok (.truth (match name.text? with
      | some name => (find? l name).isSome
      | none => false)))
  | .size => (l, .ok (.number l.length))
  | .names => (l, .ok (.names (l.map (·.name))))
  | .pop name => changed l ((take l name).map fun (value, next) => (.value (.text value), next))
  | .popOr name default =>
    match find? l name with
    | some h => (without l name, .ok (.value (.text h.value)))
    | none => (l, .ok (.value default))
  | .popFirst =>
    match l with
    | [] => ([], .error .empty)
    | h :: rest => (rest, .ok (.header h))
  | .setDefault name value =>
    match find? l name with
    | some h => (l, .ok (.value (.text h.value)))
    | none => changed l ((set l name value).map fun next => (.value value, next))
  | .clear => ([], .ok .done)
  | .update entries => ((setAll l entries).1, (setAll l entries).2.map fun () => .done)
  | .copy => (l, .ok (.headers l))

/-- The list after operations in order, and their answers. -/
def run (l : HeaderList) : List Operation → HeaderList × List (Except AttributeError Answer)
  | [] => (l, [])
  | operation :: operations =>
    ((run (perform l operation).1 operations).1,
      (perform l operation).2 :: (run (perform l operation).1 operations).2)

/-- **A name stands for the only header that has it**, in any letter case. -/
theorem find?_eq_some_iff {l : HeaderList} (h : Distinct l) {name : Text} {header : Header} :
    find? l name = some header ↔ header ∈ l ∧ HeaderName.same header.name name = true := by
  constructor
  · exact fun hfind =>
      ⟨List.mem_of_find?_eq_some hfind, (List.find?_eq_some_iff_append.1 hfind).1⟩
  · rintro ⟨hmem, hsame⟩
    induction l with
    | nil => exact absurd hmem List.not_mem_nil
    | cons first rest ih =>
        rw [Distinct, List.map_cons, List.nodup_cons] at h
        rw [find?, List.find?_cons]
        cases hfirst : HeaderName.same first.name name with
        | true =>
            rcases List.mem_cons.1 hmem with rfl | hrest
            · rfl
            · -- Both have the name, but they are different headers of the list.
              have hboth : Text.lower first.name = Text.lower header.name := by
                rw [HeaderName.same_iff.1 hfirst, HeaderName.same_iff.1 hsame]
              exact absurd (List.mem_map.2 ⟨header, hrest, hboth.symm⟩) h.1
        | false =>
            rcases List.mem_cons.1 hmem with rfl | hrest
            · rw [hsame] at hfirst
              exact absurd hfirst (by decide)
            · exact ih h.2 hrest

end HeaderList

/-! ## A section seen as a list -/

namespace Attributes

variable {a : Attributes}

/-- No two headers of a section have the same name. -/
theorem WellFormed.distinct_headers (ha : a.WellFormed) : HeaderList.Distinct a.headers := by
  have hnames : a.headers.map (fun h => Text.lower h.name) = Dictionary.names a.slots := by
    rw [headers, List.map_map]
    exact List.map_congr_left fun slot hslot => (ha.kept slot hslot).keyed.symm
  rw [HeaderList.Distinct, hnames]
  exact ha.distinct

/-- A header is found under its key where the list finds it by its name. -/
theorem WellFormed.find?_headers (ha : a.WellFormed) (name : Text) :
    HeaderList.find? a.headers name = a.find? name := by
  cases hfind : a.find? name with
  | some header =>
      rw [HeaderList.find?_eq_some_iff ha.distinct_headers]
      exact ⟨List.mem_map_of_mem (Dictionary.mem_of_get? hfind),
        HeaderName.same_iff.2 (ha.kept_of_find? hfind).keyed.symm⟩
  | none =>
      refine List.find?_eq_none.2 fun header hheader hsame => ?_
      obtain ⟨slot, hslot, rfl⟩ := List.mem_map.1 hheader
      refine Dictionary.get?_eq_none_iff.1 hfind ?_
      rw [← HeaderName.same_iff.1 hsame, ← (ha.kept slot hslot).keyed]
      exact List.mem_map_of_mem hslot

/-- A value that is given to a name takes the place of the old one. -/
theorem WellFormed.headers_insert (ha : a.WellFormed) {name : Text} {own : Header}
    (h : a.find? name = some own) (value : Text) :
    headers ⟨Dictionary.insert a.slots (Text.lower name) ⟨own.name, value⟩⟩
      = HeaderList.replace a.headers name value := by
  obtain ⟨before, after, hslots, hother, hinsert⟩ := ha.exists_append_of_find? h
  have hkeep : ∀ slots : Dictionary Header, slots ⊆ before ++ after →
      HeaderList.replace (slots.map (·.2)) name value = slots.map (·.2) := by
    intro slots hsubset
    rw [HeaderList.replace, List.map_map]
    refine List.map_congr_left fun slot hslot => ?_
    rw [Function.comp_apply, hother slot (hsubset hslot), if_neg Bool.false_ne_true]
  have hsame : HeaderName.same own.name name = true :=
    HeaderName.same_iff.2 (ha.kept_of_find? h).keyed.symm
  have hbefore := hkeep before (List.subset_append_left before after)
  have hafter := hkeep after (List.subset_append_right before after)
  rw [HeaderList.replace] at hbefore hafter
  rw [headers, hinsert, HeaderList.replace, headers, hslots]
  simp only [List.map_append, List.map_cons, hbefore, hafter, hsame, if_true]

/-- What is left without a key is what the list has without the name. -/
theorem WellFormed.headers_erase (ha : a.WellFormed) (name : Text) :
    headers ⟨Dictionary.erase a.slots (Text.lower name)⟩ = HeaderList.without a.headers name := by
  rw [headers, Dictionary.erase, HeaderList.without, headers, List.filter_map]
  congr 1
  refine List.filter_congr fun slot hslot => ?_
  rw [Function.comp_apply, HeaderName.same, ← (ha.kept slot hslot).keyed]
  by_cases hkey : slot.1 = Text.lower name
  · simp [hkey]
  · simp [hkey]

/-! ## Single changes -/

/-- Storing a header in a section and in the list. -/
theorem WellFormed.insertValue_view (ha : a.WellFormed) (name : Text) (value : Value) :
    (a.insertValue name value).map headers = HeaderList.set a.headers name value := by
  rw [insertValue, HeaderList.set]
  cases value.text? with
  | none => rfl
  | some text =>
      dsimp only
      rw [Attributes.insert, ha.find?_headers]
      split
      next => rfl
      next =>
        cases hfind : a.find? name with
        | some own => exact congrArg Except.ok (ha.headers_insert hfind text)
        | none =>
            have hnew := Dictionary.insert_of_not_mem (Dictionary.get?_eq_none_iff.1 hfind)
              (Header.mk name text)
            dsimp only
            split
            next =>
              refine congrArg Except.ok ?_
              rw [headers, hnew, List.map_append]
              rfl
            next => rfl

/-- Storing a header of any type keeps a section well-formed. -/
theorem WellFormed.insertValue {b : Attributes} (ha : a.WellFormed) {name : Text} {value : Value}
    (h : a.insertValue name value = .ok b) : b.WellFormed := by
  rw [Attributes.insertValue] at h
  split at h
  next text _ => exact ha.insert h
  next => exact absurd h (by simp)

/-- A value that could be stored is a text, and found. -/
theorem get_of_insertValue {b : Attributes} {name : Text} {value : Value}
    (h : a.insertValue name value = .ok b) :
    ∃ text, value = .text text ∧ b.get name = .ok text := by
  rw [Attributes.insertValue] at h
  split at h
  next text htext =>
    refine ⟨text, Value.text?_eq_some_iff.1 htext, ?_⟩
    rw [get, get?_of_insert h, if_pos rfl]
  next => exact absurd h (by simp)

/-- Storing several headers in a section and in the list. -/
theorem WellFormed.insertAll_view (ha : a.WellFormed) (entries : List (Text × Value)) :
    (a.insertAll entries).1.WellFormed
      ∧ ((a.insertAll entries).1.headers, (a.insertAll entries).2)
        = HeaderList.setAll a.headers entries := by
  induction entries generalizing a with
  | nil => exact ⟨ha, rfl⟩
  | cons entry entries ih =>
      obtain ⟨name, value⟩ := entry
      rw [insertAll, HeaderList.setAll, ← ha.insertValue_view]
      cases h : a.insertValue name value with
      | error e => exact ⟨ha, rfl⟩
      | ok next => exact ih (ha.insertValue h)

/-- Looking up a name in a section and in the list. -/
theorem WellFormed.get_view (ha : a.WellFormed) (name : Text) :
    a.get name = (HeaderList.take a.headers name).map (·.1) := by
  rw [get, get?, HeaderList.take, ha.find?_headers]
  cases a.find? name with
  | none => rfl
  | some header => rfl

/-- Removing a header from a section and from the list. -/
theorem WellFormed.pop_view (ha : a.WellFormed) (name : Text) :
    (a.pop name).map (fun (value, b) => (value, b.headers)) = HeaderList.take a.headers name := by
  rw [pop, get, get?, erase, contains, HeaderList.take, ha.find?_headers, ← ha.headers_erase]
  cases a.find? name with
  | none => rfl
  | some header => rfl

/-- Removing a header without asking for its value. -/
theorem erase_eq_map_pop (a : Attributes) (name : Text) :
    a.erase name = (a.pop name).map (·.2) := by
  rw [pop, get, get?, erase, contains]
  cases a.find? name with
  | none => rfl
  | some header => rfl

/-- A section from which a header was removed is well-formed. -/
theorem WellFormed.pop {b : Attributes} (ha : a.WellFormed) {name value : Text}
    (h : a.pop name = .ok (value, b)) : b.WellFormed := by
  have herase : a.erase name = .ok b := by
    rw [erase_eq_map_pop, h]
    rfl
  rw [erase] at herase
  split at herase
  next =>
    rw [← Except.ok.inj herase]
    exact ha.sublist List.filter_sublist
  next => exact absurd herase (by simp)

/-- The first header is removed from the front. -/
theorem WellFormed.popFirst_cons {slot : Text × Header} {rest : Dictionary Header}
    (ha : WellFormed ⟨slot :: rest⟩) :
    popFirst ⟨slot :: rest⟩ = .ok (slot.2, ⟨rest⟩) := by
  have hkeyed := (ha.kept slot List.mem_cons_self).keyed
  have hfind : find? ⟨slot :: rest⟩ slot.2.name = some slot.2 := by
    rw [find?, Dictionary.get?_cons, if_pos hkeyed]
  have herase : Dictionary.erase (slot :: rest) (Text.lower slot.2.name) = rest := by
    rw [← hkeyed, Dictionary.erase, List.filter_cons_of_neg (by simp), List.filter_eq_self]
    intro other hother
    have hne : other.1 ≠ slot.1 := by
      intro hkey
      have hdistinct := (List.nodup_cons.1 ha.distinct).1
      exact hdistinct (List.mem_map.2 ⟨other, hother, hkey⟩)
    simpa using hne
  have hnames : names ⟨slot :: rest⟩ = slot.2.name :: names ⟨rest⟩ := rfl
  rw [popFirst, hnames]
  dsimp only
  rw [Attributes.pop, get, get?, erase, contains, hfind, herase]
  rfl

/-- Removing the first header again and again leaves none. -/
theorem WellFormed.clear_eq {slots : Dictionary Header} (ha : WellFormed ⟨slots⟩) :
    clear ⟨slots⟩ = empty := by
  induction slots with
  | nil =>
      rw [clear]
      rfl
  | cons slot rest ih =>
      have hrest : WellFormed ⟨rest⟩ := ha.sublist (List.sublist_cons_self slot rest)
      rw [clear]
      split
      next header remaining hfirst =>
        rw [ha.popFirst_cons] at hfirst
        rw [← (Prod.mk.inj (Except.ok.inj hfirst)).2]
        exact ih hrest
      next e hfirst =>
        rw [ha.popFirst_cons] at hfirst
        exact absurd hfirst (by simp)

/-- The copy of a section is the section. -/
theorem WellFormed.copy_eq (ha : a.WellFormed) : a.copy = .ok a := ha.insertHeaders_headers

end Attributes

end Wab
