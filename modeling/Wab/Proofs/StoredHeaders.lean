import Mathlib.Data.List.TakeWhile
import Wab.Proofs.BrokenNames
import Wab.Proofs.Operations
import Wab.Proofs.Sections

/-! # The headers that a section can come to hold

Whatever is asked of a section, the names that it holds were given to it, each is kept under its own
lower-case form, and no value holds a line break or NUL. A name is one letter or digit of ASCII and
at most 69 further letters, digits, hyphens and underscores, so that its header is read back from
the line it stands on, unless it was given with a line feed behind it: then the line is broken, and
what stands in front of the break is no header.

* **`HeaderList.names_run`** — the names in a list were given to it.
* **`Manifest.parse_headerLine`**, **`Manifest.parse_headerLine_broken`** — what is read from the
  line of a header.
* **`Attributes.of_mem_run`** — the headers that a section can come to hold. -/

namespace Wab

/-- The names that an operation gives values to. -/
def Attributes.Operation.given : Attributes.Operation → List Text
  | .set name _ => [name]
  | .setDefault name _ => [name]
  | .update entries => entries.map (·.1)
  | _ => []

/-! ## Where names come from -/

namespace HeaderList

open Attributes (Operation Answer)

variable {l m : HeaderList} {header : Header}

/-- The names of a list. -/
def names (l : HeaderList) : List Text := l.map (·.name)

/-- Giving a value to a name brings in no other name. -/
theorem names_set {name : Text} {value : Value} (h : set l name value = .ok m) :
    m.names ⊆ name :: l.names := by
  rw [set] at h
  split at h
  next => exact absurd h (by simp)
  next text _ =>
    split at h
    next => exact absurd h (by simp)
    next =>
      split at h
      next =>
        have hnames : names (replace l name text) = l.names := by
          rw [names, replace, List.map_map]
          refine List.map_congr_left fun g _ => ?_
          rw [Function.comp_apply]
          split
          next => rfl
          next => rfl
        rw [← Except.ok.inj h, hnames]
        exact List.subset_cons_self name l.names
      next =>
        split at h
        next =>
          rw [← Except.ok.inj h, names, List.map_append]
          exact List.append_subset.2 ⟨List.subset_cons_self _ _, by simp⟩
        next => exact absurd h (by simp)

/-- Giving values to names brings in no other names. -/
theorem names_setAll (entries : List (Text × Value)) :
    (setAll l entries).1.names ⊆ entries.map (·.1) ++ l.names := by
  induction entries generalizing l with
  | nil => exact List.Subset.refl _
  | cons entry entries ih =>
      obtain ⟨name, value⟩ := entry
      rw [setAll]
      cases h : set l name value with
      | error e => exact List.subset_append_right _ _
      | ok next =>
          refine List.Subset.trans ih fun n hn => ?_
          rcases List.mem_append.1 hn with hlater | hnext
          · exact List.mem_append_left _ (List.mem_cons_of_mem _ hlater)
          · rcases List.mem_cons.1 (names_set h hnext) with rfl | hold
            · exact List.mem_append_left _ List.mem_cons_self
            · exact List.mem_append_right _ hold

/-- Taking out the header of a name brings in no name. -/
theorem names_take {name value : Text} (h : take l name = .ok (value, m)) : m.names ⊆ l.names := by
  rw [take] at h
  split at h
  next =>
    rw [← (Prod.mk.inj (Except.ok.inj h)).2]
    exact (List.filter_sublist.map _).subset
  next => exact absurd h (by simp)

/-- A change brings in no names if what it leads to has none but those. -/
theorem names_changed {β : Type} {x : Except AttributeError β} {next : β → Answer × HeaderList}
    {given : List Text} (h : ∀ r, x = .ok r → (next r).2.names ⊆ given ++ l.names) :
    (changed l (x.map next)).1.names ⊆ given ++ l.names := by
  cases x with
  | error e => exact List.subset_append_right _ _
  | ok r => exact h r rfl

/-- **The names after an operation** are those before and those that it gives values to. -/
theorem names_perform (operation : Operation) :
    (perform l operation).1.names ⊆ operation.given ++ l.names := by
  cases operation with
  | set name value => exact names_changed fun m hset => names_set hset
  | delete name => exact names_changed fun result htake => names_take htake
  | pop name => exact names_changed fun result htake => names_take htake
  | popOr name default =>
      rw [perform]
      split
      next => exact (List.filter_sublist.map _).subset
      next => exact List.Subset.refl _
  | popFirst =>
      cases l with
      | nil => exact List.Subset.refl _
      | cons first rest => exact List.subset_cons_self _ _
  | setDefault name value =>
      rw [perform]
      split
      next => exact List.subset_cons_self _ _
      next => exact names_changed fun m hset => names_set hset
  | clear => exact List.nil_subset _
  | update entries => exact names_setAll entries
  | get name => exact List.Subset.refl _
  | getOr name default => exact List.Subset.refl _
  | holds name => exact List.Subset.refl _
  | size => exact List.Subset.refl _
  | names => exact List.Subset.refl _
  | copy => exact List.Subset.refl _

/-- **The names in a list were there or were given to it.** -/
theorem names_run (operations : List Operation) :
    (run l operations).1.names ⊆ operations.flatMap Operation.given ++ l.names := by
  induction operations generalizing l with
  | nil => exact List.Subset.refl _
  | cons operation operations ih =>
      refine List.Subset.trans ih fun name hname => ?_
      rw [List.flatMap_cons, List.append_assoc]
      rcases List.mem_append.1 hname with hlater | hnext
      · exact List.mem_append_right _ (List.mem_append_left _ hlater)
      · rcases List.mem_append.1 (names_perform operation hnext) with hgiven | hold
        · exact List.mem_append_left _ hgiven
        · exact List.mem_append_right _ (List.mem_append_right _ hold)

end HeaderList

/-! ## The line of a header -/

namespace Manifest

/-- A text whose lines are not empty is read as the main section. -/
theorem parse_of_split {s first : Text} {rest : List Text} (hsplit : Lines.split s = first :: rest)
    (hfirst : first ≠ []) (hrest : ∀ l ∈ rest, l ≠ []) :
    parse s = addMain {} ⟨1, first, rest⟩ := by
  rw [parse, Lines.startsWithBreak_of_split hsplit hfirst, hsplit,
    Lines.sections_of_ne_nil hfirst hrest]
  simp only [Bool.false_eq_true, if_false, List.foldlM_nil]
  cases addMain {} ⟨1, first, rest⟩ with
  | error e => rfl
  | ok m => rfl

/-- **A header with a plain name is read back from its line**, which is a single one. -/
theorem parse_headerLine {h : Header} (hname : HeaderName.isPlain h.name = true)
    (hvalue : h.value.any Attributes.isBreaking = false) :
    Lines.split (headerLine h) = [headerLine h]
      ∧ parse (headerLine h) = .ok { main := ⟨[(Text.lower h.name, h)]⟩ } := by
  have hunbroken := unbroken_headerLine (HeaderName.unbroken_of_isPlain hname)
    (Attributes.unbroken_of_any_isBreaking hvalue)
  have hsplit := Lines.split_of_unbroken hunbroken
  have hbegins := begins_headerLine hname
  have hread : readSection ⟨1, headerLine h, []⟩ = .ok [⟨1, h.name, h.value⟩] := by
    rw [readSection_eq, hbegins.2]
    show readLines [(1, headerLine h)] = _
    rw [readLines_cons, ofLine_headerLine hname]
    rfl
  have hstore : store .empty [⟨1, h.name, h.value⟩] = .ok ⟨[(Text.lower h.name, h)]⟩ := by
    have hinsert : Attributes.insert .empty h.name h.value = .ok ⟨[(Text.lower h.name, h)]⟩ :=
      Attributes.insert_of_find?_eq_none rfl (HeaderName.isValid_iff.2 (Or.inl hname)) hvalue
    rw [store_eq, mapError_eq_ok]
    exact Attributes.insertHeaders_cons_eq_ok.2 ⟨_, hinsert, Attributes.insertHeaders_nil _⟩
  refine ⟨hsplit, ?_⟩
  rw [parse_of_split hsplit hbegins.1 (by simp), addMain, hread, ok_bind, hstore]
  rfl

/-- **What stands in front of a line feed behind a name is no header.** -/
theorem parse_headerLine_broken {name value : Text} (hname : HeaderName.isPlain name = true)
    (hvalue : value.any Attributes.isBreaking = false) :
    Lines.split (headerLine ⟨name ++ [.scalar '\n'], value⟩) = [name, separator ++ value]
      ∧ parse (headerLine ⟨name ++ [.scalar '\n'], value⟩) = .error (.invalidHeader 1 name) := by
  have hbehind : Lines.Unbroken (separator ++ value) :=
    Lines.unbroken_append.2 ⟨⟨by decide, by decide⟩, Attributes.unbroken_of_any_isBreaking hvalue⟩
  have hline : headerLine ⟨name ++ [.scalar '\n'], value⟩
      = name ++ .scalar '\n' :: (separator ++ value) := by
    simp [headerLine]
  have hsplit : Lines.split (headerLine ⟨name ++ [.scalar '\n'], value⟩)
      = [name, separator ++ value] := by
    rw [hline, Lines.split_append_lf (HeaderName.unbroken_of_isPlain hname),
      Lines.split_of_unbroken hbehind]
  have hbegins := begins_of_isPlain hname
  have hcolon : continues (separator ++ value) = false := rfl
  have hfilled : separator ++ value ≠ [] := List.cons_ne_nil _ _
  have hread : readSection ⟨1, name, [separator ++ value]⟩ = .error (.invalidHeader 1 name) := by
    rw [readSection_eq, hbegins.2]
    show readLines (logicalLines 1 [name, separator ++ value]) = _
    rw [logicalLines_cons, unfoldFrom_ended hcolon, readLines_cons, ofLine_isPlain hname]
    rfl
  refine ⟨hsplit, ?_⟩
  rw [parse_of_split hsplit hbegins.1 (by simpa using hfilled), addMain, hread]
  rfl

end Manifest

/-! ## The headers of a section -/

namespace Attributes

/-- **The headers that a section can come to hold**: each is kept under the lower-case form of its
name, which was given to the section, and its value holds no line break and no NUL. Its name is
plain and it is read back from its line, which is a single one; or its name was given with a line
feed behind a plain one, and then its line is broken and cannot be read. -/
theorem of_mem_run (operations : List Operation) {slot : Text × Header}
    (hslot : slot ∈ (run empty operations).1.slots) :
    slot.1 = Text.lower slot.2.name
      ∧ slot.2.name ∈ operations.flatMap Operation.given
      ∧ (∀ c ∈ slot.2.value, c ≠ '\r' ∧ c ≠ '\n' ∧ c ≠ '\x00')
      ∧ ((HeaderName.isPlain slot.2.name = true
          ∧ Lines.split (Manifest.headerLine slot.2) = [Manifest.headerLine slot.2]
          ∧ Manifest.parse (Manifest.headerLine slot.2) = .ok { main := ⟨[slot]⟩ })
        ∨ ∃ plain, HeaderName.isPlain plain = true ∧ slot.2.name = plain ++ [.scalar '\n']
          ∧ Lines.split (Manifest.headerLine slot.2) = [plain, Manifest.separator ++ slot.2.value]
          ∧ Manifest.parse (Manifest.headerLine slot.2) = .error (.invalidHeader 1 plain)) := by
  obtain ⟨hwellFormed, hrun⟩ := wellFormed_empty.run operations
  obtain ⟨hkeyed, hvalid, hunbroken⟩ := hwellFormed.kept slot hslot
  have hgiven : slot.2.name ∈ operations.flatMap Operation.given := by
    have hnames := HeaderList.names_run (l := []) operations
    rw [headers_empty] at hrun
    rw [hrun, HeaderList.names, HeaderList.names, List.map_nil, List.append_nil] at hnames
    exact hnames (List.mem_map_of_mem (List.mem_map_of_mem hslot))
  refine ⟨hkeyed, hgiven, fun c hc => ?_, ?_⟩
  · have hfree := List.any_eq_false.1 hunbroken c hc
    rw [isBreaking_iff, not_or, not_or] at hfree
    exact hfree
  · obtain ⟨key, name, value⟩ := slot
    obtain rfl : key = Text.lower name := hkeyed
    rcases HeaderName.isValid_iff.1 hvalid with hplain | ⟨plain, hplain, rfl⟩
    · exact Or.inl ⟨hplain, Manifest.parse_headerLine hplain hunbroken⟩
    · exact Or.inr ⟨plain, hplain, rfl, Manifest.parse_headerLine_broken hplain hunbroken⟩

/-- Here a name with a line feed behind it is given to a section, then in another letter case. -/
theorem of_mem_run_lineFeed :
    ((['x', '\n'], ⟨['X', '\n'], ['w']⟩) : Text × Header)
        ∈ (run empty [.set ['X', '\n'] (.text ['v']), .set ['x', '\n'] (.text ['w'])]).1.slots
      ∧ ∃ plain, HeaderName.isPlain plain = true ∧ (['X', '\n'] : Text) = plain ++ [.scalar '\n']
        ∧ Manifest.parse (Manifest.headerLine ⟨['X', '\n'], ['w']⟩)
          = .error (.invalidHeader 1 plain) := by
  have hslot : ((['x', '\n'], ⟨['X', '\n'], ['w']⟩) : Text × Header)
      ∈ (run empty [.set ['X', '\n'] (.text ['v']), .set ['x', '\n'] (.text ['w'])]).1.slots := by
    have hslots :
        (run empty [.set ['X', '\n'] (.text ['v']), .set ['x', '\n'] (.text ['w'])]).1.slots
          = [((['x', '\n'], ⟨['X', '\n'], ['w']⟩) : Text × Header)] := by
      rfl
    rw [hslots]
    exact List.mem_cons_self
  refine ⟨hslot, ?_⟩
  rcases (of_mem_run _ hslot).2.2.2 with ⟨hplain, -⟩ | ⟨plain, hplain, hname, -, hparse⟩
  · exact absurd hplain (by decide)
  · exact ⟨plain, hplain, hname, hparse⟩

end Attributes

end Wab
