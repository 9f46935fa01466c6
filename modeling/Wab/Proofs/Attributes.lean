import Wab.Manifest.Attributes
import Wab.Proofs.Dictionary
import Wab.Proofs.HeaderName

/-! # The headers of a section as a list

Whatever is stored in a section, its headers have valid and distinct names and unbroken values. So a
section is the list of its headers: storing them one by one in an empty section gives it back.

* **`Attributes.WellFormed`** — what holds of every section that headers were stored in.
* **`Attributes.insertHeaders`** — storing a list of headers.
* **`Attributes.insertHeaders_append`** — headers that fit are stored one behind the other.
* **`Attributes.get?_insertHeaders`**, **`Attributes.names_insertHeaders`** — values and names
  after a list of headers has been stored. -/

namespace Wab.Attributes

/-- What holds of a header that is kept under a key. -/
structure Kept (slot : Text × Header) : Prop where
  /-- The key is the lower-case form of the name. -/
  keyed : slot.1 = Text.lower slot.2.name
  /-- The name is valid. -/
  valid : HeaderName.isValid slot.2.name = true
  /-- The value holds no line break and no NUL. -/
  unbroken : slot.2.value.any isBreaking = false

/-- What holds of a section that headers were stored in. -/
structure WellFormed (a : Attributes) : Prop where
  /-- No two headers have the same name in lower case. -/
  distinct : (Dictionary.names a.slots).Nodup
  /-- Each header is kept under its name. -/
  kept : ∀ slot ∈ a.slots, Kept slot

/-- The empty section. -/
theorem wellFormed_empty : empty.WellFormed :=
  ⟨List.nodup_nil, fun _ h => absurd h List.not_mem_nil⟩

/-- The characters that cannot stand in a value. -/
theorem isBreaking_iff {c : CodePoint} :
    isBreaking c = true ↔ c = '\r' ∨ c = '\n' ∨ c = '\x00' := by
  simp [isBreaking, or_assoc]

/-- No line ends in a value. -/
theorem unbroken_of_any_isBreaking {value : Text} (h : value.any isBreaking = false) :
    Lines.Unbroken value := by
  have hvalue := List.any_eq_false.1 h
  exact ⟨fun hr => hvalue _ hr (by decide), fun hn => hvalue _ hn (by decide)⟩

/-! ## One header -/

/-- What storing a header can do: it takes the place of the one of its name, or a valid new name
comes last. -/
theorem insert_cases {a b : Attributes} {name value : Text} (h : a.insert name value = .ok b) :
    value.any isBreaking = false ∧
      ((∃ header, a.find? name = some header ∧
          b = ⟨Dictionary.insert a.slots (Text.lower name) ⟨header.name, value⟩⟩) ∨
        (a.find? name = none ∧ HeaderName.isValid name = true ∧
          b = ⟨a.slots ++ [(Text.lower name, ⟨name, value⟩)]⟩)) := by
  rw [insert] at h
  split at h
  next => exact absurd h (by simp)
  next hvalue =>
    -- The name is only checked if it is new.
    refine ⟨by simpa using hvalue, ?_⟩
    split at h
    next header hfind => exact Or.inl ⟨header, hfind, (Except.ok.inj h).symm⟩
    next hfind =>
      split at h
      next hvalid =>
        have hnew := Dictionary.insert_of_not_mem (Dictionary.get?_eq_none_iff.1 hfind)
          (Header.mk name value)
        exact Or.inr ⟨hfind, hvalid, by rw [← Except.ok.inj h, hnew]⟩
      next => exact absurd h (by simp)

/-- Why a header cannot be stored: for its value or for its name. -/
theorem insert_eq_error {a : Attributes} {name value : Text} {e : AttributeError}
    (h : a.insert name value = .error e) : e = .illegalValue name ∨ e = .invalidName name := by
  rw [insert] at h
  split at h
  next => exact Or.inl (Except.error.inj h).symm
  next =>
    split at h
    next => exact absurd h (by simp)
    next =>
      split at h
      next => exact absurd h (by simp)
      next => exact Or.inr (Except.error.inj h).symm

/-- A header that is found has the name that was looked for, up to letter case. -/
theorem WellFormed.kept_of_find? {a : Attributes} (ha : a.WellFormed) {name : Text}
    {header : Header} (h : a.find? name = some header) : Kept (Text.lower name, header) :=
  ha.kept _ (Dictionary.mem_of_get? h)

/-- A header has another name than one that is kept under another key. -/
theorem not_same_of_kept {slot : Text × Header} (h : Kept slot) {name : Text}
    (hkey : slot.1 ≠ Text.lower name) : HeaderName.same slot.2.name name = false := by
  rw [Bool.eq_false_iff, ne_eq, HeaderName.same_iff, ← h.keyed]
  exact hkey

/-- A header that is found stands at one place among headers of other names, where it is given
another value. -/
theorem WellFormed.exists_append_of_find? {a : Attributes} (ha : a.WellFormed) {name : Text}
    {own : Header} (h : a.find? name = some own) :
    ∃ before after, a.slots = before ++ (Text.lower name, own) :: after
      ∧ (∀ slot ∈ before ++ after, HeaderName.same slot.2.name name = false)
      ∧ ∀ header, Dictionary.insert a.slots (Text.lower name) header
        = before ++ (Text.lower name, header) :: after := by
  obtain ⟨before, after, hslots, hinsert⟩ := Dictionary.exists_append_of_get? h
  refine ⟨before, after, hslots, fun slot hslot => ?_, hinsert⟩
  have hmem : slot ∈ a.slots := by
    rw [hslots]
    exact (List.sublist_cons_self _ after).append_left before |>.mem hslot
  -- The other headers are kept under other keys, so they have other names.
  refine not_same_of_kept (ha.kept slot hmem) fun hkey => ?_
  have hdistinct := ha.distinct
  rw [hslots, Dictionary.names, List.map_append, List.map_cons, List.perm_middle.nodup_iff,
    List.nodup_cons, ← List.map_append] at hdistinct
  have hname : slot.1 ∈ (before ++ after).map (·.1) := List.mem_map_of_mem hslot
  rw [hkey] at hname
  exact hdistinct.1 hname

/-- A section with fewer headers is well-formed. -/
theorem WellFormed.sublist {a : Attributes} (ha : a.WellFormed) {slots : Dictionary Header}
    (h : slots.Sublist a.slots) : WellFormed ⟨slots⟩ :=
  ⟨ha.distinct.sublist (h.map _), fun slot hslot => ha.kept slot (h.mem hslot)⟩

/-- The headers that are left if some are dropped by their names. -/
theorem headers_filterNames (keep : Text → Bool) (a : Attributes) :
    (a.filterNames keep).headers = a.headers.filter fun h => keep h.name := by
  rw [headers, filterNames, headers, List.filter_map]
  rfl

/-- Storing a header keeps a section well-formed. -/
theorem WellFormed.insert {a b : Attributes} (ha : a.WellFormed) {name value : Text}
    (h : a.insert name value = .ok b) : b.WellFormed := by
  obtain ⟨hvalue, ⟨header, hfind, rfl⟩ | ⟨hfind, hvalid, rfl⟩⟩ := insert_cases h
  · obtain ⟨hkeyed, hvalid, -⟩ := ha.kept_of_find? hfind
    refine ⟨Dictionary.nodup_names_insert ha.distinct _ _, fun slot hslot => ?_⟩
    rcases Dictionary.mem_of_mem_insert hslot with hold | rfl
    · exact ha.kept slot hold
    · exact ⟨hkeyed, hvalid, hvalue⟩
  · have hnew := Dictionary.get?_eq_none_iff.1 hfind
    refine ⟨?_, fun slot hslot => ?_⟩
    · rw [← Dictionary.insert_of_not_mem hnew]
      exact Dictionary.nodup_names_insert ha.distinct _ _
    · rcases List.mem_append.1 hslot with hold | hlast
      · exact ha.kept slot hold
      · rw [List.mem_singleton.1 hlast]
        exact ⟨rfl, hvalid, hvalue⟩

/-- Nothing changes if a header is given the value that it has. -/
theorem WellFormed.insert_of_get? {a : Attributes} (ha : a.WellFormed) {name value : Text}
    (h : a.get? name = some value) : a.insert name value = .ok a := by
  obtain ⟨header, hfind, rfl⟩ := Option.map_eq_some_iff.1 h
  have hslots : Dictionary.insert a.slots (Text.lower name) header = a.slots :=
    Dictionary.insert_of_get? hfind
  rw [Attributes.insert, (ha.kept_of_find? hfind).unbroken, hfind]
  simp only [Bool.false_eq_true, if_false, hslots]

/-- A name that no header has comes last. -/
theorem insert_of_find?_eq_none {a : Attributes} {name value : Text} (h : a.find? name = none)
    (hname : HeaderName.isValid name = true) (hvalue : value.any isBreaking = false) :
    a.insert name value = .ok ⟨a.slots ++ [(Text.lower name, ⟨name, value⟩)]⟩ := by
  rw [insert, hvalue, h]
  simp only [Bool.false_eq_true, if_false, hname, if_true,
    Dictionary.insert_of_not_mem (Dictionary.get?_eq_none_iff.1 h)]

/-- The next header of a section is new behind the headers before it, and is stored there. -/
theorem WellFormed.insert_next {before after : Dictionary Header} {slot : Text × Header}
    (h : WellFormed ⟨before ++ slot :: after⟩) :
    find? ⟨before⟩ slot.2.name = none
      ∧ Attributes.insert ⟨before⟩ slot.2.name slot.2.value = .ok ⟨before ++ [slot]⟩ := by
  obtain ⟨hkeyed, hvalid, hunbroken⟩ := h.kept slot (by simp)
  have hnew : find? ⟨before⟩ slot.2.name = none := by
    refine Dictionary.get?_eq_none_iff.2 fun hmem => ?_
    have hdistinct := h.distinct
    rw [Dictionary.names, List.map_append, List.nodup_append] at hdistinct
    exact hdistinct.2.2 _ hmem _ (by simp) hkeyed.symm
  refine ⟨hnew, ?_⟩
  rw [insert_of_find?_eq_none hnew hvalid hunbroken, ← hkeyed]

/-- A header can be stored if its value can be and its name is valid or that of a header. -/
theorem exists_insert_iff {a : Attributes} {name value : Text} :
    (∃ b, a.insert name value = .ok b)
      ↔ value.any isBreaking = false
        ∧ (HeaderName.isValid name = true ∨ (a.find? name).isSome = true) := by
  rw [insert]
  cases value.any isBreaking with
  | true => simp
  | false =>
      cases a.find? name with
      | some header => simp
      | none =>
          cases HeaderName.isValid name with
          | true => simp
          | false => simp

/-! ## Several headers -/

/-- Stores headers in order, unless one of them cannot be stored. -/
def insertHeaders (a : Attributes) (headers : List Header) : Except AttributeError Attributes :=
  headers.foldlM (fun a h => a.insert h.name h.value) a

@[simp] theorem insertHeaders_nil (a : Attributes) : a.insertHeaders [] = .ok a := rfl

theorem insertHeaders_cons (a : Attributes) (h : Header) (headers : List Header) :
    a.insertHeaders (h :: headers)
      = (a.insert h.name h.value >>= fun b => b.insertHeaders headers) := by
  rw [insertHeaders, List.foldlM_cons]
  rfl

/-- Storing headers succeeds step by step. -/
theorem insertHeaders_cons_eq_ok {a b : Attributes} {h : Header} {headers : List Header} :
    a.insertHeaders (h :: headers) = .ok b
      ↔ ∃ next, a.insert h.name h.value = .ok next ∧ next.insertHeaders headers = .ok b := by
  rw [insertHeaders_cons]
  cases a.insert h.name h.value with
  | error e => simp [bind, Except.bind]
  | ok next => simp [bind, Except.bind]

/-- Headers with valid names and unbroken values can be stored. -/
theorem exists_insertHeaders {a : Attributes} {headers : List Header}
    (h : ∀ header ∈ headers, HeaderName.isValid header.name = true
      ∧ header.value.any isBreaking = false) :
    ∃ b, a.insertHeaders headers = .ok b := by
  induction headers generalizing a with
  | nil => exact ⟨a, insertHeaders_nil a⟩
  | cons header headers ih =>
      obtain ⟨hname, hvalue⟩ := h header List.mem_cons_self
      obtain ⟨next, hnext⟩ : ∃ next, a.insert header.name header.value = .ok next :=
        exists_insert_iff.2 ⟨hvalue, Or.inl hname⟩
      obtain ⟨b, hb⟩ := ih fun g hg => h g (List.mem_cons_of_mem _ hg)
      exact ⟨b, insertHeaders_cons_eq_ok.2 ⟨next, hnext, hb⟩⟩

/-- Storing headers keeps a section well-formed. -/
theorem WellFormed.insertHeaders {a b : Attributes} (ha : a.WellFormed) {headers : List Header}
    (h : a.insertHeaders headers = .ok b) : b.WellFormed := by
  induction headers generalizing a with
  | nil =>
      rw [insertHeaders_nil] at h
      exact Except.ok.inj h ▸ ha
  | cons header headers ih =>
      obtain ⟨next, hnext, hrest⟩ := insertHeaders_cons_eq_ok.1 h
      exact ih (ha.insert hnext) hrest

/-- Headers that are well-formed together with those of a section are stored behind them. -/
theorem insertHeaders_append {a : Attributes} {slots : Dictionary Header}
    (h : WellFormed ⟨a.slots ++ slots⟩) :
    a.insertHeaders (slots.map (·.2)) = .ok ⟨a.slots ++ slots⟩ := by
  induction slots generalizing a with
  | nil => rw [List.map_nil, insertHeaders_nil, List.append_nil]
  | cons slot slots ih =>
      have hnext := h.insert_next.2
      -- The induction moves one header at a time from the list to the section.
      have hshift : a.slots ++ slot :: slots = a.slots ++ [slot] ++ slots := by
        rw [List.append_assoc, List.singleton_append]
      rw [hshift] at h
      rw [List.map_cons, insertHeaders_cons, hnext, hshift]
      exact ih h

/-- The headers of a well-formed section, stored in an empty one, give the section back. -/
theorem WellFormed.insertHeaders_headers {a : Attributes} (ha : a.WellFormed) :
    empty.insertHeaders a.headers = .ok a :=
  insertHeaders_append ha

/-- Storing a list of headers behind another one. -/
theorem insertHeaders_append_list (a : Attributes) (headers more : List Header) :
    a.insertHeaders (headers ++ more)
      = (a.insertHeaders headers >>= fun b => b.insertHeaders more) := by
  rw [insertHeaders, List.foldlM_append]
  rfl

/-! ## Values -/

/-- The value of the last header of a name, in any letter case. -/
def lastValue? (headers : List Header) (name : Text) : Option Text :=
  headers.reverse.findSome? fun h => if HeaderName.same h.name name then some h.value else none

@[simp] theorem lastValue?_nil (name : Text) : lastValue? [] name = none := rfl

/-- What comes later counts first. -/
theorem lastValue?_append (headers more : List Header) (name : Text) :
    lastValue? (headers ++ more) name = (lastValue? more name <|> lastValue? headers name) := by
  rw [lastValue?, List.reverse_append, List.findSome?_append]
  exact Option.or_eq_orElse

theorem lastValue?_singleton (n value name : Text) :
    lastValue? [⟨n, value⟩] name = if HeaderName.same n name then some value else none := by
  rw [lastValue?, List.reverse_singleton, List.findSome?_singleton]

/-- **A name has the value that was stored last**, or else the one it had. -/
theorem get?_insertHeaders {a b : Attributes} {headers : List Header}
    (h : a.insertHeaders headers = .ok b) (name : Text) :
    b.get? name = (lastValue? headers name <|> a.get? name) := by
  induction headers generalizing a with
  | nil =>
      rw [insertHeaders_nil] at h
      rw [← Except.ok.inj h]
      rfl
  | cons header headers ih =>
      obtain ⟨next, hnext, hrest⟩ := insertHeaders_cons_eq_ok.1 h
      -- The first header counts if no later one has the name, and before the old value.
      have hlast : lastValue? (header :: headers) name
          = (lastValue? headers name <|> lastValue? [header] name) :=
        lastValue?_append [header] headers name
      rw [ih hrest, get?_of_insert hnext, hlast, lastValue?_singleton]
      cases lastValue? headers name with
      | some value => rfl
      | none =>
          by_cases hsame : Text.lower header.name = Text.lower name
          · simp [HeaderName.same, hsame]
          · simp [HeaderName.same, hsame]

/-- A section has the same value under names that are the same. -/
theorem get?_congr {name other : Text} (h : HeaderName.same name other = true) (a : Attributes) :
    a.get? name = a.get? other := by
  rw [get?, get?, find?, find?, HeaderName.same_iff.1 h]

/-! ## Names -/

/-- The names of a list that are new: not among known ones, in any letter case, and each only where
it comes first. -/
def newNames (known : List Text) : List Text → List Text
  | [] => []
  | name :: rest =>
    if known.any (HeaderName.same name) then newNames known rest
    else name :: newNames (known ++ [name]) rest

/-- A section has a header of a name if and only if one of its names is the same. -/
theorem WellFormed.any_same_names {a : Attributes} (ha : a.WellFormed) (name : Text) :
    a.names.any (HeaderName.same name) = (a.find? name).isSome := by
  rw [Bool.eq_iff_iff, List.any_eq_true, Option.isSome_iff_ne_none, ne_eq,
    find?, Dictionary.get?_eq_none_iff, Classical.not_not]
  constructor
  · rintro ⟨n, hn, hsame⟩
    obtain ⟨header, hheader, rfl⟩ := List.mem_map.1 hn
    obtain ⟨slot, hslot, rfl⟩ := List.mem_map.1 hheader
    rw [HeaderName.same_iff.1 hsame, ← (ha.kept slot hslot).keyed]
    exact List.mem_map_of_mem hslot
  · intro hmem
    obtain ⟨slot, hslot, hkey⟩ := List.mem_map.1 hmem
    refine ⟨slot.2.name, List.mem_map_of_mem (List.mem_map_of_mem hslot), ?_⟩
    rw [HeaderName.same_iff, ← hkey]
    exact (ha.kept slot hslot).keyed

/-- A new value does not touch the spelling of names. -/
theorem names_insert_of_find? {a : Attributes} {name value : Text} {header : Header}
    (h : a.find? name = some header) :
    names ⟨Dictionary.insert a.slots (Text.lower name) ⟨header.name, value⟩⟩ = a.names := by
  obtain ⟨slots⟩ := a
  simp only [find?, names, headers, List.map_map] at h ⊢
  induction slots with
  | nil => exact absurd h (by simp)
  | cons slot slots ih =>
      obtain ⟨key, g⟩ := slot
      rw [Dictionary.get?_cons] at h
      rw [Dictionary.insert]
      by_cases hkey : key = Text.lower name
      · rw [if_pos hkey] at h ⊢
        rw [← Option.some.inj h]
        rfl
      · rw [if_neg hkey] at h ⊢
        rw [List.map_cons, List.map_cons, ih h]

/-- **The names after headers were stored**: those before, and then the new ones in the order in
which they first came. -/
theorem WellFormed.names_insertHeaders {a b : Attributes} (ha : a.WellFormed)
    {headers : List Header} (h : a.insertHeaders headers = .ok b) :
    b.names = a.names ++ newNames a.names (headers.map (·.name)) := by
  induction headers generalizing a with
  | nil =>
      rw [insertHeaders_nil] at h
      rw [← Except.ok.inj h, List.map_nil, newNames, List.append_nil]
  | cons header headers ih =>
      obtain ⟨next, hnext, hrest⟩ := insertHeaders_cons_eq_ok.1 h
      -- A name that is there is not new, and another one is known to what follows.
      rw [ih (ha.insert hnext) hrest, List.map_cons, newNames, ha.any_same_names]
      obtain ⟨-, ⟨old, hfind, rfl⟩ | ⟨hfind, -, rfl⟩⟩ := insert_cases hnext
      · rw [names_insert_of_find? hfind, hfind]
        rfl
      · have hnames : names ⟨a.slots ++ [(Text.lower header.name, ⟨header.name, header.value⟩)]⟩
            = a.names ++ [header.name] := by
          simp [names, Attributes.headers]
        rw [hnames, hfind, List.append_assoc, List.singleton_append]
        rfl

end Wab.Attributes
