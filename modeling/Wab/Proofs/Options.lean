import Mathlib.Data.List.Basic
import Wab.Config.File
import Wab.Proofs.Cut
import Wab.Proofs.Dictionary
import Wab.Proofs.Outcome
import Wab.Proofs.Utf8

/-! # The configuration that a file and further options give

The tables of a file are flattened to options with the name of their section and a colon in front,
and further options take the place of those of the same name. Names may hold colons themselves, so
two tables can give options of one name, but neither the section of the known options nor their
names hold one: a known option comes from the section and from nowhere else.

* **`Config.effective?`**, **`Config.Admissible`** — the value that counts for an option, and what
  tables and options must be like.
* **`Config.key_inj`** — where a known option comes from.
* **`Config.ofTables_eq_outcome`** — the first thing that is wrong counts.
* **`Config.get?_options`** — the options of tables and further ones.
* **`Config.readTables_eq_ok_iff`** — the tables that a file holds.
* **`Config.ofTables_iff`** — when there is a configuration, and which one. -/

namespace Wab

/-- The error is about the configuration and is reported; any other ends the run. -/
def ConfigError.isReported : ConfigError → Bool
  | .fault _ => false
  | _ => true

namespace Config

/-! ## What is configured -/

/-- The value of an option. -/
def value (c : Config) : Field → Text
  | .nameStem => c.nameStem
  | .importPackage => c.importPackage
  | .manifestVersion => c.manifestVersion

/-- A table of tables in which no name comes twice. -/
structure IsMapping (tables : Dictionary Value) : Prop where
  /-- No section comes twice. -/
  titles : (Dictionary.names tables).Nodup
  /-- No key comes twice in a section. -/
  keys : ∀ entry ∈ tables, ∀ fields, entry.2.table? = some fields → (Dictionary.names fields).Nodup

/-- The value that the tables of a file have for an option. -/
def fileValue? (tables : Dictionary Value) (f : Field) : Option Value :=
  (Dictionary.get? tables sectionName).bind fun contents =>
    contents.table?.bind fun fields => Dictionary.get? fields f.name

/-- The value that counts for an option: the one that is given besides the file, or else that of the
file. -/
def effective? (tables overrides : Dictionary Value) (f : Field) : Option Value :=
  (Dictionary.get? overrides (sectionName ++ .scalar ':' :: f.name)).or (fileValue? tables f)

/-- What a file and further options must be like to give a configuration. -/
structure Admissible (tables overrides : Dictionary Value) : Prop where
  /-- The file consists of tables. -/
  areTables : ∀ entry ∈ tables, ∃ fields, entry.2.table? = some fields
  /-- Their keys are those of known options, and stand in the section of the options. -/
  keys : ∀ entry ∈ tables, ∀ fields, entry.2.table? = some fields →
    ∀ name ∈ Dictionary.names fields, entry.1 = sectionName ∧ ∃ f : Field, name = f.name
  /-- The further options are known. -/
  areKnown : ∀ name ∈ Dictionary.names overrides,
    ∃ f : Field, name = sectionName ++ .scalar ':' :: f.name
  /-- The values that count are texts. -/
  texts : ∀ f v, effective? tables overrides f = some v → ∃ s, v = .text s

/-- A configuration with an option set has the new value there and the old ones elsewhere. -/
theorem value_set (c : Config) (s : Text) (f g : Field) :
    (c.set s f).value g = if f = g then s else c.value g := by
  cases f <;> cases g <;> rfl

/-- Configurations with the same values are the same. -/
theorem eq_of_value {c d : Config} (h : ∀ f, c.value f = d.value f) : c = d := by
  obtain ⟨stem, packages, version⟩ := c
  obtain ⟨stem', packages', version'⟩ := d
  have hstem : stem = stem' := h .nameStem
  have hpackages : packages = packages' := h .importPackage
  have hversion : version = version' := h .manifestVersion
  rw [hstem, hpackages, hversion]

/-! ## Names of options -/

/-- No colon stands in the name of an option. -/
theorem colon_not_mem_name (f : Field) : .scalar ':' ∉ f.name := by
  cases f <;> decide

/-- **A known option comes from its section and from nowhere else**, although a colon may stand in
the names of sections and keys. -/
theorem key_inj {title name : Text} {f : Field} :
    key title name = key sectionName f.name ↔ title = sectionName ∧ name = f.name := by
  have hsection : .scalar ':' ∉ sectionName := by
    decide
  rw [key, key, eq_comm, List.append_cons_inj_of_notMem hsection (colon_not_mem_name f)]
  tauto

/-- An option is known by its name with the section in front. -/
theorem field?_eq_some_iff {name : Text} {f : Field} :
    field? name = some f ↔ name = key sectionName f.name := by
  constructor
  · intro h
    rw [field?] at h
    split at h
    next before after hcut =>
      split at h
      next hsection =>
        have hfound := List.find?_some h
        have hname : f.name = after := eq_of_beq hfound
        rw [Text.eq_of_cut? hcut, hsection, hname, List.append_assoc, List.singleton_append]
        rfl
      next => exact absurd h (Option.some_ne_none f).symm
    next => exact absurd h (Option.some_ne_none f).symm
  · rintro rfl
    exact field?_key f

/-! ## Taking the tables for options -/

/-- What is wrong with an entry of a file that is no table. -/
def noTable? (entry : Text × Value) : Option ConfigError :=
  match entry.2.table? with
  | none => some (.notTable entry.1 entry.2.typeName)
  | some _ => none

/-- The options that a table gives. -/
def optionsOf (entry : Text × Value) : Dictionary Value :=
  (entry.2.table?.getD []).map fun field => (key entry.1 field.1, field.2)

/-- What is wrong with an option that is not known or whose value is no text. -/
def flaw? (entry : Text × Value) : Option ConfigError :=
  match field? entry.1, entry.2.text? with
  | none, _ => some (.unknownOption entry.1)
  | some _, none => some (.notText entry.1 entry.2.typeName)
  | some _, some _ => none

/-- Takes over an option if it is known and its value is a text. -/
def put (c : Config) (entry : Text × Value) : Config :=
  match field? entry.1, entry.2.text? with
  | some f, some s => c.set s f
  | _, _ => c

/-- The options of a file and further ones. -/
def options (tables overrides : Dictionary Value) : Dictionary Value :=
  Dictionary.ofList (tables.flatMap optionsOf ++ overrides)

/-- No option comes twice. -/
theorem nodup_names_options (tables overrides : Dictionary Value) :
    (Dictionary.names (options tables overrides)).Nodup :=
  Dictionary.nodup_names_ofList _

/-- An entry of a file is as it should be if it is a table. -/
theorem noTable?_eq_none_iff {entry : Text × Value} :
    noTable? entry = none ↔ ∃ fields, entry.2.table? = some fields := by
  rw [noTable?]
  cases entry.2.table? with
  | none => simp
  | some fields => simp

/-- An option is as it should be if it is known and its value is a text. -/
theorem flaw?_eq_none_iff {entry : Text × Value} :
    flaw? entry = none
      ↔ (∃ f : Field, entry.1 = key sectionName f.name) ∧ ∃ s, entry.2 = .text s := by
  simp only [← field?_eq_some_iff, ← Value.text?_eq_some_iff]
  rw [flaw?]
  cases field? entry.1 with
  | none => simp
  | some f =>
      cases entry.2.text? with
      | none => simp
      | some s => simp

/-- Whatever is wrong with tables and options is reported. -/
theorem isReported_of_flaw? {entry : Text × Value} {e : ConfigError}
    (h : noTable? entry = some e ∨ flaw? entry = some e) : e.isReported := by
  rcases h with h | h
  · rw [noTable?] at h
    split at h
    · rw [← Option.some.inj h]
      rfl
    · exact absurd h (Option.some_ne_none e).symm
  · rw [flaw?] at h
    split at h
    · rw [← Option.some.inj h]
      rfl
    · rw [← Option.some.inj h]
      rfl
    · exact absurd h (Option.some_ne_none e).symm

/-- Flattening fails at the first entry that is no table, and else gives the options of all. -/
theorem flatten_eq_outcome (tables : Dictionary Value) :
    flatten tables
      = outcome (tables.findSome? noTable?) (Dictionary.ofList (tables.flatMap optionsOf)) := by
  have hstep : ∀ entry ∈ tables, ∀ given : Dictionary Value,
      addSection given entry.1 entry.2
        = outcome (noTable? entry) (given.insertAll (optionsOf entry)) := by
    intro entry _ given
    rw [addSection, noTable?, optionsOf]
    cases entry.2.table? with
    | none => rfl
    | some fields => rfl
  rw [flatten, foldlM_eq_outcome hstep, Dictionary.ofList, Dictionary.insertAll,
    List.foldl_flatMap]
  rfl

/-- Taking over fails at the first option that is wrong. -/
theorem ofOptions_eq_outcome (given : Dictionary Value) :
    ofOptions given = outcome (given.findSome? flaw?) (given.foldl put {}) := by
  have hstep : ∀ entry ∈ given, ∀ c : Config,
      c.setOption entry.1 entry.2 = outcome (flaw? entry) (c.put entry) := by
    intro entry _ c
    rw [setOption, flaw?, put]
    cases field? entry.1 with
    | none => rfl
    | some f =>
        cases entry.2.text? with
        | none => rfl
        | some s => rfl
  exact foldlM_eq_outcome hstep {}

/-- **The first thing that is wrong counts**, and entries that are no tables come first. -/
theorem ofTables_eq_outcome (tables overrides : Dictionary Value) :
    ofTables tables overrides
      = outcome ((tables.findSome? noTable?).or ((options tables overrides).findSome? flaw?))
        ((options tables overrides).foldl put {}) := by
  have hoptions : Dictionary.insertAll (Dictionary.ofList (tables.flatMap optionsOf)) overrides
      = options tables overrides := by
    rw [options, Dictionary.ofList_append]
  rw [ofTables, flatten_eq_outcome]
  cases tables.findSome? noTable? with
  | some e => rfl
  | none =>
      rw [outcome_none, ok_bind, hoptions, ofOptions_eq_outcome]
      rfl

/-! ## Values -/

/-- An option that is taken over has the new value if it is the one that is asked for. -/
theorem value_put_key (c : Config) (f : Field) (v : Value) :
    (c.put (key sectionName f.name, v)).value f = v.text?.getD (c.value f) := by
  rw [put, field?_key]
  cases v.text? with
  | none => rfl
  | some s =>
      rw [value_set, if_pos rfl]
      rfl

/-- Options of other names do not touch an option. -/
theorem value_put_of_ne (c : Config) {entry : Text × Value} {f : Field}
    (h : entry.1 ≠ key sectionName f.name) : (c.put entry).value f = c.value f := by
  rw [put]
  split
  next g s hfield _ =>
    have hne : g ≠ f := by
      rintro rfl
      exact h (field?_eq_some_iff.1 hfield)
    rw [value_set, if_neg hne]
  next => rfl

/-- Among options with different names the one of a field gives its value, if it is a text. -/
theorem value_foldl_put {given : Dictionary Value} (h : (Dictionary.names given).Nodup) (c : Config)
    (f : Field) :
    (given.foldl put c).value f
      = ((Dictionary.get? given (key sectionName f.name)).bind Value.text?).getD (c.value f) := by
  induction given generalizing c with
  | nil => rfl
  | cons entry given ih =>
      obtain ⟨name, v⟩ := entry
      obtain ⟨hnew, hrest⟩ := List.nodup_cons.1 h
      rw [List.foldl_cons, ih hrest, Dictionary.get?_cons]
      by_cases hname : name = key sectionName f.name
      · -- None of the others is the option of the field.
        rw [hname] at hnew ⊢
        rw [Dictionary.get?_eq_none_iff.2 hnew, if_pos rfl, value_put_key]
        rfl
      · rw [if_neg hname, value_put_of_ne c hname]

/-- The tables of a file give a field the value that stands in the section of the options. -/
theorem mem_flatMap_optionsOf {tables : Dictionary Value} (h : IsMapping tables) (f : Field)
    (v : Value) :
    (key sectionName f.name, v) ∈ tables.flatMap optionsOf ↔ fileValue? tables f = some v := by
  rw [List.mem_flatMap, fileValue?, Option.bind_eq_some_iff]
  constructor
  · rintro ⟨⟨title, contents⟩, hentry, hmem⟩
    obtain ⟨⟨name, v'⟩, hfield, hkey⟩ := List.mem_map.1 hmem
    obtain ⟨hname, rfl⟩ := Prod.mk.inj hkey
    obtain ⟨rfl, rfl⟩ := key_inj.1 hname
    cases hfields : contents.table? with
    | none =>
        rw [hfields] at hfield
        exact absurd hfield List.not_mem_nil
    | some fields =>
        rw [hfields] at hfield
        refine ⟨contents, Dictionary.get?_of_mem h.titles hentry, ?_⟩
        rw [hfields]
        exact Dictionary.get?_of_mem (h.keys _ hentry fields hfields) hfield
  · rintro ⟨contents, hentry, hfields⟩
    obtain ⟨fields, hfields, hfield⟩ := Option.bind_eq_some_iff.1 hfields
    refine ⟨(sectionName, contents), Dictionary.mem_of_get? hentry, List.mem_map.2 ?_⟩
    refine ⟨(f.name, v), ?_, rfl⟩
    rw [hfields]
    exact Dictionary.mem_of_get? hfield

/-- **The option of a field is the value that counts for it.** -/
theorem get?_options {tables overrides : Dictionary Value} (htables : IsMapping tables)
    (hoverrides : (Dictionary.names overrides).Nodup) (f : Field) :
    Dictionary.get? (options tables overrides) (key sectionName f.name)
      = effective? tables overrides f := by
  have hfile := Dictionary.last?_eq_of_forall_mem (mem_flatMap_optionsOf htables f)
  rw [options, Dictionary.get?_ofList, Dictionary.last?_append, hfile,
    Dictionary.last?_of_nodup hoverrides]
  rfl

/-! ## Admissible tables and options -/

/-- The names of the options that a table gives. -/
theorem mem_names_optionsOf {entry : Text × Value} {name : Text} :
    name ∈ Dictionary.names (optionsOf entry)
      ↔ ∃ fields, entry.2.table? = some fields
        ∧ ∃ n ∈ Dictionary.names fields, key entry.1 n = name := by
  rw [optionsOf, Dictionary.names, List.map_map]
  cases entry.2.table? with
  | none => simp
  | some fields =>
      rw [Option.getD_some]
      simp only [Option.some.injEq, exists_eq_left']
      rw [Dictionary.names, List.mem_map]
      simp

/-- The names of the options are those that the tables give and those that are given besides. -/
theorem mem_names_options {tables overrides : Dictionary Value} {name : Text} :
    name ∈ Dictionary.names (options tables overrides)
      ↔ (∃ entry ∈ tables, name ∈ Dictionary.names (optionsOf entry))
        ∨ name ∈ Dictionary.names overrides := by
  rw [options, Dictionary.mem_names_ofList, Dictionary.names, List.map_append, List.mem_append,
    List.map_flatMap, List.mem_flatMap]
  rfl

/-- **Nothing is wrong with tables and options** if and only if they are as they must be. -/
theorem findSome?_eq_none_iff {tables overrides : Dictionary Value} (htables : IsMapping tables)
    (hoverrides : (Dictionary.names overrides).Nodup) :
    (tables.findSome? noTable?).or ((options tables overrides).findSome? flaw?) = none
      ↔ Admissible tables overrides := by
  rw [Option.or_eq_none_iff, List.findSome?_eq_none_iff, List.findSome?_eq_none_iff]
  constructor
  · rintro ⟨hareTables, hright⟩
    have hknown : ∀ name ∈ Dictionary.names (options tables overrides),
        ∃ f : Field, name = key sectionName f.name := by
      intro name hname
      obtain ⟨entry, hentry, rfl⟩ := List.mem_map.1 hname
      exact (flaw?_eq_none_iff.1 (hright entry hentry)).1
    refine ⟨fun entry hentry => noTable?_eq_none_iff.1 (hareTables entry hentry), ?_, ?_, ?_⟩
    · intro entry hentry fields hfields n hn
      have hoption := mem_names_optionsOf.2 ⟨fields, hfields, n, hn, rfl⟩
      obtain ⟨f, hf⟩ := hknown _ (mem_names_options.2 (Or.inl ⟨entry, hentry, hoption⟩))
      exact ⟨(key_inj.1 hf).1, f, (key_inj.1 hf).2⟩
    · intro name hname
      exact hknown name (mem_names_options.2 (Or.inr hname))
    · intro f v hv
      rw [← get?_options htables hoverrides] at hv
      exact (flaw?_eq_none_iff.1 (hright _ (Dictionary.mem_of_get? hv))).2
  · intro h
    refine ⟨fun entry hentry => noTable?_eq_none_iff.2 (h.areTables entry hentry), ?_⟩
    intro entry hentry
    have hknown : ∃ f : Field, entry.1 = key sectionName f.name := by
      rcases mem_names_options.1 (List.mem_map_of_mem hentry) with ⟨table, htable, hname⟩ | hname
      · obtain ⟨fields, hfields, n, hn, hkey⟩ := mem_names_optionsOf.1 hname
        obtain ⟨htitle, f, rfl⟩ := h.keys table htable fields hfields n hn
        exact ⟨f, by rw [← hkey, htitle]⟩
      · exact h.areKnown _ hname
    obtain ⟨f, hf⟩ := hknown
    have hvalue : effective? tables overrides f = some entry.2 := by
      rw [← get?_options htables hoverrides, ← hf]
      exact Dictionary.get?_of_mem (nodup_names_options tables overrides) hentry
    exact flaw?_eq_none_iff.2 ⟨⟨f, hf⟩, h.texts f entry.2 hvalue⟩

/-! ## Files -/

/-- The tables that a file holds: none if no file is named, and else those that the reader finds in
its text, once each of its lines ends with a line feed. -/
inductive HoldsTables (read : TableReader) (files : Files) :
    Option Text → Dictionary Value → Prop
  /-- No file is named. -/
  | unnamed : HoldsTables read files none []
  /-- The name of the file is empty. -/
  | empty : HoldsTables read files (some []) []
  /-- A file with a text is named. -/
  | ofText {file text : Text} {bytes : Bytes} {tables : Dictionary Value} (hfile : file ≠ [])
      (hbytes : files.read file = .ok bytes) (htext : Utf8.encode text = .ok bytes)
      (htables : read (List.intercalate [.scalar '\n'] (Lines.split text)) = .ok tables) :
      HoldsTables read files (some file) tables

/-- Tables are found in the bytes of a text that the reader understands. -/
theorem parseTables_eq_ok_iff {read : TableReader} {file : Text} {bytes : Bytes}
    {tables : Dictionary Value} :
    parseTables read file bytes = .ok tables
      ↔ ∃ text, Utf8.encode text = .ok bytes ∧ read (withLineFeeds text) = .ok tables := by
  unfold parseTables
  constructor
  · intro h
    split at h
    next => exact absurd h (by simp)
    next text htext =>
      split at h
      next => exact absurd h (by simp)
      next => exact absurd h (by simp)
      next found hfound =>
        obtain rfl := Except.ok.inj h
        exact ⟨text, Utf8.decode?_eq_some_iff.1 htext, hfound⟩
  · rintro ⟨text, htext, hread⟩
    rw [Utf8.decode?_eq_some_iff.2 htext]
    simp only [hread]

/-- **The tables that are read are those that the file holds.** -/
theorem readTables_eq_ok_iff {read : TableReader} {files : Files} {file : Option Text}
    {tables : Dictionary Value} :
    readTables read files file = .ok tables ↔ HoldsTables read files file tables := by
  unfold readTables
  constructor
  · intro h
    split at h
    next =>
      obtain rfl := Except.ok.inj h
      exact .unnamed
    next =>
      obtain rfl := Except.ok.inj h
      exact .empty
    next named hnamed =>
      split at h
      next => exact absurd h (by simp)
      next => exact absurd h (by simp)
      next => exact absurd h (by simp)
      next bytes hbytes =>
        obtain ⟨text, htext, hread⟩ := parseTables_eq_ok_iff.1 h
        exact .ofText (fun hempty => hnamed (by rw [hempty])) hbytes htext hread
  · intro h
    cases h with
    | unnamed => rfl
    | empty => rfl
    | ofText hfile hbytes htext htables =>
        split
        next h => exact absurd h (by simp)
        next h => exact absurd (Option.some.inj h) hfile
        next named _ h =>
          obtain rfl := Option.some.inj h
          rw [hbytes]
          exact parseTables_eq_ok_iff.2 ⟨_, htext, htables⟩

/-- **The configuration of tables and further options**: there is one if and only if they are
admissible, each option then has the value that counts for it or else its default, and otherwise an
error of the configuration is reported. A file gives the tables that it holds. -/
theorem ofTables_iff {tables overrides : Dictionary Value} (htables : IsMapping tables)
    (hoverrides : (Dictionary.names overrides).Nodup) :
    (∀ c, ofTables tables overrides = .ok c
        ↔ Admissible tables overrides
          ∧ ∀ f, c.value f
              = ((effective? tables overrides f).bind Value.text?).getD (value {} f))
      ∧ (¬ Admissible tables overrides →
          ∃ e, ofTables tables overrides = .error e ∧ e.isReported)
      ∧ ∀ read files file, HoldsTables read files file tables →
          load read files file overrides = ofTables tables overrides := by
  have hvalue : ∀ f, ((options tables overrides).foldl put {}).value f
      = ((effective? tables overrides f).bind Value.text?).getD (value {} f) := by
    intro f
    rw [value_foldl_put (nodup_names_options tables overrides), get?_options htables hoverrides]
  have hflaw := findSome?_eq_none_iff htables hoverrides
  rw [ofTables_eq_outcome]
  refine ⟨?_, ?_, ?_⟩
  · intro c
    rw [← hflaw]
    cases (tables.findSome? noTable?).or ((options tables overrides).findSome? flaw?) with
    | some e => simp
    | none =>
        rw [outcome_none, Except.ok.injEq]
        constructor
        · rintro rfl
          exact ⟨rfl, hvalue⟩
        · rintro ⟨-, hc⟩
          exact eq_of_value fun f => (hvalue f).trans (hc f).symm
  · intro h
    rw [← hflaw] at h
    obtain ⟨e, he⟩ := Option.ne_none_iff_exists'.1 h
    refine ⟨e, by rw [he, outcome_some], ?_⟩
    rcases Option.or_eq_some_iff.1 he with htable | ⟨-, hoption⟩
    · obtain ⟨entry, -, hentry⟩ := List.exists_of_findSome?_eq_some htable
      exact isReported_of_flaw? (Or.inl hentry)
    · obtain ⟨entry, -, hentry⟩ := List.exists_of_findSome?_eq_some hoption
      exact isReported_of_flaw? (Or.inr hentry)
  · intro read files file hholds
    rw [load, readTables_eq_ok_iff.2 hholds, ok_bind, ofTables_eq_outcome]

/-- Here the option that is given besides takes the place of a number, and the section with a colon
in its name is empty. -/
theorem ofTables_iff_overridden :
    IsMapping [("webbundle:importPackage", .table []),
        ("webbundle",
          .table [("importPackage", .int 3), ("manifestVersion", .text ['3'])])]
      ∧ (Dictionary.names [("webbundle:importPackage", Value.text ['p'])]).Nodup
      ∧ ofTables
          [("webbundle:importPackage", .table []),
            ("webbundle",
              .table [("importPackage", .int 3), ("manifestVersion", .text ['3'])])]
          [("webbundle:importPackage", .text ['p'])]
        = .ok { importPackage := ['p'], manifestVersion := ['3'] } := by
  have hmapping : IsMapping [("webbundle:importPackage", .table []),
      ("webbundle",
        .table [("importPackage", .int 3), ("manifestVersion", .text ['3'])])] := by
    refine ⟨by decide, ?_⟩
    intro entry hentry fields hfields
    simp only [List.mem_cons, List.not_mem_nil, or_false] at hentry
    rcases hentry with rfl | rfl
    · rw [← Option.some.inj hfields]
      exact List.nodup_nil
    · rw [← Option.some.inj hfields]
      decide
  have hnodup :
      (Dictionary.names [("webbundle:importPackage", Value.text ['p'])]).Nodup := by
    decide
  refine ⟨hmapping, hnodup, ?_⟩
  rw [(ofTables_iff hmapping hnodup).1]
  refine ⟨⟨?_, ?_, ?_, ?_⟩, ?_⟩
  · intro entry hentry
    simp only [List.mem_cons, List.not_mem_nil, or_false] at hentry
    rcases hentry with rfl | rfl <;> exact ⟨_, rfl⟩
  · intro entry hentry fields hfields name hname
    simp only [List.mem_cons, List.not_mem_nil, or_false] at hentry
    rcases hentry with rfl | rfl
    · rw [← Option.some.inj hfields] at hname
      exact absurd hname List.not_mem_nil
    · rw [← Option.some.inj hfields] at hname
      refine ⟨rfl, ?_⟩
      simp only [Dictionary.names, List.map_cons, List.map_nil, List.mem_cons, List.not_mem_nil,
        or_false] at hname
      rcases hname with rfl | rfl
      · exact ⟨.importPackage, rfl⟩
      · exact ⟨.manifestVersion, rfl⟩
  · intro name hname
    exact ⟨.importPackage, List.mem_singleton.1 hname⟩
  · intro f v hv
    cases f with
    | nameStem => exact absurd hv (Option.some_ne_none v).symm
    | importPackage => exact ⟨_, (Option.some.inj hv).symm⟩
    | manifestVersion => exact ⟨_, (Option.some.inj hv).symm⟩
  · intro f
    cases f <;> rfl

end Config

end Wab
