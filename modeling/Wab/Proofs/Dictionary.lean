import Mathlib.Data.List.Induction
import Wab.Dictionary

/-! # What giving a value to a name changes

A name that is new comes last and a name that is present keeps its place, so the names of a
dictionary stay distinct however values are given to them.

* **`Dictionary.nodup_names_insert`** — distinct names stay distinct.
* **`Dictionary.filter_ofList`**, **`Dictionary.map_ofList`** — the dictionary of some of the
  entries, and of all with other values.
* **`Dictionary.tabulate`** — the dictionary of a function on names.
* **`Dictionary.insert_tabulate`** — giving a value to a name changes the function there.
* **`Dictionary.get?_ofList`**, **`Dictionary.ofList_eq_tabulate`** — the dictionary of a list, name
  by name. -/

namespace Wab.Dictionary

variable {β : Type}

/-- A name has no value if and only if it is not among the names. -/
theorem get?_eq_none_iff {d : Dictionary β} {name : Text} :
    get? d name = none ↔ name ∉ names d := by
  induction d with
  | nil => simp [names]
  | cons entry rest ih =>
      obtain ⟨n, v⟩ := entry
      have hnames : names ((n, v) :: rest) = n :: names rest := rfl
      rw [get?_cons, hnames, List.mem_cons, not_or]
      by_cases h : n = name
      · simp [h]
      · rw [if_neg h, ih]
        exact ⟨fun hrest => ⟨Ne.symm h, hrest⟩, And.right⟩

/-- A value that is found stands in the dictionary. -/
theorem mem_of_get? {d : Dictionary β} {name : Text} {value : β} (h : get? d name = some value) :
    (name, value) ∈ d := by
  induction d with
  | nil => exact absurd h (by simp)
  | cons entry rest ih =>
      obtain ⟨n, v⟩ := entry
      rw [get?_cons] at h
      split at h
      next hn =>
        rw [hn, Option.some.inj h]
        exact List.mem_cons_self
      next => exact List.mem_cons_of_mem _ (ih h)

/-- A value that stands in a dictionary is found if the names are distinct. -/
theorem get?_of_mem {d : Dictionary β} (h : (names d).Nodup) {name : Text} {value : β}
    (hmem : (name, value) ∈ d) : get? d name = some value := by
  induction d with
  | nil => exact absurd hmem List.not_mem_nil
  | cons entry rest ih =>
      obtain ⟨n, v⟩ := entry
      have hnames : names ((n, v) :: rest) = n :: names rest := rfl
      rw [hnames, List.nodup_cons] at h
      rw [get?_cons]
      rcases List.mem_cons.1 hmem with hhead | hrest
      · obtain ⟨rfl, rfl⟩ := Prod.mk.inj hhead
        rw [if_pos rfl]
      · have hne : n ≠ name := by
          rintro rfl
          exact h.1 (List.mem_map_of_mem hrest)
        rw [if_neg hne]
        exact ih h.2 hrest

/-- A new name comes last. -/
theorem insert_of_not_mem {d : Dictionary β} {name : Text} (h : name ∉ names d) (value : β) :
    insert d name value = d ++ [(name, value)] := by
  induction d with
  | nil => rfl
  | cons entry rest ih =>
      obtain ⟨n, v⟩ := entry
      have hnames : names ((n, v) :: rest) = n :: names rest := rfl
      rw [hnames, List.mem_cons, not_or] at h
      rw [insert, if_neg (Ne.symm h.1), ih h.2, List.cons_append]

/-- Nothing changes if a name is given the value that it has. -/
theorem insert_of_get? {d : Dictionary β} {name : Text} {value : β}
    (h : get? d name = some value) : insert d name value = d := by
  induction d with
  | nil => exact absurd h (by simp)
  | cons entry rest ih =>
      obtain ⟨n, v⟩ := entry
      rw [get?_cons] at h
      rw [insert]
      by_cases hn : n = name
      · rw [if_pos hn] at h ⊢
        rw [Option.some.inj h]
      · rw [if_neg hn] at h ⊢
        rw [ih h]

/-- A name that has a value stands at one place, where it is given another one. -/
theorem exists_append_of_get? {d : Dictionary β} {name : Text} {old : β}
    (h : get? d name = some old) :
    ∃ before after, d = before ++ (name, old) :: after
      ∧ ∀ value, insert d name value = before ++ (name, value) :: after := by
  induction d with
  | nil => exact absurd h (by simp)
  | cons entry rest ih =>
      obtain ⟨n, v⟩ := entry
      rw [get?_cons] at h
      by_cases hn : n = name
      · rw [if_pos hn] at h
        refine ⟨[], rest, by rw [hn, Option.some.inj h, List.nil_append], fun value => ?_⟩
        rw [insert, if_pos hn, hn, List.nil_append]
      · rw [if_neg hn] at h
        obtain ⟨before, after, hrest, hinsert⟩ := ih h
        refine ⟨(n, v) :: before, after, by rw [hrest, List.cons_append], fun value => ?_⟩
        rw [insert, if_neg hn, hinsert, List.cons_append]

/-- An entry is one that was there or the one that was put in. -/
theorem mem_of_mem_insert {d : Dictionary β} {name : Text} {value : β} {entry : Text × β}
    (h : entry ∈ insert d name value) : entry ∈ d ∨ entry = (name, value) := by
  induction d with
  | nil => exact Or.inr (List.mem_singleton.1 h)
  | cons head rest ih =>
      obtain ⟨n, v⟩ := head
      rw [insert] at h
      by_cases hn : n = name
      · rw [if_pos hn, List.mem_cons] at h
        rcases h with rfl | h
        · exact Or.inr (by rw [hn])
        · exact Or.inl (List.mem_cons_of_mem _ h)
      · rw [if_neg hn, List.mem_cons] at h
        rcases h with rfl | h
        · exact Or.inl List.mem_cons_self
        · exact (ih h).imp_left (List.mem_cons_of_mem _)

/-- Entries of a dictionary that was extended by a list are its own or those of the list. -/
theorem mem_of_mem_insertAll {entries : List (Text × β)} {d : Dictionary β}
    {entry : Text × β} (h : entry ∈ insertAll d entries) : entry ∈ d ∨ entry ∈ entries := by
  induction entries generalizing d with
  | nil => exact Or.inl h
  | cons first entries ih =>
      rcases ih h with hmem | hmem
      · rcases mem_of_mem_insert hmem with hold | rfl
        · exact Or.inl hold
        · exact Or.inr List.mem_cons_self
      · exact Or.inr (List.mem_cons_of_mem _ hmem)

/-- Distinct names stay distinct. -/
theorem nodup_names_insert {d : Dictionary β} (h : (names d).Nodup) (name : Text) (value : β) :
    (names (insert d name value)).Nodup := by
  rw [names_insert]
  split
  next => exact h
  next hn => exact List.nodup_append.2 ⟨h, by simp, fun a ha b hb hab => hn (by simp_all)⟩

/-- The names of a dictionary that was extended stay distinct. -/
theorem nodup_names_insertAll {d : Dictionary β} (h : (names d).Nodup)
    (entries : List (Text × β)) : (names (insertAll d entries)).Nodup := by
  induction entries generalizing d with
  | nil => exact h
  | cons entry entries ih => exact ih (nodup_names_insert h entry.1 entry.2)

/-- The names of a dictionary that was made of a list are distinct. -/
theorem nodup_names_ofList (entries : List (Text × β)) : (names (ofList entries)).Nodup :=
  nodup_names_insertAll (d := []) List.nodup_nil entries

/-- The dictionary of two lists is that of the first one, extended by the second one. -/
theorem ofList_append (entries more : List (Text × β)) :
    ofList (entries ++ more) = insertAll (ofList entries) more :=
  List.foldl_append

/-- The dictionary of a list with one more entry. -/
theorem ofList_concat (entries : List (Text × β)) (entry : Text × β) :
    ofList (entries ++ [entry]) = insert (ofList entries) entry.1 entry.2 :=
  ofList_append entries [entry]

/-- The names of a dictionary that was made of a list are those of the list. -/
theorem mem_names_ofList {entries : List (Text × β)} {name : Text} :
    name ∈ names (ofList entries) ↔ name ∈ names entries := by
  induction entries using List.reverseRecOn with
  | nil => exact Iff.rfl
  | append_singleton entries entry ih =>
      have hnames : names (entries ++ [entry]) = names entries ++ [entry.1] := by
        rw [names, List.map_append]
        rfl
      rw [ofList_concat, names_insert, hnames, List.mem_append, List.mem_singleton, ← ih]
      by_cases hmem : entry.1 ∈ names (ofList entries)
      · rw [if_pos hmem, or_iff_left_of_imp]
        rintro rfl
        exact hmem
      · rw [if_neg hmem, List.mem_append, List.mem_singleton]

/-- Giving a value to a name and keeping some of the names. -/
theorem filter_insert (keep : Text → Bool) (d : Dictionary β) (name : Text) (value : β) :
    (insert d name value).filter (fun entry => keep entry.1)
      = if keep name then insert (d.filter fun entry => keep entry.1) name value
        else d.filter fun entry => keep entry.1 := by
  induction d with
  | nil => cases hkeep : keep name <;> simp [insert, hkeep]
  | cons entry rest ih =>
      obtain ⟨n, v⟩ := entry
      rw [insert]
      by_cases hn : n = name
      · subst hn
        cases hkeep : keep n <;> simp [insert, hkeep]
      · rw [if_neg hn, List.filter_cons, List.filter_cons, ih]
        cases hfirst : keep n <;> cases hkeep : keep name <;> simp [insert, hn]

/-- The dictionary of a list, of which only some names are kept. -/
theorem filter_ofList (keep : Text → Bool) (entries : List (Text × β)) :
    (ofList entries).filter (fun entry => keep entry.1)
      = ofList (entries.filter fun entry => keep entry.1) := by
  induction entries using List.reverseRecOn with
  | nil => rfl
  | append_singleton entries entry ih =>
      rw [ofList_concat, filter_insert, List.filter_append, ih, List.filter_cons,
        List.filter_nil]
      cases keep entry.1 with
      | true => exact (ofList_concat _ entry).symm
      | false => exact congrArg ofList (List.append_nil _).symm

/-- Giving a value to a name and changing all values. -/
theorem map_insert {γ : Type} (f : β → γ) (d : Dictionary β) (name : Text) (value : β) :
    (insert d name value).map (fun entry => (entry.1, f entry.2))
      = insert (d.map fun entry => (entry.1, f entry.2)) name (f value) := by
  induction d with
  | nil => rfl
  | cons entry rest ih =>
      obtain ⟨n, v⟩ := entry
      rw [insert, List.map_cons, insert]
      by_cases hn : n = name
      · rw [if_pos hn, if_pos hn, List.map_cons]
      · rw [if_neg hn, if_neg hn, List.map_cons, ih]

/-- The dictionary of a list with all values changed. -/
theorem map_ofList {γ : Type} (f : β → γ) (entries : List (Text × β)) :
    (ofList entries).map (fun entry => (entry.1, f entry.2))
      = ofList (entries.map fun entry => (entry.1, f entry.2)) := by
  induction entries using List.reverseRecOn with
  | nil => rfl
  | append_singleton entries entry ih =>
      rw [ofList_concat, map_insert, ih, List.map_append, List.map_cons, List.map_nil,
        ofList_concat]

/-- A dictionary whose name is given another value ends with the same name. -/
theorem getLast?_insert {d : Dictionary β} (h : (names d).Nodup) {name : Text}
    (hname : name ∈ names d) (value : β) :
    (insert d name value).getLast?
      = d.getLast?.map fun entry => (entry.1, if entry.1 = name then value else entry.2) := by
  obtain ⟨old, hold⟩ := Option.ne_none_iff_exists'.1
    (mt get?_eq_none_iff.1 (not_not_intro hname))
  obtain ⟨before, after, rfl, hinsert⟩ := exists_append_of_get? hold
  rw [hinsert, List.getLast?_append, List.getLast?_append, List.getLast?_cons, List.getLast?_cons,
    Option.some_or, Option.some_or]
  cases hlast : after.getLast? with
  | none => simp
  | some last =>
      -- What comes behind the name has other names.
      have hother : last.1 ≠ name := by
        rintro rfl
        have hnames : names (before ++ (last.1, old) :: after)
            = names before ++ last.1 :: names after := by
          rw [names, List.map_append, List.map_cons]
          rfl
        rw [hnames, List.nodup_append, List.nodup_cons] at h
        exact h.2.1.1 (List.mem_map_of_mem (List.mem_of_getLast? hlast))
      simp [hother]

/-- A dictionary that is extended by new names that are distinct goes on with them. -/
theorem insertAll_of_nodup {d : Dictionary β} {entries : List (Text × β)}
    (h : (names (d ++ entries)).Nodup) : insertAll d entries = d ++ entries := by
  induction entries generalizing d with
  | nil => rw [insertAll_nil, List.append_nil]
  | cons entry entries ih =>
      have hnames : names (d ++ entry :: entries) = names d ++ entry.1 :: names entries := by
        rw [names, List.map_append]
        rfl
      have hnew : entry.1 ∉ names d := by
        rw [hnames, List.nodup_append] at h
        intro hmem
        exact h.2.2 entry.1 hmem entry.1 List.mem_cons_self rfl
      have hnext : d ++ entry :: entries = (d ++ [entry]) ++ entries := by
        rw [List.append_assoc, List.singleton_append]
      rw [hnext] at h ⊢
      rw [insertAll_cons, insert_of_not_mem hnew]
      exact ih h

/-- A list with distinct names is the dictionary that is made of it. -/
theorem ofList_of_nodup {entries : List (Text × β)} (h : (names entries).Nodup) :
    ofList entries = entries :=
  insertAll_of_nodup (d := []) h

/-! ## Dictionaries by their names -/

/-- The dictionary of names, each where it comes first, with the values of a function. -/
def tabulate (list : List Text) (value : Text → β) : Dictionary β :=
  list.eraseDups.map fun name => (name, value name)

/-- No name comes twice if only the first ones are kept. -/
theorem nodup_eraseDups (list : List Text) : list.eraseDups.Nodup := by
  induction hlength : list.length using Nat.strongRecOn generalizing list with
  | ind n ih =>
    cases list with
    | nil => exact List.nodup_nil
    | cons name rest =>
        rw [List.eraseDups_cons, List.nodup_cons]
        have hshorter : (rest.filter fun other => !other == name).length < n := by
          rw [← hlength, List.length_cons]
          exact Nat.lt_succ_of_le (List.length_filter_le _ _)
        refine ⟨fun hmem => ?_, ih _ hshorter _ rfl⟩
        simpa using (List.mem_filter.1 (List.mem_eraseDups.1 hmem)).2

/-- The names are those that are listed, each where it comes first. -/
theorem names_tabulate (list : List Text) (value : Text → β) :
    names (tabulate list value) = list.eraseDups := by
  rw [names, tabulate, List.map_map]
  exact List.map_id _

/-- A name that is listed stands with the value of the function. -/
theorem mem_tabulate {list : List Text} {value : Text → β} {entry : Text × β} :
    entry ∈ tabulate list value ↔ entry.1 ∈ list ∧ entry.2 = value entry.1 := by
  rw [tabulate, List.mem_map]
  constructor
  · rintro ⟨name, hname, rfl⟩
    exact ⟨List.mem_eraseDups.1 hname, rfl⟩
  · rintro ⟨hname, hvalue⟩
    exact ⟨entry.1, List.mem_eraseDups.2 hname, Prod.ext rfl hvalue.symm⟩

/-- A name that is listed has the value of the function. -/
theorem get?_tabulate (list : List Text) (value : Text → β) (name : Text) :
    get? (tabulate list value) name = if name ∈ list then some (value name) else none := by
  have hnames := names_tabulate list value
  by_cases hname : name ∈ list
  · rw [if_pos hname]
    exact get?_of_mem (hnames ▸ nodup_eraseDups list) (mem_tabulate.2 ⟨hname, rfl⟩)
  · rw [if_neg hname, get?_eq_none_iff, hnames, List.mem_eraseDups]
    exact hname

/-- Giving a value to one of the names changes the function there. -/
theorem insert_map {list : List Text} (hlist : list.Nodup) {old new : Text → β} {name : Text}
    (hname : name ∈ list) (hother : ∀ other, other ≠ name → new other = old other) :
    insert (list.map fun n => (n, old n)) name (new name) = list.map fun n => (n, new n) := by
  induction list with
  | nil => exact absurd hname List.not_mem_nil
  | cons first rest ih =>
      obtain ⟨hfirst, hrest⟩ := List.nodup_cons.1 hlist
      rw [List.map_cons, List.map_cons, insert]
      by_cases h : first = name
      · subst h
        have hsame : ∀ n ∈ rest, (n, old n) = (n, new n) := by
          intro n hn
          rw [hother n (ne_of_mem_of_not_mem hn hfirst)]
        rw [if_pos rfl, List.map_congr_left hsame]
      · rw [if_neg h, hother first h, ih hrest (List.mem_of_ne_of_mem (Ne.symm h) hname)]

/-- **Giving a value to a name** changes the function there, and lists the name. -/
theorem insert_tabulate (list : List Text) {old new : Text → β} {name : Text}
    (hother : ∀ other, other ≠ name → new other = old other) :
    insert (tabulate list old) name (new name) = tabulate (list ++ [name]) new := by
  rw [tabulate, tabulate, List.eraseDups_append]
  by_cases hname : name ∈ list
  · have hlisted : [name].removeAll list = [] := by simp [List.removeAll, hname]
    rw [hlisted, List.eraseDups_nil, List.append_nil]
    exact insert_map (nodup_eraseDups list) (List.mem_eraseDups.2 hname) hother
  · have hnew : [name].removeAll list = [name] := by simp [List.removeAll, hname]
    have hnames : name ∉ names (tabulate list old) := by
      rw [← get?_eq_none_iff, get?_tabulate, if_neg hname]
    have hsame : ∀ n ∈ list.eraseDups, (n, old n) = (n, new n) := by
      intro n hn
      have hne : n ≠ name := fun h => hname (h ▸ List.mem_eraseDups.1 hn)
      rw [hother n hne]
    rw [hnew, List.map_append, ← List.map_congr_left hsame]
    exact insert_of_not_mem hnames (new name)

/-- The value of the last entry that has a name. -/
def last? (entries : List (Text × β)) (name : Text) : Option β :=
  ((entries.filter fun entry => entry.1 = name).getLast?).map (·.2)

/-- One more entry is the last one of its name. -/
theorem last?_concat_self (entries : List (Text × β)) (entry : Text × β) :
    last? (entries ++ [entry]) entry.1 = some entry.2 := by
  simp [last?]

/-- One more entry is no entry of another name. -/
theorem last?_concat_of_ne (entries : List (Text × β)) {entry : Text × β} {name : Text}
    (h : name ≠ entry.1) : last? (entries ++ [entry]) name = last? entries name := by
  simp [last?, Ne.symm h]

/-- The last entry of a name in two lists is that in the second one, if there is any. -/
theorem last?_append (entries more : List (Text × β)) (name : Text) :
    last? (entries ++ more) name = (last? more name).or (last? entries name) := by
  rw [last?, List.filter_append, List.getLast?_append, Option.map_or]
  rfl

/-- The last entry of a name is one of the entries. -/
theorem mem_of_last? {entries : List (Text × β)} {name : Text} {value : β}
    (h : last? entries name = some value) : (name, value) ∈ entries := by
  obtain ⟨⟨n, v⟩, hlast, rfl⟩ := Option.map_eq_some_iff.1 h
  obtain ⟨hmem, hname⟩ := List.mem_filter.1 (List.mem_of_getLast? hlast)
  rwa [← of_decide_eq_true hname]

/-- There is no last entry of a name if there is none at all. -/
theorem last?_eq_none_iff {entries : List (Text × β)} {name : Text} :
    last? entries name = none ↔ name ∉ names entries := by
  rw [last?, Option.map_eq_none_iff, List.getLast?_eq_none_iff, List.filter_eq_nil_iff, names,
    List.mem_map]
  constructor
  · rintro h ⟨entry, hentry, rfl⟩
    exact h entry hentry (decide_eq_true rfl)
  · intro h entry hentry hname
    exact h ⟨entry, hentry, of_decide_eq_true hname⟩

/-- If all entries of a name have one value, it is that of the last one. -/
theorem last?_eq_of_forall_mem {entries : List (Text × β)} {name : Text} {value : Option β}
    (h : ∀ v, (name, v) ∈ entries ↔ value = some v) : last? entries name = value := by
  cases hlast : last? entries name with
  | some v => exact ((h v).1 (mem_of_last? hlast)).symm
  | none =>
      cases value with
      | none => rfl
      | some v => exact absurd (List.mem_map_of_mem ((h v).2 rfl)) (last?_eq_none_iff.1 hlast)

/-- **A name has the value that it is given last.** -/
theorem get?_ofList (entries : List (Text × β)) (name : Text) :
    get? (ofList entries) name = last? entries name := by
  induction entries using List.reverseRecOn with
  | nil => rfl
  | append_singleton entries entry ih =>
      rw [ofList_concat, get?_insert]
      by_cases hname : entry.1 = name
      · rw [if_pos hname, ← hname, last?_concat_self]
      · rw [if_neg hname, last?_concat_of_ne entries (Ne.symm hname), ih]

/-- In a list with distinct names the first entry of a name is the last one. -/
theorem last?_of_nodup {entries : List (Text × β)} (h : (names entries).Nodup) (name : Text) :
    last? entries name = get? entries name := by
  rw [← get?_ofList, ofList_of_nodup h]

/-- **The dictionary of a list by its names**: each stands where it comes first and has the value
that it is given last. No name is without one, so the default counts for nothing. -/
theorem ofList_eq_tabulate (entries : List (Text × β)) (default : β) :
    ofList entries = tabulate (names entries) fun name => (last? entries name).getD default := by
  induction entries using List.reverseRecOn with
  | nil => rfl
  | append_singleton entries entry ih =>
      have hother : ∀ name, name ≠ entry.1 →
          (last? (entries ++ [entry]) name).getD default = (last? entries name).getD default := by
        intro name hname
        rw [last?_concat_of_ne entries hname]
      have hinsert := insert_tabulate (names entries) hother
      rw [last?_concat_self, Option.getD_some] at hinsert
      rw [ofList_concat, ih, hinsert, names, names, List.map_append, List.map_singleton]

end Wab.Dictionary
