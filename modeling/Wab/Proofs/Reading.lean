import Wab.Proofs.HeaderName
import Wab.Proofs.Unfolding

/-! # What is read

No line ends inside a logical line, so none ends in a name or a value that was read. The sections of
a manifest that was read are well-formed for that reason, and their names are plain.

* **`Manifest.mem_of_readSection`** — the characters of a header are those of the lines.
* **`Manifest.parse_induction`** — what each section keeps holds of the manifest that is read.
* **`Manifest.WellFormed`**, **`Manifest.OneLined`** — what holds of manifests that were read.
* **`Manifest.wellFormed_of_parse`** — it holds of every text that is a manifest. -/

namespace Wab

namespace Attributes

/-- No name holds a line feed. -/
def OneLined (a : Attributes) : Prop := ∀ h ∈ a.headers, .scalar '\n' ∉ h.name

/-- A header after one was stored was there before, or has the new value and a name that is the
new one or was there before. -/
theorem cases_of_mem_insert {a b : Attributes} {name value : Text}
    (h : a.insert name value = .ok b) {header : Header} (hheader : header ∈ b.headers) :
    header ∈ a.headers ∨ header.value = value
      ∧ (header.name = name ∨ ∃ old ∈ a.headers, header.name = old.name) := by
  obtain ⟨slot, hslot, rfl⟩ := List.mem_map.1 hheader
  obtain ⟨-, ⟨old, hfind, rfl⟩ | ⟨-, -, rfl⟩⟩ := insert_cases h
  · rcases Dictionary.mem_of_mem_insert hslot with hold | rfl
    · exact Or.inl (List.mem_map_of_mem hold)
    · have hmem : old ∈ a.headers := List.mem_map_of_mem (Dictionary.mem_of_get? hfind)
      exact Or.inr ⟨rfl, Or.inr ⟨old, hmem, rfl⟩⟩
  · rcases List.mem_append.1 hslot with hold | hlast
    · exact Or.inl (List.mem_map_of_mem hold)
    · rw [List.mem_singleton.1 hlast]
      exact Or.inr ⟨rfl, Or.inl rfl⟩

/-- A name without a line feed brings in no line feed. -/
theorem OneLined.insert {a b : Attributes} (ha : a.OneLined) {name value : Text}
    (hname : .scalar '\n' ∉ name) (h : a.insert name value = .ok b) : b.OneLined := by
  intro header hheader
  rcases cases_of_mem_insert h hheader with hold | ⟨-, hnew | ⟨old, hold, hsame⟩⟩
  · exact ha header hold
  · rw [hnew]
    exact hname
  · rw [hsame]
    exact ha old hold

/-- Names without a line feed bring in no line feed. -/
theorem OneLined.insertHeaders {a b : Attributes} (ha : a.OneLined) {headers : List Header}
    (hnames : ∀ h ∈ headers, .scalar '\n' ∉ h.name) (h : a.insertHeaders headers = .ok b) :
    b.OneLined := by
  induction headers generalizing a with
  | nil =>
      rw [insertHeaders_nil] at h
      exact Except.ok.inj h ▸ ha
  | cons header headers ih =>
      obtain ⟨next, hnext, hrest⟩ := insertHeaders_cons_eq_ok.1 h
      exact ih (ha.insert (hnames header List.mem_cons_self) hnext)
        (fun g hg => hnames g (List.mem_cons_of_mem _ hg)) hrest

/-- The names and the values of a section consist of such code points. -/
def ConsistsOf (P : CodePoint → Prop) (a : Attributes) : Prop :=
  ∀ h ∈ a.headers, ∀ c, c ∈ h.name ∨ c ∈ h.value → P c

theorem consistsOf_empty (P : CodePoint → Prop) : empty.ConsistsOf P :=
  fun _ h => absurd h List.not_mem_nil

/-- A header of such code points brings in no other. -/
theorem ConsistsOf.insert {P : CodePoint → Prop} {a b : Attributes} (ha : a.ConsistsOf P)
    {name value : Text} (hnew : ∀ c, c ∈ name ∨ c ∈ value → P c) (h : a.insert name value = .ok b) :
    b.ConsistsOf P := by
  intro header hheader c hc
  rcases cases_of_mem_insert h hheader with hold | ⟨hvalue, hname | ⟨old, hold, hsame⟩⟩
  · exact ha header hold c hc
  · rw [hname, hvalue] at hc
    exact hnew c hc
  · rw [hsame, hvalue] at hc
    exact hc.elim (fun hc => ha old hold c (Or.inl hc)) fun hc => hnew c (Or.inr hc)

/-- Headers of such code points bring in no other. -/
theorem ConsistsOf.insertHeaders {P : CodePoint → Prop} {a b : Attributes} (ha : a.ConsistsOf P)
    {headers : List Header} (hnew : ∀ h ∈ headers, ∀ c, c ∈ h.name ∨ c ∈ h.value → P c)
    (h : a.insertHeaders headers = .ok b) : b.ConsistsOf P := by
  induction headers generalizing a with
  | nil =>
      rw [insertHeaders_nil] at h
      exact Except.ok.inj h ▸ ha
  | cons header headers ih =>
      obtain ⟨next, hnext, hrest⟩ := insertHeaders_cons_eq_ok.1 h
      exact ih (ha.insert (hnew header List.mem_cons_self) hnext)
        (fun g hg => hnew g (List.mem_cons_of_mem _ hg)) hrest

end Attributes

namespace Manifest

/-- What holds of a manifest that was read: its sections are well-formed, each entry has one
section, and no line ends in the name of an entry. -/
structure WellFormed (m : Manifest) : Prop where
  /-- The main section is well-formed. -/
  main : m.main.WellFormed
  /-- Each entry has one section. -/
  distinct : (Dictionary.names m.entries).Nodup
  /-- The section of an entry is well-formed, and no line ends in the name of the entry. -/
  entries : ∀ entry ∈ m.entries, Lines.Unbroken entry.1 ∧ entry.2.WellFormed

/-- No name of a header holds a line feed. -/
structure OneLined (m : Manifest) : Prop where
  /-- None in the main section. -/
  main : m.main.OneLined
  /-- None in the section of an entry. -/
  entries : ∀ entry ∈ m.entries, entry.2.OneLined

/-- The headers and the names of entries consist of such code points. -/
structure ConsistsOf (P : CodePoint → Prop) (m : Manifest) : Prop where
  /-- The main headers do. -/
  main : m.main.ConsistsOf P
  /-- The names of entries do. -/
  names : ∀ entry ∈ m.entries, ∀ c ∈ entry.1, P c
  /-- The headers of entries do. -/
  entries : ∀ entry ∈ m.entries, entry.2.ConsistsOf P

/-! ## Logical lines -/

/-- The characters of a logical line are those of its lines. -/
theorem mem_of_mem_unfoldFrom {start line : Nat} {content : Text} {rest : List Text}
    {numbered : Nat × Text} (h : numbered ∈ unfoldFrom start content line rest) {c : CodePoint}
    (hc : c ∈ numbered.2) : c ∈ content ∨ ∃ l ∈ rest, c ∈ l := by
  induction rest generalizing start content line with
  | nil =>
      rw [unfoldFrom, List.mem_singleton] at h
      rw [h] at hc
      exact Or.inl hc
  | cons next rest ih =>
      have hmore : (∃ l ∈ rest, c ∈ l) → ∃ l ∈ next :: rest, c ∈ l := by
        rintro ⟨l, hl, hmem⟩
        exact ⟨l, List.mem_cons_of_mem _ hl, hmem⟩
      have hnext : c ∈ next → ∃ l ∈ next :: rest, c ∈ l :=
        fun hmem => ⟨next, List.mem_cons_self, hmem⟩
      cases hcontinues : continues next with
      | true =>
          rw [unfoldFrom_continued hcontinues] at h
          rcases ih h with hcontent | hrest
          · exact (List.mem_append.1 hcontent).imp_right fun hmem =>
              hnext (List.mem_of_mem_tail hmem)
          · exact Or.inr (hmore hrest)
      | false =>
          rw [unfoldFrom_ended hcontinues, List.mem_cons] at h
          rcases h with rfl | h
          · exact Or.inl hc
          · exact Or.inr ((ih h).elim hnext hmore)

/-- The characters of a name and a value are those of their logical line. -/
theorem mem_of_ofLine {line : Nat} {content : Text} {n : NamedLine}
    (h : NamedLine.ofLine line content = .ok n) {c : CodePoint} (hc : c ∈ n.name ∨ c ∈ n.value) :
    c ∈ content := by
  have hparts : splitHeader? content = some (n.name, n.value) := by
    rw [NamedLine.ofLine] at h
    split at h
    next => exact absurd h (by simp)
    next => exact absurd h (by simp)
    next name value _ hsplit =>
      rw [hsplit, ← Except.ok.inj h]
  rw [splitHeader?] at hparts
  split at hparts
  next parts hcut =>
    rw [Text.eq_of_cut? (hcut.trans hparts), List.mem_append, List.mem_append]
    exact hc.imp_left Or.inl
  next =>
    split at hparts
    next =>
      obtain ⟨hname, hvalue⟩ := Prod.mk.inj (Option.some.inj hparts)
      rw [← hname, ← hvalue] at hc
      exact hc.elim (List.dropLast_subset content ·) fun hnil => absurd hnil List.not_mem_nil
    next => exact absurd hparts (by simp)

/-- The named lines that are read come from logical lines. -/
theorem exists_of_mem_readLines {numbered : List (Nat × Text)} {named : List NamedLine}
    (h : readLines numbered = .ok named) {n : NamedLine} (hn : n ∈ named) :
    ∃ logical ∈ numbered, NamedLine.ofLine logical.1 logical.2 = .ok n := by
  induction numbered generalizing named with
  | nil =>
      rw [readLines_nil] at h
      rw [← Except.ok.inj h] at hn
      exact absurd hn List.not_mem_nil
  | cons logical numbered ih =>
      obtain ⟨line, content⟩ := logical
      rw [readLines_cons] at h
      obtain ⟨first, hfirst, h⟩ := bind_eq_ok.1 h
      obtain ⟨rest, hrest, h⟩ := bind_eq_ok.1 h
      rw [← Except.ok.inj h, List.mem_cons] at hn
      rcases hn with rfl | hn
      · exact ⟨_, List.mem_cons_self, hfirst⟩
      · obtain ⟨logical, hlogical, hread⟩ := ih hrest hn
        exact ⟨logical, List.mem_cons_of_mem _ hlogical, hread⟩

/-- **The characters of a name or a value that is read** are those of the lines of its section. -/
theorem mem_of_readSection {s : Lines.Section} {named : List NamedLine}
    (h : readSection s = .ok named) {n : NamedLine} (hn : n ∈ named) {c : CodePoint}
    (hc : c ∈ n.name ∨ c ∈ n.value) : ∃ l ∈ s.lines, c ∈ l := by
  rw [readSection_eq] at h
  split at h
  next => exact absurd h (by simp)
  next =>
    obtain ⟨logical, hlogical, hread⟩ := exists_of_mem_readLines h hn
    rcases mem_of_mem_unfoldFrom hlogical (mem_of_ofLine hread hc) with hfirst | ⟨l, hl, hmem⟩
    · exact ⟨s.first, List.mem_cons_self, hfirst⟩
    · exact ⟨l, List.mem_cons_of_mem _ hl, hmem⟩

/-- **No line ends in a name or a value that is read.** -/
theorem unbroken_of_readSection {s : Lines.Section} (hs : ∀ l ∈ s.lines, Lines.Unbroken l)
    {named : List NamedLine} (h : readSection s = .ok named) :
    ∀ n ∈ named, Lines.Unbroken n.name ∧ Lines.Unbroken n.value := by
  intro n hn
  have hbreak (c : CodePoint) (hc : c = '\r' ∨ c = '\n') : ¬ (c ∈ n.name ∨ c ∈ n.value) := by
    intro hmem
    obtain ⟨l, hl, hcl⟩ := mem_of_readSection h hn hmem
    rcases hc with rfl | rfl
    · exact (hs l hl).1 hcl
    · exact (hs l hl).2 hcl
  have hr := hbreak '\r' (Or.inl rfl)
  have hn := hbreak '\n' (Or.inr rfl)
  exact ⟨⟨fun h => hr (Or.inl h), fun h => hn (Or.inl h)⟩, fun h => hr (Or.inr h),
    fun h => hn (Or.inr h)⟩

/-! ## Sections -/

/-- Storing named lines keeps a section well-formed and its names free of line feeds. -/
theorem wellFormed_of_store {a b : Attributes} (ha : a.WellFormed) (hone : a.OneLined)
    {named : List NamedLine} (hnamed : ∀ n ∈ named, Lines.Unbroken n.name)
    (h : store a named = .ok b) : b.WellFormed ∧ b.OneLined := by
  rw [store_eq, mapError_eq_ok] at h
  refine ⟨ha.insertHeaders h, hone.insertHeaders (fun g hg => ?_) h⟩
  obtain ⟨n, hn, rfl⟩ := List.mem_map.1 hg
  exact (hnamed n hn).2

/-- The empty section. -/
theorem oneLined_empty : Attributes.empty.OneLined := fun _ h => absurd h List.not_mem_nil

/-- What adding a main section does. -/
theorem exists_of_addMain {m n : Manifest} {s : Lines.Section} (h : addMain m s = .ok n) :
    ∃ named main, readSection s = .ok named ∧ store m.main named = .ok main
      ∧ n = { m with main := main } := by
  rw [addMain] at h
  obtain ⟨named, hread, h⟩ := bind_eq_ok.1 h
  obtain ⟨main, hstore, h⟩ := bind_eq_ok.1 h
  exact ⟨named, main, hread, hstore, (Except.ok.inj h).symm⟩

/-- What adding the section of an entry does. -/
theorem exists_of_addEntry {m n : Manifest} {s : Lines.Section} (h : addEntry m s = .ok n) :
    n = m ∨ ∃ first rest a, readSection s = .ok (first :: rest)
      ∧ store ((Dictionary.get? m.entries first.value).getD .empty) rest = .ok a
      ∧ n = { m with entries := Dictionary.insert m.entries first.value a } := by
  rw [addEntry] at h
  obtain ⟨named, hread, h⟩ := bind_eq_ok.1 h
  cases named with
  | nil => exact Or.inl (Except.ok.inj h).symm
  | cons first rest =>
      dsimp only at h
      split at h
      next =>
        obtain ⟨a, hstore, h⟩ := bind_eq_ok.1 h
        exact Or.inr ⟨first, rest, a, hread, hstore, (Except.ok.inj h).symm⟩
      next => exact absurd h (by simp [throw, throwThe, MonadExceptOf.throw])

/-- **What each section keeps holds of the manifest that is read**, if it holds of the empty one. -/
theorem parse_induction {I : Manifest → Prop} {s : Text} (hempty : I {})
    (hmain : ∀ t : Lines.Section, (∀ l ∈ t.lines, l ∈ Lines.split s) → ∀ m n, I m →
      addMain m t = .ok n → I n)
    (hentry : ∀ t : Lines.Section, (∀ l ∈ t.lines, l ∈ Lines.split s) → ∀ m n, I m →
      addEntry m t = .ok n → I n)
    {m : Manifest} (h : parse s = .ok m) : I m := by
  have hlines : ∀ t ∈ Lines.sections 1 (Lines.split s), ∀ l ∈ t.lines, l ∈ Lines.split s :=
    fun t ht l hl => (Lines.mem_of_mem_sections ht hl).1
  have hrun : ∀ {sections : List Lines.Section} {m n : Manifest},
      (∀ t ∈ sections, ∀ l ∈ t.lines, l ∈ Lines.split s) → I m →
      sections.foldlM addEntry m = .ok n → I n := by
    intro sections m n hsections hm h
    induction sections generalizing m with
    | nil =>
        rw [List.foldlM_nil] at h
        exact Except.ok.inj h ▸ hm
    | cons t sections ih =>
        rw [List.foldlM_cons] at h
        obtain ⟨next, hnext, h⟩ := bind_eq_ok.1 h
        have hkept := hentry t (hsections t List.mem_cons_self) m next hm hnext
        exact ih (fun u hu => hsections u (List.mem_cons_of_mem _ hu)) hkept h
  rw [parse] at h
  split at h
  next => exact hrun hlines hempty h
  next =>
    split at h
    next => exact Except.ok.inj h ▸ hempty
    next first entries hsections =>
      rw [hsections] at hlines
      obtain ⟨next, hnext, h⟩ := bind_eq_ok.1 h
      have hkept := hmain first (hlines first List.mem_cons_self) {} next hempty hnext
      exact hrun (fun t ht => hlines t (List.mem_cons_of_mem _ ht)) hkept h

/-! ## Manifests -/

/-- The empty manifest. -/
theorem wellFormed_default : WellFormed {} ∧ OneLined {} :=
  ⟨⟨Attributes.wellFormed_empty, List.nodup_nil, fun _ h => absurd h List.not_mem_nil⟩,
    oneLined_empty, fun _ h => absurd h List.not_mem_nil⟩

/-- What adding a main section keeps. -/
theorem wellFormed_of_addMain {m n : Manifest} (hm : m.WellFormed ∧ m.OneLined)
    {s : Lines.Section} (hs : ∀ l ∈ s.lines, Lines.Unbroken l) (h : addMain m s = .ok n) :
    n.WellFormed ∧ n.OneLined := by
  obtain ⟨named, main, hread, hstore, rfl⟩ := exists_of_addMain h
  have hnamed := fun n hn => (unbroken_of_readSection hs hread n hn).1
  obtain ⟨hmain, hmainOne⟩ := wellFormed_of_store hm.1.main hm.2.main hnamed hstore
  exact ⟨⟨hmain, hm.1.distinct, hm.1.entries⟩, hmainOne, hm.2.entries⟩

/-- What adding the section of an entry keeps. -/
theorem wellFormed_of_addEntry {m n : Manifest} (hm : m.WellFormed ∧ m.OneLined)
    {s : Lines.Section} (hs : ∀ l ∈ s.lines, Lines.Unbroken l) (h : addEntry m s = .ok n) :
    n.WellFormed ∧ n.OneLined := by
  obtain ⟨hform, hone⟩ := hm
  obtain rfl | ⟨first, rest, a, hread, hstore, rfl⟩ := exists_of_addEntry h
  · exact ⟨hform, hone⟩
  · have hnamed := unbroken_of_readSection hs hread
    have hrest := fun n hn => (hnamed n (List.mem_cons_of_mem _ hn)).1
    have hknown : ((Dictionary.get? m.entries first.value).getD .empty).WellFormed
        ∧ ((Dictionary.get? m.entries first.value).getD .empty).OneLined := by
      cases hget : Dictionary.get? m.entries first.value with
      | none => exact ⟨Attributes.wellFormed_empty, oneLined_empty⟩
      | some known =>
          have hmem := Dictionary.mem_of_get? hget
          exact ⟨(hform.entries _ hmem).2, hone.entries _ hmem⟩
    obtain ⟨ha, haOne⟩ := wellFormed_of_store hknown.1 hknown.2 hrest hstore
    refine ⟨⟨hform.main, Dictionary.nodup_names_insert hform.distinct _ _, ?_⟩, hone.main, ?_⟩
    · intro entry hentry
      rcases Dictionary.mem_of_mem_insert hentry with hold | rfl
      · exact hform.entries entry hold
      · exact ⟨(hnamed first List.mem_cons_self).2, ha⟩
    · intro entry hentry
      rcases Dictionary.mem_of_mem_insert hentry with hold | rfl
      · exact hone.entries entry hold
      · exact haOne

/-- **A manifest that was read is well-formed, and no name in it holds a line feed.** -/
theorem wellFormed_of_parse {s : Text} {m : Manifest} (h : parse s = .ok m) :
    m.WellFormed ∧ m.OneLined := by
  have hlines (t : Lines.Section) (ht : ∀ l ∈ t.lines, l ∈ Lines.split s) :
      ∀ l ∈ t.lines, Lines.Unbroken l :=
    fun l hl => Lines.unbroken_of_mem_split (ht l hl)
  exact parse_induction wellFormed_default
    (fun t ht _ _ hm hadd => wellFormed_of_addMain hm (hlines t ht) hadd)
    (fun t ht _ _ hm hadd => wellFormed_of_addEntry hm (hlines t ht) hadd) h

/-- Storing named lines of such code points brings in no other. -/
theorem consistsOf_of_store {P : CodePoint → Prop} {a b : Attributes} (ha : a.ConsistsOf P)
    {named : List NamedLine} (hnamed : ∀ n ∈ named, ∀ c, c ∈ n.name ∨ c ∈ n.value → P c)
    (h : store a named = .ok b) : b.ConsistsOf P := by
  rw [store_eq, mapError_eq_ok] at h
  refine ha.insertHeaders (fun g hg => ?_) h
  obtain ⟨n, hn, rfl⟩ := List.mem_map.1 hg
  exact hnamed n hn

/-- **A manifest consists of the code points of the text** from which it is read. -/
theorem consistsOf_of_parse {P : CodePoint → Prop} {s : Text} (hs : ∀ c ∈ s, P c) {m : Manifest}
    (h : parse s = .ok m) : m.ConsistsOf P := by
  have hread {t : Lines.Section} (ht : ∀ l ∈ t.lines, l ∈ Lines.split s) {named : List NamedLine}
      (hnamed : readSection t = .ok named) :
      ∀ n ∈ named, ∀ c, c ∈ n.name ∨ c ∈ n.value → P c := by
    intro n hn c hc
    obtain ⟨l, hl, hmem⟩ := mem_of_readSection hnamed hn hc
    exact hs c (Lines.mem_of_mem_split (ht l hl) hmem)
  have hempty : ConsistsOf P {} := ⟨Attributes.consistsOf_empty P,
    fun _ hentry => absurd hentry List.not_mem_nil, fun _ hentry => absurd hentry List.not_mem_nil⟩
  refine parse_induction hempty ?_ ?_ h
  · intro t ht m n hm hadd
    obtain ⟨named, main, hnamed, hstore, rfl⟩ := exists_of_addMain hadd
    exact ⟨consistsOf_of_store hm.main (hread ht hnamed) hstore, hm.names, hm.entries⟩
  · intro t ht m n hm hadd
    obtain rfl | ⟨first, rest, a, hnamed, hstore, rfl⟩ := exists_of_addEntry hadd
    · exact hm
    · have hknown : ((Dictionary.get? m.entries first.value).getD .empty).ConsistsOf P := by
        cases hget : Dictionary.get? m.entries first.value with
        | none => exact Attributes.consistsOf_empty P
        | some known => exact hm.entries _ (Dictionary.mem_of_get? hget)
      have hrest := fun n hn => hread ht hnamed n (List.mem_cons_of_mem _ hn)
      refine ⟨hm.main, fun entry hentry => ?_, fun entry hentry => ?_⟩
      · rcases Dictionary.mem_of_mem_insert hentry with hold | rfl
        · exact hm.names entry hold
        · exact fun c hc => hread ht hnamed first List.mem_cons_self c (Or.inr hc)
      · rcases Dictionary.mem_of_mem_insert hentry with hold | rfl
        · exact hm.entries entry hold
        · exact consistsOf_of_store hknown hrest hstore

/-- A manifest that was read from bytes is well-formed, and no name in it holds a line feed. -/
theorem wellFormed_of_parseBytes {bytes : Bytes} {m : Manifest} (h : parseBytes bytes = .ok m) :
    m.WellFormed ∧ m.OneLined := by
  rw [parseBytes] at h
  split at h
  next => exact wellFormed_of_parse h
  next => exact absurd h (by simp)

end Manifest

end Wab
