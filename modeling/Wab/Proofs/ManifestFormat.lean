import Wab.Proofs.HeaderLines
import Wab.Proofs.Merging
import Wab.Proofs.Reading
import Wab.Proofs.Sections
import Wab.Proofs.Utf8

/-! # Which texts are manifests

What a text says is described by its lines, without the steps in which it is read: a main section
and sections of entries, each with headers. The text is a manifest if these headers can be stored,
those of one entry one after another, and the manifest then has what they merge to.

* **`Manifest.Describes`** — which headers a text has.
* **`Manifest.Says`** — these headers can be stored, and the manifest has what they merge to.
* **`Manifest.foldlM_addEntry_eq_ok_iff`** — the sections of entries one after another.
* **`Manifest.parse_eq_ok_iff`** — the manifest that is read is the one that the text says.
* **`Manifest.isFormat_of_parse`** — any other text is refused as no manifest.
* **`Manifest.parse_format`** — both of them, for texts and for bytes. -/

namespace Wab

/-- The error says that a text is no manifest. The others come from headers that are looked for but
absent, and from values that are no texts. -/
def ManifestError.isFormat : ManifestError → Bool
  | .header (.absent _) => false
  | .header .empty => false
  | .header (.notText _ _) => false
  | _ => true

namespace Manifest

/-! ## What a text says -/

/-- What a text says: the headers of the archive, and in order the sections of entries. -/
structure Description where
  /-- The headers of the archive. -/
  main : List Header
  /-- The name of the entry that a section is about, with the other headers of the section. -/
  entries : List (Text × List Header)

/-- The headers of an entry: those of all its sections, one after another. -/
def headersOf (entries : List (Text × List Header)) (name : Text) : List Header :=
  (entries.filter fun entry => entry.1 = name).flatMap (·.2)

/-- The entries in the order in which they first come, each with the headers of its sections. -/
def gathered (entries : List (Text × List Header)) : Dictionary Attributes :=
  Dictionary.tabulate (entries.map (·.1)) fun name => .ofMerged (headersOf entries name)

/-- All headers can be stored, those of an entry in one section. -/
def Description.Storable (d : Description) : Prop :=
  Attributes.Storable d.main ∧ ∀ name, Attributes.Storable (headersOf d.entries name)

/-- The manifest that is described. -/
def Description.manifest (d : Description) : Manifest := ⟨.ofMerged d.main, gathered d.entries⟩

/-- A run of lines is a section of an entry: its first header names the entry. -/
def ReadsEntry (run : List Text) (entry : Text × List Header) : Prop :=
  ∃ first, Text.lower first.name = "name" ∧ first.value = entry.1
    ∧ Reads run (first :: entry.2)

/-- The main section and the sections of entries. The main section is empty if the text begins with
a line end. -/
def parts (text : Text) (lines : List Text) : List Text × List (List Text) :=
  if text.head? = some (.scalar '\r') ∨ text.head? = some (.scalar '\n') then ([], Lines.runs lines)
  else ((Lines.runs lines).headD [], (Lines.runs lines).tail)

/-- A text says what its sections have. -/
def Describes (text : Text) (d : Description) : Prop :=
  ∃ lines, Lines.Cut text lines ∧ Reads (parts text lines).1 d.main
    ∧ List.Forall₂ ReadsEntry (parts text lines).2 d.entries

/-- A text says a manifest: the headers that it says can be stored and merge to those of the
manifest. -/
def Says (text : Text) (m : Manifest) : Prop :=
  ∃ d, Describes text d ∧ d.Storable ∧ m = d.manifest

/-! ## Entries -/

theorem headersOf_append (entries more : List (Text × List Header)) (name : Text) :
    headersOf (entries ++ more) name = headersOf entries name ++ headersOf more name := by
  rw [headersOf, List.filter_append, List.flatMap_append]
  rfl

/-- A further section of an entry comes behind its earlier ones. -/
theorem headersOf_concat_self (entries : List (Text × List Header)) (entry : Text × List Header) :
    headersOf (entries ++ [entry]) entry.1 = headersOf entries entry.1 ++ entry.2 := by
  have hentry : headersOf [entry] entry.1 = entry.2 := by simp [headersOf]
  rw [headersOf_append, hentry]

/-- The section of an entry has no headers of another one. -/
theorem headersOf_concat_of_ne (entries : List (Text × List Header))
    {entry : Text × List Header} {name : Text} (h : name ≠ entry.1) :
    headersOf (entries ++ [entry]) name = headersOf entries name := by
  have hentry : headersOf [entry] name = [] := by simp [headersOf, Ne.symm h]
  rw [headersOf_append, hentry, List.append_nil]

/-- What is known of an entry is what its sections have so far. -/
theorem getD_get?_gathered (entries : List (Text × List Header)) (name : Text) :
    (Dictionary.get? (gathered entries) name).getD .empty = .ofMerged (headersOf entries name) := by
  rw [gathered, Dictionary.get?_tabulate]
  split
  next => rfl
  next hname =>
    have hnone : entries.filter (fun entry => entry.1 = name) = [] := by
      rw [List.filter_eq_nil_iff]
      intro entry hentry heq
      exact hname (List.mem_map.2 ⟨entry, hentry, of_decide_eq_true heq⟩)
    rw [headersOf, hnone]
    rfl

/-- A further section of an entry changes what is known of that entry only. -/
theorem insert_gathered (entries : List (Text × List Header)) (entry : Text × List Header) :
    Dictionary.insert (gathered entries) entry.1
        (.ofMerged (headersOf entries entry.1 ++ entry.2))
      = gathered (entries ++ [entry]) := by
  have hother : ∀ name, name ≠ entry.1 →
      Attributes.ofMerged (headersOf (entries ++ [entry]) name)
        = .ofMerged (headersOf entries name) := by
    intro name hname
    rw [headersOf_concat_of_ne entries hname]
  have hinsert := Dictionary.insert_tabulate (entries.map (·.1)) hother
  rw [headersOf_concat_self] at hinsert
  rw [gathered, hinsert, gathered, List.map_append, List.map_singleton]

/-- What holds of the sections of entries that were added. -/
structure Sound (entries : List (Text × List Header)) : Prop where
  /-- No line ends in a value. -/
  unbroken : ∀ name, ∀ h ∈ headersOf entries name, Lines.Unbroken h.value
  /-- The headers of each entry can be stored. -/
  storable : ∀ name, Attributes.Storable (headersOf entries name)

theorem sound_nil : Sound [] :=
  ⟨fun _ _ h => absurd h List.not_mem_nil, fun _ => Attributes.storable_nil⟩

/-- A section can be added if its headers can be stored behind those that the entry has. -/
theorem Sound.append {entries : List (Text × List Header)} (h : Sound entries)
    {entry : Text × List Header} (hvalues : ∀ g ∈ entry.2, Lines.Unbroken g.value)
    (hstorable : Attributes.Storable (headersOf entries entry.1 ++ entry.2)) :
    Sound (entries ++ [entry]) := by
  constructor
  · intro name g hg
    by_cases hname : name = entry.1
    · rw [hname, headersOf_concat_self, List.mem_append] at hg
      exact hg.elim (h.unbroken _ g) (hvalues g)
    · rw [headersOf_concat_of_ne entries hname] at hg
      exact h.unbroken name g hg
  · intro name
    by_cases hname : name = entry.1
    · rw [hname, headersOf_concat_self]
      exact hstorable
    · rw [headersOf_concat_of_ne entries hname]
      exact h.storable name

/-! ## Reading sections -/

/-- Headers are stored as those of a section. -/
theorem store_eq_ok_iff {a b : Attributes} {named : List NamedLine} :
    store a named = .ok b ↔ a.insertHeaders (named.map NamedLine.header) = .ok b := by
  rw [store_eq, mapError_eq_ok]

/-- No line ends in a value of a section. -/
theorem unbroken_of_reads {s : Lines.Section} (hs : ∀ l ∈ s.lines, Lines.Unbroken l)
    {headers : List Header} (h : Reads s.lines headers) :
    ∀ header ∈ headers, Lines.Unbroken header.value := by
  obtain ⟨named, hread, rfl⟩ := readSection_eq_ok_iff.2 h
  intro header hheader
  obtain ⟨n, hn, rfl⟩ := List.mem_map.1 hheader
  exact (unbroken_of_readSection hs hread n hn).2

/-- A section has at least one header. -/
theorem ne_nil_of_reads {s : Lines.Section} {headers : List Header}
    (h : Reads s.lines headers) : headers ≠ [] := by
  rintro rfl
  have hjoined : joined s.lines = [] := List.forall₂_nil_right_iff.1 h.2
  rw [joined, List.map_eq_nil_iff, List.splitBy_eq_nil] at hjoined
  exact absurd hjoined (List.cons_ne_nil _ _)

/-- Whatever is read of a section begins with a header, so an entry section has a first one. -/
theorem ne_nil_of_readSection {s : Lines.Section} {named : List NamedLine}
    (h : readSection s = .ok named) : named ≠ [] := by
  rintro rfl
  exact ne_nil_of_reads (readSection_eq_ok_iff.1 ⟨[], h, rfl⟩) rfl

/-- **The main section is added** if it has headers that can be stored. -/
theorem addMain_eq_ok_iff {s : Lines.Section} (hs : ∀ l ∈ s.lines, Lines.Unbroken l)
    {m : Manifest} :
    addMain {} s = .ok m ↔ ∃ headers, Reads s.lines headers ∧ Attributes.Storable headers
      ∧ m = ⟨.ofMerged headers, gathered []⟩ := by
  rw [addMain]
  constructor
  · intro h
    obtain ⟨named, hread, h⟩ := bind_eq_ok.1 h
    obtain ⟨main, hstore, h⟩ := bind_eq_ok.1 h
    have hreads : Reads s.lines (named.map NamedLine.header) :=
      readSection_eq_ok_iff.1 ⟨named, hread, rfl⟩
    obtain ⟨hstorable, rfl⟩ := (Attributes.insertHeaders_empty_eq_ok_iff
      (unbroken_of_reads hs hreads)).1 (store_eq_ok_iff.1 hstore)
    exact ⟨_, hreads, hstorable, (Except.ok.inj h).symm⟩
  · rintro ⟨headers, hreads, hstorable, rfl⟩
    have hinsert := (Attributes.insertHeaders_empty_eq_ok_iff (unbroken_of_reads hs hreads)).2
      ⟨hstorable, rfl⟩
    obtain ⟨named, hread, rfl⟩ := readSection_eq_ok_iff.2 hreads
    rw [hread, ok_bind, store_eq_ok_iff.2 hinsert]
    rfl

/-- The headers of a further section are stored behind those that the entry has. -/
theorem store_gathered_eq_ok_iff {entries : List (Text × List Header)} (hentries : Sound entries)
    {name : Text} {named : List NamedLine}
    (hnamed : ∀ h ∈ named.map NamedLine.header, Lines.Unbroken h.value) {a : Attributes} :
    store ((Dictionary.get? (gathered entries) name).getD .empty) named = .ok a
      ↔ Attributes.Storable (headersOf entries name ++ named.map NamedLine.header)
        ∧ a = .ofMerged (headersOf entries name ++ named.map NamedLine.header) := by
  rw [getD_get?_gathered, store_eq_ok_iff]
  refine Attributes.insertHeaders_ofMerged_eq_ok_iff (hentries.storable name) fun h hh => ?_
  exact (List.mem_append.1 hh).elim (hentries.unbroken name h) (hnamed h)

/-- **The section of an entry is added** if it names the entry and its other headers can be stored
behind those of earlier sections. -/
theorem addEntry_eq_ok_iff {main : Attributes} {entries : List (Text × List Header)}
    (hentries : Sound entries) {s : Lines.Section} (hs : ∀ l ∈ s.lines, Lines.Unbroken l)
    {m : Manifest} :
    addEntry ⟨main, gathered entries⟩ s = .ok m
      ↔ ∃ entry, ReadsEntry s.lines entry
        ∧ Attributes.Storable (headersOf entries entry.1 ++ entry.2)
        ∧ m = ⟨main, gathered (entries ++ [entry])⟩ := by
  rw [addEntry]
  constructor
  · intro h
    obtain ⟨named, hread, h⟩ := bind_eq_ok.1 h
    have hreads : Reads s.lines (named.map NamedLine.header) :=
      readSection_eq_ok_iff.1 ⟨named, hread, rfl⟩
    cases named with
    | nil => exact absurd rfl (ne_nil_of_readSection hread)
    | cons first rest =>
        have hrest := fun g hg => unbroken_of_reads hs hreads g (List.mem_cons_of_mem _ hg)
        dsimp only at h
        split at h
        next hname =>
          obtain ⟨a, ha, h⟩ := bind_eq_ok.1 h
          obtain ⟨hstorable, rfl⟩ := (store_gathered_eq_ok_iff hentries hrest).1 ha
          refine ⟨(first.value, rest.map NamedLine.header),
            ⟨first.header, HeaderName.same_iff.1 hname, rfl, hreads⟩, hstorable, ?_⟩
          rw [← insert_gathered]
          exact (Except.ok.inj h).symm
        next => exact absurd h (by simp [throw, throwThe, MonadExceptOf.throw])
  · rintro ⟨⟨name, headers⟩, ⟨first, hname, rfl, hreads⟩, hstorable, rfl⟩
    obtain ⟨named, hread, hnamed⟩ := readSection_eq_ok_iff.2 hreads
    cases named with
    | nil => exact absurd hnamed (List.cons_ne_nil _ _).symm
    | cons n rest =>
        obtain ⟨rfl, rfl⟩ := List.cons.inj hnamed
        have hrest := fun g hg => unbroken_of_reads hs hreads g (List.mem_cons_of_mem _ hg)
        have hsame : HeaderName.same n.name HeaderName.entryName = true :=
          HeaderName.same_iff.2 hname
        have ha := (store_gathered_eq_ok_iff hentries hrest).2 ⟨hstorable, rfl⟩
        rw [hread, ok_bind]
        dsimp only
        rw [if_pos hsame]
        refine bind_eq_ok.2 ⟨_, ha, ?_⟩
        rw [← insert_gathered]
        rfl

/-- **The sections of entries are added one after another** if each names its entry and all
headers can be stored. -/
theorem foldlM_addEntry_eq_ok_iff {main : Attributes} {sections : List Lines.Section}
    (hsections : ∀ s ∈ sections, ∀ l ∈ s.lines, Lines.Unbroken l)
    {entries : List (Text × List Header)} (hentries : Sound entries) {m : Manifest} :
    sections.foldlM addEntry ⟨main, gathered entries⟩ = .ok m
      ↔ ∃ more, List.Forall₂ ReadsEntry (sections.map Lines.Section.lines) more
        ∧ (∀ name, Attributes.Storable (headersOf (entries ++ more) name))
        ∧ m = ⟨main, gathered (entries ++ more)⟩ := by
  induction sections generalizing entries m with
  | nil =>
      rw [List.foldlM_nil, List.map_nil]
      constructor
      · intro h
        refine ⟨[], .nil, ?_⟩
        rw [List.append_nil]
        exact ⟨hentries.storable, (Except.ok.inj h).symm⟩
      · rintro ⟨more, hmore, -, rfl⟩
        rw [List.forall₂_nil_left_iff.1 hmore, List.append_nil]
        rfl
  | cons s sections ih =>
      have hs := hsections s List.mem_cons_self
      have hrest := fun t ht => hsections t (List.mem_cons_of_mem _ ht)
      have hvalues : ∀ entry, ReadsEntry s.lines entry → ∀ g ∈ entry.2, Lines.Unbroken g.value := by
        rintro entry ⟨first, -, -, hreads⟩ g hg
        exact unbroken_of_reads hs hreads g (List.mem_cons_of_mem _ hg)
      -- The induction moves one section at a time to those that were added.
      have hshift : ∀ entry more, entries ++ entry :: more = entries ++ [entry] ++ more := by
        intro entry more
        rw [List.append_assoc, List.singleton_append]
      rw [List.foldlM_cons, List.map_cons]
      constructor
      · intro h
        obtain ⟨next, hadd, h⟩ := bind_eq_ok.1 h
        obtain ⟨entry, hreads, hstorable, rfl⟩ := (addEntry_eq_ok_iff hentries hs).1 hadd
        have hnext := hentries.append (hvalues entry hreads) hstorable
        obtain ⟨more, hmore, hall, rfl⟩ := (ih hrest hnext).1 h
        refine ⟨entry :: more, .cons hreads hmore, ?_⟩
        rw [hshift]
        exact ⟨hall, rfl⟩
      · rintro ⟨_, hruns, hall, rfl⟩
        obtain ⟨entry, more, hreads, hmore, rfl⟩ := List.forall₂_cons_left_iff.1 hruns
        rw [hshift] at hall ⊢
        have hstorable := hall entry.1
        rw [headersOf_append, headersOf_concat_self] at hstorable
        have hfirst := Attributes.Storable.of_append hstorable
        have hnext := hentries.append (hvalues entry hreads) hfirst
        rw [(addEntry_eq_ok_iff hentries hs).2 ⟨entry, hreads, hfirst, rfl⟩, ok_bind]
        exact (ih hrest hnext).2 ⟨more, hmore, hall, rfl⟩

/-! ## Reading a text -/

/-- An empty section has no headers. -/
theorem reads_nil_iff {headers : List Header} : Reads [] headers ↔ headers = [] := by
  simp [Reads]

/-- The sections of entries behind a main section that was added. -/
theorem foldlM_addEntry_main_eq_ok_iff (main : List Header) {sections : List Lines.Section}
    (hsections : ∀ s ∈ sections, ∀ l ∈ s.lines, Lines.Unbroken l) {m : Manifest} :
    sections.foldlM addEntry ⟨.ofMerged main, gathered []⟩ = .ok m
      ↔ ∃ entries, List.Forall₂ ReadsEntry (sections.map Lines.Section.lines) entries
        ∧ (∀ name, Attributes.Storable (headersOf entries name))
        ∧ m = Description.manifest ⟨main, entries⟩ :=
  foldlM_addEntry_eq_ok_iff hsections sound_nil

/-- The main section and behind it the sections of entries. -/
theorem addMain_foldlM_eq_ok_iff {first : Lines.Section} {rest : List Lines.Section}
    (hsections : ∀ s ∈ first :: rest, ∀ l ∈ s.lines, Lines.Unbroken l) {m : Manifest} :
    (addMain {} first >>= fun next => rest.foldlM addEntry next) = .ok m
      ↔ ∃ d : Description, (Reads first.lines d.main
          ∧ List.Forall₂ ReadsEntry (rest.map Lines.Section.lines) d.entries)
        ∧ d.Storable ∧ m = d.manifest := by
  have hfirst := hsections first List.mem_cons_self
  have hrest := fun s hs => hsections s (List.mem_cons_of_mem _ hs)
  constructor
  · intro h
    obtain ⟨next, hadd, h⟩ := bind_eq_ok.1 h
    obtain ⟨main, hmain, hstorable, rfl⟩ := (addMain_eq_ok_iff hfirst).1 hadd
    obtain ⟨entries, hentries, hstored, rfl⟩ := (foldlM_addEntry_main_eq_ok_iff main hrest).1 h
    exact ⟨⟨main, entries⟩, ⟨hmain, hentries⟩, ⟨hstorable, hstored⟩, rfl⟩
  · rintro ⟨⟨main, entries⟩, ⟨hmain, hentries⟩, ⟨hstorable, hstored⟩, rfl⟩
    have hadd := (addMain_eq_ok_iff hfirst).2 ⟨main, hmain, hstorable, rfl⟩
    rw [hadd, ok_bind]
    exact (foldlM_addEntry_main_eq_ok_iff main hrest).2 ⟨entries, hentries, hstored, rfl⟩

/-- **The manifest that is read from a text is the one that it says.** -/
theorem parse_eq_ok_iff {text : Text} {m : Manifest} : parse text = .ok m ↔ Says text m := by
  have hlines : ∀ s ∈ Lines.sections 1 (Lines.split text), ∀ l ∈ s.lines, Lines.Unbroken l :=
    fun s hs l hl => Lines.unbroken_of_mem_split (Lines.mem_of_mem_sections hs hl).1
  have hdescribes : ∀ d, Describes text d ↔ Reads (parts text (Lines.split text)).1 d.main
      ∧ List.Forall₂ ReadsEntry (parts text (Lines.split text)).2 d.entries := by
    intro d
    simp only [Describes, Lines.cut_iff, exists_eq_left']
  simp only [Says, hdescribes, parts, ← Lines.map_lines_sections 1 (Lines.split text),
    ← Lines.startsWithBreak_iff]
  rw [parse]
  generalize Lines.sections 1 (Lines.split text) = sections at hlines
  cases Lines.startsWithBreak text with
  | true =>
      -- The main section is empty, and all sections are those of entries.
      rw [if_pos rfl, if_pos rfl]
      refine (foldlM_addEntry_main_eq_ok_iff [] hlines).trans ?_
      constructor
      · rintro ⟨entries, hentries, hstored, rfl⟩
        exact ⟨⟨[], entries⟩, ⟨reads_nil_iff.2 rfl, hentries⟩, ⟨Attributes.storable_nil, hstored⟩,
          rfl⟩
      · rintro ⟨⟨main, entries⟩, ⟨hmain, hentries⟩, ⟨-, hstored⟩, rfl⟩
        obtain rfl : main = [] := reads_nil_iff.1 hmain
        exact ⟨entries, hentries, hstored, rfl⟩
  | false =>
      rw [if_neg Bool.false_ne_true, if_neg Bool.false_ne_true]
      cases sections with
      | nil =>
          constructor
          · intro h
            exact ⟨⟨[], []⟩, ⟨reads_nil_iff.2 rfl, .nil⟩,
              ⟨Attributes.storable_nil, fun _ => Attributes.storable_nil⟩, (Except.ok.inj h).symm⟩
          · rintro ⟨⟨main, entries⟩, ⟨hmain, hentries⟩, -, rfl⟩
            obtain rfl : main = [] := reads_nil_iff.1 hmain
            obtain rfl : entries = [] := List.forall₂_nil_left_iff.1 hentries
            rfl
      | cons first rest => exact addMain_foldlM_eq_ok_iff hlines

/-! ## Texts that are no manifests -/

/-- A header that cannot be stored is no header of a manifest. -/
theorem isFormat_of_store {a : Attributes} {named : List NamedLine} {e : ManifestError}
    (h : store a named = .error e) : e.isFormat = true := by
  induction named generalizing a with
  | nil => exact absurd h (by simp [store])
  | cons n named ih =>
      rw [store, List.foldlM_cons] at h
      rcases bind_eq_error.1 h with hinsert | ⟨next, -, hrest⟩
      · obtain ⟨cause, hcause, rfl⟩ := mapError_eq_error.1 hinsert
        rcases Attributes.insert_eq_error hcause with rfl | rfl
        · rfl
        · rfl
      · exact ih hrest

/-- Lines that are no headers make a text no manifest. -/
theorem isFormat_of_readLines {numbered : List (Nat × Text)} {e : ManifestError}
    (h : readLines numbered = .error e) : e.isFormat = true := by
  induction numbered with
  | nil => exact absurd h (by simp)
  | cons logical numbered ih =>
      obtain ⟨line, content⟩ := logical
      rw [readLines_cons] at h
      rcases bind_eq_error.1 h with hfirst | ⟨_, -, h⟩
      · rw [NamedLine.ofLine] at hfirst
        split at hfirst
        next =>
          rw [← Except.error.inj hfirst]
          rfl
        next =>
          rw [← Except.error.inj hfirst]
          rfl
        next => exact absurd hfirst (by simp)
      · rcases bind_eq_error.1 h with hrest | ⟨_, -, h⟩
        · exact ih hrest
        · exact absurd h (by simp)

/-- A section that cannot be read makes a text no manifest. -/
theorem isFormat_of_readSection {s : Lines.Section} {e : ManifestError}
    (h : readSection s = .error e) : e.isFormat = true := by
  rw [readSection_eq] at h
  split at h
  next =>
    rw [← Except.error.inj h]
    rfl
  next => exact isFormat_of_readLines h

/-- A section that cannot be added makes a text no manifest. -/
theorem isFormat_of_addEntry {m : Manifest} {s : Lines.Section} {e : ManifestError}
    (h : addEntry m s = .error e) : e.isFormat = true := by
  rw [addEntry] at h
  rcases bind_eq_error.1 h with hread | ⟨named, -, h⟩
  · exact isFormat_of_readSection hread
  · cases named with
    | nil => exact absurd h (by simp)
    | cons first rest =>
        dsimp only at h
        split at h
        next =>
          rcases bind_eq_error.1 h with hstore | ⟨_, -, h⟩
          · exact isFormat_of_store hstore
          · exact absurd h (by simp)
        next =>
          rw [← Except.error.inj h]
          rfl

/-- Sections that cannot be added one after another make a text no manifest. -/
theorem isFormat_of_foldlM_addEntry {sections : List Lines.Section} {m : Manifest}
    {e : ManifestError} (h : sections.foldlM addEntry m = .error e) : e.isFormat = true := by
  induction sections generalizing m with
  | nil => exact absurd h (by simp)
  | cons s sections ih =>
      rw [List.foldlM_cons] at h
      rcases bind_eq_error.1 h with hadd | ⟨next, -, h⟩
      · exact isFormat_of_addEntry hadd
      · exact ih h

/-- **Whatever is wrong with a text, it is no manifest.** -/
theorem isFormat_of_parse {text : Text} {e : ManifestError} (h : parse text = .error e) :
    e.isFormat = true := by
  rw [parse] at h
  split at h
  next => exact isFormat_of_foldlM_addEntry h
  next =>
    split at h
    next => exact absurd h (by simp)
    next =>
      rcases bind_eq_error.1 h with hadd | ⟨next, -, h⟩
      · rw [addMain] at hadd
        rcases bind_eq_error.1 hadd with hread | ⟨_, -, hadd⟩
        · exact isFormat_of_readSection hread
        · rcases bind_eq_error.1 hadd with hstore | ⟨_, -, hadd⟩
          · exact isFormat_of_store hstore
          · exact absurd hadd (by simp)
      · exact isFormat_of_foldlM_addEntry h

/-! ## Texts and bytes -/

/-- The manifest that is read from bytes is the one that their text says. -/
theorem parseBytes_eq_ok_iff {bytes : Bytes} {m : Manifest} :
    parseBytes bytes = .ok m ↔ ∃ text, Utf8.encode text = .ok bytes ∧ Says text m := by
  rw [parseBytes]
  constructor
  · intro h
    split at h
    next text htext => exact ⟨text, Utf8.decode?_eq_some_iff.1 htext, parse_eq_ok_iff.1 h⟩
    next => exact absurd h (by simp)
  · rintro ⟨text, htext, hsays⟩
    rw [Utf8.decode?_eq_some_iff.2 htext]
    exact parse_eq_ok_iff.2 hsays

/-- Whatever is wrong with bytes, they are no manifest. -/
theorem isFormat_of_parseBytes {bytes : Bytes} {e : ManifestError}
    (h : parseBytes bytes = .error e) : e.isFormat = true := by
  rw [parseBytes] at h
  split at h
  next => exact isFormat_of_parse h
  next =>
    rw [← Except.error.inj h]
    rfl

/-- **Reading accepts the format and nothing else**: a text, or the bytes of one, is read as the
manifest that it says, and a text that says none and bytes that are not those of such a text are
refused as no manifest. -/
theorem parse_format :
    (∀ text m, parse text = .ok m ↔ Says text m)
      ∧ (∀ text, (∀ m, ¬ Says text m) → ∃ e, parse text = .error e ∧ e.isFormat = true)
      ∧ (∀ bytes m, parseBytes bytes = .ok m ↔ ∃ text, Utf8.encode text = .ok bytes ∧ Says text m)
      ∧ ∀ bytes, (∀ text m, Utf8.encode text = .ok bytes → ¬ Says text m) →
        ∃ e, parseBytes bytes = .error e ∧ e.isFormat = true := by
  refine ⟨fun _ _ => parse_eq_ok_iff, fun text hnone => ?_, fun _ _ => parseBytes_eq_ok_iff,
    fun bytes hnone => ?_⟩
  · cases h : parse text with
    | ok m => exact absurd (parse_eq_ok_iff.1 h) (hnone m)
    | error e => exact ⟨e, rfl, isFormat_of_parse h⟩
  · cases h : parseBytes bytes with
    | ok m =>
        obtain ⟨text, htext, hsays⟩ := parseBytes_eq_ok_iff.1 h
        exact absurd hsays (hnone text m htext)
    | error e => exact ⟨e, rfl, isFormat_of_parseBytes h⟩

/-- Here two sections of an entry are merged, a line is no header, and bytes are those of no
text. -/
theorem parse_format_merged :
    (∃ m, Says "A: b\n\nName: x\nC:\nD: 1\n\nname: x\nd: \n e: f" m
        ∧ m.entries.map (fun entry => (entry.1, entry.2.headers))
          = ([("x", [⟨"C", []⟩, ⟨"D", "e: f"⟩])] : List (Text × List Header)))
      ∧ (∃ e, parse "A: b\nC" = .error e ∧ e.isFormat = true)
      ∧ ∃ e, parseBytes [0xFF] = .error e ∧ e.isFormat = true := by
  obtain ⟨hread, hrefused, -, hbytes⟩ := parse_format
  refine ⟨?_, hrefused _ fun m hm => ?_, hbytes _ fun text m htext hm => ?_⟩
  · obtain ⟨m, hm, hview⟩ := exists_ok_of_toOption
      (e := parse "A: b\n\nName: x\nC:\nD: 1\n\nname: x\nd: \n e: f")
      (f := fun m => m.entries.map fun entry => (entry.1, entry.2.headers))
      (b := ([("x", [⟨"C", []⟩, ⟨"D", "e: f"⟩])] : List (Text × List Header))) (by decide +kernel)
    exact ⟨m, (hread _ _).1 hm, hview⟩
  · have hnone : (parse "A: b\nC").toOption = none := by decide +kernel
    rw [(hread _ _).2 hm] at hnone
    exact absurd hnone (by simp [Except.toOption])
  · have hnone : Utf8.decode? [0xFF] = none := by decide +kernel
    rw [Utf8.decode?_eq_some_iff.2 htext] at hnone
    exact absurd hnone (by simp)

end Manifest

end Wab
