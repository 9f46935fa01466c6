import Wab.Proofs.Reading
import Wab.Proofs.Rereading
import Wab.Proofs.Utf8

/-! # Reading written manifests

A well-formed manifest whose names hold no line feed is read back from its text: the text is taken
apart into the lines that were written, these into the sections, and the headers of each section are
stored again. Only a header that names the version of the format moves to the front.

* **`Manifest.versionFirst`** — the manifest in the order in which it is written.
* **`Manifest.parse_text`** — a written manifest is read back. -/

namespace Wab

namespace Attributes

/-- A valid name without a line feed is plain. -/
theorem WellFormed.isPlain {a : Attributes} (ha : a.WellFormed) (hone : a.OneLined) :
    ∀ h ∈ a.headers, HeaderName.isPlain h.name = true := by
  intro h hh
  obtain ⟨slot, hslot, rfl⟩ := List.mem_map.1 hh
  exact HeaderName.isPlain_of_isValid (ha.kept slot hslot).valid (hone _ hh)

/-- No line ends in a value. -/
theorem WellFormed.unbroken_value {a : Attributes} (ha : a.WellFormed) :
    ∀ h ∈ a.headers, Lines.Unbroken h.value := by
  intro h hh
  obtain ⟨slot, hslot, rfl⟩ := List.mem_map.1 hh
  exact unbroken_of_any_isBreaking (ha.kept slot hslot).unbroken

/-- The header names the version of the manifest format, in any letter case. -/
def isVersion (h : Header) : Bool := HeaderName.same h.name HeaderName.manifestVersion

/-- The section with the version of the format, if it has that header, in front. -/
def versionFirst (a : Attributes) : Attributes :=
  ⟨a.slots.filter (fun slot => isVersion slot.2) ++ a.slots.filter fun slot => !isVersion slot.2⟩

/-- The headers of a section are written in this order. -/
theorem headers_versionFirst (a : Attributes) :
    a.versionFirst.headers = Manifest.ordered a.headers := by
  rw [headers, versionFirst, List.map_append, Manifest.ordered, headers, List.filter_map,
    List.filter_map]
  rfl

/-- The order of the headers is another one, but they are the same. -/
theorem perm_versionFirst (a : Attributes) : a.versionFirst.slots.Perm a.slots :=
  List.filter_append_perm _ _

/-- Moving a header keeps a section well-formed. -/
theorem WellFormed.versionFirst {a : Attributes} (ha : a.WellFormed) :
    a.versionFirst.WellFormed := by
  have hperm := perm_versionFirst a
  refine ⟨?_, fun slot hslot => ha.kept slot (hperm.mem_iff.1 hslot)⟩
  exact (hperm.map _).nodup_iff.2 ha.distinct

/-- Moving a header brings in no name. -/
theorem OneLined.versionFirst {a : Attributes} (ha : a.OneLined) : a.versionFirst.OneLined :=
  fun h hh => ha h (((perm_versionFirst a).map _).mem_iff.1 hh)

end Attributes

namespace Manifest

/-- The manifest with the version of the format, if it names one, in front. -/
def versionFirst (m : Manifest) : Manifest := { m with main := m.main.versionFirst }

/-! ## Written lines -/

/-- Lines with their ends. -/
def endLines (lines : List Text) : Text := lines.flatMap fun line => line ++ lineEnd

theorem endLines_append (lines more : List Text) :
    endLines (lines ++ more) = endLines lines ++ endLines more := List.flatMap_append

/-- Lines that were put together are taken apart again. -/
theorem split_endLines_append {lines : List Text} (h : ∀ l ∈ lines, Lines.Unbroken l) (s : Text) :
    Lines.split (endLines lines ++ s) = lines ++ Lines.split s := by
  induction lines with
  | nil => rfl
  | cons line lines ih =>
      have hcons : endLines (line :: lines) ++ s
          = line ++ .scalar '\r' :: .scalar '\n' :: (endLines lines ++ s) := by
        simp [endLines, lineEnd]
      rw [hcons, Lines.split_append_crlf (h line List.mem_cons_self),
        ih fun l hl => h l (List.mem_cons_of_mem _ hl), List.cons_append]

/-- The first surrogate of headers. -/
def surrogateOf? (headers : List Header) : Option (Fin 0x800) :=
  headers.findSome? fun h => Text.surrogate? (headerLine h)

/-- A header is written line by line, unless there is a surrogate in it. -/
theorem writeHeader_eq (h : Header) :
    writeHeader h = outcome ((Text.surrogate? (headerLine h)).map Utf8.Flaw.alone)
      (endLines (Folding.chunks (headerLine h))) := by
  rw [writeHeader, Folding.fold_eq]
  cases Text.surrogate? (headerLine h) <;> rfl

/-- The lines of a section are written with the empty line that ends it, unless there is a surrogate
in one of its headers. -/
theorem writeSection_eq (headers : List Header) :
    writeSection headers = outcome ((surrogateOf? headers).map Utf8.Flaw.alone)
      (endLines (sectionLines headers ++ [[]])) := by
  have hlines : (headers.map fun h => endLines (Folding.chunks (headerLine h))).flatten
      = endLines (sectionLines headers) := by
    rw [endLines, sectionLines, List.flatMap_assoc]
    rfl
  rw [writeSection, mapM_eq_outcome writeHeader_eq, surrogateOf?, List.map_findSome?,
    ← Function.comp_def, endLines_append, ← hlines]
  cases headers.findSome? _ <;> rfl

/-- The headers of the section of an entry as they are written. -/
def entryHeaders (entry : Text × Attributes) : List Header :=
  ⟨HeaderName.entryName, entry.1⟩ :: entry.2.headers

/-- The lines of the section of an entry with the empty line that ends it. -/
def entryLines (entry : Text × Attributes) : List Text := sectionLines (entryHeaders entry) ++ [[]]

/-- The physical lines of a manifest as it is written: an empty one ends each section. -/
def lines (m : Manifest) : List Text :=
  m.written.flatMap fun headers => sectionLines headers ++ [[]]

/-- The first surrogate of a manifest as it is written. -/
def surrogate? (m : Manifest) : Option (Fin 0x800) := m.written.findSome? surrogateOf?

/-- The lines of the main section come first. -/
theorem lines_eq (m : Manifest) :
    m.lines = sectionLines m.main.versionFirst.headers ++ [[]] ++ m.entries.flatMap entryLines := by
  rw [lines, written, List.flatMap_cons, List.flatMap_map, Attributes.headers_versionFirst]
  rfl

/-- **A manifest is written line by line**, unless there is a surrogate in it. -/
theorem text_eq (m : Manifest) :
    m.text = outcome (m.surrogate?.map Utf8.Flaw.alone) (endLines m.lines) := by
  have hlines : (m.written.map fun headers => endLines (sectionLines headers ++ [[]])).flatten
      = endLines m.lines := by
    rw [endLines, lines, List.flatMap_assoc]
    rfl
  rw [text, mapM_eq_outcome writeSection_eq, surrogate?, List.map_findSome?, ← Function.comp_def,
    ← hlines]
  cases m.written.findSome? _ <;> rfl

/-- A header has no surrogate if none is in its name and none in its value. -/
theorem surrogate?_headerLine_eq_none_iff {h : Header} :
    Text.surrogate? (headerLine h) = none
      ↔ ∀ c, c ∈ h.name ∨ c ∈ h.value → c.surrogate? = none := by
  have hseparator : ∀ c ∈ separator, c.surrogate? = none := by decide
  simp only [Text.surrogate?_eq_none_iff_forall, headerLine, List.mem_append]
  constructor
  · exact fun hline c hc => hline c (hc.imp_left Or.inl)
  · rintro hparts c ((hname | hmark) | hvalue)
    · exact hparts c (Or.inl hname)
    · exact hseparator c hmark
    · exact hparts c (Or.inr hvalue)

/-- Behind a name without surrogates those of the value count. -/
theorem surrogate?_headerLine {h : Header} (hname : ∀ c ∈ h.name, c.surrogate? = none) :
    Text.surrogate? (headerLine h) = Text.surrogate? h.value := by
  have hseparator : Text.surrogate? separator = none := by decide
  have hnone : Text.surrogate? h.name = none := Text.surrogate?_eq_none_iff_forall.2 hname
  rw [headerLine, Text.surrogate?_append, Text.surrogate?_append, hnone, hseparator]
  rfl

/-- The headers that are written are those of the main section and those of entries. -/
theorem mem_written_iff {m : Manifest} {h : Header} :
    (∃ headers ∈ m.written, h ∈ headers)
      ↔ h ∈ m.main.headers ∨ ∃ entry ∈ m.entries, h ∈ entryHeaders entry := by
  have hperm := (Attributes.perm_versionFirst m.main).map Prod.snd
  have hmain : h ∈ ordered m.main.headers ↔ h ∈ m.main.headers := by
    rw [← Attributes.headers_versionFirst]
    exact hperm.mem_iff
  have hwritten : m.written = ordered m.main.headers :: m.entries.map entryHeaders := rfl
  rw [hwritten, ← hmain]
  simp only [List.mem_cons, List.mem_map, exists_eq_or_imp, exists_exists_and_eq_and]

/-- A manifest has no surrogate if and only if none is in a header or the name of an entry. -/
theorem surrogate?_eq_none_iff {m : Manifest} :
    m.surrogate? = none ↔ m.ConsistsOf (·.surrogate? = none) := by
  have hheaders : m.surrogate? = none
      ↔ ∀ h, (∃ headers ∈ m.written, h ∈ headers) → Text.surrogate? (headerLine h) = none := by
    simp only [surrogate?, surrogateOf?, List.findSome?_eq_none_iff]
    exact ⟨fun hall h ⟨headers, hheaders, hh⟩ => hall headers hheaders h hh,
      fun hall headers hheaders h hh => hall h ⟨headers, hheaders, hh⟩⟩
  simp only [hheaders, mem_written_iff, surrogate?_headerLine_eq_none_iff]
  constructor
  · intro hall
    refine ⟨fun h hh => hall h (Or.inl hh), fun entry hentry c hc => ?_,
      fun entry hentry h hh => ?_⟩
    · exact hall ⟨_, entry.1⟩ (Or.inr ⟨entry, hentry, List.mem_cons_self⟩) c (Or.inr hc)
    · exact hall h (Or.inr ⟨entry, hentry, List.mem_cons_of_mem _ hh⟩)
  · rintro hm h (hh | ⟨entry, hentry, hh⟩) c hc
    · exact hm.main h hh c hc
    rcases List.mem_cons.1 hh with rfl | hh
    · have hname : ∀ c ∈ HeaderName.entryName, c.surrogate? = none := by decide
      exact hc.elim (hname c) (hm.names entry hentry c)
    · exact hm.entries entry hentry h hh c hc

/-- No surrogate comes into the lines of a manifest without one. -/
theorem surrogate?_endLines {m : Manifest} (h : m.surrogate? = none) :
    Text.surrogate? (endLines m.lines) = none := by
  rw [surrogate?, List.findSome?_eq_none_iff] at h
  rw [Text.surrogate?_eq_none_iff_forall]
  intro c hc
  obtain ⟨line, hline, hc⟩ := List.mem_flatMap.1 hc
  have hend : ∀ c ∈ lineEnd, c.surrogate? = none := by decide
  rcases List.mem_append.1 hc with hc | hc
  · obtain ⟨headers, hheaders, hline⟩ := List.mem_flatMap.1 hline
    rcases List.mem_append.1 hline with hline | hline
    · obtain ⟨header, hheader, hchunk⟩ := List.mem_flatMap.1 hline
      have hnone := List.findSome?_eq_none_iff.1 (h headers hheaders) header hheader
      rcases Folding.mem_of_mem_chunksAfter hchunk hc with hmem | rfl
      · exact Text.surrogate?_eq_none_iff_forall.1 hnone c hmem
      · rfl
    · rw [List.mem_singleton.1 hline] at hc
      exact absurd hc List.not_mem_nil
  · exact hend c hc

/-- **A manifest has bytes**, those of its lines, unless there is a surrogate in it, and the first
one is to blame. -/
theorem bytes_cases (m : Manifest) :
    (∃ n, m.surrogate? = some n ∧ m.bytes = .error (.alone n))
      ∨ m.surrogate? = none
        ∧ ∃ bytes, m.bytes = .ok bytes ∧ Utf8.encode (endLines m.lines) = .ok bytes := by
  cases hm : m.surrogate? with
  | some n =>
      refine Or.inl ⟨n, rfl, ?_⟩
      rw [bytes, text_eq, hm]
      rfl
  | none =>
      obtain ⟨chars, hchars⟩ := Text.surrogate?_eq_none_iff.1 (surrogate?_endLines hm)
      have hbytes : Utf8.encode (endLines m.lines) = .ok (Utf8.bytes chars) := by
        rw [hchars, Utf8.encode_map_scalar]
      refine Or.inr ⟨rfl, _, ?_, hbytes⟩
      rw [bytes, text_eq, hm]
      exact hbytes

/-- A manifest without a surrogate can be written. -/
theorem exists_bytes {m : Manifest} (h : m.surrogate? = none) : ∃ bytes, m.bytes = .ok bytes := by
  obtain ⟨n, hn, -⟩ | ⟨-, bytes, hbytes, -⟩ := bytes_cases m
  · exact absurd (hn.symm.trans h) (by simp)
  · exact ⟨bytes, hbytes⟩

/-- The bytes of a manifest are those of its lines. -/
theorem encode_of_bytes {m : Manifest} {bytes : Bytes} (h : m.bytes = .ok bytes) :
    Utf8.encode (endLines m.lines) = .ok bytes := by
  obtain ⟨n, -, hbytes⟩ | ⟨-, written, hbytes, hlines⟩ := bytes_cases m
  · exact absurd (h.symm.trans hbytes) (by simp)
  · rw [hlines, ← hbytes, h]

/-! ## Lines that are not broken -/

/-- The logical line of a header is unbroken if its name and its value are. -/
theorem unbroken_headerLine {h : Header} (hname : Lines.Unbroken h.name)
    (hvalue : Lines.Unbroken h.value) : Lines.Unbroken (headerLine h) := by
  rw [headerLine, Lines.unbroken_append, Lines.unbroken_append]
  exact ⟨⟨hname, by decide, by decide⟩, hvalue⟩

/-- The chunks of an unbroken line are unbroken. -/
theorem unbroken_of_mem_fold {line chunk : Text} (hline : Lines.Unbroken line)
    (hchunk : chunk ∈ Folding.chunks line) : Lines.Unbroken chunk := by
  constructor
  · intro hr
    rcases Folding.mem_of_mem_chunksAfter hchunk hr with hmem | hspace
    · exact hline.1 hmem
    · exact absurd hspace (by decide)
  · intro hn
    rcases Folding.mem_of_mem_chunksAfter hchunk hn with hmem | hspace
    · exact hline.2 hmem
    · exact absurd hspace (by decide)

/-- A header that is written on lines of its own. -/
def Writable (h : Header) : Prop :=
  HeaderName.isPlain h.name = true ∧ Lines.Unbroken h.value

/-- The physical lines of headers are not empty and no line ends in them. -/
theorem of_mem_sectionLines {headers : List Header} (hheaders : ∀ h ∈ headers, Writable h)
    {l : Text} (hl : l ∈ sectionLines headers) : l ≠ [] ∧ Lines.Unbroken l := by
  obtain ⟨h, hh, hchunk⟩ := List.mem_flatMap.1 hl
  obtain ⟨hname, hvalue⟩ := hheaders h hh
  have hline := unbroken_headerLine (HeaderName.unbroken_of_isPlain hname) hvalue
  refine ⟨?_, unbroken_of_mem_fold hline hchunk⟩
  -- The first chunk begins like the name, each other one with a space.
  obtain ⟨c, content, hcons⟩ := List.exists_cons_of_ne_nil (begins_headerLine hname).1
  obtain ⟨first, rest, hchunks⟩ := Folding.chunks_cons c content
  rw [hcons, hchunks, List.mem_cons] at hchunk
  rcases hchunk with rfl | hrest
  · exact List.cons_ne_nil _ _
  · have htail : l ∈ (Folding.chunksAfter 0 (c :: content)).tail := by
      rw [← Folding.chunks, hchunks]
      exact hrest
    obtain ⟨d, more, rfl⟩ := Folding.eq_space_cons_of_mem_tail htail
    exact List.cons_ne_nil _ _

/-- The headers of a section that was read can be written on lines of their own. -/
theorem writable_headers {a : Attributes} (ha : a.WellFormed) (hone : a.OneLined) :
    ∀ h ∈ a.headers, Writable h :=
  fun h hh => ⟨ha.isPlain hone h hh, ha.unbroken_value h hh⟩

/-- So can the headers of the section of an entry. -/
theorem writable_entryHeaders {entry : Text × Attributes} (hname : Lines.Unbroken entry.1)
    (ha : entry.2.WellFormed) (hone : entry.2.OneLined) : ∀ h ∈ entryHeaders entry, Writable h := by
  intro h hh
  rcases List.mem_cons.1 hh with rfl | hh
  · have hplain : HeaderName.isPlain HeaderName.entryName = true := by decide
    exact ⟨hplain, hname⟩
  · exact writable_headers ha hone h hh

/-! ## Written sections -/

/-- The lines of at least one header up to an empty one are a section. -/
theorem sections_sectionLines {headers : List Header} (hne : headers ≠ [])
    (hheaders : ∀ h ∈ headers, Writable h) (line : Nat) (more : List Text) :
    ∃ s next, Lines.sections line (sectionLines headers ++ [] :: more)
        = s :: Lines.sections next more
      ∧ s.lines = sectionLines headers := by
  obtain ⟨h, headers, rfl⟩ := List.exists_cons_of_ne_nil hne
  obtain ⟨first, rest, hlines, hfirst, -⟩ :=
    exists_sectionLines_cons (hheaders h List.mem_cons_self).1 headers
  have hrest : ∀ l ∈ rest, l ≠ [] := fun l hl =>
    (of_mem_sectionLines hheaders (hlines ▸ List.mem_cons_of_mem _ hl)).1
  refine ⟨⟨line, first, rest⟩, line + rest.length + 2, ?_, hlines.symm⟩
  rw [hlines]
  exact Lines.sections_append hfirst hrest line more

/-- The section of headers that fit into a section is stored in it. -/
theorem addMain_sectionLines {m : Manifest} {a : Attributes} (hm : m.main = .empty)
    (ha : a.WellFormed) (hone : a.OneLined) {s : Lines.Section}
    (hs : s.lines = sectionLines a.headers) : addMain m s = .ok { m with main := a } := by
  obtain ⟨named, hread, hnamed⟩ := readSection_sectionLines (ha.isPlain hone) hs
  rw [addMain, hread, ok_bind, store_eq, hnamed, hm, ha.insertHeaders_headers]
  rfl

/-- The section of an entry that has none yet is added behind those of others. -/
theorem addEntry_sectionLines {m : Manifest} {entry : Text × Attributes}
    (hnew : entry.1 ∉ Dictionary.names m.entries) (hname : Lines.Unbroken entry.1)
    (ha : entry.2.WellFormed) (hone : entry.2.OneLined) {s : Lines.Section}
    (hs : s.lines = sectionLines (entryHeaders entry)) :
    addEntry m s = .ok { m with entries := m.entries ++ [entry] } := by
  have hplain : ∀ h ∈ entryHeaders entry, HeaderName.isPlain h.name = true :=
    fun h hh => (writable_entryHeaders hname ha hone h hh).1
  obtain ⟨named, hread, hnamed⟩ := readSection_sectionLines hplain hs
  cases named with
  | nil => exact absurd hnamed.symm (List.cons_ne_nil _ _)
  | cons first rest =>
      simp only [List.map_cons, entryHeaders, List.cons.injEq] at hnamed
      obtain ⟨hfirst, hrest⟩ := hnamed
      have hfirstName : first.name = HeaderName.entryName := congrArg Header.name hfirst
      have hfirstValue : first.value = entry.1 := congrArg Header.value hfirst
      -- The first header names the entry, the others are those of its section.
      have hsame : HeaderName.same first.name HeaderName.entryName = true := by
        rw [hfirstName, HeaderName.same_self]
      have hknown : Dictionary.get? m.entries entry.1 = none :=
        Dictionary.get?_eq_none_iff.2 hnew
      rw [addEntry, hread, ok_bind]
      simp only [hsame, if_true, hfirstValue, hknown, Option.getD_none]
      rw [store_eq, hrest, ha.insertHeaders_headers,
        ← Dictionary.insert_of_not_mem hnew]
      rfl

/-- The written sections of entries are read back one behind the other. -/
theorem foldlM_addEntry_entryLines {entries : Dictionary Attributes} {m : Manifest}
    (hdistinct : (Dictionary.names (m.entries ++ entries)).Nodup)
    (hentries : ∀ entry ∈ entries, Lines.Unbroken entry.1 ∧ entry.2.WellFormed)
    (hone : ∀ entry ∈ entries, entry.2.OneLined) (line : Nat) :
    (Lines.sections line (entries.flatMap entryLines ++ [[]])).foldlM addEntry m
      = .ok { m with entries := m.entries ++ entries } := by
  induction entries generalizing m line with
  | nil =>
      rw [List.flatMap_nil, List.nil_append, Lines.sections_nil_cons, Lines.sections,
        List.append_nil]
      rfl
  | cons entry entries ih =>
      obtain ⟨hname, ha⟩ := hentries entry List.mem_cons_self
      have hentry := hone entry List.mem_cons_self
      -- The induction moves one entry at a time from the list to the manifest.
      have hshift : m.entries ++ entry :: entries = m.entries ++ [entry] ++ entries := by
        rw [List.append_assoc, List.singleton_append]
      have hnew : entry.1 ∉ Dictionary.names m.entries := by
        intro hmem
        rw [Dictionary.names, List.map_append, List.nodup_append] at hdistinct
        exact hdistinct.2.2 _ hmem _ (by simp) rfl
      have hne : entryHeaders entry ≠ [] := List.cons_ne_nil _ _
      obtain ⟨s, next, hsections, hs⟩ := sections_sectionLines hne
        (writable_entryHeaders hname ha hentry) line (entries.flatMap entryLines ++ [[]])
      have hlines : (entry :: entries).flatMap entryLines ++ [[]]
          = sectionLines (entryHeaders entry) ++ [] :: (entries.flatMap entryLines ++ [[]]) := by
        rw [List.flatMap_cons, entryLines, List.append_assoc, List.append_assoc,
          List.singleton_append]
      rw [hshift] at hdistinct ⊢
      rw [hlines]
      have hchunks := ih (m := { m with entries := m.entries ++ [entry] }) hdistinct
        (fun e he => hentries e (List.mem_cons_of_mem _ he))
        (fun e he => hone e (List.mem_cons_of_mem _ he)) next
      have hadd := addEntry_sectionLines hnew hname ha hentry hs
      rw [hsections, List.foldlM_cons, hadd, ok_bind]
      exact hchunks

/-! ## Written manifests -/

/-- The lines of a written manifest. -/
theorem split_text {m : Manifest} (hm : m.WellFormed) (hone : m.OneLined) :
    Lines.split (endLines m.lines)
      = sectionLines m.main.versionFirst.headers
        ++ [] :: (m.entries.flatMap entryLines ++ [[]]) := by
  have hlines : ∀ l ∈ sectionLines m.main.versionFirst.headers ++ [[]]
      ++ m.entries.flatMap entryLines, Lines.Unbroken l := by
    intro l hl
    rcases List.mem_append.1 hl with hl | hl
    · rcases List.mem_append.1 hl with hl | hl
      · have hmain := writable_headers hm.main.versionFirst hone.main.versionFirst
        exact (of_mem_sectionLines hmain hl).2
      · exact List.mem_singleton.1 hl ▸ Lines.unbroken_nil
    · obtain ⟨entry, hentry, hl⟩ := List.mem_flatMap.1 hl
      obtain ⟨hname, ha⟩ := hm.entries entry hentry
      rcases List.mem_append.1 hl with hl | hl
      · exact (of_mem_sectionLines
          (writable_entryHeaders hname ha (hone.entries entry hentry)) hl).2
      · exact List.mem_singleton.1 hl ▸ Lines.unbroken_nil
  have hsplit := split_endLines_append hlines []
  rw [List.append_nil, ← lines_eq, Lines.split_nil] at hsplit
  rw [hsplit, lines_eq, List.append_assoc, List.append_assoc, List.singleton_append]

/-- The text of a manifest with a header in the main section does not begin with a line end. -/
theorem startsWithBreak_text {m : Manifest} (hm : m.WellFormed) (hone : m.OneLined)
    (hne : m.main.versionFirst.headers ≠ []) :
    Lines.startsWithBreak (endLines m.lines) = false := by
  have hheaders := writable_headers hm.main.versionFirst hone.main.versionFirst
  have hsplit := split_text hm hone
  obtain ⟨h, headers, hcons⟩ := List.exists_cons_of_ne_nil hne
  rw [hcons] at hheaders
  obtain ⟨first, rest, hlines, hfirst, -⟩ :=
    exists_sectionLines_cons (hheaders h List.mem_cons_self).1 headers
  rw [hcons, hlines, List.cons_append] at hsplit
  exact Lines.startsWithBreak_of_split hsplit hfirst

/-- **A written manifest is read back** in the order in which it is written. -/
theorem parse_text {m : Manifest} (hm : m.WellFormed) (hone : m.OneLined) :
    parse (endLines m.lines) = .ok m.versionFirst := by
  have hsplit := split_text hm hone
  have hentries := fun (main : Attributes) (line : Nat) =>
    foldlM_addEntry_entryLines (m := ⟨main, []⟩) hm.distinct hm.entries hone.entries line
  have hmain := hm.main.versionFirst
  have hmainOne := hone.main.versionFirst
  cases hheaders : m.main.versionFirst.headers with
  | nil =>
      -- An empty main section is written as the empty line that ends it.
      have hslots : m.main.versionFirst = .empty := by
        have hnil : m.main.versionFirst.slots = [] := List.map_eq_nil_iff.1 hheaders
        cases hfirst : m.main.versionFirst with
        | mk slots =>
            rw [hfirst] at hnil
            exact congrArg Attributes.mk hnil
      have hbreak : Lines.startsWithBreak (endLines m.lines) = true := by
        rw [lines_eq, hheaders]
        rfl
      rw [parse, hsplit, hbreak, hheaders, versionFirst, hslots]
      simp only [if_true]
      rw [sectionLines, List.flatMap_nil, List.nil_append, Lines.sections_nil_cons]
      exact hentries .empty 2
  | cons h headers =>
      -- Otherwise the first section is the main one.
      have hne : m.main.versionFirst.headers ≠ [] := by
        rw [hheaders]
        exact List.cons_ne_nil _ _
      have hbreak := startsWithBreak_text hm hone hne
      obtain ⟨s, next, hsections, hs⟩ := sections_sectionLines hne
        (writable_headers hmain hmainOne) 1 (m.entries.flatMap entryLines ++ [[]])
      have hadd := addMain_sectionLines (m := {}) rfl hmain hmainOne hs
      rw [parse, hsplit, hsections, hbreak]
      simp only [Bool.false_eq_true, if_false]
      rw [hadd, ok_bind]
      exact hentries m.main.versionFirst next

/-- The bytes of a manifest are read back like its text. -/
theorem parseBytes_bytes {m : Manifest} (hm : m.WellFormed) (hone : m.OneLined) {bytes : Bytes}
    (h : m.bytes = .ok bytes) : parseBytes bytes = .ok m.versionFirst := by
  rw [parseBytes, Utf8.decode?_eq_some_iff.2 (encode_of_bytes h)]
  exact parse_text hm hone

/-- No surrogate is in a manifest that was read from a text without one. -/
theorem surrogate?_of_parse {s : Text} (hs : Text.surrogate? s = none) {m : Manifest}
    (h : parse s = .ok m) : m.surrogate? = none :=
  surrogate?_eq_none_iff.2 (consistsOf_of_parse (Text.surrogate?_eq_none_iff_forall.1 hs) h)

/-- No surrogate is in a manifest that was read from bytes. -/
theorem surrogate?_of_parseBytes {bytes : Bytes} {m : Manifest} (h : parseBytes bytes = .ok m) :
    m.surrogate? = none := by
  rw [parseBytes] at h
  split at h
  next s hdecode =>
    have hs := Utf8.surrogate?_of_encode (Utf8.decode?_eq_some_iff.1 hdecode)
    exact surrogate?_of_parse hs h
  next => exact absurd h (by simp)

/-- **A manifest that was read is read again from what is written of it**: the same entries in the
same order with the same headers, and the same main headers but for the version of the format, which
comes first. Only a surrogate, which no bytes and no text without one bring in, keeps it from being
written. -/
theorem parse_again {m : Manifest}
    (h : (∃ s, parse s = .ok m) ∨ ∃ bytes, parseBytes bytes = .ok m) :
    (m.surrogate? = none → ∃ bytes again, m.bytes = .ok bytes ∧ parseBytes bytes = .ok again
      ∧ again.main.headers
          = m.main.headers.filter (fun h => HeaderName.same h.name HeaderName.manifestVersion)
            ++ m.main.headers.filter (fun h => !HeaderName.same h.name HeaderName.manifestVersion)
      ∧ again.entries = m.entries)
    ∧ (∀ n, m.surrogate? = some n → m.bytes = .error ⟨0, n, 0⟩)
    ∧ ((∃ s, Text.surrogate? s = none ∧ parse s = .ok m) ∨ (∃ bytes, parseBytes bytes = .ok m) →
        m.surrogate? = none) := by
  have hm : m.WellFormed ∧ m.OneLined := by
    obtain ⟨s, hs⟩ | ⟨bytes, hbytes⟩ := h
    · exact wellFormed_of_parse hs
    · exact wellFormed_of_parseBytes hbytes
  refine ⟨fun hnone => ?_, fun n hn => ?_, ?_⟩
  · obtain ⟨bytes, hbytes⟩ := exists_bytes hnone
    exact ⟨bytes, m.versionFirst, hbytes, parseBytes_bytes hm.1 hm.2 hbytes,
      Attributes.headers_versionFirst m.main, rfl⟩
  · obtain ⟨k, hk, hbytes⟩ | ⟨hnone, -⟩ := bytes_cases m
    · obtain rfl : n = k := Option.some.inj (hn.symm.trans hk)
      exact hbytes
    · exact absurd (hn.symm.trans hnone) (by simp)
  · rintro (⟨s, hs, hread⟩ | ⟨bytes, hread⟩)
    · exact surrogate?_of_parse hs hread
    · exact surrogate?_of_parseBytes hread

/-- Here two sections of an entry are merged, and the version moves to the front. -/
theorem parse_again_merged :
    ∃ m bytes again,
      parse "A: b\nMANIFEST-version: 1.0\n\nName: x\nC:\n\nname: x\nd: \n e: f" = .ok m
        ∧ m.bytes = .ok bytes ∧ parseBytes bytes = .ok again
        ∧ again.main.headers
            = [⟨"MANIFEST-version", "1.0"⟩, ⟨"A", "b"⟩]
        ∧ again.entries.map (fun entry => (entry.1, entry.2.headers))
            = ([("x", [⟨"C", []⟩, ⟨"d", "e: f"⟩])]
              : List (Text × List Header)) := by
  obtain ⟨m, hm, hview⟩ := exists_ok_of_toOption (e := parse
      "A: b\nMANIFEST-version: 1.0\n\nName: x\nC:\n\nname: x\nd: \n e: f")
    (f := fun m => (m.main.headers, m.entries.map fun entry => (entry.1, entry.2.headers)))
    (b := (([⟨"A", "b"⟩, ⟨"MANIFEST-version", "1.0"⟩],
      [("x", [⟨"C", []⟩, ⟨"d", "e: f"⟩])])
      : List Header × List (Text × List Header))) (by decide +kernel)
  obtain ⟨hmain, hentries⟩ := Prod.mk.inj hview
  obtain ⟨hwritten, -, hread⟩ := parse_again (Or.inl ⟨_, hm⟩)
  obtain ⟨bytes, again, hbytes, hagain, hheaders, hsame⟩ :=
    hwritten (hread (Or.inl ⟨_, by decide +kernel, hm⟩))
  refine ⟨m, bytes, again, hm, hbytes, hagain, ?_, ?_⟩
  · rw [hheaders, hmain]
    decide +kernel
  · rw [hsame]
    exact hentries

/-- **Not every manifest that was read can be written**: a value may be a surrogate. -/
theorem parse_surrogate :
    ∃ m, parse (Text.of "Import-Package: " ++ [.surrogate 0]) = .ok m
      ∧ m.bytes = .error ⟨0, 0, 0⟩ ∧ ∀ bytes, m.bytes ≠ .ok bytes := by
  obtain ⟨m, hm, hsurrogate⟩ := exists_ok_of_toOption
    (e := parse (Text.of "Import-Package: " ++ [.surrogate 0]))
    (f := surrogate?) (b := some 0) (by decide +kernel)
  have hbytes : m.bytes = .error ⟨0, 0, 0⟩ := by
    obtain ⟨k, hk, hbytes⟩ | ⟨hnone, -⟩ := bytes_cases m
    · obtain rfl : (0 : Fin _) = k := Option.some.inj (hsurrogate.symm.trans hk)
      exact hbytes
    · exact absurd (hsurrogate.symm.trans hnone) (by simp)
  refine ⟨m, hm, hbytes, fun bytes h => ?_⟩
  rw [hbytes] at h
  exact absurd h (by simp)

end Manifest

end Wab
