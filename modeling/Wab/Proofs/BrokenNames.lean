import Wab.Proofs.RoundTrip

/-! # Names that break a line

A valid name may end with a line feed. The line of its header is broken there when it is written:
the name comes to stand on a line of its own, without the mark that ends a name, so that the written
manifest cannot be read.

* **`Manifest.parse_text_of_broken`** — such a manifest is not read back. -/

namespace Wab

namespace Manifest

/-- Logical lines are read part by part. -/
theorem readLines_append (numbered more : List (Nat × Text)) :
    readLines (numbered ++ more)
      = do return (← readLines numbered) ++ (← readLines more) :=
  List.mapM_append

/-- A plain name that stands alone on a line is no header. -/
theorem ofLine_isPlain {name : Text} (h : HeaderName.isPlain name = true) (line : Nat) :
    NamedLine.ofLine line name = .error (.invalidHeader line name) := by
  have hcolon : .scalar ':' ∉ name := HeaderName.not_mem_of_isPlain h (by decide)
  have hcut : Text.cut? separator name = none := Text.cut?_of_not_mem hcolon _
  have hlast : name.getLast? ≠ some (.scalar ':') := by
    intro hlast
    exact hcolon (List.mem_of_getLast? hlast)
  rw [NamedLine.ofLine, splitHeader?, hcut]
  simp only [hlast, if_false]

/-- The name of a header that ends with a line feed is written on a line of its own. -/
theorem endLines_chunks_broken {name : Text} (h : HeaderName.isPlain name = true) (value : Text) :
    ∃ rest, endLines (Folding.chunks (headerLine ⟨name ++ [.scalar '\n'], value⟩))
      = name ++ .scalar '\n' :: .scalar ':' :: rest := by
  have hroom : Text.byteLength (name ++ [.scalar '\n', .scalar ':']) ≤ Folding.maxBytes := by
    have hname := HeaderName.byteLength_le_of_isPlain h
    have hmarks : Text.byteLength [.scalar '\n', .scalar ':'] = 2 := by decide
    rw [Text.byteLength_append, hmarks, Folding.maxBytes]
    omega
  have hline : headerLine ⟨name ++ [.scalar '\n'], value⟩
      = (name ++ [.scalar '\n', .scalar ':']) ++ .scalar ' ' :: value := by
    have hseparator : separator = [.scalar ':', .scalar ' '] := rfl
    simp [headerLine, hseparator]
  obtain ⟨first, rest, hchunks⟩ := Folding.chunks_append hroom (.scalar ' ' :: value)
  rw [hline, hchunks, endLines, List.flatMap_cons]
  simp only [List.append_assoc, List.cons_append, List.nil_append]
  exact ⟨_, rfl⟩

/-- So it is a line by itself, and the next line begins with a colon. -/
theorem split_broken {name : Text} (h : HeaderName.isPlain name = true) (rest : Text) :
    ∃ next more, Lines.split (name ++ .scalar '\n' :: .scalar ':' :: rest)
      = name :: (.scalar ':' :: next) :: more := by
  obtain ⟨next, more, hsplit⟩ := List.exists_cons_of_ne_nil (Lines.split_ne_nil rest)
  refine ⟨next, more, ?_⟩
  rw [Lines.split_append_lf (HeaderName.unbroken_of_isPlain h),
    Lines.split_cons (by decide) (by decide), hsplit, List.modifyHead_cons]

/-- The headers of a section before the first one whose name ends with a line feed. -/
theorem exists_first_broken {a : Attributes} (ha : a.WellFormed) {h : Header}
    (hh : h ∈ a.headers) (hbroken : .scalar '\n' ∈ h.name) :
    ∃ before name value after, a.headers = before ++ ⟨name ++ [.scalar '\n'], value⟩ :: after
      ∧ HeaderName.isPlain name = true ∧ ∀ g ∈ before, Writable g := by
  have hfind : (a.headers.find? fun g => g.name.contains (.scalar '\n')).isSome = true :=
    List.find?_isSome.2 ⟨h, hh, by simpa using hbroken⟩
  obtain ⟨first, hfirst⟩ := Option.isSome_iff_exists.1 hfind
  obtain ⟨hmem, before, after, hheaders, hbefore⟩ := List.find?_eq_some_iff_append.1 hfirst
  -- The headers in front of the first such one have plain names.
  have hkept : ∀ g ∈ a.headers, HeaderName.isValid g.name = true := by
    intro g hg
    obtain ⟨slot, hslot, rfl⟩ := List.mem_map.1 hg
    exact (ha.kept slot hslot).valid
  have hmemFirst : first ∈ a.headers := hheaders ▸ List.mem_append_right _ List.mem_cons_self
  obtain ⟨name, hname, hbreak⟩ : ∃ name, HeaderName.isPlain name = true
      ∧ first.name = name ++ [.scalar '\n'] := by
    rcases HeaderName.isValid_iff.1 (hkept first hmemFirst) with hplain | hbreak
    · exact absurd (by simpa using hmem) (HeaderName.unbroken_of_isPlain hplain).2
    · exact hbreak
  refine ⟨before, name, first.value, after, ?_, hname, fun g hg => ?_⟩
  · rw [← hbreak]
    exact hheaders
  · have hg' : g ∈ a.headers := hheaders ▸ List.mem_append_left _ hg
    have hfree : .scalar '\n' ∉ g.name := by simpa using hbefore g hg
    exact ⟨HeaderName.isPlain_of_isValid (hkept g hg') hfree, ha.unbroken_value g hg'⟩

/-- The lines of headers and a plain name behind them begin a logical line. -/
theorem exists_sectionLines_append {before : List Header} (hbefore : ∀ g ∈ before, Writable g)
    {name : Text} (hname : HeaderName.isPlain name = true) (rest : List Text) :
    ∃ first tail, sectionLines before ++ name :: rest = first :: tail ∧ Begins first := by
  cases before with
  | nil => exact ⟨name, rest, rfl, begins_of_isPlain hname⟩
  | cons g before =>
      obtain ⟨first, tail, hlines, hfirst, hcontinues⟩ :=
        exists_sectionLines_cons (hbefore g List.mem_cons_self).1 before
      rw [hlines, List.cons_append]
      exact ⟨first, _, rfl, hfirst, hcontinues⟩

/-- A section is not read if a name stands on a line of its own in it. -/
theorem readSection_of_broken {before : List Header} (hbefore : ∀ g ∈ before, Writable g)
    {name next : Text} (hname : HeaderName.isPlain name = true) {more : List Text}
    {s : Lines.Section}
    (hs : s.lines = sectionLines before ++ name :: (.scalar ':' :: next) :: more) :
    ∃ line, readSection s = .error (.invalidHeader line name) := by
  have hplain : ∀ g ∈ before, HeaderName.isPlain g.name = true := fun g hg => (hbefore g hg).1
  obtain ⟨first, tail, hlines, hbegins⟩ :=
    exists_sectionLines_append hbefore hname ((.scalar ':' :: next) :: more)
  have hfirst : s.first = first := (List.cons.inj (hs.trans hlines)).1
  obtain ⟨named, hread, -⟩ :=
    readLines_headerLine hplain (logicalLines_sectionLines hplain s.start)
  have hhead : ∀ l ∈ (name :: (.scalar ':' :: next) :: more).head?, continues l = false := by
    intro l hl
    rw [List.head?_cons, Option.mem_some_iff] at hl
    exact hl ▸ (begins_of_isPlain hname).2
  have hcolon : continues (.scalar ':' :: next) = false := rfl
  -- The headers before the name are read, then the name is not.
  refine ⟨s.start + (sectionLines before).length, ?_⟩
  rw [readSection_eq, hfirst, hbegins.2, hs]
  simp only [Bool.false_eq_true, if_false]
  rw [logicalLines_append hhead, logicalLines_cons, unfoldFrom_ended hcolon, readLines_append,
    hread, ok_bind, readLines_cons, ofLine_isPlain hname]
  rfl

/-- **A manifest with a name that a line feed ends is not read back**: the name is no header. -/
theorem parse_text_of_broken {m : Manifest} (hm : m.WellFormed) {h : Header}
    (hh : h ∈ m.main.headers) (hbroken : .scalar '\n' ∈ h.name) :
    ∃ line content, parse (endLines m.lines) = .error (.invalidHeader line content) := by
  have hfirst : h ∈ m.main.versionFirst.headers :=
    ((Attributes.perm_versionFirst m.main).map _).mem_iff.2 hh
  obtain ⟨before, name, value, after, hheaders, hname, hbefore⟩ :=
    exists_first_broken hm.main.versionFirst hfirst hbroken
  obtain ⟨tail, hheader⟩ := endLines_chunks_broken hname value
  -- The lines of the headers before, then the name, and then what the name should have named.
  obtain ⟨rest, htext⟩ : ∃ rest, endLines m.lines = endLines (sectionLines before)
      ++ (name ++ .scalar '\n' :: .scalar ':' :: rest) := by
    rw [lines_eq, hheaders, sectionLines_append, sectionLines_cons]
    simp only [endLines_append, hheader, List.append_assoc, List.cons_append]
    exact ⟨_, rfl⟩
  obtain ⟨next, more, hnext⟩ := split_broken hname rest
  have hsplit : Lines.split (endLines m.lines)
      = sectionLines before ++ name :: (.scalar ':' :: next) :: more := by
    rw [htext, split_endLines_append fun l hl => (of_mem_sectionLines hbefore hl).2, hnext]
  obtain ⟨first, lines, hlines, hbegins⟩ :=
    exists_sectionLines_append hbefore hname ((.scalar ':' :: next) :: more)
  obtain ⟨sections, hsections⟩ := Lines.sections_cons hbegins.1 1 lines
  -- The section goes on at least to the line after the name, as no line up to there is empty.
  have hbody : first :: lines.takeWhile (fun l => !l.isEmpty)
      = sectionLines before
        ++ name :: (.scalar ':' :: next) :: more.takeWhile fun l => !l.isEmpty := by
    have hne : ∀ l ∈ sectionLines before, (!l.isEmpty) = true := by
      intro l hl
      simpa using (of_mem_sectionLines hbefore hl).1
    have hnameNe := HeaderName.ne_nil_of_isPlain hname
    have htake := congrArg (List.takeWhile fun l : Text => !l.isEmpty) hlines
    rw [List.takeWhile_append_of_pos hne] at htake
    simpa [List.takeWhile_cons, hbegins.1, hnameNe] using htake.symm
  obtain ⟨line, hread⟩ := readSection_of_broken (s := ⟨1, first, _⟩) hbefore hname hbody
  refine ⟨line, name, ?_⟩
  rw [parse, hsplit, hlines, hsections,
    Lines.startsWithBreak_of_split (hsplit.trans hlines) hbegins.1]
  simp only [Bool.false_eq_true, if_false]
  rw [addMain, hread]
  rfl

end Manifest

end Wab
