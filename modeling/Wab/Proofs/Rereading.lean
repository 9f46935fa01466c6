import Wab.Manifest.Writer
import Wab.Proofs.HeaderName
import Wab.Proofs.Unfolding

/-! # Reading written headers

A header with a plain name is written on one logical line and read back from it, and so are the
headers of a section, folded as they are.

* **`Manifest.sectionLines headers`** — the physical lines of headers.
* **`Manifest.readSection_sectionLines`** — the written headers of a section are read back. -/

namespace Wab.Manifest

/-! ## Headers -/

/-- A plain name begins a logical line. -/
theorem begins_of_isPlain {name : Text} (h : HeaderName.isPlain name = true) : Begins name := by
  refine ⟨HeaderName.ne_nil_of_isPlain h, ?_⟩
  rw [Bool.eq_false_iff, continues, ne_eq, beq_iff_eq]
  intro hspace
  exact HeaderName.not_mem_of_isPlain h (by decide) (List.mem_of_head? hspace)

/-- The logical line of a header with a plain name begins a logical line. -/
theorem begins_headerLine {h : Header} (hname : HeaderName.isPlain h.name = true) :
    Begins (headerLine h) := by
  have hbegins := begins_of_isPlain hname
  obtain ⟨c, rest, hcons⟩ := List.exists_cons_of_ne_nil hbegins.1
  rw [hcons] at hbegins
  rw [headerLine, hcons]
  exact ⟨List.cons_ne_nil _ _, hbegins.2⟩

/-- A header with a plain name is read back from its logical line. -/
theorem ofLine_headerLine {h : Header} (hname : HeaderName.isPlain h.name = true) (line : Nat) :
    NamedLine.ofLine line (headerLine h) = .ok ⟨line, h.name, h.value⟩ := by
  have hcut : splitHeader? (headerLine h) = some (h.name, h.value) := by
    have hcolon : .scalar ':' ∉ h.name := HeaderName.not_mem_of_isPlain hname (by decide)
    have hparts : Text.cut? separator (headerLine h) = some (h.name, h.value) := by
      rw [headerLine, List.append_assoc]
      exact Text.cut?_append hcolon [' '] h.value
    rw [splitHeader?, hparts]
  obtain ⟨c, rest, hcons⟩ := List.exists_cons_of_ne_nil (HeaderName.ne_nil_of_isPlain hname)
  rw [NamedLine.ofLine, hcut, hcons]

/-- Logical lines of headers with plain names are read as these headers. -/
theorem readLines_headerLine {numbered : List (Nat × Text)} {headers : List Header}
    (hnames : ∀ h ∈ headers, HeaderName.isPlain h.name = true)
    (h : numbered.map (·.2) = headers.map headerLine) :
    ∃ named, readLines numbered = .ok named ∧ named.map NamedLine.header = headers := by
  induction headers generalizing numbered with
  | nil =>
      obtain rfl : numbered = [] := List.map_eq_nil_iff.1 h
      exact ⟨[], rfl, rfl⟩
  | cons header headers ih =>
      cases numbered with
      | nil => exact absurd h (by simp)
      | cons first numbered =>
          obtain ⟨line, content⟩ := first
          simp only [List.map_cons, List.cons.injEq] at h
          obtain ⟨rfl, hrest⟩ := h
          obtain ⟨named, hread, hnamed⟩ :=
            ih (fun h hh => hnames h (List.mem_cons_of_mem _ hh)) hrest
          refine ⟨⟨line, header.name, header.value⟩ :: named, ?_, ?_⟩
          · rw [readLines_cons, ofLine_headerLine (hnames header List.mem_cons_self), ok_bind,
              hread]
            rfl
          · rw [List.map_cons, hnamed]
            rfl

/-! ## Sections -/

/-- The physical lines of headers. -/
def sectionLines (headers : List Header) : List Text :=
  headers.flatMap fun h => Folding.chunks (headerLine h)

theorem sectionLines_cons (h : Header) (headers : List Header) :
    sectionLines (h :: headers) = Folding.chunks (headerLine h) ++ sectionLines headers :=
  List.flatMap_cons

theorem sectionLines_append (headers more : List Header) :
    sectionLines (headers ++ more) = sectionLines headers ++ sectionLines more :=
  List.flatMap_append

/-- The physical lines of headers are taken together to their logical lines. -/
theorem logicalLines_sectionLines {headers : List Header}
    (hnames : ∀ h ∈ headers, HeaderName.isPlain h.name = true) (line : Nat) :
    (logicalLines line (sectionLines headers)).map (·.2) = headers.map headerLine := by
  have hlines : sectionLines headers = (headers.map headerLine).flatMap Folding.chunks := by
    rw [sectionLines, List.flatMap_map]
  rw [hlines]
  -- No logical line begins with a space, so each one begins where it was folded.
  refine logicalLines_flatMap_fold (fun content hcontent => ?_) line
  obtain ⟨h, hh, rfl⟩ := List.mem_map.1 hcontent
  exact begins_headerLine (hnames h hh)

/-- The lines of at least one header begin with the first character of its name. -/
theorem exists_sectionLines_cons {h : Header} (hname : HeaderName.isPlain h.name = true)
    (headers : List Header) :
    ∃ first rest, sectionLines (h :: headers) = first :: rest ∧ first ≠ []
      ∧ continues first = false := by
  have hbegins := begins_headerLine hname
  obtain ⟨c, content, hcons⟩ := List.exists_cons_of_ne_nil hbegins.1
  obtain ⟨first, chunks, hchunks⟩ := Folding.chunks_cons c content
  refine ⟨c :: first, chunks ++ sectionLines headers, ?_, List.cons_ne_nil _ _, ?_⟩
  · rw [sectionLines_cons, hcons, hchunks, List.cons_append]
  · have hcontinues := hbegins.2
    rw [hcons] at hcontinues
    exact hcontinues

/-- **The written headers of a section are read back.** -/
theorem readSection_sectionLines {headers : List Header}
    (hnames : ∀ h ∈ headers, HeaderName.isPlain h.name = true) {s : Lines.Section}
    (hs : s.lines = sectionLines headers) :
    ∃ named, readSection s = .ok named ∧ named.map NamedLine.header = headers := by
  cases headers with
  | nil => exact absurd hs (List.cons_ne_nil _ _)
  | cons h headers =>
      obtain ⟨first, rest, hlines, -, hcontinues⟩ :=
        exists_sectionLines_cons (hnames h List.mem_cons_self) headers
      have hfirst : s.first = first := (List.cons.inj (hs.trans hlines)).1
      rw [readSection_eq, hfirst, hcontinues, hs]
      exact readLines_headerLine hnames (logicalLines_sectionLines hnames s.start)

end Wab.Manifest
