import Wab.Proofs.HeaderLines
import Wab.Proofs.Sections

/-! # What a text says, line numbers left out

A text is read by its lines only, and their numbers come up in errors only. So texts are read alike,
but for the number in an error, if their sections have the same logical lines.

* **`ManifestError.unnumbered`** — an error without its line number.
* **`Manifest.parse_eq_ofLines`** — a text is read by its lines.
* **`Manifest.SameRun`** — two runs of lines have the same logical lines.
* **`Manifest.unnumbered_ofLines`** — lines whose runs have the same logical lines are read
  alike. -/

namespace Wab

/-- The error without its line number. -/
def ManifestError.unnumbered : ManifestError → ManifestError
  | .continuationWithoutHeader _ => .continuationWithoutHeader 0
  | .invalidHeader _ content => .invalidHeader 0 content
  | .emptyHeaderName _ => .emptyHeaderName 0
  | .missingEntryName _ => .missingEntryName 0
  | e => e

namespace Manifest

/-! ## Reading lines -/

/-- The manifest that lines are. Its main section is empty if the first line is. -/
def ofLines (lines : List Text) : Except ManifestError Manifest :=
  if lines.head? = some [] then (Lines.sections 1 lines).foldlM addEntry {}
  else match Lines.sections 1 lines with
    | [] => .ok {}
    | main :: entries => do entries.foldlM addEntry (← addMain {} main)

/-- **A text is read by its lines.** Whether its first line is empty can be told from the first
character, but for the empty text, which has no section anyway. -/
theorem parse_eq_ofLines (text : Text) : parse text = ofLines (Lines.split text) := by
  cases text with
  | nil =>
      have hsections : Lines.sections 1 (Lines.split []) = [] := by
        rw [Lines.split_nil, Lines.sections_nil_cons, Lines.sections]
      rw [parse, ofLines, hsections]
      rfl
  | cons c s =>
      have hbreak : (Lines.split (c :: s)).head? = some []
          ↔ Lines.startsWithBreak (c :: s) = true := by
        by_cases hend : c = '\r' ∨ c = '\n'
        · have hhead : (Lines.split (c :: s)).head? = some [] := by
            rcases hend with rfl | rfl
            · cases s using Lines.split.fun_cases with
              | _ => simp_all [Lines.split]
            · rw [Lines.split, List.head?_cons]
          rw [hhead, Lines.startsWithBreak_iff]
          simpa using hend
        · obtain ⟨hr, hn⟩ := not_or.1 hend
          rw [Lines.startsWithBreak_cons hr hn, Lines.split_cons hr hn]
          cases Lines.split s with
          | nil => simp
          | cons first rest => simp
      rw [parse, ofLines]
      by_cases h : Lines.startsWithBreak (c :: s) = true
      · exact (if_pos h).trans (if_pos (hbreak.2 h)).symm
      · exact (if_neg h).trans (if_neg fun hhead => h (hbreak.1 hhead)).symm

/-! ## Logical lines and their numbers -/

/-- The lines of two runs say the same: both begin with a continuation line or none does, and their
logical lines are equal. -/
structure SameRun (run other : List Text) : Prop where
  /-- The first lines are of the same kind. -/
  begins : run.head?.map continues = other.head?.map continues
  /-- The logical lines are equal. -/
  joined : joined run = joined other

theorem SameRun.refl (run : List Text) : SameRun run run := ⟨rfl, rfl⟩

/-- A logical line is the same header on every line. -/
theorem agree_ofLine (line other : Nat) (content : Text) :
    Agree (fun n m => NamedLine.header n = NamedLine.header m)
      ((NamedLine.ofLine line content).mapError ManifestError.unnumbered)
      ((NamedLine.ofLine other content).mapError ManifestError.unnumbered) := by
  rw [NamedLine.ofLine, NamedLine.ofLine]
  cases splitHeader? content with
  | none => exact .error _
  | some parts =>
      obtain ⟨name, value⟩ := parts
      cases name with
      | nil => exact .error _
      | cons c name => exact .ok rfl

/-- Equal logical lines are the same headers, whatever their numbers. -/
theorem agree_readLines {numbered other : List (Nat × Text)}
    (h : numbered.map (·.2) = other.map (·.2)) :
    Agree (fun a b => a.map NamedLine.header = b.map NamedLine.header)
      ((readLines numbered).mapError ManifestError.unnumbered)
      ((readLines other).mapError ManifestError.unnumbered) := by
  induction numbered generalizing other with
  | nil =>
      obtain rfl : other = [] := List.map_eq_nil_iff.1 h.symm
      exact .ok rfl
  | cons logical numbered ih =>
      cases other with
      | nil => exact absurd h (by simp)
      | cons otherLogical other =>
          obtain ⟨line, content⟩ := logical
          obtain ⟨otherLine, otherContent⟩ := otherLogical
          obtain ⟨hcontent, hrest⟩ := List.cons.inj h
          obtain rfl : content = otherContent := hcontent
          rw [readLines_cons, readLines_cons, mapError_bind, mapError_bind]
          refine (agree_ofLine line otherLine content).bind fun n m hheader => ?_
          rw [mapError_bind, mapError_bind]
          refine (ih hrest).bind fun named others hheaders => .ok ?_
          rw [List.map_cons, List.map_cons, hheader, hheaders]

/-- Sections that say the same have the same headers. -/
theorem agree_readSection {s t : Lines.Section} (h : SameRun s.lines t.lines) :
    Agree (fun a b => a.map NamedLine.header = b.map NamedLine.header)
      ((readSection s).mapError ManifestError.unnumbered)
      ((readSection t).mapError ManifestError.unnumbered) := by
  have hfirst : continues s.first = continues t.first := by
    simpa [Lines.Section.lines] using h.begins
  have hlines : (logicalLines s.start s.lines).map (·.2)
      = (logicalLines t.start t.lines).map (·.2) := by
    rw [map_snd_logicalLines, map_snd_logicalLines, h.joined]
  rw [readSection_eq, readSection_eq, hfirst]
  cases continues t.first with
  | true => exact .error _
  | false => exact agree_readLines hlines

/-! ## Adding sections -/

/-- Headers are stored whatever their line numbers. -/
theorem store_congr (a : Attributes) {named others : List NamedLine}
    (h : named.map NamedLine.header = others.map NamedLine.header) :
    store a named = store a others := by
  rw [store_eq, store_eq, h]

/-- Main sections that say the same are added alike. -/
theorem unnumbered_addMain (m : Manifest) {s t : Lines.Section} (h : SameRun s.lines t.lines) :
    (addMain m s).mapError ManifestError.unnumbered
      = (addMain m t).mapError ManifestError.unnumbered := by
  rw [addMain, addMain, mapError_bind, mapError_bind]
  refine ((agree_readSection h).bind (S := Eq) fun named others hheaders => ?_).eq
  rw [store_congr m.main hheaders]
  exact Agree.refl (fun _ => rfl) _

/-- Sections of entries that say the same are added alike. -/
theorem unnumbered_addEntry (m : Manifest) {s t : Lines.Section} (h : SameRun s.lines t.lines) :
    (addEntry m s).mapError ManifestError.unnumbered
      = (addEntry m t).mapError ManifestError.unnumbered := by
  rw [addEntry, addEntry, mapError_bind, mapError_bind]
  refine ((agree_readSection h).bind (S := Eq) fun named others hheaders => ?_).eq
  cases named with
  | nil =>
      obtain rfl : others = [] := List.map_eq_nil_iff.1 hheaders.symm
      exact .ok rfl
  | cons first rest =>
      cases others with
      | nil => exact absurd hheaders (by simp)
      | cons otherFirst otherRest =>
          obtain ⟨hfirst, hrest⟩ := List.cons.inj hheaders
          have hname : first.name = otherFirst.name := congrArg Header.name hfirst
          have hvalue : first.value = otherFirst.value := congrArg Header.value hfirst
          dsimp only
          rw [hname, hvalue, store_congr _ hrest]
          split
          next => exact Agree.refl (fun _ => rfl) _
          next => exact .error _

/-- Sections of entries that say the same one by one are added alike. -/
theorem unnumbered_foldlM_addEntry {sections others : List Lines.Section}
    (h : List.Forall₂ (fun s t => SameRun s.lines t.lines) sections others) (m : Manifest) :
    (sections.foldlM addEntry m).mapError ManifestError.unnumbered
      = (others.foldlM addEntry m).mapError ManifestError.unnumbered := by
  rw [mapError_foldlM, mapError_foldlM]
  induction h generalizing m with
  | nil => rfl
  | cons hsame _ ih =>
      rw [List.foldlM_cons, List.foldlM_cons, unnumbered_addEntry m hsame]
      exact bind_congr ih

/-- **Lines are read alike**, but for the number in an error, if their runs have the same logical
lines and if their first lines are empty or not alike. -/
theorem unnumbered_ofLines {lines others : List Text}
    (hhead : lines.head? = some [] ↔ others.head? = some [])
    (h : List.Forall₂ SameRun (Lines.runs lines) (Lines.runs others)) :
    (ofLines lines).mapError ManifestError.unnumbered
      = (ofLines others).mapError ManifestError.unnumbered := by
  rw [← Lines.map_lines_sections 1 lines, ← Lines.map_lines_sections 1 others,
    List.forall₂_map_left_iff, List.forall₂_map_right_iff] at h
  rw [ofLines, ofLines]
  simp only [hhead]
  generalize Lines.sections 1 lines = sections at h
  generalize Lines.sections 1 others = otherSections at h
  split
  next => exact unnumbered_foldlM_addEntry h {}
  next =>
    cases h with
    | nil => rfl
    | cons hmain hentries =>
        dsimp only
        rw [mapError_bind, mapError_bind, unnumbered_addMain {} hmain]
        exact bind_congr fun next => unnumbered_foldlM_addEntry hentries next

/-- Results that are equal without line numbers are the same manifest, or the same error but for its
number. -/
theorem same_of_unnumbered {x y : Except ManifestError Manifest}
    (h : x.mapError ManifestError.unnumbered = y.mapError ManifestError.unnumbered) :
    (∀ m, y = .ok m ↔ x = .ok m)
      ∧ ∀ e, x = .error e → ∃ e', y = .error e' ∧ e'.unnumbered = e.unnumbered := by
  constructor
  · intro m
    rw [← mapError_eq_ok (f := ManifestError.unnumbered), ← h, mapError_eq_ok]
  · rintro e rfl
    exact mapError_eq_error.1 h.symm

end Manifest

end Wab
