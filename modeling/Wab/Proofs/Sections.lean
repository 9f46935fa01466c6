import Wab.Proofs.Lines

/-! # Which texts have which lines and sections

The lines and sections of a text are described without saying how they are found: a text is its
lines with an end behind each but the last, and sections are what lies between the empty lines.

* **`Lines.Cut`** — a text has these lines.
* **`Lines.cut_iff`** — the lines that a text is split into are those that it has.
* **`Lines.runs`** — the maximal runs of non-empty lines.
* **`Lines.map_lines_sections`** — the sections of lines are these runs.
* **`Lines.IsRun`** — a run of non-empty lines at its place.
* **`Lines.sections_of_isRun`**, **`Lines.exists_isRun_of_sections`** — the section of a run, and
  the run of a section. -/

namespace Wab.Lines

/-! ## Lines -/

/-- A text has these lines: each but the last one ends with a carriage return and a line feed, with
one of the two alone, and a carriage return is not alone in front of a line feed. -/
inductive Cut : Text → List Text → Prop where
  /-- The last line has no end. -/
  | last {l : Text} (h : Unbroken l) : Cut l [l]
  /-- A line that ends with both. -/
  | crlf {l s : Text} {lines : List Text} (h : Unbroken l) (rest : Cut s lines) :
    Cut (l ++ .scalar '\r' :: .scalar '\n' :: s) (l :: lines)
  /-- A line that ends with a carriage return. -/
  | cr {l s : Text} {lines : List Text} (h : Unbroken l) (hs : s.head? ≠ some (.scalar '\n'))
    (rest : Cut s lines) : Cut (l ++ .scalar '\r' :: s) (l :: lines)
  /-- A line that ends with a line feed. -/
  | lf {l s : Text} {lines : List Text} (h : Unbroken l) (rest : Cut s lines) :
    Cut (l ++ .scalar '\n' :: s) (l :: lines)

/-- A carriage return without a line feed ends a line. -/
theorem split_cr {s : Text} (hs : s.head? ≠ some (.scalar '\n')) :
    split (.scalar '\r' :: s) = [] :: split s := by
  rw [split]
  rintro rest rfl
  exact hs rfl

/-- A line up to a carriage return without a line feed. -/
theorem split_append_cr {l s : Text} (h : Unbroken l) (hs : s.head? ≠ some (.scalar '\n')) :
    split (l ++ .scalar '\r' :: s) = l :: split s := by
  rw [split_append h, split_cr hs, List.modifyHead_cons, List.append_nil]

/-- A text without a line end is one line. -/
theorem split_of_unbroken {l : Text} (h : Unbroken l) : split l = [l] := by
  have hsplit := split_append h []
  rwa [List.append_nil, split_nil, List.modifyHead_cons, List.append_nil] at hsplit

/-- A character that ends no line belongs to the first line. -/
theorem Cut.cons {c : CodePoint} (hr : c ≠ '\r') (hn : c ≠ '\n') {s : Text} {lines : List Text}
    (h : Cut s lines) : Cut (c :: s) (lines.modifyHead (c :: ·)) := by
  have hline : ∀ l, Unbroken l → Unbroken (c :: l) := fun l hl => unbroken_cons.2 ⟨⟨hr, hn⟩, hl⟩
  cases h with
  | last hl => exact .last (hline _ hl)
  | crlf hl rest => exact .crlf (hline _ hl) rest
  | cr hl hs rest => exact .cr (hline _ hl) hs rest
  | lf hl rest => exact .lf (hline _ hl) rest

/-- A text has the lines that it is split into. -/
theorem cut_split (s : Text) : Cut s (split s) := by
  induction s using split.induct with
  | case1 => exact .last unbroken_nil
  | case2 s ih => exact .crlf unbroken_nil ih
  | case3 s hcrlf ih =>
      have hs : s.head? ≠ some (.scalar '\n') := by
        intro hhead
        obtain ⟨rest, rfl⟩ := List.head?_eq_some_iff.1 hhead
        exact hcrlf rest rfl
      rw [split_cr hs]
      exact .cr unbroken_nil hs ih
  | case4 s ih => exact .lf unbroken_nil ih
  | case5 c s _ hr hn ih =>
      rw [split_cons hr hn]
      exact ih.cons hr hn

/-- **The lines that a text is split into are those that it has.** -/
theorem cut_iff {s : Text} {lines : List Text} : Cut s lines ↔ split s = lines := by
  constructor
  · intro h
    induction h with
    | last h => exact split_of_unbroken h
    | crlf h _ ih => rw [split_append_crlf h, ih]
    | cr h hs _ ih => rw [split_append_cr h hs, ih]
    | lf h _ ih => rw [split_append_lf h, ih]
  · rintro rfl
    exact cut_split s

/-- A text can be parted between two of its lines: the first part ends with the end of a line. -/
theorem Cut.exists_append {text : Text} {before more : List Text} (h : Cut text (before ++ more))
    (hmore : more ≠ []) :
    ∃ front rest, text = front ++ rest ∧ Cut front (before ++ [[]]) ∧ Cut rest more := by
  induction before generalizing text with
  | nil => exact ⟨[], text, rfl, .last unbroken_nil, h⟩
  | cons l before ih =>
      rw [List.cons_append] at h
      generalize hlines : before ++ more = lines at h
      cases h with
      | last _ => exact absurd (List.append_eq_nil_iff.1 hlines).2 hmore
      | crlf hl hrest =>
          rw [← hlines] at hrest
          obtain ⟨front, rest, rfl, hfront, hmoreLines⟩ := ih hrest
          exact ⟨_, rest, (List.append_assoc _ (.scalar '\r' :: .scalar '\n' :: front) rest).symm,
            .crlf hl hfront, hmoreLines⟩
      | cr hl hs hrest =>
          rw [← hlines] at hrest
          obtain ⟨front, rest, rfl, hfront, hmoreLines⟩ := ih hrest
          have hfrontHead : front.head? ≠ some (.scalar '\n') := by
            intro hhead
            rw [List.head?_append, hhead] at hs
            exact hs rfl
          exact ⟨_, rest, (List.append_assoc _ (.scalar '\r' :: front) rest).symm,
            .cr hl hfrontHead hfront, hmoreLines⟩
      | lf hl hrest =>
          rw [← hlines] at hrest
          obtain ⟨front, rest, rfl, hfront, hmoreLines⟩ := ih hrest
          exact ⟨_, rest, (List.append_assoc _ (.scalar '\n' :: front) rest).symm, .lf hl hfront,
            hmoreLines⟩

/-- A text begins with a line end if its first character is one. -/
theorem startsWithBreak_iff {s : Text} :
    startsWithBreak s = true ↔ s.head? = some (.scalar '\r') ∨ s.head? = some (.scalar '\n') := by
  cases s with
  | nil => simp [startsWithBreak]
  | cons c s =>
      by_cases hr : c = '\r'
      · subst hr
        simp [startsWithBreak]
      · by_cases hn : c = '\n'
        · subst hn
          simp [startsWithBreak]
        · simp [startsWithBreak_cons hr hn, hr, hn]

/-! ## Sections -/

/-- The maximal runs of non-empty lines. -/
def runs (lines : List Text) : List (List Text) :=
  (lines.splitOnP List.isEmpty).filter fun run => !run.isEmpty

/-- An empty line in front belongs to no run. -/
theorem runs_nil_cons (more : List Text) : runs ([] :: more) = runs more := by
  rw [runs, List.splitOnP_cons_eq_if_modifyHead, if_pos List.isEmpty_nil]
  rfl

/-- Non-empty lines are one run. -/
theorem runs_of_ne_nil {run : List Text} (hrun : ∀ l ∈ run, l ≠ []) (hne : run ≠ []) :
    runs run = [run] := by
  have hsplit : run.splitOnP List.isEmpty = [run] :=
    List.splitOnP_eq_singleton fun l hl => List.isEmpty_eq_false_iff.2 (hrun l hl)
  rw [runs, hsplit, List.filter_cons_of_pos (by simpa using hne), List.filter_nil]

/-- Non-empty lines up to an empty one are one run. -/
theorem runs_append {run : List Text} (hrun : ∀ l ∈ run, l ≠ []) (hne : run ≠ [])
    (more : List Text) : runs (run ++ [] :: more) = run :: runs more := by
  rw [runs, List.splitOnP_append_cons run more (show List.isEmpty ([] : Text) = true from rfl),
    List.filter_append]
  exact congrArg (· ++ runs more) (runs_of_ne_nil hrun hne)

/-- Behind the non-empty lines in front comes an empty one, if anything. -/
theorem drop_takeWhile (lines : List Text) :
    lines.drop (lines.takeWhile fun l => !l.isEmpty).length = []
      ∨ ∃ more, lines.drop (lines.takeWhile fun l => !l.isEmpty).length = [] :: more := by
  have hdrop : lines.drop (lines.takeWhile fun l => !l.isEmpty).length
      = lines.dropWhile fun l => !l.isEmpty := by
    have hfront := List.prefix_iff_eq_append.1
      (List.takeWhile_prefix (l := lines) fun l => !l.isEmpty)
    exact List.append_cancel_left (hfront.trans List.takeWhile_append_dropWhile.symm)
  rw [hdrop]
  have hhead := List.head?_dropWhile_not (fun l => !l.isEmpty) lines
  cases hrest : lines.dropWhile fun l => !l.isEmpty with
  | nil => exact Or.inl rfl
  | cons first more =>
      rw [hrest] at hhead
      have hfirst : first = [] := by simpa using hhead
      exact Or.inr ⟨more, by rw [hfirst]⟩

/-- Lines are none, or an empty one with more behind it, or a run of non-empty lines, which is all
of them or has an empty one and more behind it. What holds of these holds of all numbered lines. -/
@[elab_as_elim]
theorem sectionsInduction {motive : Nat → List Text → Prop} (nil : ∀ line, motive line [])
    (empty : ∀ line more, motive (line + 1) more → motive line ([] :: more))
    (last : ∀ line first rest, first ≠ [] → (∀ l ∈ rest, l ≠ []) → motive line (first :: rest))
    (parted : ∀ line first rest more, first ≠ [] → (∀ l ∈ rest, l ≠ []) →
      motive (line + rest.length + 2) more → motive line (first :: rest ++ [] :: more))
    (line : Nat) (lines : List Text) : motive line lines := by
  induction hlength : lines.length using Nat.strongRecOn generalizing line lines with
  | ind n ih =>
    cases lines with
    | nil => exact nil line
    | cons first rest =>
        rw [List.length_cons] at hlength
        by_cases hfirst : first = []
        · rw [hfirst]
          exact empty line rest (ih rest.length (by omega) _ rest rfl)
        · have hbody : ∀ l ∈ rest.takeWhile (fun l => !l.isEmpty), l ≠ [] :=
            fun l hl => ne_nil_of_mem_takeWhile hl
          have hrest := List.prefix_iff_eq_append.1
            (List.takeWhile_prefix (l := rest) fun l => !l.isEmpty)
          rcases drop_takeWhile rest with hend | ⟨more, hmore⟩
          · rw [hend, List.append_nil] at hrest
            rw [hrest] at hbody
            exact last line first rest hfirst hbody
          · rw [hmore] at hrest
            have hshorter : more.length < n := by
              rw [← hlength, ← hrest, List.length_append, List.length_cons]
              omega
            rw [← hrest]
            exact parted line first _ more hfirst hbody (ih more.length hshorter _ more rfl)

/-- **The sections of lines are the maximal runs of non-empty ones.** -/
theorem map_lines_sections (line : Nat) (lines : List Text) :
    (sections line lines).map Section.lines = runs lines := by
  induction line, lines using sectionsInduction with
  | nil _ =>
      rw [sections]
      rfl
  | empty _ more ih => rw [sections_nil_cons, ih, runs_nil_cons]
  | last line first rest hfirst hrest =>
      have hrun : ∀ l ∈ first :: rest, l ≠ [] := List.forall_mem_cons.2 ⟨hfirst, hrest⟩
      rw [sections_of_ne_nil hfirst hrest, runs_of_ne_nil hrun (List.cons_ne_nil _ _)]
      rfl
  | parted line first rest more hfirst hrest ih =>
      have hrun : ∀ l ∈ first :: rest, l ≠ [] := List.forall_mem_cons.2 ⟨hfirst, hrest⟩
      rw [sections_append hfirst hrest, List.map_cons, ih, runs_append hrun (List.cons_ne_nil _ _)]
      rfl

/-! ## Where a section stands -/

/-- A run of non-empty lines. In front of it and behind it is an empty line or nothing. -/
structure IsRun (before run after : List Text) : Prop where
  /-- There is a line in the run. -/
  ne_nil : run ≠ []
  /-- No line of the run is empty. -/
  filled : ∀ l ∈ run, l ≠ []
  /-- The line in front of the run is empty, if there is one. -/
  opened : before = [] ∨ ∃ lines, before = lines ++ [[]]
  /-- The line behind the run is empty, if there is one. -/
  closed : after = [] ∨ ∃ lines, after = [] :: lines

/-- A run stays one with an empty line and others in front of what is in front of it. -/
theorem IsRun.append_left {before run after : List Text} (h : IsRun before run after)
    (lines : List Text) : IsRun (lines ++ [] :: before) run after := by
  refine ⟨h.ne_nil, h.filled, Or.inr ?_, h.closed⟩
  rcases h.opened with rfl | ⟨more, rfl⟩
  · exact ⟨lines, rfl⟩
  · exact ⟨lines ++ [] :: more, by rw [List.append_assoc, List.cons_append]⟩

/-- A run of non-empty lines is a section. -/
theorem sections_of_isRun {before after : List Text} {first : Text} {rest : List Text}
    (h : IsRun before (first :: rest) after) (line : Nat) :
    ∃ more, sections line (before ++ (first :: rest ++ after))
      = sections line before ++ ⟨line + before.length, first, rest⟩ :: more := by
  have hrun : ∀ number, ∃ more, sections number (first :: rest ++ after)
      = ⟨number, first, rest⟩ :: more := by
    intro number
    have hfirst := h.filled first List.mem_cons_self
    have hrest := fun l hl => h.filled l (List.mem_cons_of_mem first hl)
    rcases h.closed with rfl | ⟨lines, rfl⟩
    · rw [List.append_nil, sections_of_ne_nil hfirst hrest]
      exact ⟨[], rfl⟩
    · rw [sections_append hfirst hrest]
      exact ⟨_, rfl⟩
  rcases h.opened with rfl | ⟨lines, rfl⟩
  · obtain ⟨more, hmore⟩ := hrun line
    refine ⟨more, ?_⟩
    rw [List.nil_append, hmore, sections]
    rfl
  · obtain ⟨more, hmore⟩ := hrun (line + lines.length + 1)
    refine ⟨more, ?_⟩
    have hlength : line + (lines ++ [[]]).length = line + lines.length + 1 := by
      rw [List.length_append, List.length_singleton, Nat.add_assoc]
    rw [hlength, List.append_assoc, List.singleton_append, sections_append_nil_cons, hmore,
      sections_concat_nil]

/-- Each section is a run of non-empty lines, and the sections before it are those of the lines in
front of the run. -/
theorem exists_isRun_of_sections {line : Nat} {lines : List Text} {pre post : List Section}
    {s : Section} (h : sections line lines = pre ++ s :: post) :
    ∃ before after, lines = before ++ (s.lines ++ after) ∧ IsRun before s.lines after
      ∧ s.start = line + before.length ∧ pre = sections line before := by
  induction line, lines using sectionsInduction generalizing pre with
  | nil _ =>
      rw [sections] at h
      exact absurd h (by simp)
  | empty line more ih =>
      rw [sections_nil_cons] at h
      obtain ⟨before, after, rfl, hrun, hstart, rfl⟩ := ih h
      refine ⟨[] :: before, after, rfl, hrun.append_left [], ?_, ?_⟩
      · rw [hstart, List.length_cons]
        omega
      · rw [sections_nil_cons]
  | last line first rest hfirst hrest =>
      rw [sections_of_ne_nil hfirst hrest] at h
      cases pre with
      | nil =>
          obtain ⟨rfl, -⟩ := List.cons.inj h
          exact ⟨[], [], (List.append_nil _).symm, ⟨List.cons_ne_nil _ _,
            List.forall_mem_cons.2 ⟨hfirst, hrest⟩, Or.inl rfl, Or.inl rfl⟩, rfl, by rw [sections]⟩
      | cons p pre => exact absurd (List.cons.inj h).2 (by simp)
  | parted line first rest more hfirst hrest ih =>
      rw [sections_append hfirst hrest] at h
      cases pre with
      | nil =>
          obtain ⟨rfl, -⟩ := List.cons.inj h
          exact ⟨[], [] :: more, rfl, ⟨List.cons_ne_nil _ _,
            List.forall_mem_cons.2 ⟨hfirst, hrest⟩, Or.inl rfl, Or.inr ⟨more, rfl⟩⟩, rfl,
            by rw [sections]⟩
      | cons p pre =>
          obtain ⟨rfl, hlater⟩ := List.cons.inj h
          obtain ⟨before, after, rfl, hrun, hstart, rfl⟩ := ih hlater
          refine ⟨first :: rest ++ [] :: before, after, ?_, hrun.append_left (first :: rest), ?_,
            ?_⟩
          · exact (List.append_assoc (first :: rest) ([] :: before) _).symm
          · rw [hstart, List.length_append, List.length_cons, List.length_cons]
            omega
          · rw [sections_append hfirst hrest]

end Wab.Lines
