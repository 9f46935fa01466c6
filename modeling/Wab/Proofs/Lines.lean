import Mathlib.Data.List.TakeWhile
import Wab.Manifest.Lines

/-! # Lines that are put together and taken apart

A text that is put together from lines without line ends in them is taken apart into the same lines,
and runs of non-empty lines between empty ones are its sections.

* **`Lines.Unbroken s`** — no line ends in `s`.
* **`Lines.split_append`** — text in front of the first line end belongs to the first line.
* **`Lines.sections_append_nil_cons`** — an empty line parts sections.
* **`Lines.sections_append`** — a run of non-empty lines up to an empty one is a section. -/

namespace Wab.Lines

/-- The text holds no carriage return and no line feed. -/
def Unbroken (s : Text) : Prop := .scalar '\r' ∉ s ∧ .scalar '\n' ∉ s

theorem unbroken_cons {c : CodePoint} {s : Text} :
    Unbroken (c :: s) ↔ (c ≠ '\r' ∧ c ≠ '\n') ∧ Unbroken s := by
  simp only [Unbroken, List.mem_cons, not_or, ne_comm]
  exact and_and_and_comm

theorem unbroken_append {s t : Text} : Unbroken (s ++ t) ↔ Unbroken s ∧ Unbroken t := by
  simp only [Unbroken, List.mem_append, not_or]
  exact and_and_and_comm

theorem unbroken_nil : Unbroken [] := ⟨List.not_mem_nil, List.not_mem_nil⟩

/-! ## The lines of a text -/

/-- A character that ends no line belongs to the first line. -/
theorem split_cons {c : CodePoint} (hr : c ≠ '\r') (hn : c ≠ '\n') (s : Text) :
    split (c :: s) = (split s).modifyHead (c :: ·) := by
  rw [split]
  · exact fun _ h => absurd h hr
  · exact hr
  · exact hn

/-- Text in front of the first line end belongs to the first line. -/
theorem split_append {l : Text} (h : Unbroken l) (s : Text) :
    split (l ++ s) = (split s).modifyHead (l ++ ·) := by
  induction l with
  | nil => exact (congrFun List.modifyHead_id (split s)).symm
  | cons c l ih =>
      obtain ⟨⟨hr, hn⟩, hl⟩ := unbroken_cons.1 h
      rw [List.cons_append, split_cons hr hn, ih hl, List.modifyHead_modifyHead]
      rfl

/-- A line up to a carriage return with a line feed. -/
theorem split_append_crlf {l : Text} (h : Unbroken l) (s : Text) :
    split (l ++ .scalar '\r' :: .scalar '\n' :: s) = l :: split s := by
  rw [split_append h, split, List.modifyHead_cons, List.append_nil]

/-- A line up to a line feed. -/
theorem split_append_lf {l : Text} (h : Unbroken l) (s : Text) :
    split (l ++ .scalar '\n' :: s) = l :: split s := by
  rw [split_append h]
  simp only [split, List.modifyHead_cons, List.append_nil]

/-- The lines of a text hold no line ends. -/
theorem unbroken_of_mem_split {s l : Text} (h : l ∈ split s) : Unbroken l := by
  induction s using split.induct generalizing l with
  | case1 =>
      rw [split_nil, List.mem_singleton] at h
      rw [h]
      exact unbroken_nil
  | case2 s ih | case3 s _ ih | case4 s ih =>
      simp only [split, List.mem_cons] at h
      rcases h with rfl | h
      · exact unbroken_nil
      · exact ih h
  | case5 c s hcrlf hr hn ih =>
      have hc : c ≠ '\r' ∧ c ≠ '\n' := ⟨hr, hn⟩
      rw [split_cons hc.1 hc.2] at h
      cases hsplit : split s with
      | nil => exact absurd hsplit (split_ne_nil s)
      | cons first rest =>
          rw [hsplit] at h ih
          rw [List.modifyHead_cons, List.mem_cons] at h
          rcases h with rfl | h
          · exact unbroken_cons.2 ⟨hc, ih List.mem_cons_self⟩
          · exact ih (List.mem_cons_of_mem _ h)

/-- The characters of the lines of a text are those of the text. -/
theorem mem_of_mem_split {s l : Text} (h : l ∈ split s) {c : CodePoint} (hc : c ∈ l) : c ∈ s := by
  induction s using split.induct generalizing l with
  | case1 =>
      rw [split_nil, List.mem_singleton] at h
      exact absurd (h ▸ hc) List.not_mem_nil
  | case2 s ih | case3 s _ ih | case4 s ih =>
      simp only [split, List.mem_cons] at h
      rcases h with rfl | h
      · exact absurd hc List.not_mem_nil
      · simp only [List.mem_cons, ih h hc, or_true]
  | case5 d s hcrlf hr hn ih =>
      rw [split_cons hr hn] at h
      cases hsplit : split s with
      | nil => exact absurd hsplit (split_ne_nil s)
      | cons first rest =>
          rw [hsplit] at h ih
          rw [List.modifyHead_cons, List.mem_cons] at h
          rcases h with rfl | h
          · exact (List.mem_cons.1 hc).elim (· ▸ List.mem_cons_self)
              fun hfirst => List.mem_cons_of_mem _ (ih List.mem_cons_self hfirst)
          · exact List.mem_cons_of_mem _ (ih (List.mem_cons_of_mem _ h) hc)

/-- A text that begins with another character does not begin with a line end. -/
theorem startsWithBreak_cons {c : CodePoint} (hr : c ≠ '\r') (hn : c ≠ '\n') (s : Text) :
    startsWithBreak (c :: s) = false := by
  rw [startsWithBreak]
  · exact fun _ h => hr (List.cons.inj h).1
  · exact fun _ h => hn (List.cons.inj h).1

/-- A text whose first line is not empty does not begin with a line end. -/
theorem startsWithBreak_of_split {s first : Text} {rest : List Text}
    (h : split s = first :: rest) (hfirst : first ≠ []) : startsWithBreak s = false := by
  cases s with
  | nil => rfl
  | cons c s =>
      apply startsWithBreak_cons
      · rintro rfl
        -- The carriage return ends the first line with or without a line feed behind it.
        cases s using split.fun_cases with
        | _ => simp_all [split]
      · rintro rfl
        rw [split] at h
        exact hfirst (List.cons.inj h).1.symm

/-! ## Sections -/

/-- An empty line in front belongs to no section. -/
theorem sections_nil_cons (line : Nat) (more : List Text) :
    sections line ([] :: more) = sections (line + 1) more := by
  rw [sections]

/-- A run of non-empty lines is part of one section. -/
theorem sections_cons {first : Text} (hfirst : first ≠ []) (line : Nat)
    (rest : List Text) :
    ∃ more, sections line (first :: rest)
      = ⟨line, first, rest.takeWhile fun l => !l.isEmpty⟩ :: more := by
  obtain ⟨c, cs, rfl⟩ := List.exists_cons_of_ne_nil hfirst
  rw [sections]
  exact ⟨_, rfl⟩

/-- An empty line parts the sections in front of it from those behind it. -/
theorem sections_append_nil_cons (line : Nat) (lines more : List Text) :
    sections line (lines ++ [] :: more)
      = sections line lines ++ sections (line + lines.length + 1) more := by
  induction line, lines using sections.induct with
  | case1 line =>
      rw [List.nil_append, sections_nil_cons, sections]
      rfl
  | case2 line rest ih =>
      have hnumber : line + ([] :: rest : List Text).length + 1 = line + 1 + rest.length + 1 := by
        rw [List.length_cons]
        omega
      rw [List.cons_append, sections_nil_cons, sections_nil_cons, ih, hnumber]
  | case3 line c cs rest body ih =>
      have hbody : ((rest ++ [] :: more).takeWhile fun l => !l.isEmpty) = body := by
        rw [List.takeWhile_append]
        split
        next hall =>
          rw [List.takeWhile_cons_of_neg (by simp), List.append_nil]
          exact ((List.takeWhile_prefix _).eq_of_length hall).symm
        next => rfl
      have hle : body.length ≤ rest.length := (List.takeWhile_prefix _).length_le
      have hnumber : line + 1 + body.length + (rest.drop body.length).length + 1
          = line + ((c :: cs) :: rest).length + 1 := by
        rw [List.length_drop, List.length_cons]
        omega
      rw [List.cons_append, sections, sections, hbody]
      simp only [List.drop_append_of_le_length hle]
      rw [ih, hnumber]
      rfl

/-- An empty last line belongs to no section. -/
theorem sections_concat_nil (line : Nat) (lines : List Text) :
    sections line (lines ++ [[]]) = sections line lines := by
  rw [sections_append_nil_cons, sections, List.append_nil]

/-- Lines that are not empty are one section. -/
theorem sections_of_ne_nil {first : Text} {rest : List Text} (hfirst : first ≠ [])
    (hrest : ∀ l ∈ rest, l ≠ []) (line : Nat) :
    sections line (first :: rest) = [⟨line, first, rest⟩] := by
  obtain ⟨c, cs, rfl⟩ := List.exists_cons_of_ne_nil hfirst
  have htake : (rest.takeWhile fun l => !l.isEmpty) = rest :=
    List.takeWhile_eq_self_iff.2 (by simpa using hrest)
  rw [sections, htake]
  simp only [List.drop_length, sections]

/-- A run of non-empty lines up to an empty one is a section. -/
theorem sections_append {first : Text} {rest : List Text} (hfirst : first ≠ [])
    (hrest : ∀ l ∈ rest, l ≠ []) (line : Nat) (more : List Text) :
    sections line (first :: rest ++ [] :: more)
      = ⟨line, first, rest⟩ :: sections (line + rest.length + 2) more := by
  rw [sections_append_nil_cons, sections_of_ne_nil hfirst hrest]
  rfl

/-- No section begins before the lines do. -/
theorem le_start_of_mem_sections {line : Nat} {lines : List Text} {s : Section}
    (h : s ∈ sections line lines) : line ≤ s.start := by
  induction line, lines using sections.induct with
  | case1 _ =>
      rw [sections] at h
      exact absurd h List.not_mem_nil
  | case2 line rest ih =>
      rw [sections_nil_cons] at h
      exact Nat.le_of_succ_le (ih h)
  | case3 line c cs rest body ih =>
      rw [sections, List.mem_cons] at h
      rcases h with rfl | h
      · exact Nat.le_refl line
      · have hlater := ih h
        omega

/-- No line in front of the first empty one is empty. -/
theorem ne_nil_of_mem_takeWhile {lines : List Text} {l : Text}
    (h : l ∈ lines.takeWhile fun l => !l.isEmpty) : l ≠ [] := by
  have hkept := List.all_eq_true.1 List.all_takeWhile l h
  simpa using hkept

/-- The lines of a section are lines of the text and not empty. -/
theorem mem_of_mem_sections {line : Nat} {lines : List Text} {s : Section} {l : Text}
    (hs : s ∈ sections line lines) (hl : l ∈ s.lines) : l ∈ lines ∧ l ≠ [] := by
  induction line, lines using sections.induct with
  | case1 _ =>
      rw [sections] at hs
      exact absurd hs List.not_mem_nil
  | case2 _ rest ih =>
      rw [sections] at hs
      obtain ⟨hmem, hne⟩ := ih hs
      exact ⟨List.mem_cons_of_mem _ hmem, hne⟩
  | case3 _ c cs rest body ih =>
      rw [sections, List.mem_cons] at hs
      rcases hs with rfl | hs
      · rw [Section.lines, List.mem_cons] at hl
        rcases hl with rfl | hl
        · exact ⟨List.mem_cons_self, List.cons_ne_nil _ _⟩
        · have hmem := List.takeWhile_subset _ hl
          exact ⟨List.mem_cons_of_mem _ hmem, ne_nil_of_mem_takeWhile hl⟩
      · obtain ⟨hmem, hne⟩ := ih hs
        exact ⟨List.mem_cons_of_mem _ (List.mem_of_mem_drop hmem), hne⟩

end Wab.Lines
