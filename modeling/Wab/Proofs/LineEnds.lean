import Wab.Proofs.LineNumbers

/-! # Which line ends a text has

A text is read by its lines, so it does not matter with which of the ends its lines end, nor whether
the last line has one. Empty lines part sections, and more of them in a row part no more.

* **`Lines.split_concat`** — one more line end makes one more line, or a line feed completes the end
  that is there.
* **`Lines.runs_append_replicate`** — a row of empty lines parts runs like one.
* **`Manifest.parse_line_ends`** — line ends and further empty lines do not change what is read. -/

namespace Wab

namespace Lines

/-! ## A line end behind a text -/

/-- The character ends a line. -/
def IsBreak (c : CodePoint) : Prop := c = '\r' ∨ c = '\n'

/-- A line end behind a text makes an empty last line, but for a line feed behind a carriage return,
which belongs to the same end. -/
theorem split_concat (s : Text) {c : CodePoint} (hc : IsBreak c) :
    split (s ++ [c]) = split s ++ [[]] ∨ split (s ++ [c]) = split s := by
  induction s using split.induct with
  | case1 =>
      left
      rcases hc with rfl | rfl <;> rfl
  | case2 s ih | case4 s ih => exact ih.imp (congrArg (List.cons [])) (congrArg (List.cons []))
  | case3 s hcrlf ih =>
      cases s with
      | nil =>
          rcases hc with rfl | rfl
          · exact Or.inl rfl
          · exact Or.inr rfl
      | cons d s =>
          -- What follows the carriage return is the same character as before.
          have hd : d ≠ '\n' := fun hd => hcrlf s (by rw [hd])
          have hcr : ∀ more, split (.scalar '\r' :: d :: more) = [] :: split (d :: more) :=
            fun more => split_cr (by simpa using hd)
          rw [List.cons_append, List.cons_append, hcr, hcr]
          exact ih.imp (congrArg (List.cons [])) (congrArg (List.cons []))
  | case5 d s _ hr hn ih =>
      obtain ⟨first, rest, hs⟩ := List.exists_cons_of_ne_nil (split_ne_nil s)
      rw [List.cons_append, split_cons hr hn, split_cons hr hn]
      rw [hs] at ih ⊢
      refine ih.imp (fun h => ?_) (fun h => ?_)
      · rw [h]
        rfl
      · rw [h]

/-! ## A row of empty lines -/

/-- An empty line parts the runs in front of it from those behind it. -/
theorem runs_append_nil_cons (before after : List Text) :
    runs (before ++ [] :: after) = runs before ++ runs after := by
  rw [runs, List.splitOnP_append_cons before after (show List.isEmpty ([] : Text) = true from rfl),
    List.filter_append]
  rfl

/-- A row of empty lines parts runs like one of them. -/
theorem runs_append_replicate (before after : List Text) (n : Nat) :
    runs (before ++ List.replicate (n + 1) [] ++ after) = runs (before ++ [] :: after) := by
  have hrow : ∀ n, runs (List.replicate n [] ++ after) = runs after := by
    intro n
    induction n with
    | zero => rfl
    | succ n ih => rw [List.replicate_succ, List.cons_append, runs_nil_cons, ih]
  rw [List.append_assoc, List.replicate_succ, List.cons_append, runs_append_nil_cons, hrow,
    runs_append_nil_cons]

end Lines

namespace Manifest

/-! ## Reading -/

/-- An empty line behind other lines does not change what they are read as. -/
theorem ofLines_concat_nil {lines : List Text} (h : lines ≠ []) :
    ofLines (lines ++ [[]]) = ofLines lines := by
  have hhead : (lines ++ [[]]).head? = lines.head? := List.head?_append_of_ne_nil _ h
  rw [ofLines, ofLines, hhead, Lines.sections_concat_nil]

/-- A line end behind a text does not change what it is read as. -/
theorem parse_concat (s : Text) {c : CodePoint} (hc : Lines.IsBreak c) :
    parse (s ++ [c]) = parse s := by
  rw [parse_eq_ofLines, parse_eq_ofLines]
  rcases Lines.split_concat s hc with h | h
  · rw [h, ofLines_concat_nil (Lines.split_ne_nil s)]
  · rw [h]

/-- Line ends behind a text do not change what it is read as. -/
theorem parse_append_breaks (s : Text) {breaks : Text} (h : ∀ c ∈ breaks, Lines.IsBreak c) :
    parse (s ++ breaks) = parse s := by
  induction breaks generalizing s with
  | nil => rw [List.append_nil]
  | cons c breaks ih =>
      rw [List.append_cons, ih (s ++ [c]) fun d hd => h d (List.mem_cons_of_mem _ hd),
        parse_concat s (h c List.mem_cons_self)]

/-- More empty lines where there is one change no more than the line number of an error. -/
theorem unnumbered_ofLines_replicate (before after : List Text) (n : Nat) :
    (ofLines (before ++ [] :: after)).mapError ManifestError.unnumbered
      = (ofLines (before ++ List.replicate (n + 1) [] ++ after)).mapError
          ManifestError.unnumbered := by
  apply unnumbered_ofLines
  · cases before with
    | nil => simp [List.replicate_succ]
    | cons first before => rfl
  · rw [Lines.runs_append_replicate]
    exact List.forall₂_same.2 fun run _ => SameRun.refl run

/-- **Line ends do not change what is read.** Texts of the same lines are read as the same manifest
or with the same error, whatever ends the lines have; line ends behind a text change nothing; and
further empty lines where there is one change no more than the line number of an error. -/
theorem parse_line_ends :
    (∀ lines s t, Lines.Cut s lines → Lines.Cut t lines → parse s = parse t)
      ∧ (∀ s breaks : Text, (∀ c ∈ breaks, Lines.IsBreak c) → parse (s ++ breaks) = parse s)
      ∧ ∀ before after n s t, Lines.Cut s (before ++ [] :: after) →
          Lines.Cut t (before ++ List.replicate (n + 1) [] ++ after) →
        (∀ m, parse t = .ok m ↔ parse s = .ok m)
          ∧ ∀ e, parse s = .error e →
            ∃ e', parse t = .error e' ∧ e'.unnumbered = e.unnumbered := by
  refine ⟨?_, fun s breaks h => parse_append_breaks s h, ?_⟩
  · intro lines s t hs ht
    rw [parse_eq_ofLines, parse_eq_ofLines, Lines.cut_iff.1 hs, Lines.cut_iff.1 ht]
  · intro before after n s t hs ht
    apply same_of_unnumbered
    rw [parse_eq_ofLines, parse_eq_ofLines, Lines.cut_iff.1 hs, Lines.cut_iff.1 ht]
    exact unnumbered_ofLines_replicate before after n

/-- Here the same lines have other ends, a line feed and a further line end are put behind them, and
the empty line is put three times. -/
theorem parse_line_ends_mixed :
    ∃ m, parse "A: b\r\n\r\nName: x\r\nc: d" = .ok m
      ∧ m.main.headers = [⟨"A", "b"⟩]
      ∧ Lines.Cut "A: b\r\n\r\nName: x\r\nc: d"
          ["A: b", [], "Name: x", "c: d"]
      ∧ Lines.Cut "A: b\n\rName: x\rc: d"
          ["A: b", [], "Name: x", "c: d"]
      ∧ parse "A: b\n\rName: x\rc: d" = .ok m
      ∧ parse (Text.of "A: b\n\rName: x\rc: d" ++ Text.of "\n\r\n") = .ok m
      ∧ parse "A: b\r\n\r\n\n\rName: x\r\nc: d" = .ok m := by
  obtain ⟨hends, hbreaks, hrows⟩ := parse_line_ends
  have hcrlf : Lines.Cut "A: b\r\n\r\nName: x\r\nc: d"
      ["A: b", [], "Name: x", "c: d"] := Lines.cut_iff.2 rfl
  have hmixed : Lines.Cut "A: b\n\rName: x\rc: d"
      ["A: b", [], "Name: x", "c: d"] := Lines.cut_iff.2 rfl
  have hrow : Lines.Cut "A: b\r\n\r\n\n\rName: x\r\nc: d"
      ((["A: b"] : List Text) ++ List.replicate 3 [] ++ (["Name: x", "c: d"] : List Text)) :=
    Lines.cut_iff.2 rfl
  obtain ⟨m, hm, hmain⟩ := exists_ok_of_toOption
    (e := parse "A: b\r\n\r\nName: x\r\nc: d")
    (f := fun m => m.main.headers) (b := [⟨"A", "b"⟩]) (by decide +kernel)
  have hsame := (hends _ _ _ hmixed hcrlf).trans hm
  refine ⟨m, hm, hmain, hcrlf, hmixed, hsame, ?_, ?_⟩
  · have hbreak : ∀ c ∈ Text.of "\n\r\n", Lines.IsBreak c := by
      simp [Text.of, Lines.IsBreak]
    exact (hbreaks _ _ hbreak).trans hsame
  · exact ((hrows ["A: b"] ["Name: x", "c: d"] 2 _ _ hcrlf hrow).1 m).2 hm

end Manifest

end Wab
