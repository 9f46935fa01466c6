import Mathlib.Logic.Relation
import Wab.Proofs.LineNumbers

/-! # Folding a text further

A text can be folded at any place in a line but its start: a line end and a space are put there, and
the rest of the line continues what is left of it. The logical lines stay the same, only their
numbers change, so the text says what it said before.

* **`Lines.FoldsOnce`** — a text is another one with one fold more.
* **`Manifest.SameRun.cons`** — logical lines can be compared behind a first line.
* **`Manifest.forall₂_runs_of_foldsOnce`** — a fold leaves the logical lines of every run.
* **`Manifest.parse_of_folds`** — a text is read the same however often it is folded. -/

namespace Wab

namespace Lines

/-! ## One fold more -/

/-- The ends that a line can have. -/
def ends : List Text := [['\r', '\n'], ['\r'], ['\n']]

/-- The second text is the first one with a line end and a space at a place in a line other than its
start: within the line or at its end. -/
inductive FoldsOnce : Text → Text → Prop where
  /-- The place is behind a character of the line. -/
  | behind (before : Text) {c : CodePoint} (hr : c ≠ '\r') (hn : c ≠ '\n') {lineEnd : Text}
    (hend : lineEnd ∈ ends) (after : Text) :
    FoldsOnce (before ++ c :: after) (before ++ c :: (lineEnd ++ .scalar ' ' :: after))

/-- A part of a text that ends within a line has some lines and begins the next one. -/
theorem exists_split_append (before : Text) {c : CodePoint} (hr : c ≠ '\r') (hn : c ≠ '\n') :
    ∃ front line, line ≠ [] ∧ ∀ rest,
      split (before ++ c :: rest) = front ++ (split rest).modifyHead (line ++ ·) := by
  induction before using split.induct with
  | case1 =>
      refine ⟨[], [c], List.cons_ne_nil _ _, fun rest => ?_⟩
      rw [List.nil_append, List.nil_append, split_cons hr hn]
      rfl
  | case2 before ih | case4 before ih =>
      obtain ⟨front, line, hline, hsplit⟩ := ih
      refine ⟨[] :: front, line, hline, fun rest => ?_⟩
      exact congrArg (List.cons []) (hsplit rest)
  | case3 before hcrlf ih =>
      obtain ⟨front, line, hline, hsplit⟩ := ih
      refine ⟨[] :: front, line, hline, fun rest => ?_⟩
      -- No line feed follows the carriage return: the text goes on with `before` or with `c`.
      have hhead : (before ++ c :: rest).head? ≠ some (.scalar '\n') := by
        cases before with
        | nil => simpa using hn
        | cons d more =>
            intro hd
            exact hcrlf more (by rw [Option.some.inj hd])
      rw [List.cons_append, split_cr hhead, hsplit, List.cons_append]
  | case5 d before _ hdr hdn ih =>
      obtain ⟨front, line, hline, hsplit⟩ := ih
      cases front with
      | nil =>
          refine ⟨[], d :: line, List.cons_ne_nil _ _, fun rest => ?_⟩
          rw [List.cons_append, split_cons hdr hdn, hsplit, List.nil_append,
            List.modifyHead_modifyHead]
          rfl
      | cons first front =>
          refine ⟨(d :: first) :: front, line, hline, fun rest => ?_⟩
          rw [List.cons_append, split_cons hdr hdn, hsplit]
          rfl

/-- A line end in front of a space ends an empty line. -/
theorem split_end_append {lineEnd : Text} (hend : lineEnd ∈ ends) (after : Text) :
    split (lineEnd ++ .scalar ' ' :: after)
      = [] :: (split after).modifyHead (.scalar ' ' :: ·) := by
  rw [← split_cons (by decide) (by decide)]
  simp only [ends, List.mem_cons, List.not_mem_nil, or_false] at hend
  rcases hend with rfl | rfl | rfl
  · rfl
  · exact split_cr (by simp)
  · rfl

/-- **One fold more** is one line broken in two, the second of which begins with a space. -/
theorem FoldsOnce.exists_split {s t : Text} (h : FoldsOnce s t) :
    ∃ front line next more, line ≠ [] ∧ split s = front ++ (line ++ next) :: more
      ∧ split t = front ++ line :: (.scalar ' ' :: next) :: more := by
  obtain ⟨before, hr, hn, hend, after⟩ := h
  obtain ⟨front, line, hline, hsplit⟩ := exists_split_append before hr hn
  obtain ⟨next, more, hafter⟩ := List.exists_cons_of_ne_nil (split_ne_nil after)
  refine ⟨front, line, next, more, hline, ?_, ?_⟩
  · rw [hsplit, hafter, List.modifyHead_cons]
  · rw [hsplit, split_end_append hend, hafter, List.modifyHead_cons, List.modifyHead_cons,
      List.append_nil]

end Lines

namespace Manifest

/-! ## Logical lines behind a first line -/

/-- A first line goes on with the first logical line of the others if they begin with a continuation
line, and is a logical line by itself if not. -/
theorem joined_cons_eq_ite (line : Text) (run : List Text) :
    joined (line :: run)
      = if run.head?.map continues = some true
        then (joined run).modifyHead (line ++ ·.tail) else line :: joined run := by
  cases run with
  | nil => rw [joined_cons, if_neg (by simp), List.takeWhile_nil, List.dropWhile_nil,
      List.flatMap_nil, List.append_nil]
  | cons next rest =>
      rw [List.head?_cons, Option.map_some, joined_cons line]
      cases hnext : continues next with
      | true =>
          -- The space that the continuation line begins with is dropped once.
          have hne : next ≠ [] := by
            rintro rfl
            exact absurd hnext (by decide)
          rw [List.takeWhile_cons_of_pos hnext, List.dropWhile_cons_of_pos hnext, if_pos rfl,
            joined_cons next, List.modifyHead_cons, List.flatMap_cons,
            List.tail_append_of_ne_nil hne]
      | false =>
          have hended : ¬ continues next = true := by
            rw [hnext]
            exact Bool.false_ne_true
          rw [List.takeWhile_cons_of_neg hended, List.dropWhile_cons_of_neg hended,
            if_neg (by simp), List.flatMap_nil, List.append_nil]

/-- Lines that say the same do so behind a first line. -/
theorem SameRun.cons (line : Text) {run other : List Text} (h : SameRun run other) :
    SameRun (line :: run) (line :: other) := by
  refine ⟨rfl, ?_⟩
  rw [joined_cons_eq_ite, joined_cons_eq_ite, h.begins, h.joined]

/-- A line says the same if it is broken behind one of its characters. -/
theorem SameRun.broken {line : Text} (hline : line ≠ []) (next : Text) (run : List Text) :
    SameRun ((line ++ next) :: run) (line :: (.scalar ' ' :: next) :: run) := by
  obtain ⟨c, line, rfl⟩ := List.exists_cons_of_ne_nil hline
  refine ⟨rfl, ?_⟩
  have hspace : ((.scalar ' ' :: next) :: run).head?.map continues = some true := rfl
  rw [joined_cons_eq_ite (c :: line), if_pos hspace, joined_cons, joined_cons,
    List.modifyHead_cons, List.append_assoc]
  rfl

/-- Lines that say the same are empty alike. -/
theorem SameRun.isEmpty_eq {run other : List Text} (h : SameRun run other) :
    run.isEmpty = other.isEmpty := by
  have hbegins := h.begins
  cases run <;> cases other <;> simp_all

/-! ## Runs of a folded text -/

/-- A line in front of lines that say the same piece by piece goes to the first piece. -/
theorem forall₂_modifyHead_cons (line : Text) {pieces others : List (List Text)}
    (h : List.Forall₂ SameRun pieces others) :
    List.Forall₂ SameRun (pieces.modifyHead (line :: ·)) (others.modifyHead (line :: ·)) := by
  cases h with
  | nil => exact .nil
  | cons hfirst hrest => exact .cons (hfirst.cons line) hrest

/-- Breaking one line changes what no piece between empty lines says. -/
theorem forall₂_splitOnP_broken (front : List Text) {line : Text} (hline : line ≠ [])
    (next : Text) (more : List Text) :
    List.Forall₂ SameRun
      ((front ++ (line ++ next) :: more).splitOnP List.isEmpty)
      ((front ++ line :: (.scalar ' ' :: next) :: more).splitOnP List.isEmpty) := by
  induction front with
  | nil =>
      have hwhole : ¬ (line ++ next).isEmpty = true := by simp [hline]
      have hbroken : ¬ line.isEmpty = true := by simp [hline]
      obtain ⟨run, others, hmore⟩ :=
        List.exists_cons_of_ne_nil (List.splitOnP_ne_nil List.isEmpty more)
      rw [List.nil_append, List.nil_append, List.splitOnP_cons_eq_if_modifyHead, if_neg hwhole,
        List.splitOnP_cons_eq_if_modifyHead line, if_neg hbroken,
        List.splitOnP_cons_eq_if_modifyHead (.scalar ' ' :: next), if_neg (by simp), hmore]
      exact .cons (SameRun.broken hline next run)
        (List.forall₂_same.2 fun other _ => SameRun.refl other)
  | cons l front ih =>
      rw [List.cons_append, List.cons_append, List.splitOnP_cons_eq_if_modifyHead,
        List.splitOnP_cons_eq_if_modifyHead]
      split
      next => exact .cons (SameRun.refl []) ih
      next => exact forall₂_modifyHead_cons l ih

/-- **A fold leaves the logical lines of every run**, and it leaves an empty first line. -/
theorem forall₂_runs_of_foldsOnce {s t : Text} (h : Lines.FoldsOnce s t) :
    ((Lines.split s).head? = some [] ↔ (Lines.split t).head? = some [])
      ∧ List.Forall₂ SameRun (Lines.runs (Lines.split s)) (Lines.runs (Lines.split t)) := by
  obtain ⟨front, line, next, more, hline, hs, ht⟩ := h.exists_split
  rw [hs, ht]
  refine ⟨?_, ?_⟩
  · cases front with
    | nil => simp [hline]
    | cons first front => rfl
  · exact List.rel_filter (fun run other hsame => by simp [hsame.isEmpty_eq])
      (forall₂_splitOnP_broken front hline next more)

/-- A fold changes no more than the line number of an error. -/
theorem unnumbered_parse_of_foldsOnce {s t : Text} (h : Lines.FoldsOnce s t) :
    (parse s).mapError ManifestError.unnumbered = (parse t).mapError ManifestError.unnumbered := by
  obtain ⟨hhead, hruns⟩ := forall₂_runs_of_foldsOnce h
  rw [parse_eq_ofLines, parse_eq_ofLines]
  exact unnumbered_ofLines hhead hruns

/-- **A text is read the same however often it is folded**: as the same manifest, or with the same
error but for its line number. -/
theorem parse_of_folds {s t : Text} (h : Relation.ReflTransGen Lines.FoldsOnce s t) :
    (∀ m, parse t = .ok m ↔ parse s = .ok m)
      ∧ ∀ e, parse s = .error e → ∃ e', parse t = .error e' ∧ e'.unnumbered = e.unnumbered := by
  apply same_of_unnumbered
  induction h with
  | refl => rfl
  | tail _ hfold ih => rw [ih, unnumbered_parse_of_foldsOnce hfold]

/-- Here the mark behind a name, the end of a continuation line and the name of an entry are folded,
each with another line end. -/
theorem parse_of_folds_three :
    ∃ m, Relation.ReflTransGen Lines.FoldsOnce "A: b\n c\n\nName: x\n"
        "A:\r\n  b\n c\r \n\nN\n ame: x\n"
      ∧ parse "A: b\n c\n\nName: x\n" = .ok m
      ∧ parse "A:\r\n  b\n c\r \n\nN\n ame: x\n" = .ok m
      ∧ m.main.headers = [⟨"A", "bc"⟩] := by
  have hcrlf : (['\r', '\n'] : Text) ∈ Lines.ends := by decide
  have hcr : (['\r'] : Text) ∈ Lines.ends := by decide
  have hlf : (['\n'] : Text) ∈ Lines.ends := by decide
  have hmark : Lines.FoldsOnce "A: b\n c\n\nName: x\n"
      "A:\r\n  b\n c\n\nName: x\n" :=
    .behind "A" (c := ':') (by decide) (by decide) hcrlf " b\n c\n\nName: x\n"
  have hend : Lines.FoldsOnce "A:\r\n  b\n c\n\nName: x\n"
      "A:\r\n  b\n c\r \n\nName: x\n" :=
    .behind "A:\r\n  b\n " (c := 'c') (by decide) (by decide) hcr
      "\n\nName: x\n"
  have hname : Lines.FoldsOnce "A:\r\n  b\n c\r \n\nName: x\n"
      "A:\r\n  b\n c\r \n\nN\n ame: x\n" :=
    .behind "A:\r\n  b\n c\r \n\n" (c := 'N') (by decide) (by decide) hlf
      "ame: x\n"
  have hfolds := ((Relation.ReflTransGen.single hmark).tail hend).tail hname
  obtain ⟨m, hm, hmain⟩ := exists_ok_of_toOption (e := parse "A: b\n c\n\nName: x\n")
    (f := fun m => m.main.headers) (b := [⟨"A", "bc"⟩]) (by decide +kernel)
  exact ⟨m, hfolds, hm, ((parse_of_folds hfolds).1 m).2 hm, hmain⟩

end Manifest

end Wab
