import Mathlib.Data.List.Forall2
import Mathlib.Data.List.SplitBy
import Wab.Proofs.Unfolding

/-! # Which headers a section has

The headers of a section are described without saying how they are read: lines that begin with a
space are joined to the ones before them, and each logical line spells a header, with the mark
between name and value or with a colon at its end.

* **`Manifest.joined`** — the logical lines of a run of lines.
* **`Manifest.exists_of_logicalLines`** — the number and the text of a logical line.
* **`Manifest.Spells`** — a logical line spells a header.
* **`Manifest.Reads`** — a run of lines has these headers.
* **`Manifest.readSection_eq_ok_iff`** — the headers that are read are those that a section has. -/

namespace Wab.Manifest

/-! ## Logical lines -/

/-- The logical lines of a run: each line that begins with a space is joined, without the space, to
the one before it. -/
def joined (run : List Text) : List Text :=
  (run.splitBy fun _ next => continues next).map Folding.rejoin

@[simp] theorem joined_nil : joined [] = [] := rfl

/-- A line and those that continue it are one logical line. -/
theorem joined_of_continues {first : Text} {rest : List Text}
    (h : ∀ l ∈ rest, continues l = true) :
    joined (first :: rest) = [first ++ rest.flatMap List.tail] := by
  have hchain : (first :: rest).IsChain fun _ next => continues next = true := by
    induction rest generalizing first with
    | nil => exact .singleton first
    | cons next rest ih =>
        exact .cons_cons (h next List.mem_cons_self)
          (ih fun l hl => h l (List.mem_cons_of_mem _ hl))
  rw [joined, List.splitBy_of_isChain (List.cons_ne_nil _ _) hchain, List.map_singleton,
    Folding.rejoin_cons]

/-- Lines that begin with a logical line of their own are joined by themselves. -/
theorem joined_append {more : List Text} (h : ∀ l ∈ more.head?, continues l = false)
    (lines : List Text) : joined (lines ++ more) = joined lines ++ joined more := by
  rw [joined, List.splitBy_append fun _ _ next hnext => h next hnext, List.map_append]
  rfl

/-- What the lines that continue another one are followed by does not continue it. -/
theorem continues_head_dropWhile (rest : List Text) :
    ∀ l ∈ (rest.dropWhile continues).head?, continues l = false := by
  intro l hl
  have hhead := List.head?_dropWhile_not continues rest
  rw [Option.mem_def.1 hl] at hhead
  exact hhead

/-- The lines in front of the first one that continues no other one do so. -/
theorem continues_of_mem_takeWhile (rest : List Text) :
    ∀ l ∈ rest.takeWhile continues, continues l = true :=
  List.all_eq_true.1 List.all_takeWhile

/-- The first logical line is the first line with those that continue it. -/
theorem joined_cons (first : Text) (rest : List Text) :
    joined (first :: rest)
      = (first ++ (rest.takeWhile continues).flatMap List.tail)
        :: joined (rest.dropWhile continues) := by
  conv_lhs => rw [← List.takeWhile_append_dropWhile (p := continues) (l := rest)]
  rw [← List.cons_append, joined_append (continues_head_dropWhile rest),
    joined_of_continues (continues_of_mem_takeWhile rest)]
  rfl

/-- The logical line that begins with a line: the line itself and, without their spaces, the lines
behind it that continue it. -/
def unfolded (first : Text) (rest : List Text) : Text :=
  first ++ (rest.takeWhile continues).flatMap List.tail

/-- The first logical line has the number of the first line, and the next one that of the line
behind those that continue it. -/
theorem logicalLines_cons_eq (line : Nat) (first : Text) (rest : List Text) :
    logicalLines line (first :: rest)
      = (line, unfolded first rest)
        :: logicalLines (line + (rest.takeWhile continues).length + 1)
            (rest.dropWhile continues) := by
  conv_lhs => rw [← List.takeWhile_append_dropWhile (p := continues) (l := rest)]
  rw [← List.cons_append, logicalLines_append (continues_head_dropWhile rest), logicalLines_cons,
    unfoldFrom_continuations (continues_of_mem_takeWhile rest)]
  rfl

/-- What holds of no line, and of a line with more behind it if it holds of what begins with the
next logical line, holds of every run of lines. -/
@[elab_as_elim]
theorem logicalInduction {motive : List Text → Prop} (nil : motive [])
    (cons : ∀ first rest, motive (rest.dropWhile continues) → motive (first :: rest))
    (run : List Text) : motive run := by
  induction hlength : run.length using Nat.strong_induction_on generalizing run with
  | _ n ih =>
    cases run with
    | nil => exact nil
    | cons first rest =>
        have hshorter : (rest.dropWhile continues).length < n := by
          rw [← hlength, List.length_cons]
          exact Nat.lt_succ_of_le (List.dropWhile_suffix continues).length_le
        exact cons first rest (ih _ hshorter _ rfl)

/-- **The logical lines of a section**, their numbers left out. -/
theorem map_snd_logicalLines (line : Nat) (run : List Text) :
    (logicalLines line run).map (·.2) = joined run := by
  induction run using logicalInduction generalizing line with
  | nil => rfl
  | cons first rest ih =>
      rw [logicalLines_cons_eq, List.map_cons, ih, joined_cons]
      rfl

/-- **Each logical line has the number of the line that it begins with**, and those before it are
the logical lines of the lines in front of that line. -/
theorem exists_of_logicalLines {line : Nat} {run : List Text} {before after : List (Nat × Text)}
    {logical : Nat × Text} (h : logicalLines line run = before ++ logical :: after) :
    ∃ earlier first rest, run = earlier ++ first :: rest
      ∧ (earlier ≠ [] → continues first = false) ∧ before = logicalLines line earlier
      ∧ logical = (line + earlier.length, unfolded first rest) := by
  induction run using logicalInduction generalizing line before with
  | nil => exact absurd h (by simp)
  | cons first rest ih =>
      rw [logicalLines_cons_eq] at h
      cases before with
      | nil =>
          exact ⟨[], first, rest, rfl, fun hne => absurd rfl hne, rfl, (List.cons.inj h).1.symm⟩
      | cons b before =>
          obtain ⟨rfl, hlater⟩ := List.cons.inj h
          obtain ⟨earlier, next, more, hdrop, hnext, rfl, rfl⟩ := ih hlater
          have hmore := continues_head_dropWhile rest
          rw [hdrop] at hmore
          have hearlier : ∀ l ∈ earlier.head?, continues l = false := by
            intro l hl
            apply hmore l
            rw [List.head?_append, Option.mem_def.1 hl]
            rfl
          refine ⟨first :: rest.takeWhile continues ++ earlier, next, more, ?_, fun _ => ?_, ?_, ?_⟩
          · rw [List.append_assoc, ← hdrop, List.cons_append, List.takeWhile_append_dropWhile]
          · cases earlier with
            | nil => exact hmore next rfl
            | cons l earlier => exact hnext (List.cons_ne_nil l earlier)
          · rw [logicalLines_append hearlier, logicalLines_cons,
              unfoldFrom_continuations (continues_of_mem_takeWhile rest)]
            rfl
          · rw [List.length_append, List.length_cons]
            exact congrArg (·, unfolded next more) (by omega)

/-! ## Headers -/

/-- A logical line spells a header. -/
inductive Spells : Text → Header → Prop where
  /-- The name is what stands before the first mark, and the value what stands behind it. -/
  | marked {name value : Text} (hname : name ≠ [])
    (hfirst : ∀ before after, name ++ separator ++ value = before ++ separator ++ after →
      name.length ≤ before.length) : Spells (name ++ separator ++ value) ⟨name, value⟩
  /-- The line ends with a colon and has no mark: the value is empty. -/
  | bare {name : Text} (hname : name ≠ []) (hmark : ¬ separator <:+: name ++ [.scalar ':']) :
    Spells (name ++ [.scalar ':']) ⟨name, []⟩

/-- A logical line has a name and a value if it has the mark or ends with a colon. -/
theorem splitHeader?_eq_some_iff {content name value : Text} :
    splitHeader? content = some (name, value)
      ↔ (content = name ++ separator ++ value
          ∧ ∀ before after, content = before ++ separator ++ after → name.length ≤ before.length)
        ∨ ¬ separator <:+: content ∧ content = name ++ [.scalar ':'] ∧ value = [] := by
  rw [splitHeader?, ← Text.cut?_eq_some_iff, ← Text.cut?_eq_none_iff]
  cases Text.cut? separator content with
  | some parts => simp
  | none =>
      simp only [reduceCtorEq, false_or, true_and]
      constructor
      · intro h
        split at h
        next hcolon =>
          obtain ⟨rfl, rfl⟩ := Prod.mk.inj (Option.some.inj h)
          obtain ⟨rest, rfl⟩ := List.getLast?_eq_some_iff.1 hcolon
          exact ⟨by rw [List.dropLast_concat], rfl⟩
        next => exact absurd h (by simp)
      · rintro ⟨rfl, rfl⟩
        rw [List.getLast?_concat, List.dropLast_concat, if_pos rfl]

/-- A logical line spells a header if it has its name and value and the name is not empty. -/
theorem spells_iff {content : Text} {h : Header} :
    Spells content h ↔ h.name ≠ [] ∧ splitHeader? content = some (h.name, h.value) := by
  rw [splitHeader?_eq_some_iff]
  constructor
  · intro hspells
    cases hspells with
    | marked hname hfirst => exact ⟨hname, Or.inl ⟨rfl, hfirst⟩⟩
    | bare hname hmark => exact ⟨hname, Or.inr ⟨hmark, rfl, rfl⟩⟩
  · obtain ⟨name, value⟩ := h
    rintro ⟨hname, ⟨rfl, hfirst⟩ | ⟨hmark, rfl, rfl⟩⟩
    · exact .marked hname hfirst
    · exact .bare hname hmark

/-- A logical line is read as the header that it spells. -/
theorem ofLine_eq_ok_iff {line : Nat} {content : Text} {n : NamedLine} :
    NamedLine.ofLine line content = .ok n ↔ n.line = line ∧ Spells content n.header := by
  rw [spells_iff, NamedLine.ofLine, NamedLine.header]
  cases splitHeader? content with
  | none => simp
  | some parts =>
      obtain ⟨name, value⟩ := parts
      obtain ⟨l, m, v⟩ := n
      cases name with
      | nil => simp +contextual [eq_comm]
      | cons c name => simp +contextual [eq_comm]

/-- Logical lines are read as the headers that they spell. -/
theorem readLines_eq_ok_iff {numbered : List (Nat × Text)} {headers : List Header} :
    (∃ named, readLines numbered = .ok named ∧ named.map NamedLine.header = headers)
      ↔ List.Forall₂ Spells (numbered.map (·.2)) headers := by
  induction numbered generalizing headers with
  | nil =>
      rw [readLines_nil, List.map_nil, List.forall₂_nil_left_iff]
      constructor
      · rintro ⟨named, hnamed, rfl⟩
        rw [← Except.ok.inj hnamed, List.map_nil]
      · rintro rfl
        exact ⟨[], rfl, rfl⟩
  | cons logical numbered ih =>
      obtain ⟨line, content⟩ := logical
      rw [readLines_cons, List.map_cons, List.forall₂_cons_left_iff]
      constructor
      · rintro ⟨named, hnamed, rfl⟩
        obtain ⟨first, hfirst, hnamed⟩ := bind_eq_ok.1 hnamed
        obtain ⟨rest, hrest, hnamed⟩ := bind_eq_ok.1 hnamed
        rw [← Except.ok.inj hnamed]
        exact ⟨first.header, rest.map NamedLine.header, (ofLine_eq_ok_iff.1 hfirst).2,
          ih.1 ⟨rest, hrest, rfl⟩, rfl⟩
      · rintro ⟨h, headers, hspells, hmore, rfl⟩
        obtain ⟨rest, hrest, rfl⟩ := ih.2 hmore
        have hfirst : NamedLine.ofLine line content = .ok ⟨line, h.name, h.value⟩ :=
          ofLine_eq_ok_iff.2 ⟨rfl, hspells⟩
        refine ⟨⟨line, h.name, h.value⟩ :: rest, ?_, rfl⟩
        rw [hfirst, ok_bind, hrest]
        rfl

/-! ## Sections -/

/-- A run of lines has these headers: it does not begin with a space, and its logical lines spell
them. -/
def Reads (run : List Text) (headers : List Header) : Prop :=
  (∀ l ∈ run.head?, continues l = false) ∧ List.Forall₂ Spells (joined run) headers

/-- **The headers that are read from a section are those that it has.** -/
theorem readSection_eq_ok_iff {s : Lines.Section} {headers : List Header} :
    (∃ named, readSection s = .ok named ∧ named.map NamedLine.header = headers)
      ↔ Reads s.lines headers := by
  have hfirst : (∀ l ∈ s.lines.head?, continues l = false) ↔ continues s.first = false := by
    simp [Lines.Section.lines]
  rw [Reads, hfirst, ← map_snd_logicalLines s.start, ← readLines_eq_ok_iff, readSection_eq]
  cases continues s.first with
  | true => simp
  | false => simp

end Wab.Manifest
