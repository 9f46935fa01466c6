import Wab.Manifest.Parser
import Wab.Proofs.Attributes
import Wab.Proofs.Cut
import Wab.Proofs.Folding
import Wab.Proofs.Lines
import Wab.Proofs.Outcome

/-! # Logical lines

The physical lines of a section are taken together to logical ones. Lines can be taken together part
by part as long as no part begins with a continuation line, so the chunks of folded lines give those
lines.

* **`Manifest.logicalLines`** — the logical lines of physical ones.
* **`Manifest.logicalLines_append`** — logical lines part by part.
* **`Manifest.logicalLines_flatMap_fold`** — the chunks of folded lines are those lines.
* **`Manifest.readSection_eq`**, **`Manifest.store_eq`** — a section is read line by line and stored
  header by header. -/

namespace Wab.Manifest

/-- The line continues the one before it. -/
def continues (line : Text) : Bool := line.head? == some (.scalar ' ')

/-- The numbered logical lines of physical lines, the first of which has a number and begins a
logical one. -/
def logicalLines (line : Nat) : List Text → List (Nat × Text)
  | [] => []
  | first :: rest => unfoldFrom line first (line + 1) rest

@[simp] theorem logicalLines_nil (line : Nat) : logicalLines line [] = [] := rfl

theorem logicalLines_cons (line : Nat) (first : Text) (rest : List Text) :
    logicalLines line (first :: rest) = unfoldFrom line first (line + 1) rest := rfl

/-- A continuation line belongs to the logical line that is open. -/
theorem unfoldFrom_continued {next : Text} (h : continues next = true) (start : Nat)
    (content : Text) (line : Nat) (rest : List Text) :
    unfoldFrom start content line (next :: rest)
      = unfoldFrom start (content ++ next.tail) (line + 1) rest := by
  cases next with
  | nil => exact absurd h (by decide)
  | cons c more =>
      obtain rfl : c = ' ' := by simpa [continues] using h
      rw [unfoldFrom, List.tail_cons]

/-- Another line ends the logical line that is open. -/
theorem unfoldFrom_ended {next : Text} (h : continues next = false) (start : Nat)
    (content : Text) (line : Nat) (rest : List Text) :
    unfoldFrom start content line (next :: rest)
      = (start, content) :: logicalLines line (next :: rest) := by
  have hspace : ∀ more, next ≠ .scalar ' ' :: more := by
    rintro more rfl
    exact absurd h (by simp [continues])
  rw [unfoldFrom, logicalLines_cons]
  exact hspace

/-- Lines that continue the logical line that is open do so one after the other. -/
theorem unfoldFrom_continuations {rest : List Text} (h : ∀ l ∈ rest, continues l = true)
    (start : Nat) (content : Text) (line : Nat) :
    unfoldFrom start content line rest = [(start, content ++ rest.flatMap List.tail)] := by
  induction rest generalizing content line with
  | nil => rw [unfoldFrom, List.flatMap_nil, List.append_nil]
  | cons next rest ih =>
      rw [unfoldFrom_continued (h next List.mem_cons_self),
        ih fun l hl => h l (List.mem_cons_of_mem _ hl), List.flatMap_cons, List.append_assoc]

/-- Further lines that begin with a logical line of their own are taken together by themselves. -/
theorem unfoldFrom_append {more : List Text} (h : ∀ l ∈ more.head?, continues l = false)
    (start : Nat) (content : Text) (line : Nat) (lines : List Text) :
    unfoldFrom start content line (lines ++ more)
      = unfoldFrom start content line lines ++ logicalLines (line + lines.length) more := by
  induction lines generalizing start content line with
  | nil =>
      cases more with
      | nil => simp [unfoldFrom]
      | cons next more =>
          rw [List.nil_append, unfoldFrom_ended (h next rfl)]
          rfl
  | cons next lines ih =>
      have hnumber : line + (next :: lines).length = line + 1 + lines.length := by
        simp only [List.length_cons]
        omega
      -- A continuation line stays with the line that is open, any other one opens the next.
      cases hc : continues next with
      | true =>
          rw [List.cons_append, unfoldFrom_continued hc, ih, unfoldFrom_continued hc, hnumber]
      | false =>
          rw [List.cons_append, unfoldFrom_ended hc, logicalLines_cons, ih, unfoldFrom_ended hc,
            logicalLines_cons, hnumber, List.cons_append]

/-- Logical lines can be taken together part by part as long as no later part begins with a
continuation line. -/
theorem logicalLines_append {more : List Text} (h : ∀ l ∈ more.head?, continues l = false)
    (line : Nat) (lines : List Text) :
    logicalLines line (lines ++ more)
      = logicalLines line lines ++ logicalLines (line + lines.length) more := by
  cases lines with
  | nil => simp
  | cons first lines =>
      have hnumber : line + (first :: lines).length = line + 1 + lines.length := by
        simp only [List.length_cons]
        omega
      rw [List.cons_append, logicalLines_cons, unfoldFrom_append h, logicalLines_cons, hnumber]

/-- **The chunks of a folded line are one logical line.** -/
theorem logicalLines_fold (line : Nat) (content : Text) :
    logicalLines line (Folding.chunks content) = [(line, content)] := by
  have hcontent := Folding.rejoin_chunks content
  obtain ⟨first, rest, hchunks⟩ := Folding.chunksAfter_eq_cons 0 content
  have hspace : ∀ l ∈ rest, continues l = true := by
    intro l hl
    obtain ⟨c, more, rfl⟩ := Folding.eq_space_cons_of_mem_tail (by rw [hchunks]; exact hl)
    rfl
  rw [Folding.chunks, hchunks, Folding.rejoin_cons] at hcontent
  rw [Folding.chunks, hchunks, logicalLines_cons, unfoldFrom_continuations hspace, hcontent]

/-- The text begins a logical line: it is not empty and does not begin with a space. -/
def Begins (content : Text) : Prop := content ≠ [] ∧ continues content = false

/-- The chunks of a line that begins with another character than a space do so too. -/
theorem continues_head_fold {content : Text} (h : Begins content) :
    ∀ l ∈ (Folding.chunks content).head?, continues l = false := by
  obtain ⟨c, rest, rfl⟩ := List.exists_cons_of_ne_nil h.1
  obtain ⟨first, chunks, hchunks⟩ := Folding.chunks_cons c rest
  intro l hl
  rw [hchunks, List.head?_cons, Option.mem_some_iff] at hl
  rw [← hl]
  exact h.2

/-- Folded lines are taken together to the lines that were folded. -/
theorem logicalLines_flatMap_fold {contents : List Text} (h : ∀ c ∈ contents, Begins c)
    (line : Nat) :
    (logicalLines line (contents.flatMap Folding.chunks)).map (·.2) = contents := by
  induction contents generalizing line with
  | nil => rfl
  | cons content contents ih =>
      -- What follows begins with the first chunk of the next line, which is no continuation.
      have hnext : ∀ l ∈ (contents.flatMap Folding.chunks).head?, continues l = false := by
        cases contents with
        | nil => simp
        | cons next contents =>
            obtain ⟨first, rest, hchunks⟩ := Folding.chunksAfter_eq_cons 0 next
            have hhead := continues_head_fold (h next (by simp))
            rw [Folding.chunks, hchunks, List.head?_cons] at hhead
            rw [List.flatMap_cons, Folding.chunks, hchunks, List.cons_append, List.head?_cons]
            exact hhead
      rw [List.flatMap_cons, logicalLines_append hnext, logicalLines_fold, List.map_append,
        ih fun c hc => h c (List.mem_cons_of_mem _ hc)]
      rfl

/-! ## Reading and storing a section -/

/-- The logical lines of a section, unless it begins with a continuation line. -/
theorem unfold_eq (s : Lines.Section) :
    unfold s = if continues s.first then .error (.continuationWithoutHeader s.start)
      else .ok (logicalLines s.start s.lines) := by
  rw [unfold]
  split
  next more hfirst => rw [hfirst, show continues (.scalar ' ' :: more) = true from rfl, if_pos rfl]
  next hspace =>
    have hcontinues : continues s.first = false := by
      cases hfirst : s.first with
      | nil => rfl
      | cons c more =>
          have hc : c ≠ ' ' := by
            rintro rfl
            exact hspace more hfirst
          simp [continues, hc]
    rw [hcontinues]
    rfl

/-- The headers that numbered logical lines are. -/
def readLines (numbered : List (Nat × Text)) : Except ManifestError (List NamedLine) :=
  numbered.mapM fun (line, content) => NamedLine.ofLine line content

@[simp] theorem readLines_nil : readLines [] = .ok [] := rfl

theorem readLines_cons (line : Nat) (content : Text) (numbered : List (Nat × Text)) :
    readLines ((line, content) :: numbered)
      = do return (← NamedLine.ofLine line content) :: (← readLines numbered) :=
  List.mapM_cons

/-- The headers of a section, unless it begins with a continuation line. -/
theorem readSection_eq (s : Lines.Section) :
    readSection s = if continues s.first then .error (.continuationWithoutHeader s.start)
      else readLines (logicalLines s.start s.lines) := by
  rw [readSection, unfold_eq]
  cases continues s.first with
  | true => rfl
  | false => rfl

/-- The header that a named line is, its number left out. -/
def NamedLine.header (n : NamedLine) : Header := ⟨n.name, n.value⟩

/-- Storing named lines is storing their headers. -/
theorem store_eq (a : Attributes) (named : List NamedLine) :
    store a named = (a.insertHeaders (named.map NamedLine.header)).mapError .header := by
  induction named generalizing a with
  | nil => rfl
  | cons first named ih =>
      rw [store, List.foldlM_cons, List.map_cons, Attributes.insertHeaders_cons]
      cases hinsert : a.insert first.name first.value with
      | error e =>
          have hheader : a.insert first.header.name first.header.value = .error e := hinsert
          rw [hheader]
          rfl
      | ok next =>
          have hheader : a.insert first.header.name first.header.value = .ok next := hinsert
          rw [hheader]
          exact ih next

end Wab.Manifest
