import Wab.Manifest.Folding
import Wab.Proofs.Outcome
import Wab.Proofs.Utf8

/-! # What folding keeps

Folding cuts a logical line into chunks from which the line can be read back: each chunk but the
first begins with a space that does not count, and nothing else is added or lost. A surrogate is the
only obstacle.

* **`Folding.chunks line`** — the chunks of a logical line, where a surrogate takes no bytes.
* **`Folding.fold_eq`** — the chunks are what a line is folded to, unless it has a surrogate.
* **`Folding.rejoin chunks`** — the line that chunks stand for.
* **`Folding.rejoin_chunks`** — the chunks of a line stand for the line.
* **`Folding.chunks_append`** — a beginning of the line that has room is not cut. -/

namespace Wab

/-- The flaw of a surrogate that is encoded by itself. -/
def Utf8.Flaw.alone (n : Fin 0x800) : Utf8.Flaw := ⟨0, n, 0⟩

namespace Folding

/-- The chunks of the rest of a line, the first of which goes on where `used` bytes are taken. -/
def chunksAfter (used : Nat) : Text → List Text
  | [] => [[]]
  | c :: rest =>
    if used + c.width ≤ maxBytes then (chunksAfter (used + c.width) rest).modifyHead (c :: ·)
    else [] :: (chunksAfter (1 + c.width) rest).modifyHead (.scalar ' ' :: c :: ·)

/-- The chunks of a logical line. -/
def chunks (line : Text) : List Text := chunksAfter 0 line

@[simp] theorem chunksAfter_nil (used : Nat) : chunksAfter used [] = [[]] := rfl

theorem chunksAfter_cons (used : Nat) (c : CodePoint) (rest : Text) :
    chunksAfter used (c :: rest)
      = if used + c.width ≤ maxBytes then (chunksAfter (used + c.width) rest).modifyHead (c :: ·)
        else [] :: (chunksAfter (1 + c.width) rest).modifyHead (.scalar ' ' :: c :: ·) := rfl

/-- The rest of a line is folded to its chunks, unless a surrogate comes first. -/
theorem foldAfter_eq (used : Nat) (line : Text) :
    foldAfter used line
      = outcome ((Text.surrogate? line).map Utf8.Flaw.alone) (chunksAfter used line) := by
  induction line generalizing used with
  | nil => rfl
  | cons c line ih =>
      cases c with
      | surrogate n => rfl
      | scalar c =>
          have hsize : Utf8.encode [.scalar c] = .ok (Utf8.bytes [c]) := Utf8.encode_map_scalar [c]
          have hlength : (Utf8.bytes [c]).length = CodePoint.width (.scalar c) := by
            rw [Utf8.bytes_cons, List.length_append, String.length_utf8EncodeChar]
            rfl
          have hrest : Text.surrogate? (.scalar c :: line) = Text.surrogate? line := rfl
          simp only [foldAfter, hsize, ok_bind, hlength, ih, chunksAfter_cons, hrest]
          split
          · cases Text.surrogate? line <;> rfl
          · cases Text.surrogate? line <;> rfl

/-- **A line is folded to its chunks**, unless there is a surrogate in it. -/
theorem fold_eq (line : Text) :
    fold line = outcome ((Text.surrogate? line).map Utf8.Flaw.alone) (chunks line) :=
  foldAfter_eq 0 line

/-- A line is folded if and only if it has no surrogate, and then to its chunks. -/
theorem fold_eq_ok_iff {line : Text} {cs : List Text} :
    fold line = .ok cs ↔ Text.surrogate? line = none ∧ chunks line = cs := by
  rw [fold_eq]
  cases Text.surrogate? line with
  | none => simp
  | some n => simp

/-- The line that chunks stand for: of each chunk but the first one the first character does not
count. -/
def rejoin : List Text → Text
  | [] => []
  | first :: rest => first ++ rest.flatMap List.tail

@[simp] theorem rejoin_cons (first : Text) (rest : List Text) :
    rejoin (first :: rest) = first ++ rest.flatMap List.tail := rfl

/-- There is a first chunk, which may be empty. -/
theorem chunksAfter_eq_cons (used : Nat) (line : Text) :
    ∃ first rest, chunksAfter used line = first :: rest := by
  induction line generalizing used with
  | nil => exact ⟨[], [], rfl⟩
  | cons c line ih =>
      rw [chunksAfter_cons]
      split
      · obtain ⟨first, rest, h⟩ := ih (used + c.width)
        exact ⟨c :: first, rest, by rw [h, List.modifyHead_cons]⟩
      · exact ⟨[], _, rfl⟩

/-- The chunks of a line stand for the line. -/
theorem rejoin_chunksAfter (used : Nat) (line : Text) : rejoin (chunksAfter used line) = line := by
  induction line generalizing used with
  | nil => rfl
  | cons c line ih =>
      rw [chunksAfter_cons]
      split
      · obtain ⟨first, rest, h⟩ := chunksAfter_eq_cons (used + c.width) line
        have hline := ih (used + c.width)
        rw [h, rejoin_cons] at hline
        rw [h, List.modifyHead_cons, rejoin_cons, List.cons_append, hline]
      -- The space that a new chunk begins with is the one that does not count.
      · obtain ⟨first, rest, h⟩ := chunksAfter_eq_cons (1 + c.width) line
        have hline := ih (1 + c.width)
        rw [h, rejoin_cons] at hline
        rw [h, List.modifyHead_cons, rejoin_cons, List.nil_append, List.flatMap_cons,
          List.tail_cons, List.cons_append, hline]

/-- **The chunks of a line stand for the line.** -/
theorem rejoin_chunks (line : Text) : rejoin (chunks line) = line := rejoin_chunksAfter 0 line

/-- Each chunk but the first one is a space with at least one character behind it. -/
theorem eq_space_cons_of_mem_tail {used : Nat} {line chunk : Text}
    (h : chunk ∈ (chunksAfter used line).tail) : ∃ c rest, chunk = .scalar ' ' :: c :: rest := by
  induction line generalizing used with
  | nil => exact absurd h (by simp)
  | cons c line ih =>
      rw [chunksAfter_cons] at h
      split at h
      · rw [List.tail_modifyHead] at h
        exact ih h
      · obtain ⟨first, rest, hrest⟩ := chunksAfter_eq_cons (1 + c.width) line
        have htail := @ih (1 + c.width)
        rw [hrest, List.tail_cons] at htail
        rw [hrest, List.modifyHead_cons, List.tail_cons, List.mem_cons] at h
        rcases h with rfl | h
        · exact ⟨c, first, rfl⟩
        · exact htail h

/-- A beginning of the rest of a line goes to the chunk at hand as a whole if there is room for it,
and the folding goes on behind it. -/
theorem chunksAfter_append {used : Nat} {start : Text} (h : used + Text.byteLength start ≤ maxBytes)
    (line : Text) :
    chunksAfter used (start ++ line)
      = (chunksAfter (used + Text.byteLength start) line).modifyHead (start ++ ·) := by
  induction start generalizing used with
  | nil =>
      obtain ⟨first, rest, hchunks⟩ := chunksAfter_eq_cons used line
      rw [List.nil_append, Text.byteLength_nil, Nat.add_zero, hchunks]
      rfl
  | cons c start ih =>
      rw [Text.byteLength_cons] at h
      rw [List.cons_append, chunksAfter_cons, if_pos (by omega), ih (by omega),
        List.modifyHead_modifyHead, Text.byteLength_cons, Nat.add_assoc]
      rfl

/-- The first chunk begins with every beginning of the line for which it has room. -/
theorem chunks_append {start : Text} (h : Text.byteLength start ≤ maxBytes) (line : Text) :
    ∃ first rest, chunks (start ++ line) = (start ++ first) :: rest := by
  obtain ⟨first, rest, hchunks⟩ := chunksAfter_eq_cons (0 + Text.byteLength start) line
  refine ⟨first, rest, ?_⟩
  rw [chunks, chunksAfter_append (by omega), hchunks, List.modifyHead_cons]

/-- The first chunk begins with the first character of the line. -/
theorem chunks_cons (c : CodePoint) (line : Text) :
    ∃ first rest, chunks (c :: line) = (c :: first) :: rest := by
  have hroom : Text.byteLength [c] ≤ maxBytes := by
    have hsize := c.width_le_four
    simp only [Text.byteLength_cons, Text.byteLength_nil, maxBytes]
    omega
  exact chunks_append hroom line

/-- The characters of the chunks are those of the line and spaces. -/
theorem mem_of_mem_chunksAfter {used : Nat} {line chunk : Text} {x : CodePoint}
    (h : chunk ∈ chunksAfter used line) (hx : x ∈ chunk) : x ∈ line ∨ x = ' ' := by
  have hline := rejoin_chunksAfter used line
  obtain ⟨first, rest, hchunks⟩ := chunksAfter_eq_cons used line
  rw [hchunks, rejoin_cons] at hline
  rw [hchunks, List.mem_cons] at h
  rcases h with rfl | h
  · exact Or.inl (hline ▸ List.mem_append_left _ hx)
  · obtain ⟨c, more, rfl⟩ := eq_space_cons_of_mem_tail (by rw [hchunks]; exact h)
    rw [List.mem_cons] at hx
    rcases hx with rfl | hx
    · exact Or.inr rfl
    · refine Or.inl (hline ▸ List.mem_append_right _ ?_)
      exact List.mem_flatMap.2 ⟨_, h, hx⟩

end Folding

end Wab
