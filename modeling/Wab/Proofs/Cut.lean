import Wab.Text.Basic

/-! # Cutting a text at a mark

A text is cut at the first occurrence of a mark. If the first character of the mark does not occur
before, the cut undoes putting the parts together.

* **`Text.cut?_append`** — the mark is found behind a text without its first character.
* **`Text.cut?_eq_some_iff`**, **`Text.cut?_eq_none_iff`** — the mark is found where it first
  occurs, if it occurs at all.
* **`Text.not_mem_of_mem_splitOn`** — a text that is cut at all its marks leaves none of them. -/

namespace Wab.Text

/-- A mark whose first character does not occur does not occur. -/
theorem cut?_of_not_mem {m : CodePoint} {s : Text} (h : m ∉ s) (ms : Text) :
    cut? (m :: ms) s = none := by
  induction s with
  | nil => rfl
  | cons c s ih =>
      rw [List.mem_cons, not_or] at h
      have hstart : startsWith (m :: ms) (c :: s) = false := by
        simp [startsWith, List.isPrefixOf, h.1]
      rw [cut?, hstart, ih h.2]
      rfl

/-- The mark is found behind a text in which its first character does not occur. -/
theorem cut?_append {m : CodePoint} {s : Text} (h : m ∉ s) (ms t : Text) :
    cut? (m :: ms) (s ++ ((m :: ms) ++ t)) = some (s, t) := by
  induction s with
  | nil =>
      have hstart : startsWith (m :: ms) (m :: (ms ++ t)) = true :=
        List.isPrefixOf_iff_prefix.2 (List.prefix_append (m :: ms) t)
      rw [List.nil_append, List.cons_append, cut?, hstart]
      simp
  | cons c s ih =>
      rw [List.mem_cons, not_or] at h
      have hstart : startsWith (m :: ms) (c :: (s ++ ((m :: ms) ++ t))) = false := by
        simp [startsWith, List.isPrefixOf, h.1]
      rw [List.cons_append, cut?, hstart, ih h.2]
      rfl

/-! ## The first occurrence -/

/-- A mark is found no later than where it occurs. -/
theorem length_le_of_cut? {mark s before after b a : Text} (h : cut? mark s = some (before, after))
    (hs : s = b ++ mark ++ a) : before.length ≤ b.length := by
  induction s generalizing before b with
  | nil =>
      rw [cut?] at h
      split at h
      next =>
        rw [← (Prod.mk.inj (Option.some.inj h)).1]
        exact Nat.zero_le _
      next => exact absurd h (by simp)
  | cons c rest ih =>
      rw [cut?] at h
      split at h
      next =>
        rw [← (Prod.mk.inj (Option.some.inj h)).1]
        exact Nat.zero_le _
      next hstart =>
        obtain ⟨⟨before', after'⟩, hcut, hparts⟩ := Option.map_eq_some_iff.1 h
        obtain ⟨rfl, rfl⟩ := Prod.mk.inj hparts
        cases b with
        | nil =>
            -- The mark would stand at the very beginning.
            rw [List.nil_append] at hs
            exact absurd (List.isPrefixOf_iff_prefix.2 ⟨a, hs.symm⟩) hstart
        | cons d b =>
            obtain ⟨-, hrest⟩ := List.cons.inj hs
            exact Nat.succ_le_succ (ih hcut hrest)

/-- A mark is found if and only if it occurs. -/
theorem cut?_eq_none_iff {mark s : Text} : cut? mark s = none ↔ ¬ mark <:+: s := by
  constructor
  · rintro h ⟨b, a, rfl⟩
    induction b with
    | nil =>
        rw [List.nil_append] at h
        cases hs : mark ++ a with
        | nil =>
            rw [hs, cut?] at h
            exact absurd h (by simp [(List.append_eq_nil_iff.1 hs).1])
        | cons c rest =>
            have hstart : startsWith mark (c :: rest) = true :=
              List.isPrefixOf_iff_prefix.2 ⟨a, hs⟩
            rw [hs, cut?, if_pos hstart] at h
            exact absurd h (by simp)
    | cons d b ih =>
        rw [List.cons_append, List.cons_append, cut?] at h
        split at h
        next => exact absurd h (by simp)
        next => exact ih (Option.map_eq_none_iff.1 h)
  · intro h
    cases hcut : cut? mark s with
    | none => rfl
    | some parts => exact absurd ⟨parts.1, parts.2, (eq_of_cut? hcut).symm⟩ h

theorem includes_iff {part s : Text} : includes part s = true ↔ part <:+: s := by
  rw [includes, Option.isSome_iff_ne_none, ne_eq, cut?_eq_none_iff, Classical.not_not]

/-- **A text is cut where the mark first occurs.** -/
theorem cut?_eq_some_iff {mark s before after : Text} :
    cut? mark s = some (before, after)
      ↔ s = before ++ mark ++ after
        ∧ ∀ b a, s = b ++ mark ++ a → before.length ≤ b.length := by
  constructor
  · exact fun h => ⟨eq_of_cut? h, fun b a hs => length_le_of_cut? h hs⟩
  · rintro ⟨hs, hfirst⟩
    cases hcut : cut? mark s with
    | none => exact absurd ⟨before, after, hs.symm⟩ (cut?_eq_none_iff.1 hcut)
    | some parts =>
        obtain ⟨b, a⟩ := parts
        have hb := eq_of_cut? hcut
        -- Both are places where the mark first occurs, so they are the same place.
        have hlength : before.length = b.length :=
          Nat.le_antisymm (hfirst b a hb) (length_le_of_cut? hcut hs)
        have hjoined : before ++ (mark ++ after) = b ++ (mark ++ a) := by
          rw [← List.append_assoc, ← List.append_assoc, ← hs, ← hb]
        obtain ⟨rfl, hrest⟩ := List.append_inj hjoined hlength
        rw [List.append_cancel_left hrest]

/-! ## All occurrences -/

/-- A piece of a text holds nothing but what is in the text, and nothing at which it is cut. -/
theorem mem_and_eq_false_of_mem_splitOnP {p : CodePoint → Bool} {s piece : Text}
    (h : piece ∈ s.splitOnP p) {c : CodePoint} (hc : c ∈ piece) : c ∈ s ∧ p c = false := by
  induction s generalizing piece with
  | nil =>
      rw [List.mem_singleton.1 h] at hc
      exact absurd hc List.not_mem_nil
  | cons d s ih =>
      have hlater {other : Text} (hother : other ∈ s.splitOnP p) (hmem : c ∈ other) :
          c ∈ d :: s ∧ p c = false := (ih hother hmem).imp_left (List.mem_cons_of_mem d)
      rw [List.splitOnP_cons_eq_if_modifyHead] at h
      split at h
      next =>
        rcases List.mem_cons.1 h with rfl | h
        · exact absurd hc List.not_mem_nil
        · exact hlater h hc
      next hd =>
        obtain ⟨first, rest, hs⟩ := List.exists_cons_of_ne_nil (List.splitOnP_ne_nil p s)
        rw [hs] at h hlater
        rw [List.modifyHead_cons] at h
        rcases List.mem_cons.1 h with rfl | h
        · rcases List.mem_cons.1 hc with rfl | hc
          · exact ⟨List.mem_cons_self, Bool.eq_false_iff.2 hd⟩
          · exact hlater List.mem_cons_self hc
        · exact hlater (List.mem_cons_of_mem _ h) hc

/-- No piece holds the mark at which it was cut off. -/
theorem not_mem_of_mem_splitOn {mark : CodePoint} {s piece : Text} (h : piece ∈ s.splitOn mark) :
    mark ∉ piece := by
  intro hmark
  have hcut := (mem_and_eq_false_of_mem_splitOnP h hmark).2
  simp at hcut

/-- A text without the mark is one piece. -/
theorem splitOn_of_not_mem {mark : CodePoint} {s : Text} (h : mark ∉ s) : s.splitOn mark = [s] := by
  refine List.splitOnP_eq_singleton fun c hc => ?_
  rw [beq_eq_false_iff_ne]
  rintro rfl
  exact h hc

end Wab.Text
