import Mathlib.Data.List.TakeDrop
import Wab.Proofs.Outcome
import Wab.Uri.Resolve

/-! # References that cannot be taken apart

Nothing but the host part of a reference can be wrong, and whether it is depends neither on the
scheme that the reference is read with nor on the place where it stands. A reference that is wrong
holds a square bracket or a character that looks like a delimiter.

* **`Uri.flaw?`** — what is wrong with a reference.
* **`Uri.failure?_join`** — a reference cannot be resolved if and only if something is wrong with
  it.
* **`Uri.exists_mem_of_flaw?`** — the characters that make a reference wrong. -/

namespace Wab.Uri

/-- The host part of a reference. -/
def hostOf (ref : Text) : Text := (splitHost (splitScheme [] (bare ref)).2).1

/-- The host part is in order. -/
def checkHost (host : Text) : Except Error Unit := do
  checkBrackets host
  checkPlain host

/-- What is wrong with a reference. -/
def flaw? (ref : Text) : Option Error := failure? (checkHost (hostOf ref))

/-! ## Taking apart -/

/-- What stands behind the scheme of a text does not depend on the scheme that it is given. -/
theorem splitScheme_snd (scheme s : Text) : (splitScheme scheme s).2 = (splitScheme [] s).2 := by
  rw [splitScheme, splitScheme]
  split
  next before after _ =>
    split
    next => rfl
    next => rfl
  next => rfl

/-- **A text cannot be taken apart if and only if something is wrong with its host part.** -/
theorem failure?_split (scheme s : Text) : failure? (split scheme s) = flaw? s := by
  rw [flaw?, hostOf, ← splitScheme_snd scheme, split]
  generalize splitScheme scheme (bare s) = parts
  obtain ⟨scheme, rest⟩ := parts
  dsimp only
  generalize splitHost rest = parts
  obtain ⟨host, rest⟩ := parts
  dsimp only
  rw [checkHost]
  cases checkBrackets host with
  | error e => rfl
  | ok _ =>
      rw [ok_bind, ok_bind]
      cases checkPlain host with
      | error e => rfl
      | ok _ => rfl

/-- Nothing is wrong with an empty reference. -/
theorem flaw?_nil : flaw? [] = none := rfl

/-- **A reference cannot be resolved if and only if something is wrong with it**, wherever it
stands. -/
theorem failure?_join {base : Text} (hne : base ≠ []) (hbase : flaw? base = none) (ref : Text) :
    failure? (join base ref) = flaw? ref := by
  rw [← failure?_split [], failure?_eq_none_iff] at hbase
  obtain ⟨b, hb⟩ := hbase
  rw [join, if_neg (by simpa using hne)]
  by_cases href : ref.isEmpty = true
  · rw [if_pos href, List.isEmpty_iff.1 href, flaw?_nil]
    rfl
  · rw [if_neg href, hb, ok_bind, ← failure?_split b.scheme]
    cases split b.scheme ref with
    | error e => rfl
    | ok r =>
        rw [ok_bind]
        split
        next => rfl
        next => rfl

/-! ## Places of references -/

/-- A scheme holds no slash. -/
theorem isScheme_of_slash {s : Text} (h : .scalar '/' ∈ s) : isScheme s = false := by
  cases s with
  | nil => rfl
  | cons c rest =>
      rw [Bool.eq_false_iff, isScheme, ne_eq, Bool.and_eq_true, List.all_eq_true]
      rintro ⟨hfirst, hrest⟩
      rcases List.mem_cons.1 h with rfl | hmem
      · exact absurd hfirst (by decide)
      · exact absurd (hrest _ hmem) (by decide)

/-- A text has no scheme if a slash comes before the first colon. -/
theorem splitScheme_append {folder : Text} (hslash : .scalar '/' ∈ folder)
    (hcolon : .scalar ':' ∉ folder)
    (scheme t : Text) : splitScheme scheme (folder ++ t) = (scheme, folder ++ t) := by
  rw [splitScheme]
  cases hcut : Text.cut? [':'] (folder ++ t) with
  | none => rfl
  | some parts =>
      obtain ⟨before, after⟩ := parts
      -- The colon stands behind the folder, which is therefore part of what would be the scheme.
      have hparts : folder ++ t = before ++ (.scalar ':' :: after) := by
        rw [Text.eq_of_cut? hcut, List.append_assoc, List.singleton_append]
      have hbefore : .scalar '/' ∈ before := by
        rcases List.append_eq_append_iff.1 hparts with ⟨more, rfl, -⟩ | ⟨more, rfl, hmore⟩
        · exact List.mem_append_left _ hslash
        · cases more with
          | nil => rwa [List.append_nil] at hslash
          | cons c more =>
              obtain ⟨rfl, -⟩ := List.cons.inj hmore
              exact absurd (List.mem_append_right _ List.mem_cons_self) hcolon
      simp [isScheme_of_slash hbefore]

/-! ## Wrong characters -/

/-- A host part is cut out of the text. -/
theorem mem_of_mem_splitHost {s : Text} {c : CodePoint} (h : c ∈ (splitHost s).1) : c ∈ s := by
  unfold splitHost at h
  split at h
  next rest =>
    rw [List.span_eq_takeWhile_dropWhile] at h
    exact List.mem_cons_of_mem _ (List.mem_cons_of_mem _ (List.takeWhile_subset _ h))
  next => exact absurd h List.not_mem_nil

/-- What stands behind a scheme is cut out of the text. -/
theorem mem_of_mem_splitScheme {scheme s : Text} {c : CodePoint}
    (h : c ∈ (splitScheme scheme s).2) :
    c ∈ s := by
  rw [splitScheme] at h
  split at h
  next before after hcut =>
    split at h
    next =>
      rw [Text.eq_of_cut? hcut]
      exact List.mem_append_right _ h
    next => exact h
  next => exact h

/-- The host part of a reference is cut out of it. -/
theorem mem_of_mem_hostOf {ref : Text} {c : CodePoint} (h : c ∈ hostOf ref) : c ∈ ref :=
  List.dropWhile_subset _ (List.mem_filter.1 (mem_of_mem_splitScheme (mem_of_mem_splitHost h))).1

/-- **A reference with which something is wrong** holds a square bracket or a character that looks
like a delimiter. -/
theorem exists_mem_of_flaw? {ref : Text} {e : Error} (h : flaw? ref = some e) :
    ∃ c ∈ ref, c = '[' ∨ c = ']' ∨ c ∈ deceptive := by
  rw [flaw?, failure?_eq_some_iff, checkHost, bind_eq_error] at h
  rcases h with hbrackets | ⟨-, -, hplain⟩
  · have hmem : .scalar '[' ∈ hostOf ref ∨ .scalar ']' ∈ hostOf ref := by
      rw [checkBrackets] at hbrackets
      by_contra hnone
      rw [not_or] at hnone
      simp [hnone.1, hnone.2] at hbrackets
    rcases hmem with hopen | hclose
    · exact ⟨'[', mem_of_mem_hostOf hopen, Or.inl rfl⟩
    · exact ⟨']', mem_of_mem_hostOf hclose, Or.inr (Or.inl rfl)⟩
  · rw [checkPlain] at hplain
    split at hplain
    next hany =>
      obtain ⟨c, hc, hdeceptive⟩ := List.any_eq_true.1 hany
      exact ⟨c, mem_of_mem_hostOf hc, Or.inr (Or.inr (by simpa using hdeceptive))⟩
    next => exact absurd hplain (by simp)

end Wab.Uri
