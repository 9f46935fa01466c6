import Wab.Bundle.Headers
import Wab.Proofs.Attributes
import Wab.Proofs.Outcome
import Wab.Proofs.Params

/-! # The headers that the steps write

Each step that settles a header or passes parameters on stores a list of headers, which depends only
on the parameters and on what the section has under the names in question. Steps about different
names do not disturb one another, so the lists of several steps follow each other.

* **`Bundle.settled`**, **`Bundle.passed`** — the headers that a step writes.
* **`Bundle.settleAll_eq`** — headers of different names are settled as if each was the first.
* **`Bundle.passThrough_eq_ok`** — parameters are passed on as the headers that they stand for. -/

namespace Wab.Bundle

/-! ## Settled headers -/

/-- The header that settling a name writes, if it is to have a value. -/
def settled (key : Text) (default : Option Text) (params : Params) (a : Attributes) : List Header :=
  (chosen? key default params a).toList.map (Header.mk key)

/-- Settling a header stores it. -/
theorem settle_eq {a : Attributes} (ha : a.WellFormed) (key : Text) (default : Option Text)
    (params : Params) :
    settle key default params a = a.insertHeaders (settled key default params a) := by
  rw [settle, settled]
  cases chosen? key default params a with
  | none => rfl
  | some value =>
      have hone : a.insertHeaders [⟨key, value⟩] = a.insert key value := by
        rw [Attributes.insertHeaders_cons]
        cases a.insert key value with
        | error e => rfl
        | ok b => rfl
      show (if a.get? key = some value then _ else _) = a.insertHeaders [⟨key, value⟩]
      rw [hone]
      -- A value that is there already is not stored again, which makes no difference.
      by_cases hvalue : a.get? key = some value
      · rw [if_pos hvalue, ha.insert_of_get? hvalue]
      · rw [if_neg hvalue]

/-- Among headers of other names there is no value of a name. -/
theorem lastValue?_eq_none {headers : List Header} {key : Text}
    (h : ∀ header ∈ headers, HeaderName.same header.name key = false) :
    Attributes.lastValue? headers key = none := by
  rw [Attributes.lastValue?, List.findSome?_eq_none_iff]
  intro header hheader
  rw [h header (List.mem_reverse.1 hheader)]
  rfl

/-- What is settled under a name does not depend on headers of other names. -/
theorem settled_of_insertHeaders {a b : Attributes} {headers : List Header}
    (h : a.insertHeaders headers = .ok b) {key : Text}
    (hkey : ∀ header ∈ headers, HeaderName.same header.name key = false) (default : Option Text)
    (params : Params) : settled key default params b = settled key default params a := by
  have hget : b.get? key = a.get? key := by
    rw [Attributes.get?_insertHeaders h, lastValue?_eq_none hkey]
    rfl
  rw [settled, settled, chosen?, chosen?, hget]

/-- A settled header has the name that it was settled under. -/
theorem name_of_mem_settled {key : Text} {default : Option Text} {params : Params} {a : Attributes}
    {h : Header} (hh : h ∈ settled key default params a) : h.name = key := by
  obtain ⟨value, -, rfl⟩ := List.mem_map.1 hh
  rfl

/-- The value that a settled header has. -/
theorem lastValue?_settled (key : Text) (default : Option Text) (params : Params) (a : Attributes)
    (name : Text) :
    Attributes.lastValue? (settled key default params a) name
      = if HeaderName.same key name then chosen? key default params a else none := by
  rw [settled]
  cases chosen? key default params a with
  | none => simp
  | some value => exact Attributes.lastValue?_singleton key value name

/-- Settles headers in order, each with its default. -/
def settleAll (steps : List (Text × Option Text)) (params : Params) (a : Attributes) :
    Except AttributeError Attributes :=
  steps.foldlM (fun a step => settle step.1 step.2 params a) a

/-- The headers that settling several names writes. -/
def settledAll (steps : List (Text × Option Text)) (params : Params) (a : Attributes) :
    List Header :=
  steps.flatMap fun step => settled step.1 step.2 params a

/-- What is settled under names does not depend on headers of other names. -/
theorem settledAll_of_insertHeaders {a b : Attributes} {headers : List Header}
    (h : a.insertHeaders headers = .ok b) {steps : List (Text × Option Text)}
    (hsteps : ∀ step ∈ steps, ∀ header ∈ headers, HeaderName.same header.name step.1 = false)
    (params : Params) : settledAll steps params b = settledAll steps params a := by
  induction steps with
  | nil => rfl
  | cons step steps ih =>
      rw [settledAll, settledAll, List.flatMap_cons, List.flatMap_cons,
        settled_of_insertHeaders h (hsteps step List.mem_cons_self)]
      congr 1
      exact ih fun step hstep => hsteps step (List.mem_cons_of_mem _ hstep)

/-- **Headers of different names are settled as if each was the first.** -/
theorem settleAll_eq {steps : List (Text × Option Text)} {a : Attributes} (ha : a.WellFormed)
    (hsteps : steps.Pairwise fun s t => HeaderName.same s.1 t.1 = false) (params : Params) :
    settleAll steps params a = a.insertHeaders (settledAll steps params a) := by
  induction steps generalizing a with
  | nil => rfl
  | cons step steps ih =>
      obtain ⟨hfirst, hrest⟩ := List.pairwise_cons.1 hsteps
      have hcons : settledAll (step :: steps) params a
          = settled step.1 step.2 params a ++ settledAll steps params a := List.flatMap_cons
      rw [settleAll, List.foldlM_cons, settle_eq ha, hcons, Attributes.insertHeaders_append_list]
      cases hb : a.insertHeaders (settled step.1 step.2 params a) with
      | error e => rfl
      | ok b =>
          -- What the first step has written is not what the later ones look up.
          have hother : ∀ t ∈ steps, ∀ header ∈ settled step.1 step.2 params a,
              HeaderName.same header.name t.1 = false := by
            intro t ht header hheader
            rw [name_of_mem_settled hheader]
            exact hfirst t ht
          rw [ok_bind, ok_bind, ← settledAll_of_insertHeaders hb hother]
          exact ih (ha.insertHeaders hb) hrest

/-! ## Passed parameters -/

/-- A parameter of this name is passed on: no rule is about it and it can name a header. -/
def passes (name : Text) : Bool :=
  !HeaderName.customizable.contains name && HeaderName.isValid name

/-- The headers that parameters are passed on as. -/
def passed (params : Params) : List Header :=
  params.filterMap fun (name, value) =>
    value.bind fun value => if passes name then some ⟨name, value⟩ else none

/-- A parameter is passed on as the headers that it stands for. -/
theorem passOne_eq_ok {a b : Attributes} {name : Text} {value : Option Text} :
    (passOne a name value).result = .ok b ↔ a.insertHeaders (passed [(name, value)]) = .ok b := by
  cases value with
  | none => simp [passOne, passed]
  | some value =>
      by_cases hknown : name ∈ HeaderName.customizable
      · simp [passOne, passed, passes, hknown]
      · cases hvalid : HeaderName.isValid name with
        | true =>
            simp [passOne, passed, passes, hknown, hvalid, mapError_eq_ok,
              Attributes.insertHeaders_cons_eq_ok]
        | false =>
            simp [passOne, passed, passes, hknown, hvalid]

/-- **Parameters are passed on as the headers that they stand for.** -/
theorem passThrough_eq_ok {params : Params} {a b : Attributes} :
    (passThrough params a).result = .ok b ↔ a.insertHeaders (passed params) = .ok b := by
  rw [passThrough, Traced.result_foldlM]
  induction params generalizing a with
  | nil => simp [passed]
  | cons parameter params ih =>
      obtain ⟨name, value⟩ := parameter
      have hcons : passed ((name, value) :: params) = passed [(name, value)] ++ passed params :=
        List.filterMap_append (l := [(name, value)])
      rw [List.foldlM_cons, hcons, Attributes.insertHeaders_append_list, bind_eq_ok, bind_eq_ok]
      simp only [passOne_eq_ok, ih]

/-- The headers that parameters are passed on as. -/
theorem mem_passed {params : Params} {h : Header} :
    h ∈ passed params ↔ (h.name, some h.value) ∈ params ∧ passes h.name = true := by
  rw [passed, List.mem_filterMap]
  constructor
  · rintro ⟨⟨name, value⟩, hmem, hh⟩
    obtain ⟨v, rfl, hv⟩ := Option.bind_eq_some_iff.1 hh
    by_cases hpasses : passes name = true
    · rw [if_pos hpasses] at hv
      rw [← Option.some.inj hv]
      exact ⟨hmem, hpasses⟩
    · rw [if_neg hpasses] at hv
      exact absurd hv (by simp)
  · rintro ⟨hmem, hpasses⟩
    exact ⟨_, hmem, by simp [hpasses]⟩

/-- Parameters for headers that a deployer can set are not passed on. -/
theorem lastValue?_passed_of_customizable {query : Option Text} {known name : Text}
    (hknown : known ∈ HeaderName.customizable) (hsame : HeaderName.same known name = true) :
    Attributes.lastValue? (passed (Params.given query)) name = none := by
  apply lastValue?_eq_none
  intro h hh
  -- Its name would be canonical, and such parameters are left out.
  obtain ⟨hmem, hpasses⟩ := mem_passed.1 hh
  rw [Bool.eq_false_iff]
  intro hname
  have hk : HeaderName.same h.name known = true := by
    rw [HeaderName.same_iff] at hname hsame ⊢
    rw [hname, hsame]
  rw [Params.eq_of_same hmem hknown hk, passes] at hpasses
  simp [hknown] at hpasses

/-! ## The context path -/

/-- The context path is set if the deployer gives it. -/
theorem setContextPath_eq_ok {params : Params} {a b : Attributes} :
    setContextPath params a = .ok b
      ↔ ∃ path, params.value? HeaderName.webContextPath = some path
        ∧ a.insertHeaders [⟨HeaderName.webContextPath, rooted path⟩] = .ok b := by
  rw [setContextPath]
  cases params.value? HeaderName.webContextPath with
  | none => simp
  | some path => simp [mapError_eq_ok, Attributes.insertHeaders_cons_eq_ok]

/-- An archive is plain if it has none of the headers that a deployer can set. -/
theorem classify_eq_plain {a : Attributes} :
    classify a = .plain ↔ ∀ name ∈ HeaderName.customizable, a.contains name = false := by
  rw [classify]
  cases hany : HeaderName.customizable.any a.contains with
  | true => simpa using hany
  | false => simpa using hany

end Wab.Bundle
