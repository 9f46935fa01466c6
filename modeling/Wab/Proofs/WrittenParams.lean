import Mathlib.Data.List.Forall2
import Wab.Proofs.Cut
import Wab.Proofs.Params
import Wab.Proofs.QueryEncoding

/-! # Parameters that are written as a query

Parameters are written between ampersands, each as its encoded name and value around an equals sign
or as its encoded name alone. The marks that separate them are raw characters, so the whole query is
the encoding of the parameters in clear: it is decoded at once, and only then cut at the marks.

* **`Params.Expressible`** — the parameters that a query can give.
* **`Params.Writes`** — the query writes the parameters.
* **`Params.result_ofRawQuery_of_writes`** — the parameters are read back from the query. -/

namespace Wab

/-- A text of raw characters is an encoding of itself. -/
theorem Query.encodes_self {s : Text} (h : s.all isRaw = true) : Encodes s s := by
  induction s with
  | nil => exact .nil
  | cons c s ih =>
      obtain ⟨hc, hs⟩ := (Bool.and_eq_true _ _).mp (List.all_cons ▸ h)
      exact .raw hc (ih hs)

namespace Params

open Query (Encodes)

/-- The parameters that a query can give: their names are different, as they are spelled for the
headers they set, and hold no mark; their values are not empty and hold no ampersand; and a
parameter without a value has a name. -/
structure Expressible (params : Params) : Prop where
  /-- No name comes twice. -/
  distinct : params.names.Nodup
  /-- Names of headers that a deployer can set have their spelling. -/
  canonical : ∀ name ∈ params.names, canonicalName name = name
  /-- No name holds a mark. -/
  unmarked : ∀ name ∈ params.names, .scalar '&' ∉ name ∧ .scalar '=' ∉ name
  /-- No value is empty or holds an ampersand. -/
  values : ∀ param ∈ params, ∀ value ∈ param.2, value ≠ [] ∧ .scalar '&' ∉ value
  /-- Something is written for every parameter. -/
  named : ([], none) ∉ params

/-- A token writes a parameter. -/
inductive WritesOne : Text × Option Text → Text → Prop where
  /-- A name and a value, each encoded, around an equals sign. -/
  | valued {name value n v : Text} (hname : Encodes name n) (hvalue : Encodes value v) :
    WritesOne (name, some value) (n ++ .scalar '=' :: v)
  /-- A name alone. -/
  | bare {name n : Text} (hname : Encodes name n) : WritesOne (name, none) n
  /-- A name and an equals sign with nothing behind it. -/
  | blank {name n : Text} (hname : Encodes name n) : WritesOne (name, none) (n ++ [.scalar '='])

/-- The query writes the parameters: it consists of a token for each of them between ampersands. -/
def Writes (params : Params) (query : Text) : Prop :=
  ∃ pieces, List.Forall₂ WritesOne params pieces ∧ query = List.intercalate [.scalar '&'] pieces

/-! ## Tokens -/

/-- A name in front of an equals sign is read with what is behind it. -/
theorem ofToken_append {name : Text} (hcanonical : canonicalName name = name)
    (h : .scalar '=' ∉ name) (value : Text) :
    ofToken (name ++ .scalar '=' :: value) = (name, if value = [] then none else some value) := by
  have hcut : Text.cut? ['='] (name ++ .scalar '=' :: value) = some (name, value) :=
    Text.cut?_append h [] value
  rw [ofToken, hcut]
  cases value with
  | nil =>
      rw [if_pos rfl]
      show (canonicalName name, none) = (name, none)
      rw [hcanonical]
  | cons c value =>
      rw [if_neg (List.cons_ne_nil c value)]
      show (canonicalName name, some (c :: value)) = (name, some (c :: value))
      rw [hcanonical]

/-- A name alone is read as a parameter without a value. -/
theorem ofToken_of_not_mem {name : Text} (hcanonical : canonicalName name = name)
    (h : .scalar '=' ∉ name) : ofToken name = (name, none) := by
  rw [ofToken, Text.cut?_of_not_mem h [], hcanonical]

/-- **What a token encodes is read as its parameter**, and it is found between ampersands. -/
theorem exists_clear {params : Params} (h : Expressible params) {param : Text × Option Text}
    (hparam : param ∈ params) {piece : Text} (hpiece : WritesOne param piece) :
    ∃ clear, Encodes clear piece ∧ ofToken clear = param ∧ clear ≠ [] ∧ .scalar '&' ∉ clear := by
  have hname : param.1 ∈ params.names := List.mem_map_of_mem hparam
  have hcanonical := h.canonical param.1 hname
  obtain ⟨hwhole, hunmarked⟩ := h.unmarked param.1 hname
  have hsign : Query.isRaw '=' = true := by decide
  cases hpiece with
  | @valued name value n v hn hv =>
      obtain ⟨hvalue, hrest⟩ := h.values (name, some value) hparam value rfl
      refine ⟨name ++ .scalar '=' :: value, hn.append (.raw hsign hv), ?_, by simp, ?_⟩
      · rw [ofToken_append hcanonical hunmarked, if_neg hvalue]
      · rw [List.mem_append, List.mem_cons, not_or, not_or]
        exact ⟨hwhole, by decide, hrest⟩
  | @bare name _ hn =>
      refine ⟨name, hn, ofToken_of_not_mem hcanonical hunmarked, ?_, hwhole⟩
      rintro rfl
      exact h.named hparam
  | @blank name n hn =>
      refine ⟨name ++ [.scalar '='], hn.append (.raw hsign .nil), ?_, by simp, ?_⟩
      · rw [ofToken_append hcanonical hunmarked, if_pos rfl]
      · rw [List.mem_append, List.mem_singleton, not_or]
        exact ⟨hwhole, by decide⟩

/-! ## The query -/

/-- Encodings between ampersands are the encoding of what they encode between ampersands. -/
theorem encodes_intercalate {clears pieces : List Text} (h : List.Forall₂ Encodes clears pieces) :
    Encodes (List.intercalate [.scalar '&'] clears) (List.intercalate [.scalar '&'] pieces) := by
  have hmark : Encodes ['&'] ['&'] := .raw (by decide) .nil
  induction h with
  | nil => exact .nil
  | @cons clear piece clears pieces hfirst hrest ih =>
      cases hrest with
      | nil =>
          rw [List.intercalate_singleton, List.intercalate_singleton]
          exact hfirst
      | cons hnext hmore =>
          rw [List.intercalate_cons_cons, List.intercalate_cons_cons]
          exact (hfirst.append hmark).append ih

/-- Tokens in clear that are present and whole are found between their ampersands. -/
theorem tokens_intercalate {clears : List Text}
    (h : ∀ clear ∈ clears, clear ≠ [] ∧ .scalar '&' ∉ clear) :
    tokens (List.intercalate [.scalar '&'] clears) = clears := by
  cases hclears : clears with
  | nil => rfl
  | cons clear rest =>
      have hne : clears ≠ [] := by
        rw [hclears]
        exact List.cons_ne_nil clear rest
      have hsplit : (List.intercalate [.scalar '&'] clears).splitOn (.scalar '&') = clears :=
        List.splitOn_intercalate (.scalar '&') (fun clear hclear => (h clear hclear).2) hne
      rw [← hclears, tokens, hsplit, List.filter_eq_self]
      intro clear hclear
      simpa using (h clear hclear).1

/-- A query that writes parameters encodes tokens that are read as them. -/
theorem exists_clears {params : Params} (h : Expressible params) {list : Params}
    {pieces : List Text} (hpieces : List.Forall₂ WritesOne list pieces) (hlist : list ⊆ params) :
    ∃ clears, List.Forall₂ Encodes clears pieces ∧ clears.map ofToken = list
      ∧ ∀ clear ∈ clears, clear ≠ [] ∧ .scalar '&' ∉ clear := by
  induction hpieces with
  | nil => exact ⟨[], .nil, rfl, fun clear hclear => absurd hclear List.not_mem_nil⟩
  | @cons param piece list pieces hfirst _ ih =>
      rw [List.cons_subset] at hlist
      obtain ⟨clear, hclear, hread, hlasts⟩ := exists_clear h hlist.1 hfirst
      obtain ⟨clears, hclears, hreads, hlast⟩ := ih hlist.2
      refine ⟨clear :: clears, .cons hclear hclears, by rw [List.map_cons, hread, hreads], ?_⟩
      intro other hother
      rcases List.mem_cons.1 hother with rfl | hother
      · exact hlasts
      · exact hlast other hother

/-- **Parameters that are written as a query are read back from it**, in order. -/
theorem result_ofRawQuery_of_writes {ε : Type} {params : Params} {query : Text}
    (h : Expressible params) (hquery : Writes params query) :
    (ofRawQuery (some query) : Traced ε Params).result = .ok params := by
  obtain ⟨pieces, hpieces, rfl⟩ := hquery
  obtain ⟨clears, hclears, hreads, hlast⟩ := exists_clears h hpieces (List.Subset.refl params)
  have hclear : Query.clear (List.intercalate [.scalar '&'] pieces)
      = List.intercalate [.scalar '&'] clears :=
    Query.clear_of_encodes (encodes_intercalate hclears)
  have hparams : ofQuery (List.intercalate [.scalar '&'] clears) = params := by
    rw [ofQuery, tokens_intercalate hlast, hreads, Dictionary.ofList_of_nodup h.distinct]
  rw [result_ofRawQuery, given, hclear, hparams]

/-- Here a value holds the same letter escaped and as it is, an equals sign and a percent sign, one
parameter has no name and one no value. -/
theorem result_ofRawQuery_of_writes_mixed :
    Expressible [("Web-ContextPath", some ↑"/éé=%"), ([], some ['a']),
        ("x y", none)]
    ∧ Writes [("Web-ContextPath", some ↑"/éé=%"), ([], some ['a']),
        ("x y", none)] "Web-ContextPath=/%c3%A9é=%25&=a&x%20y"
    ∧ (ofRawQuery (some ↑"Web-ContextPath=/%c3%A9é=%25&=a&x%20y")
        : Traced Empty Params).result
      = .ok [("Web-ContextPath", some ↑"/éé=%"), ([], some ['a']),
        ("x y", none)] := by
  have hexpressible : Expressible [("Web-ContextPath", some ↑"/éé=%"),
      ([], some ['a']), ("x y", none)] :=
    ⟨by decide +kernel, by decide +kernel, by decide +kernel, by decide +kernel,
      by decide +kernel⟩
  have hletter : Query.Escapes (String.utf8EncodeChar 'é') ['%', 'c', '3', '%', 'A', '9'] :=
    .cons (Or.inl (by decide)) (Or.inl (by decide))
      (.cons (Or.inr (by decide)) (Or.inl (by decide)) .nil)
  have hpercent : Query.Escapes (String.utf8EncodeChar '%') ['%', '2', '5'] :=
    .cons (Or.inl (by decide)) (Or.inl (by decide)) .nil
  have hspace : Query.Escapes (String.utf8EncodeChar ' ') ['%', '2', '0'] :=
    .cons (Or.inl (by decide)) (Or.inl (by decide)) .nil
  have hend : Encodes ['é', '=', '%']
      (.scalar 'é' :: .scalar '=' :: ((['%', '2', '5'] : Text) ++ [])) :=
    .raw (by decide) (.raw (by decide) (.escaped hpercent .nil))
  have hpath : Encodes ['/', 'é', 'é', '=', '%']
      (.scalar '/' :: ((['%', 'c', '3', '%', 'A', '9'] : Text)
        ++ .scalar 'é' :: .scalar '=' :: ((['%', '2', '5'] : Text) ++ []))) :=
    .raw (by decide) (.escaped hletter hend)
  have hname : Encodes ['x', ' ', 'y']
      (.scalar 'x' :: ((['%', '2', '0'] : Text) ++ [.scalar 'y'])) :=
    .raw (by decide) (.escaped hspace (.raw (by decide) .nil))
  have hwrites : Writes [("Web-ContextPath", some ↑"/éé=%"), ([], some ['a']),
      ("x y", none)] "Web-ContextPath=/%c3%A9é=%25&=a&x%20y" := by
    refine ⟨_, .cons (.valued (Query.encodes_self (by decide +kernel)) hpath)
      (.cons (.valued .nil (.raw (by decide) .nil)) (.cons (.bare hname) .nil)), ?_⟩
    decide +kernel
  exact ⟨hexpressible, hwrites, result_ofRawQuery_of_writes hexpressible hwrites⟩

end Params

end Wab
