import Wab.Proofs.Params

/-! # The parameters of a query, name by name

A query in clear is read token by token into a dictionary. The same parameters are described here
name by name: each name stands where it comes up first, and what counts is the last token about it,
even if it says nothing and so takes back what was said before.

* **`Params.subject`**, **`Params.said?`** — the name that a token is about and what it says of it.
* **`Params.byName`** — the parameters of a query, name by name.
* **`Params.result_read_eq_byName`** — these are the parameters that are read. -/

namespace Wab.Params

/-- The name that a token is about: what stands in front of its first equals sign, in the spelling
of the header that it sets. -/
def subject (token : Text) : Text := canonicalName (token.takeWhile (· ≠ .scalar '='))

/-- What a token says of its name: what stands behind its first equals sign, if anything does. -/
def said? (token : Text) : Option Text :=
  match (token.dropWhile (· ≠ .scalar '=')).tail with
  | [] => none
  | value => some value

/-- What the last of several tokens about a name says of it. -/
def lastSaid? (list : List Text) (name : Text) : Option Text :=
  (list.filter fun token => subject token = name).getLast?.bind said?

/-- The parameters of a query, name by name. -/
def byName (query : Text) : Params :=
  Dictionary.tabulate ((tokens query).map subject) (lastSaid? (tokens query))

/-! ## Tokens -/

/-- A token is cut at its first equals sign. -/
theorem halves_eq (token : Text) :
    halves token
      = (token.takeWhile (· ≠ .scalar '='), (token.dropWhile (· ≠ .scalar '=')).tail) := by
  have hwhole : token.takeWhile (· ≠ .scalar '=') ++ token.dropWhile (· ≠ .scalar '=') = token :=
    List.takeWhile_append_dropWhile
  have hname : .scalar '=' ∉ token.takeWhile (· ≠ .scalar '=') := by
    intro hmem
    simpa using List.all_eq_true.1 List.all_takeWhile _ hmem
  cases hrest : token.dropWhile (· ≠ .scalar '=') with
  | nil =>
      rw [hrest, List.append_nil] at hwhole
      have hmark : .scalar '=' ∉ token := hwhole ▸ hname
      rw [halves, Text.cut?_of_not_mem hmark, hwhole]
      rfl
  | cons c value =>
      -- What the name leaves begins with the equals sign that ended it.
      have hhead := List.head?_dropWhile_not (· ≠ .scalar '=') token
      rw [hrest] at hhead
      obtain rfl : c = '=' := by simpa using hhead
      have hcut := Text.cut?_append hname [] value
      rw [List.singleton_append, ← hrest, hwhole] at hcut
      rw [halves, hcut]
      rfl

/-- A token is read as its name with what it says of it. -/
theorem ofToken_eq_said (token : Text) : ofToken token = (subject token, said? token) := by
  rw [ofToken_eq, halves_eq, subject, said?]
  cases (token.dropWhile (· ≠ .scalar '=')).tail with
  | nil => rfl
  | cons c value => rfl

/-- What a token says is not empty. -/
theorem ne_nil_of_said? {token value : Text} (h : said? token = some value) : value ≠ [] := by
  rintro rfl
  rw [said?] at h
  split at h
  next => exact absurd h (by simp)
  next hne => exact hne (Option.some.inj h)

/-! ## Names -/

/-- What tokens say of a name last is what the last entry of the name says. -/
theorem last?_map_ofToken (list : List Text) (name : Text) :
    (Dictionary.last? (list.map ofToken) name).getD none = lastSaid? list name := by
  have hfilter : (list.map ofToken).filter (fun entry => entry.1 = name)
      = (list.filter fun token => subject token = name).map ofToken := by
    rw [List.filter_map]
    congr 2
    funext token
    rw [Function.comp_apply, ofToken_eq_said]
  rw [Dictionary.last?, hfilter, lastSaid?]
  cases hlast : (list.filter fun token => subject token = name).getLast? with
  | none => simp [List.getLast?_map, hlast]
  | some token => simp [List.getLast?_map, hlast, ofToken_eq_said]

/-- **The parameters that are read are those that the query gives name by name.** -/
theorem ofQuery_eq_byName (query : Text) : ofQuery query = byName query := by
  have hnames : Dictionary.names ((tokens query).map ofToken) = (tokens query).map subject := by
    rw [Dictionary.names, List.map_map]
    refine List.map_congr_left fun token _ => ?_
    rw [Function.comp_apply, ofToken_eq_said]
  rw [ofQuery, Dictionary.ofList_eq_tabulate _ none, hnames, byName]
  congr 1
  funext name
  exact last?_map_ofToken (tokens query) name

/-- A name of the parameters that is the name of a header that a deployer can set has its
spelling. -/
theorem eq_of_same_of_mem_byName {query name known : Text} (h : name ∈ (byName query).names)
    (hknown : known ∈ HeaderName.customizable) (hsame : HeaderName.same name known = true) :
    name = known := by
  rw [byName, Dictionary.names_tabulate, List.mem_eraseDups] at h
  obtain ⟨token, -, rfl⟩ := List.mem_map.1 h
  exact canonicalName_eq_of_same hknown hsame

/-- The last token about a name decides, also if it says nothing. -/
theorem lastSaid?_of_last {before after : List Text} {token : Text}
    (h : ∀ later ∈ after, subject later ≠ subject token) :
    lastSaid? (before ++ token :: after) (subject token) = said? token := by
  have hafter : (after.filter fun later => subject later = subject token) = [] := by
    rw [List.filter_eq_nil_iff]
    intro later hlater
    simpa using h later hlater
  rw [lastSaid?, List.filter_append, List.filter_cons_of_pos (by simp), hafter,
    List.getLast?_concat, Option.bind_some]

/-- **A query in clear is read as the parameters that it gives name by name**: the distinct names
that its tokens are about, in the order in which they come first, each with what the last token
about it says. So no two of the names are those of one header that a deployer can set, such a name
has the spelling of the header, no value is empty, and a last token that says nothing takes back
what was said before. -/
theorem result_read_eq_byName {ε : Type} (query : Text) :
    (read (some query) : Traced ε Params).result = .ok (byName query)
      ∧ ((byName query).names.Pairwise fun a b => ∀ known ∈ HeaderName.customizable,
          ¬ (HeaderName.same a known = true ∧ HeaderName.same b known = true))
      ∧ (∀ name ∈ (byName query).names, ∀ known ∈ HeaderName.customizable,
          HeaderName.same name known = true → name = known)
      ∧ (∀ name value, (name, some value) ∈ byName query → value ≠ [])
      ∧ ∀ before token after, tokens query = before ++ token :: after → said? token = none →
          (∀ later ∈ after, subject later ≠ subject token) →
          (subject token, none) ∈ byName query := by
  have hdistinct : (byName query).names.Nodup := by
    rw [byName, Dictionary.names_tabulate]
    exact Dictionary.nodup_eraseDups _
  refine ⟨?_, ?_, fun name hname known hknown => eq_of_same_of_mem_byName hname hknown, ?_, ?_⟩
  · rw [result_read_some, ofQuery_eq_byName]
  · refine hdistinct.imp_of_mem ?_
    rintro a b ha hb hne known hknown ⟨hsameA, hsameB⟩
    have hknownA := eq_of_same_of_mem_byName ha hknown hsameA
    have hknownB := eq_of_same_of_mem_byName hb hknown hsameB
    exact hne (hknownA.trans hknownB.symm)
  · intro name value hmem
    have hvalue := (Dictionary.mem_tabulate.1 hmem).2
    obtain ⟨token, -, hsaid⟩ := Option.bind_eq_some_iff.1 hvalue.symm
    exact ne_nil_of_said? hsaid
  · intro before token after htokens hsaid hlast
    refine Dictionary.mem_tabulate.2 ⟨?_, ?_⟩
    · rw [htokens]
      exact List.mem_map_of_mem (List.mem_append_right _ List.mem_cons_self)
    · rw [htokens, lastSaid?_of_last hlast, hsaid]

/-- Here a token in another spelling, with the sign of the unit kelvin for a letter, takes back what
the first one said. -/
theorem result_read_eq_byName_takenBack :
    ∃ params, (read (some ↑"Import-Package=a&x=1&&import-pac\u212Aage=&x=2")
        : Traced Unit Params).result = .ok params
      ∧ params.names = [HeaderName.importPackage, "x"]
      ∧ (HeaderName.importPackage, none) ∈ params := by
  obtain ⟨hread, -, -, -, htaken⟩ :=
    @result_read_eq_byName Unit "Import-Package=a&x=1&&import-pac\u212Aage=&x=2"
  have hview : (byName "Import-Package=a&x=1&&import-pac\u212Aage=&x=2").names
        = [HeaderName.importPackage, "x"]
      ∧ tokens "Import-Package=a&x=1&&import-pac\u212Aage=&x=2"
        = (["Import-Package=a", "x=1"] : List Text)
          ++ ↑"import-pac\u212Aage=" :: (["x=2"] : List Text)
      ∧ subject "import-pac\u212Aage=" = HeaderName.importPackage
      ∧ subject "x=2" ≠ HeaderName.importPackage := by decide +kernel
  obtain ⟨hnames, htokens, hsubject, hother⟩ := hview
  have hnone := htaken _ _ _ htokens rfl fun later hlater => by
    rw [List.mem_singleton.1 hlater, hsubject]
    exact hother
  rw [hsubject] at hnone
  exact ⟨_, hread, hnames, hnone⟩

end Wab.Params
