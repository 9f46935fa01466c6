import Wab.Proofs.PlainArchive

/-! # Which of several words of a deployer counts

A query may name a header that no rule is about again and again, in several spellings. Parameters of
different spellings are different ones, and stand where their spelling came up first; the headers
they are passed on as are one and the same. So what counts is the last word in the spelling that
came up last, and the last word of all only if it has that spelling.

* **`Params.words`** — what a query says about a header.
* **`Params.Decides`** — the word that counts.
* **`Params.decides_of_getLast?`** — the dictionary of words ends with it.
* **`PlainArchive.get?_of_words`** — the header has its value. -/

namespace Wab

namespace Params

/-! ## Words -/

/-- What a query says about a header: the tokens with its name, in whatever letter case, each cut
into its name and its value. -/
def words (query name : Text) : List (Text × Text) :=
  ((tokens (Query.clear query)).map halves).filter fun word => HeaderName.same word.1 name

/-- Where a spelling comes up first. -/
def place (list : List (Text × Text)) (spelling : Text) : Nat :=
  list.findIdx fun word => word.1 == spelling

/-- The word decides: every other spelling came up before its own did, and it is the last word in
its own one. -/
structure Decides (list : List (Text × Text)) (word : Text × Text) : Prop where
  /-- No other spelling comes up later. -/
  newest : ∀ other ∈ list, other.1 ≠ word.1 → place list other.1 < place list word.1
  /-- No word in this spelling follows. -/
  last : ∃ before after, list = before ++ word :: after ∧ ∀ other ∈ after, other.1 ≠ word.1

section Steps

variable {list : List (Text × Text)} {word next : Text × Text}

/-- A spelling that came up comes up first where it did. -/
theorem place_concat (h : ∃ known ∈ list, known.1 = word.1) :
    place (list ++ [next]) word.1 = place list word.1 := by
  rw [place, List.findIdx_append, if_pos, place]
  simpa using h

/-- A spelling that did not come up comes up first with the next word. -/
theorem place_concat_new (h : ∀ other ∈ list, other.1 ≠ next.1) :
    place (list ++ [next]) next.1 = list.length := by
  rw [place, List.findIdx_append, if_neg]
  · simp
  · rw [List.findIdx_lt_length]
    rintro ⟨other, hmem, hsame⟩
    exact h other hmem (by simpa using hsame)

/-- A spelling that came up did so within the list. -/
theorem place_lt (h : word ∈ list) : place list word.1 < list.length :=
  List.findIdx_lt_length_of_exists ⟨word, h, by simp⟩

/-- A word that decides is one of the words. -/
theorem Decides.mem (h : Decides list word) : word ∈ list := by
  obtain ⟨before, after, rfl, -⟩ := h.last
  exact List.mem_append_right _ List.mem_cons_self

/-- A word in another spelling than the next one is one of those before. -/
theorem mem_of_ne (h : word ∈ list ++ [next]) (hname : word.1 ≠ next.1) : word ∈ list := by
  rcases List.mem_append.1 h with hmem | hmem
  · exact hmem
  · exact absurd (congrArg Prod.fst (List.mem_singleton.1 hmem)) hname

/-- The next word decides if it is in a new spelling. -/
theorem decides_of_new (h : ∀ other ∈ list, other.1 ≠ next.1) :
    Decides (list ++ [next]) next := by
  refine ⟨?_, list, [], rfl, fun other hother => absurd hother List.not_mem_nil⟩
  intro other hother hname
  have hmem := mem_of_ne hother hname
  -- Its spelling comes up behind all words, and the others within them.
  rw [place_concat_new h, place_concat ⟨other, hmem, rfl⟩]
  exact place_lt hmem

/-- The next word decides if it is in the spelling of the one that did. -/
theorem Decides.concat_same (h : Decides list word) (hname : next.1 = word.1) :
    Decides (list ++ [next]) next := by
  refine ⟨?_, list, [], rfl, fun other hother => absurd hother List.not_mem_nil⟩
  intro other hother hne
  have hmem := mem_of_ne hother hne
  -- All spellings came up before, so that their places are what they were.
  rw [hname] at hne ⊢
  rw [place_concat ⟨other, hmem, rfl⟩, place_concat ⟨word, h.mem, rfl⟩]
  exact h.newest other hmem hne

/-- The word that decided does so still if the next one is in another spelling that came up. -/
theorem Decides.concat_other (h : Decides list word) (hname : next.1 ≠ word.1)
    (hknown : ∃ known ∈ list, known.1 = next.1) : Decides (list ++ [next]) word := by
  obtain ⟨before, after, hlist, hafter⟩ := h.last
  refine ⟨?_, before, after ++ [next], ?_, ?_⟩
  · intro other hother hne
    obtain ⟨known, hmem, hsame⟩ : ∃ known ∈ list, known.1 = other.1 := by
      rcases List.mem_append.1 hother with hmem | hmem
      · exact ⟨other, hmem, rfl⟩
      · rwa [List.mem_singleton.1 hmem]
    rw [place_concat ⟨known, hmem, hsame⟩, place_concat ⟨word, h.mem, rfl⟩, ← hsame]
    exact h.newest known hmem (hsame ▸ hne)
  · rw [hlist, List.append_assoc, List.cons_append]
  · intro other hother
    rcases List.mem_append.1 hother with hother | hother
    · exact hafter other hother
    · rw [List.mem_singleton.1 hother]
      exact hname

/-- The last word in a spelling is the first one from behind. -/
theorem Decides.find?_reverse (h : Decides list word) :
    list.reverse.find? (fun other => other.1 == word.1) = some word := by
  obtain ⟨before, after, rfl, hafter⟩ := h.last
  rw [List.find?_eq_some_iff_append]
  refine ⟨beq_self_eq_true _, after.reverse, before.reverse, by simp, ?_⟩
  intro other hother
  simpa using hafter other (List.mem_reverse.1 hother)

/-- **At most one word decides.** -/
theorem Decides.unique {other : Text × Text} (h : Decides list word)
    (hother : Decides list other) : word = other := by
  by_cases hname : word.1 = other.1
  · have hfind := h.find?_reverse
    rw [hname, hother.find?_reverse] at hfind
    exact (Option.some.inj hfind).symm
  · -- Each of the two spellings would have come up before the other one.
    have hbefore := h.newest other hother.mem (Ne.symm hname)
    have hafter := hother.newest word h.mem hname
    omega

/-- The last word of all decides if it has the spelling of the one that does. -/
theorem Decides.eq_of_last {last : Text × Text} (h : Decides list word)
    (hlast : list.getLast? = some last) (hname : last.1 = word.1) : last = word := by
  obtain ⟨before, rfl⟩ := List.getLast?_eq_some_iff.1 hlast
  have hfind := h.find?_reverse
  rw [List.reverse_append, List.reverse_singleton, List.singleton_append,
    List.find?_cons_of_pos (by simpa using hname)] at hfind
  exact Option.some.inj hfind

end Steps

/-- **The dictionary of words ends with the one that decides.** -/
theorem decides_of_getLast? {list : List (Text × Text)} {word : Text × Text}
    (h : (Dictionary.ofList list).getLast? = some word) : Decides list word := by
  induction list using List.reverseRecOn generalizing word with
  | nil => exact absurd h (by simp [Dictionary.ofList])
  | append_singleton list next ih =>
      rw [Dictionary.ofList_concat] at h
      by_cases hknown : next.1 ∈ Dictionary.names (Dictionary.ofList list)
      · rw [Dictionary.getLast?_insert (Dictionary.nodup_names_ofList list) hknown,
          Option.map_eq_some_iff] at h
        obtain ⟨old, hold, rfl⟩ := h
        -- The last entry is given the next word's value if the spelling is its own.
        by_cases hname : old.1 = next.1
        · rw [if_pos hname, hname]
          exact (ih hold).concat_same hname.symm
        · rw [if_neg hname]
          refine (ih hold).concat_other (Ne.symm hname) ?_
          exact List.mem_map.1 (Dictionary.mem_names_ofList.1 hknown)
      · rw [Dictionary.insert_of_not_mem hknown, List.getLast?_concat] at h
        obtain rfl : next = word := Option.some.inj h
        apply decides_of_new
        intro other hother hname
        exact hknown (Dictionary.mem_names_ofList.2 (hname ▸ List.mem_map_of_mem hother))

/-- Where there are words, one of them decides. -/
theorem exists_getLast? {list : List (Text × Text)} (h : list ≠ []) :
    ∃ word, (Dictionary.ofList list).getLast? = some word := by
  obtain ⟨first, rest, rfl⟩ := List.exists_cons_of_ne_nil h
  have hmem : first.1 ∈ Dictionary.names (Dictionary.ofList (first :: rest)) :=
    Dictionary.mem_names_ofList.2 List.mem_cons_self
  refine Option.ne_none_iff_exists'.1 fun hnone => ?_
  rw [List.getLast?_eq_none_iff.1 hnone] at hmem
  exact absurd hmem List.not_mem_nil

/-! ## Parameters of one header -/

/-- A name is the same as others if its canonical form is. -/
theorem same_canonicalName (n name : Text) :
    HeaderName.same (canonicalName n) name = HeaderName.same n name := by
  rw [canonicalName]
  cases hfind : HeaderName.customizable.find? fun known => HeaderName.same known n with
  | none => rw [Option.getD_none]
  | some known =>
      have hsame : HeaderName.same known n = true := by simpa using List.find?_some hfind
      rw [Option.getD_some, HeaderName.same, HeaderName.same, HeaderName.same_iff.1 hsame]

section Header

variable {name : Text} (hother : ∀ known ∈ HeaderName.customizable,
  HeaderName.same known name = false)

include hother

/-- A name of a header that no deployer can set by rule is canonical. -/
theorem canonicalName_of_same {n : Text} (h : HeaderName.same n name = true) :
    canonicalName n = n := by
  rw [canonicalName, List.find?_eq_none.2, Option.getD_none]
  intro known hknown hsame
  have hboth : HeaderName.same known name = true :=
    HeaderName.same_iff.2 ((HeaderName.same_iff.1 hsame).trans (HeaderName.same_iff.1 h))
  rw [hother known hknown] at hboth
  exact absurd hboth (by decide)

/-- **The parameters of one header** are those that the words about it make, if each says
something. -/
theorem filter_given {query : Text} (hall : ∀ word ∈ words query name, word.2 ≠ []) :
    (given (some query)).filter (fun param => HeaderName.same param.1 name)
      = (Dictionary.ofList (words query name)).map fun word => (word.1, some word.2) := by
  -- Both sides are dictionaries of the tokens about the header.
  rw [given, ofQuery, Dictionary.filter_ofList fun n => HeaderName.same n name,
    Dictionary.map_ofList some]
  congr 1
  rw [words, List.filter_map] at hall ⊢
  rw [List.filter_map, List.map_map]
  have hkept : ∀ token ∈ tokens (Query.clear query),
      ((fun param : Text × Option Text => HeaderName.same param.1 name) ∘ ofToken) token
        = ((fun word : Text × Text => HeaderName.same word.1 name) ∘ halves) token := by
    intro token _
    rw [Function.comp_apply, Function.comp_apply, ofToken_eq]
    exact same_canonicalName _ name
  rw [List.filter_congr hkept]
  refine List.map_congr_left fun token htoken => ?_
  have hsame := (List.mem_filter.1 htoken).2
  have hvalue := hall _ (List.mem_map_of_mem htoken)
  rw [Function.comp_apply, ofToken_eq, canonicalName_of_same hother hsame, if_neg hvalue]

end Header

end Params

namespace PlainArchive

/-! ## Headers -/

/-- The last of the parameters for a header is passed on to it. -/
theorem passedValue?_of_getLast? {params : Params} {name n value : Text}
    (h : (params.filter fun param => HeaderName.same param.1 name).getLast?
      = some (n, some value))
    (hvalid : HeaderName.isValid n = true) : passedValue? params name = some value := by
  rw [← List.head?_reverse, ← List.filter_reverse, List.head?_filter,
    List.find?_eq_some_iff_append] at h
  obtain ⟨hsame, before, after, hparams, hbefore⟩ := h
  rw [passedValue?, List.findSome?_eq_some_iff]
  refine ⟨before, _, after, hparams, ?_, fun param hparam => ?_⟩
  · simp only [hvalid, hsame, Bool.and_self, if_true]
  · have hno : HeaderName.same param.1 name = false := by simpa using hbefore param hparam
    simp only [hno, Bool.and_false, Bool.false_eq_true, if_false]

/-- A value that is passed on is the one that the bundle has, unless a rule is about the name. -/
theorem value?_of_passedValue? {name value : Text}
    (h : ∀ known ∈ HeaderName.dynamicImportPackage :: HeaderName.customizable,
      HeaderName.same known name = false)
    {params : Params} (hvalue : passedValue? params name = some value) (c : Config)
    (own : Attributes) (path fresh classPath : Text) :
    value? c params own path fresh classPath name = some value := by
  simp only [HeaderName.customizable, List.forall_mem_cons] at h
  simp [value?, h, hvalue]

/-- **Which word of the deployer counts.** Where all that a query says about a header that no rule
is about has a value and a valid name, exactly one word decides, and the header has its value: the
last word in the spelling that came up last. The last word of all counts if it has that spelling. -/
theorem get?_of_words {locator : Text} {medium : Medium} {bytes : Bytes} {a : Archive}
    {p : Processor} {query : Text} {m : Manifest}
    (hopen : (Archive.ofBytes locator medium bytes).result = .ok a)
    (hplain : ∀ known ∈ HeaderName.customizable, a.manifest.main.contains known = false)
    (h : (p.process a (some query)).1.result = .ok m) {name : Text}
    (hname : ∀ known ∈ HeaderName.dynamicImportPackage :: HeaderName.customizable,
      HeaderName.same known name = false)
    (hwords : Params.words query name ≠ [])
    (hall : ∀ word ∈ Params.words query name,
      HeaderName.isValid word.1 = true ∧ word.2 ≠ []) :
    ∃ word, Params.Decides (Params.words query name) word
      ∧ (∀ other, Params.Decides (Params.words query name) other → other = word)
      ∧ m.main.get? name = some word.2
      ∧ ∀ last, (Params.words query name).getLast? = some last → last.1 = word.1 →
        m.main.get? name = some last.2 := by
  have hmain := (Archive.wellFormed_of_ofBytes hopen).1.main
  obtain ⟨-, path, fresh, classPath, main, -, -, -, hwritten, rfl, -⟩ :=
    (Processor.process_plain_eq_ok hmain (Bundle.classify_eq_plain.2 hplain)).1 h
  obtain ⟨word, hlast⟩ := Params.exists_getLast? hwords
  have hdecides := Params.decides_of_getLast? hlast
  -- The parameter of the word that decides is the last one for the header.
  have hfilter := Params.filter_given
    (fun known hknown => hname known (List.mem_cons_of_mem _ hknown)) fun word hword =>
      (hall word hword).2
  have hparam : ((Params.given (some query)).filter
      fun param => HeaderName.same param.1 name).getLast? = some (word.1, some word.2) := by
    rw [hfilter, List.getLast?_map, hlast]
    rfl
  have hvalue : main.get? name = some word.2 := by
    rw [get?_of_written hplain hwritten]
    exact value?_of_passedValue? hname
      (passedValue?_of_getLast? hparam (hall word hdecides.mem).1) _ _ _ _ _
  refine ⟨word, hdecides, fun other hother => hother.unique hdecides, hvalue, ?_⟩
  intro last hend hspelling
  rw [hdecides.eq_of_last hend hspelling]
  exact hvalue

/-- Here the first of two spellings comes up again, and the last word of all does not count. -/
theorem get?_of_words_interleaved :
    ∃ a m, (Archive.ofBytes [] .memory (Zip.store [])).result = .ok a
      ∧ (({} : Processor).process a
          (some ↑"Web-ContextPath=/a&X-A=1&x-a=2&X-A=3")).1.result = .ok m
      ∧ (Params.words "Web-ContextPath=/a&X-A=1&x-a=2&X-A=3" "X-A").getLast?
          = some ((↑"X-A", ↑"3") : Text × Text)
      ∧ m.main.get? "X-A" = some ↑"2" := by
  obtain ⟨a, ha, hview⟩ := exists_ok_of_toOption
    (e := (Archive.ofBytes [] .memory (Zip.store [])).result)
    (f := fun a => (HeaderName.customizable.any a.manifest.main.contains,
      (({} : Processor).process a
        (some ↑"Web-ContextPath=/a&X-A=1&x-a=2&X-A=3")).1.result.toOption.map fun _ => ()))
    (b := (false, some ())) (by decide +kernel)
  obtain ⟨hplain, hsome⟩ := Prod.mk.inj hview
  obtain ⟨m, hm, -⟩ := exists_ok_of_toOption hsome
  have hwords : Params.words "Web-ContextPath=/a&X-A=1&x-a=2&X-A=3" "X-A"
      = ([("X-A", "1"), ("x-a", "2"), ("X-A", "3")] : List (Text × Text)) := by
    decide +kernel
  have hname : ∀ known ∈ HeaderName.dynamicImportPackage :: HeaderName.customizable,
      HeaderName.same known "X-A" = false := by decide +kernel
  obtain ⟨word, -, hunique, hvalue, -⟩ := get?_of_words ha (by simpa using hplain) hm hname
    (by decide +kernel) (by decide +kernel)
  rw [hwords] at hunique
  obtain rfl : ((↑"x-a", ↑"2") : Text × Text) = word :=
    hunique _ (Params.decides_of_getLast? (by decide +kernel))
  exact ⟨a, m, ha, hm, by decide +kernel, hvalue⟩

end PlainArchive

end Wab
