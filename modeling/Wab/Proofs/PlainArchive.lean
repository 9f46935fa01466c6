import Wab.Proofs.Processing
import Wab.Zip.Writer

/-! # What a plain archive becomes

The bundle that a plain archive becomes is determined header by header: each header has the value
of the deployer, of the archive or of the configuration by a rule of its own, whatever the letter
case in which it is asked for.

* **`PlainArchive.value?`** — the value that the bundle has under a name.
* **`PlainArchive.names`** — the names in the order in which the steps write them.
* **`PlainArchive.process_eq`** — the bundle has these values and names. -/

namespace Wab

namespace PlainArchive

open Attributes (lastValue? lastValue?_append lastValue?_singleton)

/-- The value that the deployer gives to a header that no rule is about: the one of the last
parameter that names this header, has a valid name, and has a value. -/
def passedValue? (params : Params) (name : Text) : Option Text :=
  params.reverse.findSome? fun (n, value) =>
    if HeaderName.isValid n && HeaderName.same n name then value else none

/-- The value that the bundle has under a name. -/
def value? (c : Config) (params : Params) (own : Attributes) (path fresh classPath name : Text) :
    Option Text :=
  if HeaderName.same HeaderName.webContextPath name then
    some (if path.head? = some (.scalar '/') then path else .scalar '/' :: path)
  else if HeaderName.same HeaderName.bundleManifestVersion name then
    some ((params.value? HeaderName.bundleManifestVersion).getD c.manifestVersion)
  else if HeaderName.same HeaderName.importPackage name then
    some ((params.value? HeaderName.importPackage).getD c.importPackage)
  else if HeaderName.same HeaderName.bundleSymbolicName name then
    some ((params.value? HeaderName.bundleSymbolicName).getD fresh)
  else if HeaderName.same HeaderName.bundleVersion name then
    params.value? HeaderName.bundleVersion
  else if HeaderName.same HeaderName.dynamicImportPackage name then
    some [.scalar '*']
  else
    passedValue? params name <|> own.get? name
      <|> if HeaderName.same HeaderName.bundleClassPath name then some classPath else none

/-- The names of the parameters that are passed on. -/
def passedNames (params : Params) : List Text :=
  params.filterMap fun (n, value) =>
    if value.isSome && !HeaderName.customizable.contains n && HeaderName.isValid n then some n
    else none

/-- The names of the headers that are written, in the order of the steps. -/
def names (params : Params) : List Text :=
  [HeaderName.webContextPath, HeaderName.bundleManifestVersion, HeaderName.bundleSymbolicName]
    ++ (if (params.value? HeaderName.bundleVersion).isSome then [HeaderName.bundleVersion] else [])
    ++ [HeaderName.bundleClassPath, HeaderName.importPackage]
    ++ passedNames params
    ++ [HeaderName.dynamicImportPackage]

/-! ## Values -/

/-- The names of headers with a rule of their own. -/
def ruled : List Text :=
  HeaderName.bundleClassPath :: HeaderName.dynamicImportPackage :: HeaderName.customizable

/-- A name is the same as one of these at most. -/
theorem not_same_of_ne {known name : Text} (hknown : known ∈ ruled)
    (h : HeaderName.same known name = true) :
    ∀ other ∈ ruled, other ≠ known → HeaderName.same other name = false := by
  intro other hother hne
  have hwritten : ruled ⊆ HeaderName.written := by
    simp [ruled, HeaderName.customizable, HeaderName.written]
  -- A name that is the same as both would make them one.
  rw [Bool.eq_false_iff]
  intro hsame
  rw [HeaderName.same_iff, ← HeaderName.same_iff.1 h, ← HeaderName.same_iff] at hsame
  exact hne (HeaderName.eq_of_same_written other (hwritten hother) known (hwritten hknown) hsame)

/-- A header without a rule of its own has what the deployer or else the archive says. -/
theorem value?_of_not_ruled {name : Text}
    (h : ∀ known ∈ ruled, HeaderName.same known name = false) (c : Config) (params : Params)
    (own : Attributes) (path fresh classPath : Text) :
    value? c params own path fresh classPath name
      = (passedValue? params name).or (own.get? name) := by
  simp only [ruled, HeaderName.customizable, List.forall_mem_cons] at h
  simp [value?, h]

/-- The context path begins with a slash. -/
theorem rooted_eq (path : Text) :
    Bundle.rooted path = if path.head? = some (.scalar '/') then path else .scalar '/' :: path := by
  cases path with
  | nil => rfl
  | cons c path =>
      by_cases hc : c = '/'
      · simp [Bundle.rooted, Text.startsWith, hc]
      · simp [Bundle.rooted, Text.startsWith, hc, Ne.symm hc]

/-- Parameters that no rule is about give the values that they are passed on with. -/
theorem lastValue?_passed {params : Params} {name : Text}
    (hname : ∀ known ∈ HeaderName.customizable, HeaderName.same known name = false) :
    lastValue? (Bundle.passed params) name = passedValue? params name := by
  rw [lastValue?, Bundle.passed, ← List.filterMap_reverse, passedValue?]
  generalize params.reverse = last
  induction last with
  | nil => rfl
  | cons parameter last ih =>
      obtain ⟨n, value⟩ := parameter
      rw [List.findSome?_cons, ← ih, List.filterMap_cons]
      cases value with
      | none => simp
      | some value =>
          cases hsame : HeaderName.same n name with
          | false => cases hpasses : Bundle.passes n <;> simp [hpasses, hsame]
          | true =>
              -- A name that is the same is not one of those that a rule is about.
              have hother : n ∉ HeaderName.customizable := by
                intro hn
                rw [hname n hn] at hsame
                exact absurd hsame (by decide)
              have hpasses : Bundle.passes n = HeaderName.isValid n := by
                simp [Bundle.passes, hother]
              cases hvalid : HeaderName.isValid n <;> simp [hpasses, hvalid, hsame]

/-- A parameter that has a value and is passed on gives some value to the header that it names. -/
theorem passedValue?_ne_none {params : Params} {n value name : Text}
    (h : (n, some value) ∈ params) (hvalid : HeaderName.isValid n = true)
    (hsame : HeaderName.same n name = true) : passedValue? params name ≠ none := by
  intro hnone
  have hall := List.findSome?_eq_none_iff.1 hnone _ (List.mem_reverse.2 h)
  simp [hvalid, hsame] at hall

/-- The value that the steps write under a name: what is written later counts first. -/
theorem lastValue?_written (c : Config) (params : Params) (own : Attributes)
    (path fresh classPath name : Text) :
    lastValue? (Processor.written c params own path fresh classPath) name
      = ((if HeaderName.same HeaderName.dynamicImportPackage name then some [.scalar '*'] else none)
        <|> lastValue? (Bundle.passed params) name
        <|> (if HeaderName.same HeaderName.importPackage name then
          Bundle.chosen? HeaderName.importPackage (some c.importPackage) params own else none)
        <|> (if HeaderName.same HeaderName.bundleClassPath name then
          Bundle.chosen? HeaderName.bundleClassPath (some classPath) params own else none)
        <|> (if HeaderName.same HeaderName.bundleVersion name then
          Bundle.chosen? HeaderName.bundleVersion none params own else none)
        <|> (if HeaderName.same HeaderName.bundleSymbolicName name then
          Bundle.chosen? HeaderName.bundleSymbolicName (some fresh) params own else none)
        <|> (if HeaderName.same HeaderName.bundleManifestVersion name then
          Bundle.chosen? HeaderName.bundleManifestVersion (some c.manifestVersion) params own
            else none)
        <|> (if HeaderName.same HeaderName.webContextPath name then some (Bundle.rooted path)
          else none)) := by
  have hbegun : Processor.begun c params own path
      = [⟨HeaderName.webContextPath, Bundle.rooted path⟩]
        ++ Bundle.settled HeaderName.bundleManifestVersion (some c.manifestVersion) params own := by
    rfl
  simp only [Processor.written, hbegun, Processor.completed, Processor.completing,
    Bundle.settledAll, List.flatMap_cons, List.flatMap_nil, List.append_nil, lastValue?_append,
    lastValue?_singleton, Bundle.lastValue?_settled, Processor.anyPackage, Option.orElse_eq_orElse,
    Option.orElse_eq_or, Option.or_assoc]

/-- An archive that has no header under a name has no value under it in any letter case. -/
theorem get?_of_contains {own : Attributes} {known name : Text}
    (hown : own.contains known = false) (hsame : HeaderName.same known name = true) :
    own.get? name = none := by
  rw [Attributes.contains, Option.isSome_eq_false_iff, Option.isNone_iff_eq_none] at hown
  rw [← Attributes.get?_congr hsame, Attributes.get?, hown]
  rfl

/-- What is written under a name that the deployer can set follows one of five rules. -/
theorem written_of_customizable {own : Attributes}
    (hown : ∀ known ∈ HeaderName.customizable, own.contains known = false) {known name : Text}
    (hknown : known ∈ HeaderName.customizable) (hsame : HeaderName.same known name = true)
    (c : Config) (query : Option Text) (path fresh classPath : Text) :
    (lastValue? (Processor.written c (Params.given query) own path fresh classPath) name
        <|> own.get? name)
      = value? c (Params.given query) own path fresh classPath name := by
  -- Neither the archive nor a parameter that is passed on has the name.
  have hpassed : lastValue? (Bundle.passed (Params.given query)) name = none :=
    Bundle.lastValue?_passed_of_customizable hknown hsame
  have hnone := get?_of_contains (hown known hknown) hsame
  have hkey := get?_of_contains (hown known hknown) (HeaderName.same_self known)
  have hruled : known ∈ ruled := List.mem_cons_of_mem _ (List.mem_cons_of_mem _ hknown)
  have hothers := not_same_of_ne hruled hsame
  rw [lastValue?_written, value?]
  simp only [HeaderName.customizable, List.mem_cons, List.not_mem_nil, or_false] at hknown
  rcases hknown with rfl | rfl | rfl | rfl | rfl
  · simp +decide [hothers, hsame, hpassed, hnone, hkey, Bundle.chosen?]
  · simp +decide [hothers, hsame, hpassed, hnone, hkey, Bundle.chosen?]
  · simp +decide [hothers, hsame, hpassed, hnone, hkey, Bundle.chosen?]
  · simp +decide [hothers, hsame, hpassed, hnone, hkey, Bundle.chosen?]
  · simp +decide [hothers, hsame, hpassed, hnone, rooted_eq]

/-- Under another name it is what is passed on, but for the class path and the packages that may be
asked for later. -/
theorem written_of_not_customizable {name : Text}
    (hname : ∀ known ∈ HeaderName.customizable, HeaderName.same known name = false)
    (c : Config) (params : Params) (own : Attributes) (path fresh classPath : Text) :
    (lastValue? (Processor.written c params own path fresh classPath) name <|> own.get? name)
      = value? c params own path fresh classPath name := by
  rw [lastValue?_written, value?, lastValue?_passed hname]
  simp only [HeaderName.customizable, List.forall_mem_cons] at hname
  by_cases hdynamic : HeaderName.same HeaderName.dynamicImportPackage name = true
  · simp [hname, hdynamic]
  · by_cases hclass : HeaderName.same HeaderName.bundleClassPath name = true
    · have hown : own.get? HeaderName.bundleClassPath = own.get? name :=
        Attributes.get?_congr hclass own
      cases hgiven : params.value? HeaderName.bundleClassPath with
      | none => simp [hname, hdynamic, hclass, Bundle.chosen?, hgiven, hown]
      | some given =>
          -- The class path that was given is also passed on, unless a later parameter is.
          have hmem : (HeaderName.bundleClassPath, some given) ∈ params := by
            apply Dictionary.mem_of_get?
            exact Option.join_eq_some_iff.1 hgiven
          have hvalid : HeaderName.isValid HeaderName.bundleClassPath = true :=
            HeaderName.isValid_of_mem_written (by simp [HeaderName.written])
          have hne := passedValue?_ne_none hmem hvalid hclass
          obtain ⟨value, hvalue⟩ := Option.ne_none_iff_exists'.1 hne
          simp [hname, hdynamic, hclass, hvalue]
    · simp [hname, hdynamic, hclass]

/-- **The value under a name**, whatever the letter case, after all steps. -/
theorem get?_of_written {c : Config} {query : Option Text} {own b : Attributes}
    {path fresh classPath : Text}
    (hown : ∀ known ∈ HeaderName.customizable, own.contains known = false)
    (h : own.insertHeaders
      (Processor.written c (Params.given query) own path fresh classPath) = .ok b) (name : Text) :
    b.get? name = value? c (Params.given query) own path fresh classPath name := by
  rw [Attributes.get?_insertHeaders h]
  by_cases hcustomizable : ∃ known ∈ HeaderName.customizable, HeaderName.same known name = true
  · obtain ⟨known, hknown, hsame⟩ := hcustomizable
    exact written_of_customizable hown hknown hsame c query path fresh classPath
  · have hname : ∀ known ∈ HeaderName.customizable, HeaderName.same known name = false := by
      intro known hknown
      rw [Bool.eq_false_iff]
      exact fun hsame => hcustomizable ⟨known, hknown, hsame⟩
    exact written_of_not_customizable hname c (Params.given query) own path fresh classPath

/-! ## Names -/

/-- A header with a default is settled. -/
theorem names_settled_some (key default : Text) (params : Params) (a : Attributes) :
    (Bundle.settled key (some default) params a).map (·.name) = [key] := by
  rw [Bundle.settled, Bundle.chosen?]
  cases params.value? key with
  | some value => rfl
  | none =>
      cases a.get? key with
      | some value => rfl
      | none => rfl

/-- A header without one is settled if the deployer gives its value. -/
theorem names_settled_none {key : Text} {params : Params} {a : Attributes}
    (h : a.get? key = none) :
    (Bundle.settled key none params a).map (·.name)
      = if (params.value? key).isSome then [key] else [] := by
  rw [Bundle.settled, Bundle.chosen?, h]
  cases params.value? key with
  | some value => rfl
  | none => rfl

/-- The names of passed parameters. -/
theorem names_passed (params : Params) :
    (Bundle.passed params).map (·.name) = passedNames params := by
  rw [Bundle.passed, List.map_filterMap, passedNames]
  congr 1
  funext parameter
  obtain ⟨n, value⟩ := parameter
  cases value with
  | none => rfl
  | some value => cases hpasses : Bundle.passes n <;> simp_all [Bundle.passes]

/-- The names of the headers that are written. -/
theorem names_written {c : Config} {params : Params} {own : Attributes}
    (hversion : own.get? HeaderName.bundleVersion = none) (path fresh classPath : Text) :
    (Processor.written c params own path fresh classPath).map (·.name) = names params := by
  simp only [Processor.written, Processor.begun, Processor.completed, Processor.completing,
    Bundle.settledAll, List.flatMap_cons, List.flatMap_nil, List.append_nil, List.map_append,
    List.map_cons, List.map_nil, names_settled_some, names_settled_none hversion, names_passed,
    names, List.append_assoc, List.cons_append, List.nil_append]

/-! ## The bundle -/

/-- **What a plain archive becomes**: its main section has the values of `value?`, its own names in
front of those that are new in the order of the steps, and the entries keep what is no signature. -/
theorem process_eq {locator : Text} {medium : Medium} {bytes : Bytes} {a : Archive} {p : Processor}
    {query : Option Text} {m : Manifest}
    (hopen : (Archive.ofBytes locator medium bytes).result = .ok a)
    (hplain : ∀ known ∈ HeaderName.customizable, a.manifest.main.contains known = false)
    (h : (p.process a query).1.result = .ok m) :
    ∃ params path fresh classPath,
      (Params.ofRawQuery query : Traced BundleError Params).result = .ok params
      ∧ params.value? HeaderName.webContextPath = some path
      ∧ p.names.name = .ok fresh
      ∧ (ClassPath.derive a.entries).result = .ok classPath
      ∧ (∀ name, m.main.get? name
          = value? p.config params a.manifest.main path fresh classPath name)
      ∧ m.main.names
          = a.manifest.main.names ++ Attributes.newNames a.manifest.main.names (names params)
      ∧ m.entries.map (fun entry => (entry.1, entry.2.headers))
          = a.manifest.entries.map fun entry =>
            (entry.1, entry.2.headers.filter fun header => !Signature.isHeader header.name) := by
  have hmain := (Archive.wellFormed_of_ofBytes hopen).1.main
  obtain ⟨-, path, fresh, classPath, main, hpath, hfresh, hclassPath, hwritten, rfl, -⟩ :=
    (Processor.process_plain_eq_ok hmain (Bundle.classify_eq_plain.2 hplain)).1 h
  have hversion : a.manifest.main.get? HeaderName.bundleVersion = none :=
    get?_of_contains (hplain HeaderName.bundleVersion (by decide)) (HeaderName.same_self _)
  refine ⟨Params.given query, path, fresh, classPath, Params.result_ofRawQuery query, hpath, hfresh,
    hclassPath, get?_of_written hplain hwritten, ?_, ?_⟩
  · show main.names = _
    rw [hmain.names_insertHeaders hwritten, names_written hversion]
  · simp only [Signature.strip, List.map_map, Function.comp_def, Attributes.headers_filterNames]

/-- Here the last of two spellings of a name of the archive counts, which keeps its own one. -/
theorem process_eq_respelled :
    ∃ a m, (Archive.ofBytes [] .memory (Zip.store
          [⟨"META-INF/MANIFEST.MF".toList, Utf8.bytes "x-y: 0".toList⟩])).result = .ok a
      ∧ (({} : Processor).process a (some ↑"web-contextpath=a&X-Y=1&X-y=2")).1.result = .ok m
      ∧ m.main.get? "X-Y" = some ↑"2"
      ∧ m.main.names = ↑"x-y" :: names [] := by
  obtain ⟨a, ha, hview⟩ := exists_ok_of_toOption (e := (Archive.ofBytes [] .memory (Zip.store
      [⟨"META-INF/MANIFEST.MF".toList, Utf8.bytes "x-y: 0".toList⟩])).result)
    (f := fun a => (HeaderName.customizable.any a.manifest.main.contains, a.manifest.main.names,
      (({} : Processor).process a
        (some ↑"web-contextpath=a&X-Y=1&X-y=2")).1.result.toOption.map fun _ => ()))
    (b := (false, ([↑"x-y"] : List Text), some ())) (by decide +kernel)
  simp only [Prod.mk.injEq] at hview
  obtain ⟨hplain, hown, hsome⟩ := hview
  obtain ⟨m, hm, -⟩ := exists_ok_of_toOption hsome
  obtain ⟨params, path, fresh, classPath, hparams, -, -, -, hvalues, hnames, -⟩ :=
    process_eq ha (by simpa using hplain) hm
  obtain rfl : Params.given _ = params := Except.ok.inj (Params.result_ofRawQuery _ ▸ hparams)
  refine ⟨a, m, ha, hm, ?_, ?_⟩
  · have hlast : passedValue? (Params.given (some ↑"web-contextpath=a&X-Y=1&X-y=2"))
        "X-Y" = some ↑"2" := by decide +kernel
    rw [hvalues, value?_of_not_ruled (by decide +kernel), hlast]
    exact Option.some_or
  · rw [hnames, hown]
    decide +kernel

end PlainArchive

end Wab
