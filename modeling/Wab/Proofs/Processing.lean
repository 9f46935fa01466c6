import Wab.Bundle.Processor
import Wab.Proofs.Headers
import Wab.Proofs.Params
import Wab.Proofs.RoundTrip

/-! # What processing an archive writes

A manifest that comes out of processing is the one of the archive with a list of headers stored in
its main section: the context path alone for a bundle, and all that the steps write for a plain
archive, whose entry sections also lose their signatures.

* **`Processor.written`** — the headers that are written for a plain archive, in order.
* **`Processor.process_plain_eq_ok`**, **`Processor.process_wab_eq_ok`** — when an archive is
  processed, and what comes out.
* **`Archive.wellFormed_of_ofBytes`** — the manifest of an open archive is well-formed. -/

namespace Wab

namespace Processor

/-- The headers that the first stage writes for a plain archive. -/
def begun (c : Config) (params : Params) (own : Attributes) (path : Text) : List Header :=
  ⟨HeaderName.webContextPath, Bundle.rooted path⟩
    :: Bundle.settled HeaderName.bundleManifestVersion (some c.manifestVersion) params own

/-- The names that the second stage settles, with their defaults. -/
def completing (c : Config) (name classPath : Text) : List (Text × Option Text) :=
  [(HeaderName.bundleSymbolicName, some name), (HeaderName.bundleVersion, none),
    (HeaderName.bundleClassPath, some classPath), (HeaderName.importPackage, some c.importPackage)]

/-- The headers that the second stage writes. -/
def completed (c : Config) (params : Params) (own : Attributes) (name classPath : Text) :
    List Header :=
  Bundle.settledAll (completing c name classPath) params own ++ Bundle.passed params
    ++ [⟨HeaderName.dynamicImportPackage, anyPackage⟩]

/-- The headers that are written for a plain archive. -/
def written (c : Config) (params : Params) (own : Attributes) (path name classPath : Text) :
    List Header :=
  begun c params own path ++ completed c params own name classPath

/-! ## The stages -/

/-- The first stage of a plain archive stores headers in its main section. -/
theorem begin_eq_ok {c : Config} {params : Params} {m n : Manifest} (hm : m.main.WellFormed) :
    begin c params m = .ok n
      ↔ ∃ path main, params.value? HeaderName.webContextPath = some path
        ∧ m.main.insertHeaders (begun c params m.main path) = .ok main
        ∧ n = { m with main := main } := by
  have hname : ∀ path : Text,
      ∀ header ∈ [Header.mk HeaderName.webContextPath (Bundle.rooted path)],
        HeaderName.same header.name HeaderName.bundleManifestVersion = false := by
    intro path header hheader
    rw [List.mem_singleton.1 hheader]
    exact (List.pairwise_cons.1 HeaderName.pairwise_written).1 _ List.mem_cons_self
  rw [begin, bind_eq_ok]
  simp only [bind_eq_ok, Bundle.setContextPath_eq_ok, mapError_eq_ok]
  constructor
  · rintro ⟨first, ⟨path, hpath, hfirst⟩, main, hmain, hn⟩
    rw [Bundle.settle_eq (hm.insertHeaders hfirst),
      Bundle.settled_of_insertHeaders hfirst (hname path)] at hmain
    refine ⟨path, main, hpath, ?_, (Except.ok.inj hn).symm⟩
    show m.main.insertHeaders ([_] ++ _) = .ok main
    rw [Attributes.insertHeaders_append_list, hfirst]
    exact hmain
  · rintro ⟨path, main, hpath, hmain, rfl⟩
    rw [begun, ← List.singleton_append, Attributes.insertHeaders_append_list, bind_eq_ok] at hmain
    obtain ⟨first, hfirst, hrest⟩ := hmain
    refine ⟨first, ⟨path, hpath, hfirst⟩, main, ?_, rfl⟩
    rw [Bundle.settle_eq (hm.insertHeaders hfirst),
      Bundle.settled_of_insertHeaders hfirst (hname path)]
    exact hrest

/-- The second stage of a plain archive stores headers in its main section. -/
theorem complete_eq_ok {c : Config} {name : Text} {entries : List Archive.Entry} {params : Params}
    {main b : Attributes} (hmain : main.WellFormed) :
    (complete c name entries params main).result = .ok b
      ↔ ∃ classPath, (ClassPath.derive entries).result = .ok classPath
        ∧ main.insertHeaders (completed c params main name classPath) = .ok b := by
  -- The names that are settled differ, so none depends on what was settled before it.
  have hnames : ∀ classPath, (completing c name classPath).Pairwise
      fun s t => HeaderName.same s.1 t.1 = false := by
    intro classPath
    have hdistinct : [HeaderName.bundleSymbolicName, HeaderName.bundleVersion,
        HeaderName.bundleClassPath, HeaderName.importPackage].Pairwise
          fun s t => HeaderName.same s t = false :=
      HeaderName.pairwise_written.sublist (((List.sublist_append_left _ _).cons _).cons _)
    exact (List.pairwise_map (f := Prod.fst) (l := completing c name classPath)).1 hdistinct
  -- The class path is derived between two settled headers but does not depend on them.
  have hsteps : (complete c name entries params main).result = .ok b
      ↔ ∃ classPath, (ClassPath.derive entries).result = .ok classPath
        ∧ ∃ settled, Bundle.settleAll (completing c name classPath) params main = .ok settled
        ∧ ∃ passed, (Bundle.passThrough params settled).result = .ok passed
        ∧ passed.insert HeaderName.dynamicImportPackage anyPackage = .ok b := by
    simp only [complete, Traced.result_bind, Traced.result_ofExcept, Traced.result_mapError,
      bind_eq_ok, mapError_eq_ok, completing, Bundle.settleAll, List.foldlM_cons, List.foldlM_nil]
    constructor
    · rintro ⟨a₁, h₁, a₂, h₂, classPath, hderive, a₃, h₃, a₄, h₄, a₅, h₅, h₆⟩
      exact ⟨classPath, hderive, a₄, ⟨a₁, h₁, a₂, h₂, a₃, h₃, a₄, h₄, rfl⟩, a₅, h₅, h₆⟩
    · rintro ⟨classPath, hderive, a, ⟨a₁, h₁, a₂, h₂, a₃, h₃, a₄, h₄, hlast⟩, a₅, h₅, h₆⟩
      obtain rfl := Except.ok.inj hlast
      exact ⟨a₁, h₁, a₂, h₂, classPath, hderive, a₃, h₃, a₄, h₄, a₅, h₅, h₆⟩
  rw [hsteps]
  refine exists_congr fun classPath => and_congr_right fun _ => ?_
  rw [completed, Attributes.insertHeaders_append_list, Attributes.insertHeaders_append_list,
    ← Bundle.settleAll_eq hmain (hnames classPath), bind_eq_ok]
  simp only [bind_eq_ok, Bundle.passThrough_eq_ok, Attributes.insertHeaders_cons_eq_ok,
    Attributes.insertHeaders_nil, Except.ok.injEq, exists_eq_right]
  constructor
  · rintro ⟨settled, hsettled, passed, hpassed, hlast⟩
    exact ⟨passed, ⟨settled, hsettled, hpassed⟩, hlast⟩
  · rintro ⟨passed, ⟨settled, hsettled, hpassed⟩, hlast⟩
    exact ⟨settled, hsettled, passed, hpassed, hlast⟩

/-- The second stage gives a name and completes the main section. -/
theorem finish_unnamed_eq_ok {c : Config} {names : NameGenerator} {entries : List Archive.Entry}
    {params : Params} {m n : Manifest} :
    (finish c names entries (.unnamed params m)).result = .ok n
      ↔ ∃ name main, names.name = .ok name
        ∧ (complete c name entries params m.main).result = .ok main
        ∧ n = Signature.strip { m with main := main } := by
  simp only [finish, Traced.result_bind, Traced.result_ofExcept, Traced.result_pure, bind_eq_ok,
    mapError_eq_ok, Except.ok.injEq]
  constructor
  · rintro ⟨name, hname, main, hmain, hn⟩
    exact ⟨name, main, hname, hmain, hn.symm⟩
  · rintro ⟨name, main, hname, hmain, hn⟩
    exact ⟨name, hname, main, hmain, hn.symm⟩

/-- The headers of the first stage have other names than those that the second one settles. -/
theorem completed_of_insertHeaders {c : Config} {params : Params} {a b : Attributes} {path : Text}
    (h : a.insertHeaders (begun c params a path) = .ok b) (name classPath : Text) :
    completed c params b name classPath = completed c params a name classPath := by
  have hnames : ∀ known ∈ [HeaderName.webContextPath, HeaderName.bundleManifestVersion],
      ∀ key ∈ [HeaderName.bundleSymbolicName, HeaderName.bundleVersion, HeaderName.bundleClassPath,
        HeaderName.importPackage], HeaderName.same known key = false := by
    intro known hknown key hkey
    have hparts : HeaderName.written
        = [HeaderName.webContextPath, HeaderName.bundleManifestVersion]
          ++ ([HeaderName.bundleSymbolicName, HeaderName.bundleVersion, HeaderName.bundleClassPath,
            HeaderName.importPackage] ++ [HeaderName.dynamicImportPackage]) := rfl
    have hboth := HeaderName.pairwise_written
    rw [hparts, List.pairwise_append] at hboth
    exact hboth.2.2 known hknown key (List.mem_append_left _ hkey)
  rw [completed, completed, Bundle.settledAll_of_insertHeaders h]
  intro step hstep header hheader
  apply hnames
  · rcases List.mem_cons.1 hheader with rfl | hheader
    · exact List.mem_cons_self
    · rw [Bundle.name_of_mem_settled hheader]
      exact List.mem_cons_of_mem _ List.mem_cons_self
  · exact List.mem_map_of_mem hstep

/-- The headers of a plain archive are those of one stage after those of the other. -/
theorem insertHeaders_written_eq_ok {c : Config} {params : Params} {a b : Attributes}
    {path name classPath : Text} :
    a.insertHeaders (written c params a path name classPath) = .ok b
      ↔ ∃ first, a.insertHeaders (begun c params a path) = .ok first
        ∧ first.insertHeaders (completed c params first name classPath) = .ok b := by
  rw [written, Attributes.insertHeaders_append_list, bind_eq_ok]
  refine exists_congr fun first => and_congr_right fun hfirst => ?_
  rw [completed_of_insertHeaders hfirst]

/-- A bundle only has its context path set, and nothing else may be given. -/
theorem customize_eq_ok {params : Params} {m n : Manifest} :
    customize params m = .ok n
      ↔ params.names = [HeaderName.webContextPath]
        ∧ ∃ path main, params.value? HeaderName.webContextPath = some path
          ∧ m.main.insertHeaders [⟨HeaderName.webContextPath, Bundle.rooted path⟩] = .ok main
          ∧ n = { m with main := main } := by
  rw [customize]
  by_cases hnames : params.names = [HeaderName.webContextPath]
  · rw [if_neg (not_not_intro hnames), bind_eq_ok]
    simp only [Bundle.setContextPath_eq_ok]
    constructor
    · rintro ⟨main, ⟨path, hpath, hmain⟩, hn⟩
      exact ⟨hnames, path, main, hpath, hmain, (Except.ok.inj hn).symm⟩
    · rintro ⟨-, path, main, hpath, hmain, rfl⟩
      exact ⟨main, ⟨path, hpath, hmain⟩, rfl⟩
  · simp [hnames]

/-! ## Whole runs -/

/-- The fault of a surrogate that is encoded by itself. -/
def surrogateFault (n : Fin 0x800) : BundleError := .fault (.surrogates (.alone n))

/-- The manifest if it can be written. -/
def writable (m : Manifest) : Except BundleError Manifest :=
  outcome (m.surrogate?.map surrogateFault) m

theorem writable_eq_ok {m n : Manifest} : writable m = .ok n ↔ m = n ∧ n.surrogate? = none := by
  rw [writable]
  cases hm : m.surrogate? with
  | none =>
      constructor
      · intro h
        obtain rfl := Except.ok.inj h
        exact ⟨rfl, hm⟩
      · rintro ⟨rfl, -⟩
        rfl
  | some k =>
      constructor
      · exact fun h => absurd h (by simp)
      · rintro ⟨rfl, hn⟩
        exact absurd (hm.symm.trans hn) (by simp)

/-- The result is that of one stage after the other, if it can be written. -/
theorem result_process (p : Processor) (a : Archive) (query : Option Text) :
    (p.process a query).1.result
      = ((prepare p.config a query).result
        >>= fun stage => (finish p.config p.names a.entries stage).result >>= writable) := by
  simp only [process, manifestFor, Traced.result_bind, Traced.result_say, Traced.result_pure,
    Traced.result_ofExcept, ok_bind]
  refine bind_congr fun stage => bind_congr fun m => ?_
  rw [writable]
  obtain ⟨n, hn, hbytes⟩ | ⟨hnone, bytes, hbytes, -⟩ := m.bytes_cases
  · rw [hbytes, hn]
    rfl
  · rw [hbytes, hnone]
    rfl

/-- A manifest comes out if both stages succeed and it can be written. -/
theorem process_eq_ok {p : Processor} {a : Archive} {query : Option Text} {m : Manifest} :
    (p.process a query).1.result = .ok m
      ↔ (∃ stage, (prepare p.config a query).result = .ok stage
          ∧ (finish p.config p.names a.entries stage).result = .ok m)
        ∧ m.surrogate? = none := by
  rw [result_process]
  simp only [bind_eq_ok, writable_eq_ok]
  constructor
  · rintro ⟨stage, hstage, n, hn, rfl, hnone⟩
    exact ⟨⟨stage, hstage, hn⟩, hnone⟩
  · rintro ⟨⟨stage, hstage, hm⟩, hnone⟩
    exact ⟨stage, hstage, m, hm, rfl, hnone⟩

/-- A manifest that comes out can be written. -/
theorem exists_bytes_of_process {p : Processor} {a : Archive} {query : Option Text} {m : Manifest}
    (h : (p.process a query).1.result = .ok m) : ∃ bytes, m.bytes = .ok bytes :=
  Manifest.exists_bytes (process_eq_ok.1 h).2

/-- The first stage checks the values and then treats the archive as what it is. -/
theorem prepare_eq_ok {c : Config} {a : Archive} {query : Option Text} {stage : Stage} :
    (prepare c a query).result = .ok stage
      ↔ Bundle.checkValues (Params.given query) = .ok ()
        ∧ match Bundle.classify a.manifest.main with
          | .wab => ∃ m, customize (Params.given query) a.manifest = .ok m ∧ .done m = stage
          | .plain => ∃ m, begin c (Params.given query) a.manifest = .ok m
              ∧ .unnamed (Params.given query) m = stage := by
  simp only [prepare, Traced.result_bind, Params.result_ofRawQuery, ok_bind, Traced.result_ofExcept,
    Traced.result_say]
  cases Bundle.checkValues (Params.given query) with
  | error e => simp
  | ok _ =>
      cases Bundle.classify a.manifest.main with
      | wab => simp [bind_eq_ok]
      | plain => simp [bind_eq_ok]

/-- **A plain archive is processed** if its values are unbroken, a context path is given, a name can
be drawn, the class path can be derived, all headers can be stored and no surrogate is in them. -/
theorem process_plain_eq_ok {p : Processor} {a : Archive} {query : Option Text} {m : Manifest}
    (ha : a.manifest.main.WellFormed) (hplain : Bundle.classify a.manifest.main = .plain) :
    (p.process a query).1.result = .ok m
      ↔ Bundle.checkValues (Params.given query) = .ok ()
        ∧ ∃ path name classPath main,
          (Params.given query).value? HeaderName.webContextPath = some path
          ∧ p.names.name = .ok name
          ∧ (ClassPath.derive a.entries).result = .ok classPath
          ∧ a.manifest.main.insertHeaders
              (written p.config (Params.given query) a.manifest.main path name classPath) = .ok main
          ∧ m = Signature.strip { a.manifest with main := main }
          ∧ m.surrogate? = none := by
  rw [process_eq_ok]
  simp only [prepare_eq_ok, hplain]
  constructor
  · rintro ⟨⟨stage, ⟨hcheck, n, hbegin, rfl⟩, hfinish⟩, hnone⟩
    obtain ⟨path, first, hpath, hfirst, rfl⟩ := (begin_eq_ok ha).1 hbegin
    obtain ⟨name, main, hname, hcomplete, rfl⟩ := finish_unnamed_eq_ok.1 hfinish
    obtain ⟨classPath, hderive, hmain⟩ := (complete_eq_ok (ha.insertHeaders hfirst)).1 hcomplete
    have hwritten := insertHeaders_written_eq_ok.2 ⟨first, hfirst, hmain⟩
    exact ⟨hcheck, path, name, classPath, main, hpath, hname, hderive, hwritten, rfl, hnone⟩
  · rintro ⟨hcheck, path, name, classPath, main, hpath, hname, hderive, hmain, rfl, hnone⟩
    obtain ⟨first, hfirst, hrest⟩ := insertHeaders_written_eq_ok.1 hmain
    have hbegin := (begin_eq_ok ha).2 ⟨path, first, hpath, hfirst, rfl⟩
    have hcomplete := (complete_eq_ok (ha.insertHeaders hfirst)).2 ⟨classPath, hderive, hrest⟩
    refine ⟨⟨_, ⟨hcheck, _, hbegin, rfl⟩, ?_⟩, hnone⟩
    exact finish_unnamed_eq_ok.2 ⟨name, main, hname, hcomplete, rfl⟩

/-- **A bundle is processed** if the context path is all that is given and no surrogate comes into
the manifest. -/
theorem process_wab_eq_ok {p : Processor} {a : Archive} {query : Option Text} {m : Manifest}
    (hwab : Bundle.classify a.manifest.main = .wab) :
    (p.process a query).1.result = .ok m
      ↔ Bundle.checkValues (Params.given query) = .ok ()
        ∧ (Params.given query).names = [HeaderName.webContextPath]
        ∧ ∃ path main,
          (Params.given query).value? HeaderName.webContextPath = some path
          ∧ a.manifest.main.insertHeaders [⟨HeaderName.webContextPath, Bundle.rooted path⟩]
              = .ok main
          ∧ m = { a.manifest with main := main }
          ∧ m.surrogate? = none := by
  rw [process_eq_ok]
  simp only [prepare_eq_ok, hwab]
  constructor
  · rintro ⟨⟨stage, ⟨hcheck, n, hcustomize, rfl⟩, hfinish⟩, hnone⟩
    obtain ⟨hnames, path, main, hpath, hmain, rfl⟩ := customize_eq_ok.1 hcustomize
    obtain rfl := Except.ok.inj hfinish
    exact ⟨hcheck, hnames, path, main, hpath, hmain, rfl, hnone⟩
  · rintro ⟨hcheck, hnames, path, main, hpath, hmain, rfl, hnone⟩
    have hcustomize := customize_eq_ok.2 ⟨hnames, path, main, hpath, hmain, rfl⟩
    exact ⟨⟨_, ⟨hcheck, _, hcustomize, rfl⟩, rfl⟩, hnone⟩

end Processor

/-- The manifest of an open archive was read from bytes, or it is empty. -/
theorem Archive.manifest_of_ofBytes {locator : Text} {medium : Medium} {bytes : Bytes}
    {a : Archive} (h : (ofBytes locator medium bytes).result = .ok a) :
    (∃ content, Manifest.parseBytes content = .ok a.manifest) ∨ a.manifest = {} := by
  simp only [ofBytes, Traced.result_mapError, mapError_eq_ok, Traced.result_bind,
    Traced.result_ofExcept, Traced.result_pure, bind_eq_ok, Except.ok.injEq] at h
  obtain ⟨zip, -, m, hm, rfl⟩ := h
  rw [readManifest] at hm
  split at hm
  next member _ =>
    simp only [Traced.result_ofExcept, bind_eq_ok, mapError_eq_ok] at hm
    obtain ⟨content, -, hparse⟩ := hm
    exact Or.inl ⟨content, hparse⟩
  next =>
    simp only [Traced.result_bind, Traced.result_say, Traced.result_pure, bind_eq_ok,
      Except.ok.injEq] at hm
    obtain ⟨-, -, rfl⟩ := hm
    exact Or.inr rfl

/-- **The manifest of an open archive is well-formed.** -/
theorem Archive.wellFormed_of_ofBytes {locator : Text} {medium : Medium} {bytes : Bytes}
    {a : Archive} (h : (ofBytes locator medium bytes).result = .ok a) :
    a.manifest.WellFormed ∧ a.manifest.OneLined := by
  obtain ⟨content, hparse⟩ | hempty := manifest_of_ofBytes h
  · exact Manifest.wellFormed_of_parseBytes hparse
  · exact hempty ▸ Manifest.wellFormed_default

end Wab
