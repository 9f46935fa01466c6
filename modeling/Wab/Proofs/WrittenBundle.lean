import Wab.Proofs.BrokenNames
import Wab.Proofs.Processing
import Wab.Zip.Writer

/-! # The written manifest of a bundle

What processing writes is read back, with one exception: the name of a parameter may end with a line
feed and be valid all the same, and then the header that it is passed on as cannot be read.

* **`Params.BreaksLine`** — a parameter with such a name and a value.
* **`Processor.parseBytes_process`** — the written manifest is read back unless there is one. -/

namespace Wab

/-- Some parameter has a value and a plain name with a line feed behind it. -/
def Params.BreaksLine (params : Params) : Prop :=
  ∃ name value, (name ++ [.scalar '\n'], some value) ∈ params ∧ HeaderName.isPlain name = true

/-! ## Stored names -/

namespace Attributes

/-- Dropping headers keeps a section well-formed. -/
theorem WellFormed.filterNames {a : Attributes} (ha : a.WellFormed) (keep : Text → Bool) :
    (a.filterNames keep).WellFormed :=
  ha.sublist List.filter_sublist

/-- Dropping headers brings in no name. -/
theorem OneLined.filterNames {a : Attributes} (ha : a.OneLined) (keep : Text → Bool) :
    (a.filterNames keep).OneLined := by
  intro h hh
  have hsub := List.filter_sublist (p := fun slot : Text × Header => keep slot.2.name)
    (l := a.slots)
  exact ha h ((hsub.map _).mem hh)

/-- A name that was stored is there, perhaps in another letter case. -/
theorem WellFormed.exists_same_of_insertHeaders {a b : Attributes} (ha : a.WellFormed)
    {headers : List Header} (h : a.insertHeaders headers = .ok b) {header : Header}
    (hheader : header ∈ headers) :
    ∃ g ∈ b.headers,
      HeaderName.isValid g.name = true ∧ Text.lower g.name = Text.lower header.name := by
  -- The last header of the name gave it some value.
  have hvalue : b.get? header.name ≠ none := by
    rw [get?_insertHeaders h]
    intro hnone
    simp only [Option.orElse_eq_orElse, Option.orElse_eq_or, Option.or_eq_none_iff] at hnone
    have hlast := List.findSome?_eq_none_iff.1 hnone.1 header (List.mem_reverse.2 hheader)
    simp [HeaderName.same_self] at hlast
  obtain ⟨value, hfound⟩ := Option.ne_none_iff_exists'.1 hvalue
  obtain ⟨g, hg, -⟩ := Option.map_eq_some_iff.1 hfound
  have hkept := (ha.insertHeaders h).kept_of_find? hg
  exact ⟨g, List.mem_map_of_mem (Dictionary.mem_of_get? hg), hkept.valid, hkept.keyed.symm⟩

end Attributes

/-! ## Parameters that break a line -/

namespace Params

/-- A line is broken by the headers that parameters are passed on as. -/
theorem breaksLine_iff {params : Params} :
    params.BreaksLine ↔ ∃ h ∈ Bundle.passed params, .scalar '\n' ∈ h.name := by
  have hcustomizable : ∀ known ∈ HeaderName.customizable, .scalar '\n' ∉ known :=
    fun known hknown =>
      HeaderName.lineFeed_not_mem_of_mem_written (HeaderName.customizable_subset_written hknown)
  constructor
  · rintro ⟨name, value, hmem, hname⟩
    have hfeed : .scalar '\n' ∈ name ++ [.scalar '\n'] := List.mem_append_right _ List.mem_cons_self
    have hvalid : HeaderName.isValid (name ++ [.scalar '\n']) = true :=
      HeaderName.isValid_iff.2 (Or.inr ⟨name, hname, rfl⟩)
    have hother : name ++ [.scalar '\n'] ∉ HeaderName.customizable :=
      fun hknown => hcustomizable _ hknown hfeed
    refine ⟨⟨name ++ [.scalar '\n'], value⟩, Bundle.mem_passed.2 ⟨hmem, ?_⟩, hfeed⟩
    simp [Bundle.passes, hother, hvalid]
  · rintro ⟨⟨n, value⟩, hh, hfeed⟩
    obtain ⟨hmem, hpasses⟩ := Bundle.mem_passed.1 hh
    rw [Bundle.passes, Bool.and_eq_true] at hpasses
    rcases HeaderName.isValid_iff.1 hpasses.2 with hplain | ⟨name, hname, rfl⟩
    · exact absurd hfeed (HeaderName.unbroken_of_isPlain hplain).2
    · exact ⟨name, value, hmem, hname⟩

end Params

namespace Processor

/-- The headers that are written for a plain archive break no line unless they are passed on. -/
theorem of_mem_written {c : Config} {params : Params} {own : Attributes}
    {path name classPath : Text} {h : Header}
    (hh : h ∈ written c params own path name classPath) :
    .scalar '\n' ∉ h.name ∨ h ∈ Bundle.passed params := by
  have hknown : ∀ known ∈ HeaderName.written, .scalar '\n' ∉ known :=
    fun known => HeaderName.lineFeed_not_mem_of_mem_written
  rcases List.mem_append.1 hh with hh | hh
  · rcases List.mem_cons.1 hh with rfl | hh
    · exact Or.inl (hknown _ List.mem_cons_self)
    · rw [Bundle.name_of_mem_settled hh]
      exact Or.inl (hknown _ (by simp [HeaderName.written]))
  · rcases List.mem_append.1 hh with hh | hh
    · rcases List.mem_append.1 hh with hh | hh
      · obtain ⟨step, hstep, hh⟩ := List.mem_flatMap.1 hh
        have hname : step.1 ∈ (completing c name classPath).map (·.1) := List.mem_map_of_mem hstep
        have hsettled := List.mem_append_left [HeaderName.dynamicImportPackage] hname
        rw [Bundle.name_of_mem_settled hh]
        exact Or.inl (hknown _ (List.mem_append_right [_, _] hsettled))
      · exact Or.inr hh
    · rw [List.mem_singleton.1 hh]
      exact Or.inl (hknown _ (by simp [HeaderName.written]))

/-! ## What comes out -/

variable {locator : Text} {medium : Medium} {bytes : Bytes} {a : Archive} {p : Processor}
  {query : Option Text} {m : Manifest}

/-- The manifest that comes out is well-formed, and no name of a header of an entry breaks a
line. -/
theorem wellFormed_of_process (hopen : (Archive.ofBytes locator medium bytes).result = .ok a)
    (h : (p.process a query).1.result = .ok m) :
    m.WellFormed ∧ ∀ entry ∈ m.entries, entry.2.OneLined := by
  obtain ⟨hm, hone⟩ := Archive.wellFormed_of_ofBytes hopen
  -- A bundle keeps its entries, and a plain archive drops headers of them.
  cases hkind : Bundle.classify a.manifest.main with
  | wab =>
      obtain ⟨-, -, path, main, -, hmain, rfl, -⟩ := (process_wab_eq_ok hkind).1 h
      exact ⟨⟨hm.main.insertHeaders hmain, hm.distinct, hm.entries⟩, hone.entries⟩
  | plain =>
      obtain ⟨-, path, name, classPath, main, -, -, -, hmain, rfl, -⟩ :=
        (process_plain_eq_ok hm.main hkind).1 h
      refine ⟨⟨hm.main.insertHeaders hmain, ?_, ?_⟩, ?_⟩
      · have hnames : Dictionary.names (Signature.strip { a.manifest with main := main }).entries
            = Dictionary.names a.manifest.entries := by
          rw [Dictionary.names, Signature.strip, List.map_map]
          rfl
        rw [hnames]
        exact hm.distinct
      · intro entry hentry
        obtain ⟨⟨name, old⟩, hold, rfl⟩ := List.mem_map.1 hentry
        obtain ⟨hname, hold⟩ := hm.entries _ hold
        exact ⟨hname, hold.filterNames fun n => !Signature.isHeader n⟩
      · intro entry hentry
        obtain ⟨⟨name, old⟩, hold, rfl⟩ := List.mem_map.1 hentry
        exact (hone.entries _ hold).filterNames _

/-- The main names break no line if and only if no parameter does. -/
theorem oneLined_process_iff (hopen : (Archive.ofBytes locator medium bytes).result = .ok a)
    (h : (p.process a query).1.result = .ok m) :
    m.main.OneLined ↔ ¬ (Params.given query).BreaksLine := by
  obtain ⟨hm, hone⟩ := Archive.wellFormed_of_ofBytes hopen
  rw [Params.breaksLine_iff]
  cases hkind : Bundle.classify a.manifest.main with
  | wab =>
      obtain ⟨-, hnames, path, main, -, hmain, rfl, -⟩ := (process_wab_eq_ok hkind).1 h
      have hfeed : .scalar '\n' ∉ HeaderName.webContextPath := by decide
      -- Nothing but the context path is given, so nothing is passed on.
      have hnone : ¬ ∃ h ∈ Bundle.passed (Params.given query), .scalar '\n' ∈ h.name := by
        rintro ⟨h, hh, hbroken⟩
        have hname : h.name ∈ (Params.given query).names :=
          List.mem_map_of_mem (Bundle.mem_passed.1 hh).1
        rw [hnames, List.mem_singleton] at hname
        exact hfeed (hname ▸ hbroken)
      refine iff_of_true (hone.main.insertHeaders ?_ hmain) hnone
      intro header hheader
      rw [List.mem_singleton.1 hheader]
      exact hfeed
  | plain =>
      obtain ⟨-, path, name, classPath, main, -, -, -, hmain, rfl, -⟩ :=
        (process_plain_eq_ok hm.main hkind).1 h
      constructor
      · rintro hmainOne ⟨h, hh, hbroken⟩
        have hwritten : h ∈ written p.config (Params.given query) a.manifest.main path name
            classPath := by
          apply List.mem_append_right
          exact List.mem_append_left _ (List.mem_append_right _ hh)
        obtain ⟨g, hg, hvalid, hsame⟩ := hm.main.exists_same_of_insertHeaders hmain hwritten
        have hpasses := (Bundle.mem_passed.1 hh).2
        rw [Bundle.passes, Bool.and_eq_true] at hpasses
        -- The name that is there may be spelled otherwise, but it breaks the line as well.
        apply hmainOne g hg
        rw [← HeaderName.mem_lower_iff hvalid, hsame, HeaderName.mem_lower_iff hpasses.2]
        exact hbroken
      · intro hnone
        refine hone.main.insertHeaders (fun h hh hbroken => ?_) hmain
        rcases of_mem_written hh with hfree | hpassed
        · exact hfree hbroken
        · exact hnone ⟨h, hpassed, hbroken⟩

/-- **The written manifest of a bundle is read back**, the version of the format in front, unless a
parameter breaks a line; then it cannot be read. -/
theorem parseBytes_process (hopen : (Archive.ofBytes locator medium bytes).result = .ok a)
    (h : (p.process a query).1.result = .ok m) :
    ∃ written, m.bytes = .ok written
      ∧ (¬ (Params.given query).BreaksLine →
        ∃ again, Manifest.parseBytes written = .ok again
          ∧ again.main.headers
              = m.main.headers.filter (fun h => HeaderName.same h.name HeaderName.manifestVersion)
                ++ m.main.headers.filter
                  (fun h => !HeaderName.same h.name HeaderName.manifestVersion)
          ∧ again.entries = m.entries)
      ∧ ((Params.given query).BreaksLine →
        ∃ line content, Manifest.parseBytes written = .error (.invalidHeader line content)) := by
  obtain ⟨hm, hentries⟩ := wellFormed_of_process hopen h
  have hone := oneLined_process_iff hopen h
  obtain ⟨written, hwritten⟩ := exists_bytes_of_process h
  refine ⟨written, hwritten, ?_, ?_⟩
  · intro hfree
    have hread := Manifest.parseBytes_bytes hm ⟨hone.2 hfree, hentries⟩ hwritten
    exact ⟨m.versionFirst, hread, Attributes.headers_versionFirst m.main, rfl⟩
  · intro hbreaks
    have hbroken : ∃ g ∈ m.main.headers, .scalar '\n' ∈ g.name :=
      Classical.byContradiction fun hnone =>
        hone.1 (fun g hg hfeed => hnone ⟨g, hg, hfeed⟩) hbreaks
    obtain ⟨g, hg, hfeed⟩ := hbroken
    rw [Manifest.parseBytes, Utf8.decode?_eq_some_iff.2 (Manifest.encode_of_bytes hwritten)]
    exact Manifest.parse_text_of_broken hm hg hfeed

/-- Here a parameter breaks a line of the manifest of an archive without one. -/
theorem parseBytes_process_unreadable :
    ∃ a m written, (Archive.ofBytes [] .memory (Zip.store [])).result = .ok a
      ∧ (({} : Processor).process a (some ↑"Web-ContextPath=/a&X%0A=v")).1.result = .ok m
      ∧ m.bytes = .ok written
      ∧ ∃ line content, Manifest.parseBytes written = .error (.invalidHeader line content) := by
  obtain ⟨a, ha, hsome⟩ := exists_ok_of_toOption
    (e := (Archive.ofBytes [] .memory (Zip.store [])).result)
    (f := fun a => (({} : Processor).process a
      (some ↑"Web-ContextPath=/a&X%0A=v")).1.result.toOption.map fun _ => ())
    (b := some ()) (by decide +kernel)
  obtain ⟨m, hm, -⟩ := exists_ok_of_toOption hsome
  have hbreaks : (Params.given (some ↑"Web-ContextPath=/a&X%0A=v")).BreaksLine :=
    ⟨['X'], ['v'], by decide +kernel, by decide +kernel⟩
  obtain ⟨written, hwritten, -, hunread⟩ := parseBytes_process ha hm
  exact ⟨a, m, written, ha, hm, hwritten, hunread hbreaks⟩

end Processor

end Wab
