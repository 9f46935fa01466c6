import Wab.Proofs.Refusals

/-! # What a bundle becomes

A bundle keeps its manifest but for the context path: this takes the place of the one it has, under
the spelling that this one has, or comes last. Nothing else of the archive counts, and no number is
drawn.

* **`Attributes.SetsOnly`** — two lists of headers differ in the value of one name.
* **`Attributes.setsOnly_of_insert`** — a header that is stored changes nothing else.
* **`Processor.process_bundle`** — what a bundle becomes. -/

namespace Wab

namespace Attributes

/-- The headers `new` are the headers `old` with a value given to a name: in the place and the
spelling of the only header of that name, or last if there is none. -/
def SetsOnly (name value : Text) (old new : List Header) : Prop :=
  (∃ before own after, old = before ++ own :: after
      ∧ HeaderName.same own.name name = true
      ∧ (∀ h ∈ before ++ after, HeaderName.same h.name name = false)
      ∧ new = before ++ ⟨own.name, value⟩ :: after)
  ∨ (∀ h ∈ old, HeaderName.same h.name name = false) ∧ new = old ++ [⟨name, value⟩]

/-- **A header that is stored changes nothing else.** -/
theorem setsOnly_of_insert {a b : Attributes} (ha : a.WellFormed) {name value : Text}
    (h : a.insert name value = .ok b) : SetsOnly name value a.headers b.headers := by
  obtain ⟨-, ⟨own, hfind, rfl⟩ | ⟨hfind, -, rfl⟩⟩ := insert_cases h
  · obtain ⟨before, after, hslots, hother, hinsert⟩ := ha.exists_append_of_find? hfind
    refine Or.inl ⟨before.map (·.2), own, after.map (·.2), ?_, ?_, ?_, ?_⟩
    · rw [headers, hslots, List.map_append, List.map_cons]
    · exact HeaderName.same_iff.2 (ha.kept_of_find? hfind).keyed.symm
    · rw [← List.map_append]
      intro g hg
      obtain ⟨slot, hslot, rfl⟩ := List.mem_map.1 hg
      exact hother slot hslot
    · rw [headers, hinsert, List.map_append, List.map_cons]
  · refine Or.inr ⟨fun g hg => ?_, by rw [headers, List.map_append]; rfl⟩
    obtain ⟨slot, hslot, rfl⟩ := List.mem_map.1 hg
    refine not_same_of_kept (ha.kept slot hslot) fun hkey => ?_
    exact Dictionary.get?_eq_none_iff.1 hfind (hkey ▸ List.mem_map_of_mem hslot)

end Attributes

namespace Processor

/-- A path that is rooted begins with a slash. -/
theorem head?_rooted (path : Text) : (Bundle.rooted path).head? = some (.scalar '/') := by
  rw [Bundle.rooted]
  split
  next hstart =>
    obtain ⟨rest, rfl⟩ := List.isPrefixOf_iff_prefix.1 hstart
    rfl
  next => rfl

/-- No number is drawn for a bundle. -/
theorem process_snd_of_wab {p : Processor} {a : Archive} {query : Option Text}
    (h : Bundle.classify a.manifest.main = .wab) : (p.process a query).2 = p := by
  have hdraws : p.draws a query = false := by
    rw [draws]
    split
    next stage hstage =>
      have hprepare := (prepare_eq_ok.1 hstage).2
      rw [h] at hprepare
      obtain ⟨m, -, rfl⟩ := hprepare
      rfl
    next => rfl
  rw [process, hdraws, if_neg Bool.false_ne_true]

/-- **What a bundle becomes**: the context path alone is set, the sections of entries stay, and
every processor gives the same for every archive with that manifest and draws no number. -/
theorem process_bundle {locator : Text} {medium : Medium} {bytes : Bytes} {a : Archive}
    {p : Processor} {query : Option Text} {m : Manifest}
    (hopen : (Archive.ofBytes locator medium bytes).result = .ok a)
    (hbundle : Bundle.IsBundle a.manifest.main) (h : (p.process a query).1.result = .ok m) :
    ∃ path, path.head? = some (.scalar '/')
      ∧ Attributes.SetsOnly HeaderName.webContextPath path a.manifest.main.headers m.main.headers
      ∧ m.entries = a.manifest.entries
      ∧ ∀ (q : Processor) (b : Archive), b.manifest = a.manifest →
        (q.process b query).1.result = .ok m ∧ (q.process b query).2 = q := by
  have hown := (Archive.wellFormed_of_ofBytes hopen).1.main
  have hwab := (Bundle.classify_eq_wab_iff hown).2 hbundle
  obtain ⟨hcheck, hnames, path, main, hpath, hmain, rfl, hnone⟩ := (process_wab_eq_ok hwab).1 h
  obtain ⟨next, hinsert, hlast⟩ := Attributes.insertHeaders_cons_eq_ok.1 hmain
  obtain rfl : next = main := Except.ok.inj hlast
  refine ⟨Bundle.rooted path, head?_rooted path, Attributes.setsOnly_of_insert hown hinsert, rfl,
    fun q b hb => ?_⟩
  rw [← hb] at hwab hmain hnone ⊢
  exact ⟨(process_wab_eq_ok hwab).2 ⟨hcheck, hnames, path, next, hpath, hmain, rfl, hnone⟩,
    process_snd_of_wab hwab⟩

/-- Here a bundle has a context path in another spelling in front of another header. -/
theorem process_bundle_respelled :
    ∃ a m, (Archive.ofBytes [] .memory (Zip.store [⟨"META-INF/MANIFEST.MF".toList,
          Utf8.bytes "web-contextPath: /old\nB: 2\n\nName: x\nSHA-Digest: 3".toList⟩])).result
        = .ok a
      ∧ (({} : Processor).process a (some ↑"web-contextpath=new")).1.result = .ok m
      ∧ ∃ path, path.head? = some (.scalar '/')
        ∧ Attributes.SetsOnly HeaderName.webContextPath path
          [⟨"web-contextPath", "/old"⟩, ⟨['B'], ['2']⟩] m.main.headers
        ∧ m.entries = a.manifest.entries := by
  obtain ⟨a, ha, hview⟩ := exists_ok_of_toOption
    (e := (Archive.ofBytes [] .memory (Zip.store [⟨"META-INF/MANIFEST.MF".toList,
      Utf8.bytes "web-contextPath: /old\nB: 2\n\nName: x\nSHA-Digest: 3".toList⟩])).result)
    (f := fun a => (a.manifest.main.headers,
      (({} : Processor).process a (some ↑"web-contextpath=new")).1.result.toOption.map
        fun _ => ()))
    (b := ([⟨"web-contextPath", "/old"⟩, ⟨['B'], ['2']⟩], some ()))
    (by decide +kernel)
  obtain ⟨hheaders, hsome⟩ := Prod.mk.inj hview
  obtain ⟨m, hm, -⟩ := exists_ok_of_toOption hsome
  have hbundle : Bundle.IsBundle a.manifest.main := by
    refine ⟨⟨"web-contextPath", "/old"⟩, hheaders ▸ List.mem_cons_self,
      HeaderName.webContextPath, by decide +kernel, by decide +kernel⟩
  obtain ⟨path, hpath, hmain, hentries, -⟩ := process_bundle ha hbundle hm
  exact ⟨a, m, ha, hm, path, hpath, hheaders ▸ hmain, hentries⟩

end Processor

end Wab
