import Wab.ClassPath
import Wab.Proofs.Dictionary
import Wab.Proofs.Outcome
import Wab.Zip.Writer

/-! # The class path that is derived

The walk over the entries of an archive lists each library and then the entries that it refers to.
It comes to the same to list these names for all libraries first, to keep each where it comes first,
and to leave out those that no jar of the archive has.

* **`ClassPath.listed`** — the names that an entry lists.
* **`ClassPath.libraryNames`** — the names in the class path.
* **`ClassPath.derive_eq`** — the class path consists of these names. -/

namespace Wab.ClassPath

/-- The entry is a jar and no folder. -/
def isJarFile (e : Archive.Entry) : Bool := e.isFolder.toOption == some false && isJar e.name

/-- The entry is a jar directly in the library folder. -/
def isLibrary (e : Archive.Entry) : Bool :=
  e.isFolder.toOption == some false && isLibraryJar e.name

/-- The names that the class path of an entry refers to, none if it cannot be read. -/
def referred (e : Archive.Entry) : List Text :=
  match e.manifest.get.result with
  | .ok m => ((resolve e.name ((m.main.get? HeaderName.classPath).getD [])).toOption).getD []
  | .error _ => []

/-- A library lists its name and those that it refers to, another entry lists nothing. -/
def listed (e : Archive.Entry) : List Text := if isLibrary e then e.name :: referred e else []

/-- The names of libraries that are jars of the archive, each where it is listed first. -/
def libraryNames (entries : List Archive.Entry) : List Text :=
  (entries.flatMap listed).eraseDups.filter ((entries.filter isJarFile).map (·.name)).contains

/-- The entry has a manifest whose class path can be resolved, or its manifest is unreadable. -/
def Legible (e : Archive.Entry) : Prop :=
  (∃ m names, e.manifest.get.result = .ok m
    ∧ resolve e.name ((m.main.get? HeaderName.classPath).getD []) = .ok names)
  ∨ ∃ name reason, e.manifest.get.result = .error (.unreadable name reason)

/-- A library is an entry that is no folder and has the name of one. -/
theorem isLibrary_iff {e : Archive.Entry} {folder : Bool} (hfolder : e.isFolder = .ok folder) :
    isLibrary e = true ↔ folder = false ∧ isLibraryJar e.name = true := by
  rw [isLibrary, hfolder, Bool.and_eq_true, beq_iff_eq]
  exact and_congr_left' Option.some_inj

/-- The name of a library is that of a jar. -/
theorem isJar_of_isLibraryJar {name : Text} (h : isLibraryJar name = true) : isJar name = true := by
  simp only [isLibraryJar, Bool.and_eq_true] at h
  exact h.1.1

/-- The name of a library is one file name with the ending of jars behind the library folder. -/
theorem isLibraryJar_iff {name : Text} :
    isLibraryJar name = true
      ↔ ∃ stem, .scalar '/' ∉ stem ∧ name = libraryFolder ++ stem ++ jarEnding := by
  have hending : .scalar '/' ∉ jarEnding := by decide
  simp only [isLibraryJar, isJar, Text.endsWith, Text.startsWith, Bool.and_eq_true,
    List.isSuffixOf_iff_suffix, List.isPrefixOf_iff_prefix, Bool.not_eq_true', List.contains_eq_mem,
    decide_eq_false_iff_not]
  constructor
  · rintro ⟨⟨⟨front, hsuffix⟩, rest, rfl⟩, hslash⟩
    rw [List.drop_left] at hslash
    -- The ending cannot reach into the folder, which ends with a slash.
    rcases List.append_eq_append_iff.1 hsuffix with ⟨stem, hfolder, hrest⟩ | ⟨stem, hfront, hrest⟩
    · by_cases hnil : stem = []
      · rw [hnil, List.nil_append] at hrest
        exact ⟨[], List.not_mem_nil, by rw [List.append_nil, hrest]⟩
      · obtain ⟨last, hlast⟩ := Option.ne_none_iff_exists'.1 (mt List.getLast?_eq_none_iff.1 hnil)
        have hfolderLast : libraryFolder.getLast? = some (.scalar '/') := by decide
        rw [hfolder, List.getLast?_append, hlast, Option.some_or, Option.some.injEq] at hfolderLast
        rw [hfolderLast] at hlast
        have hmem : .scalar '/' ∈ jarEnding :=
          hrest ▸ List.mem_append_left _ (List.mem_of_getLast? hlast)
        exact absurd hmem hending
    · have hstem : .scalar '/' ∉ stem := fun h => hslash (hrest ▸ List.mem_append_left _ h)
      exact ⟨stem, hstem, by rw [hrest, List.append_assoc]⟩
  · rintro ⟨stem, hstem, rfl⟩
    refine ⟨⟨⟨libraryFolder ++ stem, rfl⟩, stem ++ jarEnding, (List.append_assoc ..).symm⟩, ?_⟩
    rw [List.append_assoc, List.drop_left, List.mem_append, not_or]
    exact ⟨hstem, hending⟩

/-- Of an entry of an archive it is known whether it is a folder if it has a name. -/
theorem isFolder_eq_error_iff {a : Archive} {e : Archive.Entry} (he : e ∈ a.entries) :
    (∃ cause, e.isFolder = .error cause) ↔ e.name = [] := by
  obtain ⟨member, -, rfl⟩ := List.mem_map.1 he
  show (∃ cause, member.entry.isFolder = .error cause) ↔ member.entry.name = []
  rw [Zip.Entry.isFolder]
  cases hlast : member.entry.name.getLast? with
  | none => simp [List.getLast?_eq_none_iff.1 hlast]
  | some c =>
      have hne : member.entry.name ≠ [] := by
        intro hnil
        rw [hnil] at hlast
        exact absurd hlast (by simp)
      simp [hne]

/-! ## The steps -/

/-- An empty class path refers to nothing. -/
theorem resolve_nil (name : Text) : resolve name [] = .ok [] := rfl

/-- What a library refers to is found. -/
theorem result_references {e : Archive.Entry} (h : Legible e) :
    (references e).result = .ok (referred e) := by
  rcases h with ⟨m, names, hm, hnames⟩ | ⟨name, reason, hm⟩
  · rw [references, referred, Traced.result_bind, Traced.result_attempt, ok_bind, hm]
    by_cases hempty : ((m.main.get? HeaderName.classPath).getD []).isEmpty = true
    · have hnil := List.isEmpty_iff.1 hempty
      simp only [hnil, resolve_nil]
      rfl
    · -- The reports in between do not fail.
      simp only [hempty, Bool.false_eq_true, if_false, hnames, mapError_ok, Except.toOption,
        Traced.result_bind, Traced.result_say, Traced.result_ofExcept, Traced.result_pure, ok_bind,
        Traced.result_forM_say, Option.getD_some]
  · simp [references, referred, hm]

/-- What is found after one more entry that is a folder or none. -/
def found (s : Scan) (e : Archive.Entry) : Scan :=
  (listed e).foldl Scan.addLibrary (if isJarFile e then s.addJar e.name else s)

/-- An entry that is legible if it is a library is visited. -/
theorem result_visit {e : Archive.Entry} (h : isLibrary e = true → Legible e) {folder : Bool}
    (hfolder : e.isFolder = .ok folder) (s : Scan) : (visit s e).result = .ok (found s e) := by
  rw [visit, hfolder]
  cases folder with
  | true => simp [found, listed, isLibrary, isJarFile, hfolder, Except.toOption]
  | false =>
      by_cases hjar : isJar e.name = true
      · by_cases hlibrary : isLibraryJar e.name = true
        · have hself : isLibrary e = true := (isLibrary_iff hfolder).2 ⟨rfl, hlibrary⟩
          simp [found, listed, hself, isJarFile, hfolder, hjar, hlibrary, Except.toOption,
            result_references (h hself)]
        · simp [found, listed, isLibrary, isJarFile, hfolder, hjar, hlibrary, Except.toOption]
      · -- What is no jar is no library either.
        have hother : isLibraryJar e.name = false :=
          Bool.eq_false_iff.2 (mt isJar_of_isLibraryJar hjar)
        simp [found, listed, isLibrary, isJarFile, hfolder, hjar, hother, Except.toOption]

/-- An entry of which it is not known whether it is a folder ends the walk. -/
theorem result_visit_error {e : Archive.Entry} {cause : Accident} (h : e.isFolder = .error cause)
    (s : Scan) : (visit s e).result = .error (.accident cause) := by
  simp [visit, h]

/-! ## The walk -/

section Walk

variable {entries : List Archive.Entry}

/-- The walk over entries of which it is known whether they are folders. -/
theorem result_scan (hlegible : ∀ e ∈ entries, isLibrary e = true → Legible e)
    (hfolder : ∀ e ∈ entries, ∃ folder, e.isFolder = .ok folder) (s : Scan) :
    (entries.foldlM visit s).result = .ok (entries.foldl found s) := by
  rw [Traced.result_foldlM]
  induction entries generalizing s with
  | nil => rfl
  | cons e entries ih =>
      obtain ⟨folder, he⟩ := hfolder e List.mem_cons_self
      rw [List.foldlM_cons, result_visit (hlegible e List.mem_cons_self) he, ok_bind]
      exact ih (fun e he => hlegible e (List.mem_cons_of_mem _ he))
        (fun e he => hfolder e (List.mem_cons_of_mem _ he)) (found s e)

/-- The walk ends at the first entry of which it is not known. -/
theorem result_scan_error (hlegible : ∀ e ∈ entries, isLibrary e = true → Legible e)
    (h : ∃ e ∈ entries, ∃ cause, e.isFolder = .error cause) (s : Scan) :
    ∃ cause, (entries.foldlM visit s).result = .error (.accident cause) := by
  rw [Traced.result_foldlM]
  induction entries generalizing s with
  | nil =>
      obtain ⟨e, he, -⟩ := h
      exact absurd he List.not_mem_nil
  | cons e entries ih =>
      rw [List.foldlM_cons]
      cases hfolder : e.isFolder with
      | error cause =>
          rw [result_visit_error hfolder]
          exact ⟨cause, rfl⟩
      | ok folder =>
          rw [result_visit (hlegible e List.mem_cons_self) hfolder, ok_bind]
          obtain ⟨bad, hbad, cause, hcause⟩ := h
          rcases List.mem_cons.1 hbad with rfl | hbad
          · rw [hfolder] at hcause
            exact absurd hcause (by simp)
          · exact ih (fun e he => hlegible e (List.mem_cons_of_mem _ he))
              ⟨bad, hbad, cause, hcause⟩ (found s e)

/-! ## What the walk finds -/

/-- Libraries that are added one by one are kept where they come first. -/
theorem libraries_addLibrary {s : Scan} {seen : List Text} (h : s.libraries = seen.eraseDups)
    (name : Text) : (s.addLibrary name).libraries = (seen ++ [name]).eraseDups := by
  have hmem : s.libraries.contains name = seen.contains name := by
    rw [h, Bool.eq_iff_iff]
    simp
  rw [Scan.addLibrary, hmem, List.eraseDups_append]
  by_cases hknown : name ∈ seen
  · simp [hknown, h, List.removeAll]
  · simp [hknown, h, List.removeAll, List.eraseDups_cons]

/-- Names that are added as libraries are kept where they come first, and are no jars for that. -/
theorem foldl_addLibrary {s : Scan} {seen : List Text} (h : s.libraries = seen.eraseDups)
    (names : List Text) :
    (names.foldl Scan.addLibrary s).libraries = (seen ++ names).eraseDups
      ∧ (names.foldl Scan.addLibrary s).jars = s.jars := by
  induction names generalizing s seen with
  | nil => exact ⟨by rw [List.append_nil, List.foldl_nil, h], rfl⟩
  | cons name names ih =>
      obtain ⟨hlibraries, hjars⟩ := ih (libraries_addLibrary h name)
      rw [List.append_assoc, List.singleton_append] at hlibraries
      exact ⟨hlibraries, hjars.trans (Scan.jars_addLibrary s name)⟩

/-- What the walk has found: the names that were listed, each where it came first, and the jars. -/
theorem foldl_found {s : Scan} {seen : List Text} (h : s.libraries = seen.eraseDups)
    (entries : List Archive.Entry) :
    (entries.foldl found s).libraries = (seen ++ entries.flatMap listed).eraseDups
      ∧ (entries.foldl found s).jars = s.jars ++ (entries.filter isJarFile).map (·.name) := by
  induction entries generalizing s seen with
  | nil => exact ⟨by rw [List.flatMap_nil, List.append_nil, List.foldl_nil, h], by simp⟩
  | cons e entries ih =>
      have hjar : (if isJarFile e then s.addJar e.name else s).libraries = seen.eraseDups := by
        split
        next => exact h
        next => exact h
      -- The invariant: the libraries are the names seen so far, each where it came first.
      obtain ⟨hlibraries, hjars⟩ := foldl_addLibrary hjar (listed e)
      obtain ⟨hrest, hjarsRest⟩ := ih hlibraries
      refine ⟨?_, ?_⟩
      · rw [List.foldl_cons, found, hrest, List.flatMap_cons, List.append_assoc]
      · rw [List.foldl_cons, found, hjarsRest, hjars]
        cases hfile : isJarFile e with
        | true => simp [hfile, Scan.addJar]
        | false => simp [hfile]

end Walk

/-! ## The class path -/

/-- A library is a jar of the archive. -/
theorem isJarFile_of_isLibrary {e : Archive.Entry} (h : isLibrary e = true) :
    isJarFile e = true := by
  rw [isLibrary, Bool.and_eq_true] at h
  rw [isJarFile, h.1, isJar_of_isLibraryJar h.2]
  rfl

/-- **Every library is in the class path once**, whether or not its manifest can be read. -/
theorem count_libraryNames {entries : List Archive.Entry} {e : Archive.Entry} (he : e ∈ entries)
    (h : isLibrary e = true) : (libraryNames entries).count e.name = 1 := by
  have hlisted : e.name ∈ (entries.flatMap listed).eraseDups := by
    rw [List.mem_eraseDups, List.mem_flatMap]
    refine ⟨e, he, ?_⟩
    rw [listed, if_pos h]
    exact List.mem_cons_self
  have hjar : e.name ∈ (entries.filter isJarFile).map (·.name) :=
    List.mem_map_of_mem (List.mem_filter.2 ⟨he, isJarFile_of_isLibrary h⟩)
  have hmem : e.name ∈ libraryNames entries :=
    List.mem_filter.2 ⟨hlisted, List.contains_iff_mem.2 hjar⟩
  have hnodup : (libraryNames entries).Nodup := (Dictionary.nodup_eraseDups _).filter _
  rw [hnodup.count, if_pos hmem]

/-- The reports on what is left out do not change the class path. -/
theorem result_derive (entries : List Archive.Entry) :
    (derive entries).result = (scan entries).result >>= fun s => .ok s.classPath := by
  have hscan : ∀ s, (ofScan s).result = .ok s.classPath := by
    intro s
    rw [ofScan, Traced.result_bind, Traced.result_forM_say]
    rfl
  simp only [derive, Traced.result_bind, Traced.result_say, Traced.result_pure, hscan, ok_bind]

/-- **The class path that is derived** is that of the library names, unless it is not known of an
entry whether it is a folder, which ends the walk. In an archive this is an entry without a name. -/
theorem derive_eq {entries : List Archive.Entry}
    (hlegible : ∀ e ∈ entries, isLibrary e = true → Legible e) :
    ((∀ e ∈ entries, ∃ folder, e.isFolder = .ok folder) →
      (derive entries).result
        = .ok (List.intercalate [.scalar ','] (classFolder :: libraryNames entries))
        ∧ ∀ e ∈ entries, isLibrary e = true → (libraryNames entries).count e.name = 1)
    ∧ ((∃ e ∈ entries, ∃ cause, e.isFolder = .error cause) →
      ∃ cause, (derive entries).result = .error (.accident cause))
    ∧ ∀ a : Archive, a.entries = entries →
      ∀ e ∈ entries, (∃ cause, e.isFolder = .error cause) ↔ e.name = [] := by
  rw [result_derive, scan]
  refine ⟨?_, ?_, ?_⟩
  · intro hfolder
    have hempty : ({} : Scan).libraries = ([] : List Text).eraseDups := rfl
    obtain ⟨hlibraries, hjars⟩ := foldl_found hempty entries
    have hpresent : (entries.foldl found {}).present = libraryNames entries := by
      rw [Scan.present, hlibraries, hjars]
      rfl
    rw [result_scan hlegible hfolder, ok_bind, Scan.classPath, hpresent]
    exact ⟨rfl, fun e he h => count_libraryNames he h⟩
  · intro hbad
    obtain ⟨cause, hcause⟩ := result_scan_error hlegible hbad {}
    rw [hcause]
    exact ⟨cause, rfl⟩
  · rintro a rfl e he
    exact isFolder_eq_error_iff he

/-- Here a library without a manifest that can be read is found, then an entry without a name. -/
theorem derive_eq_unnamed :
    ∃ a cause, (Archive.ofBytes [] .memory (Zip.store
          [⟨"WEB-INF/lib/a.jar".toList, []⟩, ⟨[], []⟩])).result = .ok a
      ∧ (derive a.entries).result = .error (.accident cause) := by
  obtain ⟨a, ha, hview⟩ := exists_ok_of_toOption
    (e := (Archive.ofBytes [] .memory (Zip.store
      [⟨"WEB-INF/lib/a.jar".toList, []⟩, ⟨[], []⟩])).result)
    (f := fun a => (a.entries.all fun e => match e.manifest.get.result with
        | .error (.unreadable _ _) => true
        | _ => false, a.entries.any fun e => e.isFolder.toOption.isNone))
    (b := (true, true)) (by decide +kernel)
  obtain ⟨hunreadable, hbad⟩ := Prod.mk.inj hview
  have hlegible : ∀ e ∈ a.entries, isLibrary e = true → Legible e := by
    intro e he _
    have hmanifest := List.all_eq_true.1 hunreadable e he
    split at hmanifest
    next name reason hresult => exact Or.inr ⟨name, reason, hresult⟩
    next => exact absurd hmanifest (by decide)
  obtain ⟨e, he, hfolder⟩ := List.any_eq_true.1 hbad
  have herror : ∃ cause, e.isFolder = .error cause := by
    cases hresult : e.isFolder with
    | error cause => exact ⟨cause, rfl⟩
    | ok folder =>
        rw [hresult] at hfolder
        exact absurd hfolder (by simp [Except.toOption])
  obtain ⟨cause, hcause⟩ := (derive_eq hlegible).2.1 ⟨e, he, herror⟩
  exact ⟨a, cause, ha, hcause⟩

end Wab.ClassPath
