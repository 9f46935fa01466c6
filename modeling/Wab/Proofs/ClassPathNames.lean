import Wab.Proofs.ClassPath
import Wab.Proofs.Cut

/-! # The names that are read from a class path

A class path is read by cutting it at its commas. What is derived names each library once and only
jars that there are. But the name of an entry may hold a comma itself, and then it is read in
pieces.

* **`ClassPath.derive_eq_ok`** — the class path, if the walk over the entries comes to an end.
* **`ClassPath.flatMap_splitOn_eq_self_iff`** — names are read whole if none holds the mark.
* **`ClassPath.splitOn_derive`** — the names that are read from the class path. -/

namespace Wab.ClassPath

/-! ## A walk that comes to an end -/

/-- A library that gives its references has a manifest that can be resolved or cannot be read. -/
theorem legible_of_references {e : Archive.Entry} {names : List Text}
    (h : (references e).result = .ok names) : Legible e := by
  rw [references, Traced.result_bind, Traced.result_attempt, ok_bind] at h
  cases hm : e.manifest.get.result with
  | error cause =>
      rw [hm] at h
      cases cause with
      | unreadable name reason => exact Or.inr ⟨name, reason, hm⟩
      | fault cause => exact absurd h (by simp)
  | ok m =>
      rw [hm] at h
      dsimp only at h
      by_cases hempty : ((m.main.get? HeaderName.classPath).getD []).isEmpty = true
      · refine Or.inl ⟨m, [], hm, ?_⟩
        rw [List.isEmpty_iff.1 hempty, resolve_nil]
      · rw [if_neg hempty] at h
        simp only [Traced.result_bind, Traced.result_say, Traced.result_ofExcept, ok_bind,
          bind_eq_ok, mapError_eq_ok] at h
        obtain ⟨resolved, hresolved, -⟩ := h
        exact Or.inl ⟨m, resolved, hm, hresolved⟩

/-- What a visit has found. -/
theorem visit_eq_ok {s t : Scan} {e : Archive.Entry} (h : (visit s e).result = .ok t) :
    t = found s e := by
  cases hfolder : e.isFolder with
  | error cause =>
      rw [result_visit_error hfolder] at h
      exact absurd h (by simp)
  | ok folder =>
      have hlegible : isLibrary e = true → Legible e := by
        intro hlibrary
        obtain ⟨rfl, hname⟩ := (isLibrary_iff hfolder).1 hlibrary
        have hjar := isJar_of_isLibraryJar hname
        -- Neither of the two early exits is taken, so the references were asked for.
        simp only [visit, hfolder, hname, hjar, mapError_ok, Traced.result_bind,
          Traced.result_ofExcept, ok_bind, Bool.not_true, Bool.or_self, Bool.false_eq_true,
          if_false, bind_eq_ok] at h
        obtain ⟨names, hnames, -⟩ := h
        exact legible_of_references hnames
      exact Except.ok.inj (h.symm.trans (result_visit hlegible hfolder s))

/-- What a walk has found. -/
theorem scan_eq_ok {entries : List Archive.Entry} {s t : Scan}
    (h : (entries.foldlM visit s).result = .ok t) : t = entries.foldl found s := by
  rw [Traced.result_foldlM] at h
  induction entries generalizing s with
  | nil => exact (Except.ok.inj h).symm
  | cons e entries ih =>
      rw [List.foldlM_cons] at h
      obtain ⟨next, hnext, hrest⟩ := bind_eq_ok.1 h
      rw [List.foldl_cons, ← visit_eq_ok hnext]
      exact ih hrest

/-- **The class path that comes out** is that of the library names. -/
theorem derive_eq_ok {entries : List Archive.Entry} {classPath : Text}
    (h : (derive entries).result = .ok classPath) :
    classPath = List.intercalate [.scalar ','] (classFolder :: libraryNames entries) := by
  rw [result_derive, scan] at h
  obtain ⟨s, hs, hclassPath⟩ := bind_eq_ok.1 h
  have hempty : ({} : Scan).libraries = ([] : List Text).eraseDups := rfl
  obtain ⟨hlibraries, hjars⟩ := foldl_found hempty entries
  have hpresent : s.present = libraryNames entries := by
    rw [scan_eq_ok hs, Scan.present, hlibraries, hjars]
    rfl
  rw [← Except.ok.inj hclassPath, Scan.classPath, hpresent]

/-! ## The names in a class path -/

/-- The names in a class path are distinct. -/
theorem nodup_libraryNames (entries : List Archive.Entry) : (libraryNames entries).Nodup :=
  (Dictionary.nodup_eraseDups _).filter _

/-- Each name in a class path is that of a jar of the archive. -/
theorem exists_of_mem_libraryNames {entries : List Archive.Entry} {name : Text}
    (h : name ∈ libraryNames entries) :
    ∃ e ∈ entries, e.isFolder = .ok false ∧ isJar name = true ∧ e.name = name := by
  have hjar := List.contains_iff_mem.1 (List.mem_filter.1 h).2
  obtain ⟨e, he, rfl⟩ := List.mem_map.1 hjar
  obtain ⟨he, hfile⟩ := List.mem_filter.1 he
  rw [isJarFile, Bool.and_eq_true, beq_iff_eq] at hfile
  refine ⟨e, he, ?_, hfile.2, rfl⟩
  cases hfolder : e.isFolder with
  | error cause =>
      rw [hfolder] at hfile
      exact absurd hfile.1 (by simp [Except.toOption])
  | ok folder =>
      rw [hfolder] at hfile
      exact congrArg Except.ok (Option.some.inj hfile.1)

/-! ## Cutting at a mark -/

section Cutting

variable {mark : CodePoint}

/-- Names that are joined by the mark are read as the pieces of each one. -/
theorem splitOn_intercalate_cons (name : Text) (names : List Text) :
    (List.intercalate [mark] (name :: names)).splitOn mark
      = (name :: names).flatMap (·.splitOn mark) := by
  induction names generalizing name with
  | nil => simp
  | cons next names ih =>
      have hmark : (mark == mark) = true := beq_self_eq_true mark
      rw [List.intercalate_cons_cons, List.append_assoc, List.singleton_append, List.splitOn,
        List.splitOnP_append_cons (p := (· == mark)) _ _ hmark, List.flatMap_cons, ← ih next]
      rfl

/-- **Names are read whole if and only if none holds the mark.** -/
theorem flatMap_splitOn_eq_self_iff {names : List Text} :
    names.flatMap (·.splitOn mark) = names ↔ ∀ name ∈ names, mark ∉ name := by
  constructor
  · intro h name hname
    -- A name that is read is a piece, and no piece holds the mark.
    rw [← h, List.mem_flatMap] at hname
    obtain ⟨whole, -, hpiece⟩ := hname
    exact Text.not_mem_of_mem_splitOn hpiece
  · intro h
    induction names with
    | nil => rfl
    | cons name names ih =>
        rw [List.flatMap_cons, Text.splitOn_of_not_mem (h name List.mem_cons_self),
          ih fun other hother => h other (List.mem_cons_of_mem _ hother), List.singleton_append]

end Cutting

/-! ## The class path as it is read -/

/-- **The names that are read from the class path**: the folder of classes and the pieces of the
library names, which are distinct and those of jars of the archive. They are read whole if and only
if none of them holds a comma. -/
theorem splitOn_derive {entries : List Archive.Entry} {classPath : Text}
    (h : (derive entries).result = .ok classPath) :
    classPath.splitOn (.scalar ',')
      = classFolder :: (libraryNames entries).flatMap (·.splitOn (.scalar ','))
    ∧ (libraryNames entries).Nodup
    ∧ (∀ name ∈ libraryNames entries,
        ∃ e ∈ entries, e.isFolder = .ok false ∧ isJar name = true ∧ e.name = name)
    ∧ (classPath.splitOn (.scalar ',') = classFolder :: libraryNames entries
        ↔ ∀ name ∈ libraryNames entries, .scalar ',' ∉ name) := by
  have hfolder : classFolder.splitOn (.scalar ',') = [classFolder] :=
    Text.splitOn_of_not_mem (by decide)
  have hpieces : classPath.splitOn (.scalar ',')
      = classFolder :: (libraryNames entries).flatMap (·.splitOn (.scalar ',')) := by
    rw [derive_eq_ok h, splitOn_intercalate_cons, List.flatMap_cons, hfolder, List.singleton_append]
  refine ⟨hpieces, nodup_libraryNames entries,
    fun name hname => exists_of_mem_libraryNames hname, ?_⟩
  rw [hpieces, List.cons.injEq, flatMap_splitOn_eq_self_iff]
  exact and_iff_right rfl

/-- Here a jar has a comma in its name and is read as two, neither of which is there. -/
theorem splitOn_derive_comma :
    ∃ a classPath, (Archive.ofBytes [] .memory (Zip.store
          [⟨"WEB-INF/lib/a,b.jar".toList, []⟩])).result = .ok a
      ∧ (derive a.entries).result = .ok classPath
      ∧ classPath.splitOn (.scalar ',') = [classFolder, "WEB-INF/lib/a", "b.jar"]
      ∧ ∀ e ∈ a.entries, e.name ∉ (["WEB-INF/lib/a", "b.jar"] : List Text) := by
  obtain ⟨a, ha, hview⟩ := exists_ok_of_toOption
    (e := (Archive.ofBytes [] .memory (Zip.store [⟨"WEB-INF/lib/a,b.jar".toList, []⟩])).result)
    (f := fun a => ((derive a.entries).result.toOption.map fun _ => (), libraryNames a.entries,
      a.entries.map (·.name)))
    (b := (some (), ([↑"WEB-INF/lib/a,b.jar"] : List Text),
      ([↑"WEB-INF/lib/a,b.jar"] : List Text)))
    (by decide +kernel)
  simp only [Prod.mk.injEq] at hview
  obtain ⟨hsome, hnames, hentries⟩ := hview
  obtain ⟨classPath, hclassPath, -⟩ := exists_ok_of_toOption hsome
  refine ⟨a, classPath, ha, hclassPath, ?_, fun e he => ?_⟩
  · rw [(splitOn_derive hclassPath).1, hnames]
    decide +kernel
  · have hname : e.name ∈ ([↑"WEB-INF/lib/a,b.jar"] : List Text) :=
      hentries ▸ List.mem_map_of_mem he
    rw [List.mem_singleton.1 hname]
    decide +kernel

end Wab.ClassPath
