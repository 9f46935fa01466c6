import Wab.Proofs.References
import Wab.Proofs.RelativeReferences

/-! # References that end the walk

The class path of a library is read only if its manifest can be read, and its references may be
anything. One that leads to no jar of the archive is left out, but one that cannot be taken apart
ends the walk: the first obstacle on the way is what the walk ends with, and if there is none the
class path is derived.

* **`ClassPath.obstacle?`** — what stands in the way at an entry.
* **`ClassPath.result_visit_eq`** — one more entry is visited unless there is an obstacle.
* **`ClassPath.derive_eq_outcome`** — the class path is derived unless there is an obstacle. -/

namespace Wab.ClassPath

/-- The references in the class path of an entry, none if its manifest cannot be read. -/
def referencesOf (e : Archive.Entry) : List Text :=
  match e.manifest.get.result with
  | .ok m => Text.words ((m.main.get? HeaderName.classPath).getD [])
  | .error _ => []

/-- The entry has a manifest, or its manifest is unreadable. -/
def Readable (e : Archive.Entry) : Prop :=
  (∃ m, e.manifest.get.result = .ok m)
    ∨ ∃ name reason, e.manifest.get.result = .error (.unreadable name reason)

/-- What stands in the way at an entry: it cannot be told from a folder, or it is a library with a
reference that cannot be taken apart. -/
def obstacle? (e : Archive.Entry) : Option Fault :=
  match e.isFolder with
  | .error cause => some (.accident cause)
  | .ok _ => if isLibrary e then ((referencesOf e).findSome? Uri.flaw?).map .uri else none

/-! ## The references of a library -/

/-- The name of a library can be taken apart. -/
theorem flaw?_of_isLibraryJar {name : Text} (h : isLibraryJar name = true) :
    Uri.flaw? name = none := by
  obtain ⟨_, b, -, hb, -⟩ := split_of_isLibraryJar h
  rw [← Uri.failure?_split [], hb]
  rfl

/-- **The references of a library are resolved** unless one of them cannot be taken apart, and then
the first one counts. -/
theorem failure?_resolve {name : Text} (h : isLibraryJar name = true) (classPath : Text) :
    failure? (resolve name classPath) = (Text.words classPath).findSome? Uri.flaw? := by
  have hne := ne_nil_of_isLibraryJar h
  have hjoin : (fun ref => failure? (Uri.join name ref)) = Uri.flaw? :=
    funext (Uri.failure?_join hne (flaw?_of_isLibraryJar h))
  rw [resolve, failure?_mapM, hjoin]

/-- What a library refers to is found unless one of its references cannot be taken apart. -/
theorem result_references_eq {e : Archive.Entry} (h : Readable e)
    (hname : isLibraryJar e.name = true) :
    (references e).result
      = outcome (((referencesOf e).findSome? Uri.flaw?).map .uri) (referred e) := by
  rcases h with ⟨m, hm⟩ | ⟨name, reason, hm⟩
  · rw [referencesOf, hm]
    dsimp only
    rw [← failure?_resolve hname]
    cases hresolve : resolve e.name ((m.main.get? HeaderName.classPath).getD []) with
    | ok names => exact result_references (Or.inl ⟨m, names, hm, hresolve⟩)
    | error cause =>
        -- An empty class path could be resolved.
        have hne : (m.main.get? HeaderName.classPath).getD [] ≠ [] := by
          intro hnil
          rw [hnil, resolve_nil] at hresolve
          exact absurd hresolve (by simp)
        simp [references, hm, hne, hresolve, failure?]
  · rw [result_references (Or.inr ⟨name, reason, hm⟩), referencesOf, hm]
    rfl

/-! ## The walk -/

/-- **One more entry is visited** unless there is an obstacle. -/
theorem result_visit_eq {e : Archive.Entry} (h : isLibrary e = true → Readable e) (s : Scan) :
    (visit s e).result = outcome (obstacle? e) (found s e) := by
  cases hfolder : e.isFolder with
  | error cause => rw [result_visit_error hfolder, obstacle?, hfolder, outcome_some]
  | ok folder =>
      rw [obstacle?, hfolder]
      dsimp only
      by_cases hlibrary : isLibrary e = true
      · rw [if_pos hlibrary]
        have hreferences := result_references_eq (h hlibrary)
        obtain ⟨rfl, hname⟩ := (isLibrary_iff hfolder).1 hlibrary
        have hjar := isJar_of_isLibraryJar hname
        rw [visit, hfolder]
        simp only [hname, hjar, mapError_ok, Traced.result_bind, Traced.result_ofExcept, ok_bind,
          Bool.not_true, Bool.or_self, Bool.false_eq_true, if_false, hreferences hname]
        cases (referencesOf e).findSome? Uri.flaw? with
        | some cause => rfl
        | none =>
            simp [found, listed, isLibrary, isJarFile, hfolder, hname, hjar, Except.toOption]
      · rw [if_neg hlibrary, outcome_none]
        exact result_visit (fun hself => absurd hself hlibrary) hfolder s

/-- An obstacle that is not about folders is the reference of a library, which holds a square
bracket or a character that looks like a delimiter. -/
theorem of_obstacle?_eq_uri {e : Archive.Entry} {cause : Uri.Error}
    (h : obstacle? e = some (.uri cause)) :
    isLibrary e = true ∧ ∃ ref ∈ referencesOf e, Uri.flaw? ref = some cause
      ∧ ∃ c ∈ ref, c = '[' ∨ c = ']' ∨ c ∈ Uri.deceptive := by
  rw [obstacle?] at h
  split at h
  next => exact absurd h (by simp)
  next =>
    split at h
    next hlibrary =>
      obtain ⟨flaw, hflaw, hcause⟩ := Option.map_eq_some_iff.1 h
      obtain ⟨ref, href, hfirst⟩ := List.exists_of_findSome?_eq_some hflaw
      rw [Fault.uri.inj hcause] at hfirst
      exact ⟨hlibrary, ref, href, hfirst, Uri.exists_mem_of_flaw? hfirst⟩
    next => exact absurd h (by simp)

/-- **The class path is derived unless there is an obstacle**, and then the walk ends with the first
one: an entry that cannot be told from a folder, or a reference that holds a square bracket or a
character that looks like a delimiter and cannot be taken apart. -/
theorem derive_eq_outcome {entries : List Archive.Entry}
    (h : ∀ e ∈ entries, isLibrary e = true → Readable e) :
    (derive entries).result
        = outcome (entries.findSome? obstacle?)
          (List.intercalate [.scalar ','] (classFolder :: libraryNames entries))
      ∧ ∀ e ∈ entries, ∀ cause, obstacle? e = some (.uri cause) →
        isLibrary e = true ∧ ∃ ref ∈ referencesOf e, Uri.flaw? ref = some cause
          ∧ ∃ c ∈ ref, c = '[' ∨ c = ']' ∨ c ∈ Uri.deceptive := by
  refine ⟨?_, fun e _ cause => of_obstacle?_eq_uri⟩
  have hscan : (scan entries).result
      = outcome (entries.findSome? obstacle?) (entries.foldl found {}) := by
    rw [scan, Traced.result_foldlM]
    exact foldlM_eq_outcome (fun e he => result_visit_eq (h e he)) {}
  have hclassPath : (entries.foldl found {}).classPath
      = List.intercalate [.scalar ','] (classFolder :: libraryNames entries) := by
    have hempty : ({} : Scan).libraries = ([] : List Text).eraseDups := rfl
    obtain ⟨hlibraries, hjars⟩ := foldl_found hempty entries
    rw [Scan.classPath, Scan.present, hlibraries, hjars]
    rfl
  rw [result_derive, hscan, ← hclassPath]
  cases entries.findSome? obstacle? with
  | none => rfl
  | some fault => rfl

/-- A jar whose manifest has the given text. -/
def jarOf (name text : Text) : Archive.Entry where
  name := name
  isFolder := .ok false
  content := Thunk.mk fun _ => .ok []
  manifest := Thunk.mk fun _ =>
    .ofExcept ((Manifest.parse text).mapError fun cause => .unreadable name (.manifest cause))

/-- A jar whose manifest has some text is readable. -/
theorem readable_jarOf (name text : Text) : Readable (jarOf name text) := by
  have hresult : (jarOf name text).manifest.get.result
      = (Manifest.parse text).mapError fun cause => .unreadable name (.manifest cause) := rfl
  rw [Readable, hresult]
  cases Manifest.parse text with
  | ok m => exact Or.inl ⟨m, rfl⟩
  | error cause => exact Or.inr ⟨name, .manifest cause, rfl⟩

/-- Here the first of two libraries refers to a jar that there is not, and the second one to a host
with a bracket that is not closed. -/
theorem derive_eq_outcome_bracket :
    (∀ e ∈ [jarOf "WEB-INF/lib/a.jar" "Class-Path: c.jar",
          jarOf "WEB-INF/lib/b.jar" "Class-Path: c.jar //["],
        isLibrary e = true → Readable e)
      ∧ (derive [jarOf "WEB-INF/lib/a.jar" "Class-Path: c.jar",
          jarOf "WEB-INF/lib/b.jar" "Class-Path: c.jar //["]).result
        = .error (.uri .misplacedBrackets) := by
  have hreadable : ∀ e ∈ [jarOf "WEB-INF/lib/a.jar" "Class-Path: c.jar",
      jarOf "WEB-INF/lib/b.jar" "Class-Path: c.jar //["],
      isLibrary e = true → Readable e := by
    intro e he _
    rcases List.mem_cons.1 he with rfl | he
    · exact readable_jarOf _ _
    · rw [List.mem_singleton.1 he]
      exact readable_jarOf _ _
  have hobstacle : [jarOf "WEB-INF/lib/a.jar" "Class-Path: c.jar",
      jarOf "WEB-INF/lib/b.jar" "Class-Path: c.jar //["].findSome? obstacle?
      = some (.uri .misplacedBrackets) := by
    decide +kernel
  refine ⟨hreadable, ?_⟩
  rw [(derive_eq_outcome hreadable).1, hobstacle, outcome_some]

end Wab.ClassPath
