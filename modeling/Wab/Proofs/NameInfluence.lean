import Mathlib.Data.List.Forall2
import Wab.Proofs.GeneratedNames

/-! # What a generated name influences

Two processors that differ in the number they are at make the same of an archive, but for the
generated name. Step by step, sections that differ in the value of this header only lead to such
sections or to the same error: a step looks up the header that it is about, and a value may be
stored and written or not whatever the number is.

The exception is a number that is too long to be written. It is drawn for every plain archive that
passes the first stage, whether or not the name is used, and ends the run.

* **`Attributes.SameButName`** — sections that differ in the generated name only.
* **`Attributes.SameButName.insert`** — a header that is stored keeps them so.
* **`Processor.agree_complete`** — the second stage with two names.
* **`Processor.process_numbers`** — the same archive and query at two numbers. -/

namespace Wab

/-- The texts can be stored as values, or not, alike, and so be written. -/
structure Text.Alike (v w : Text) : Prop where
  /-- Both break a line or neither does. -/
  breaking : v.any Attributes.isBreaking = w.any Attributes.isBreaking
  /-- Their first surrogates are the same. -/
  surrogate : surrogate? v = surrogate? w

/-! ## Sections -/

namespace Header

/-- The headers are the same, but the symbolic name may have another value, which can be written if
the first one can. -/
structure SameButName (g h : Header) : Prop where
  /-- They have the same name in the same spelling. -/
  name : g.name = h.name
  /-- They have the same value unless they are the symbolic name. -/
  value : g.value = h.value ∨ g.name = HeaderName.bundleSymbolicName
  /-- Their values can be written alike. -/
  surrogate : Text.surrogate? g.value = Text.surrogate? h.value

/-- A header is the same as itself. -/
theorem SameButName.refl (h : Header) : SameButName h h := ⟨rfl, Or.inl rfl, rfl⟩

/-- The lines of the headers can be written alike. -/
theorem SameButName.surrogate?_headerLine {g h : Header} (hsame : SameButName g h) :
    Text.surrogate? (Manifest.headerLine g) = Text.surrogate? (Manifest.headerLine h) := by
  simp only [Manifest.headerLine, Text.surrogate?_append, hsame.name, hsame.surrogate]

end Header

namespace Attributes

/-- The headers are kept under the same key and are the same, but the symbolic name, under its own
key, may have another value. -/
structure SameSlot (s t : Text × Header) : Prop where
  /-- The keys are the same. -/
  key : s.1 = t.1
  /-- The headers are the same but for the symbolic name. -/
  header : Header.SameButName s.2 t.2
  /-- They are the same unless they are kept as the symbolic name. -/
  value : s.2 = t.2 ∨ s.1 = Text.lower HeaderName.bundleSymbolicName

/-- A slot is the same as itself. -/
theorem SameSlot.refl (s : Text × Header) : SameSlot s s := ⟨rfl, .refl s.2, Or.inl rfl⟩

section Slots

variable {slots others : Dictionary Header}

/-- What is kept under a key is found on both sides or on none: the keys are the same, so that the
search goes the same way. -/
theorem get?_cases (h : List.Forall₂ SameSlot slots others) (key : Text) :
    (Dictionary.get? slots key = none ∧ Dictionary.get? others key = none)
      ∨ ∃ g k, Dictionary.get? slots key = some g ∧ Dictionary.get? others key = some k
        ∧ SameSlot (key, g) (key, k) := by
  induction h with
  | nil => exact Or.inl ⟨rfl, rfl⟩
  | @cons s t slots others hslot hslots ih =>
      obtain ⟨own, g⟩ := s
      obtain ⟨other, k⟩ := t
      obtain rfl : own = other := hslot.key
      rw [Dictionary.get?_cons, Dictionary.get?_cons]
      by_cases hkey : own = key
      · rw [if_pos hkey, if_pos hkey, ← hkey]
        exact Or.inr ⟨g, k, rfl, rfl, hslot⟩
      · rw [if_neg hkey, if_neg hkey]
        exact ih

/-- What is the same but for the name is kept in the same place on both sides. -/
theorem forall₂_insert (h : List.Forall₂ SameSlot slots others) {key : Text} {g k : Header}
    (hslot : SameSlot (key, g) (key, k)) :
    List.Forall₂ SameSlot (Dictionary.insert slots key g) (Dictionary.insert others key k) := by
  induction h with
  | nil => exact .cons hslot .nil
  | @cons s t slots others hhead hslots ih =>
      obtain ⟨own, first⟩ := s
      obtain ⟨other, second⟩ := t
      obtain rfl : own = other := hhead.key
      rw [Dictionary.insert, Dictionary.insert]
      by_cases hkey : own = key
      · rw [if_pos hkey, if_pos hkey, hkey]
        exact .cons hslot hslots
      · rw [if_neg hkey, if_neg hkey]
        exact .cons hhead ih

end Slots

/-- The sections have the same headers in the same places, but the symbolic name may have another
value. -/
def SameButName (a b : Attributes) : Prop := List.Forall₂ SameSlot a.slots b.slots

namespace SameButName

/-- A section is the same as itself. -/
theorem refl (a : Attributes) : SameButName a a :=
  List.forall₂_same.2 fun slot _ => .refl slot

variable {a b : Attributes}

/-- The headers one by one. -/
theorem headers (h : SameButName a b) : List.Forall₂ Header.SameButName a.headers b.headers := by
  rw [Attributes.headers, Attributes.headers, List.forall₂_map_left_iff,
    List.forall₂_map_right_iff]
  exact List.Forall₂.imp (fun _ _ hslot => hslot.header) h

/-- A header is found in both sections or in none. -/
theorem find?_cases (h : SameButName a b) (name : Text) :
    (a.find? name = none ∧ b.find? name = none)
      ∨ ∃ g k, a.find? name = some g ∧ b.find? name = some k
        ∧ SameSlot (Text.lower name, g) (Text.lower name, k) :=
  get?_cases h (Text.lower name)

/-- A header of another name than the symbolic name has the same value in both. -/
theorem get?_eq (h : SameButName a b) {name : Text}
    (hname : HeaderName.same name HeaderName.bundleSymbolicName = false) :
    a.get? name = b.get? name := by
  rw [Attributes.get?, Attributes.get?]
  rcases h.find?_cases name with ⟨ha, hb⟩ | ⟨g, k, ha, hb, hslot⟩
  · rw [ha, hb]
  · rw [ha, hb]
    rcases hslot.value with hvalue | hkey
    · exact congrArg (fun header => some header.value) hvalue
    · rw [HeaderName.same_iff.2 hkey] at hname
      exact absurd hname (by decide)

/-- **A header that is stored** keeps the sections the same but for the name. If it cannot be
stored, the reason is the same. -/
theorem insert (h : SameButName a b) (name value : Text) :
    Agree SameButName (a.insert name value) (b.insert name value) := by
  rw [Attributes.insert, Attributes.insert]
  by_cases hvalue : value.any isBreaking = true
  · rw [if_pos hvalue, if_pos hvalue]
    exact .error _
  · rw [if_neg hvalue, if_neg hvalue]
    rcases h.find?_cases name with ⟨ha, hb⟩ | ⟨g, k, ha, hb, hslot⟩
    · rw [ha, hb]
      by_cases hvalid : HeaderName.isValid name = true
      · simp only [if_pos hvalid]
        exact .ok (forall₂_insert h (.refl _))
      · simp only [if_neg hvalid]
        exact .error _
    · -- Both keep the spelling that they have, which is the same.
      have hsame : Header.mk g.name value = Header.mk k.name value := by rw [hslot.header.name]
      rw [ha, hb]
      show Agree SameButName (.ok ⟨Dictionary.insert a.slots _ ⟨g.name, value⟩⟩) _
      rw [hsame]
      exact .ok (forall₂_insert h (.refl _))

end SameButName

end Attributes

/-- The manifests are the same, but the symbolic name of the main section may have another
value. -/
structure Manifest.SameButName (m n : Manifest) : Prop where
  /-- The headers of the main section are the same but for the name, one by one. -/
  headers : List.Forall₂ Header.SameButName m.main.headers n.main.headers
  /-- The entry sections are the same. -/
  entries : m.entries = n.entries

namespace Manifest.SameButName

/-- A manifest is the same as itself. -/
theorem refl (m : Manifest) : SameButName m m := ⟨(Attributes.SameButName.refl m.main).headers, rfl⟩

/-- Manifests that are the same but for the name can be written alike. -/
theorem surrogate?_eq {m n : Manifest} (h : SameButName m n) : m.surrogate? = n.surrogate? := by
  -- The order in which headers are written depends on their names only.
  have hkeep (keep : Text → Bool) : List.Forall₂ Header.SameButName
      (m.main.headers.filter (keep ·.name)) (n.main.headers.filter (keep ·.name)) :=
    List.rel_filter (fun _ _ hsame => iff_of_eq (congrArg (keep · = true) hsame.name)) h.headers
  have hordered : List.Forall₂ Header.SameButName (ordered m.main.headers)
      (ordered n.main.headers) :=
    List.rel_append (hkeep (HeaderName.same · HeaderName.manifestVersion))
      (hkeep fun name => !HeaderName.same name HeaderName.manifestVersion)
  have hmain : surrogateOf? (ordered m.main.headers) = surrogateOf? (ordered n.main.headers) := by
    generalize ordered m.main.headers = first at hordered ⊢
    generalize ordered n.main.headers = second at hordered ⊢
    induction hordered with
    | nil => rfl
    | cons hheader _ ih =>
        simp only [surrogateOf?, List.findSome?_cons, hheader.surrogate?_headerLine] at ih ⊢
        rw [ih]
  rw [Manifest.surrogate?, Manifest.surrogate?, written, written, List.findSome?_cons,
    List.findSome?_cons, hmain, h.entries]

end Manifest.SameButName

namespace Bundle

open Attributes (SameButName)

/-! ## Steps -/

/-- A header of another name than the symbolic name is settled alike in sections that are the same
but for the name. -/
theorem agree_settle {a b : Attributes} (h : SameButName a b) {key : Text}
    (hkey : HeaderName.same key HeaderName.bundleSymbolicName = false) (default : Option Text)
    (params : Params) :
    Agree SameButName (settle key default params a) (settle key default params b) := by
  rw [settle, settle, chosen?, chosen?, h.get?_eq hkey]
  cases params.value? key <|> b.get? key <|> default with
  | none => exact .ok h
  | some value =>
      dsimp only
      by_cases hvalue : b.get? key = some value
      · rw [if_pos hvalue, if_pos hvalue]
        exact .ok h
      · rw [if_neg hvalue, if_neg hvalue]
        exact h.insert key value

/-- The symbolic name is settled alike with two names, if they can be stored or not alike. -/
theorem agree_settle_name {v w : Text} (halike : Text.Alike v w) (params : Params)
    (a : Attributes) :
    Agree SameButName (settle HeaderName.bundleSymbolicName (some v) params a)
      (settle HeaderName.bundleSymbolicName (some w) params a) := by
  rw [settle, settle, chosen?, chosen?]
  cases params.value? HeaderName.bundleSymbolicName with
  | some given => exact .refl SameButName.refl _
  | none =>
      cases hfind : a.find? HeaderName.bundleSymbolicName with
      | some own =>
          rw [Attributes.get?, hfind]
          exact .refl SameButName.refl _
      | none =>
          -- Only here are the names used, and the header is new.
          have hvalid : HeaderName.isValid HeaderName.bundleSymbolicName = true :=
            HeaderName.isValid_of_mem_written (by simp [HeaderName.written])
          rw [Attributes.get?, hfind]
          show Agree SameButName (a.insert HeaderName.bundleSymbolicName v)
            (a.insert HeaderName.bundleSymbolicName w)
          rw [Attributes.insert, Attributes.insert, halike.breaking, hfind, hvalid]
          by_cases hvalue : w.any Attributes.isBreaking = true
          · rw [if_pos hvalue, if_pos hvalue]
            exact .error _
          · rw [if_neg hvalue, if_neg hvalue]
            exact .ok (Attributes.forall₂_insert (SameButName.refl a)
              ⟨rfl, ⟨rfl, Or.inr rfl, halike.surrogate⟩, Or.inr rfl⟩)

/-- A value that the deployer gives is settled, whatever the default is. -/
theorem settle_of_value? {key value : Text} {params : Params} (h : params.value? key = some value)
    (v w : Option Text) (a : Attributes) : settle key v params a = settle key w params a := by
  rw [settle, settle, chosen?, chosen?, h]
  rfl

/-- A parameter is passed on alike to sections that are the same but for the name. -/
theorem agree_passOne {a b : Attributes} (h : SameButName a b) (name : Text)
    (value : Option Text) :
    Agree SameButName ((passOne a name value).result.mapError (·.cause))
      ((passOne b name value).result.mapError (·.cause)) := by
  cases value with
  | none => exact .ok h
  | some value =>
      by_cases hknown : name ∈ HeaderName.customizable
      · simpa [passOne, hknown] using Agree.ok h
      · cases hvalid : HeaderName.isValid name with
        | false => simpa [passOne, hknown, hvalid] using Agree.ok h
        | true =>
            have hstored := (h.insert name value).mapError fun e => e
            simpa [passOne, hknown, hvalid, mapError_mapError] using hstored

/-- Parameters are passed on alike to sections that are the same but for the name. -/
theorem agree_passThrough {a b : Attributes} (h : SameButName a b) (params : Params) :
    Agree SameButName ((passThrough params a).result.mapError (·.cause))
      ((passThrough params b).result.mapError (·.cause)) := by
  rw [passThrough, passThrough, Traced.result_foldlM, Traced.result_foldlM, mapError_foldlM,
    mapError_foldlM]
  exact Agree.foldlM (fun param _ _ hparam => agree_passOne hparam param.1 param.2) h

end Bundle

namespace Processor

variable {p q : Processor}

/-! ## Stages -/

/-- The second stage comes to the same but for the name, if the names can be stored or not alike. -/
theorem agree_complete {v w : Text} (halike : Text.Alike v w) (c : Config)
    (entries : List Archive.Entry) (params : Params) (main : Attributes) :
    Agree Attributes.SameButName (complete c v entries params main).result
      (complete c w entries params main).result := by
  simp only [complete, Traced.result_bind, Traced.result_ofExcept, Traced.result_mapError]
  -- Only the first step is given the name.
  apply ((Bundle.agree_settle_name halike params main).mapError _).bind
  intro _ _ hname
  -- The steps that follow look up other headers, and the class path is that of the entries.
  apply ((Bundle.agree_settle hname (by decide +kernel) _ _).mapError _).bind
  intro _ _ hversion
  apply (Agree.refl (R := Eq) (fun _ => rfl) _).bind
  rintro classPath _ rfl
  apply ((Bundle.agree_settle hversion (by decide +kernel) _ _).mapError _).bind
  intro _ _ hclassPath
  apply ((Bundle.agree_settle hclassPath (by decide +kernel) _ _).mapError _).bind
  intro _ _ himports
  have hpassed := (Bundle.agree_passThrough himports params).mapError BundleError.header
  rw [mapError_mapError, mapError_mapError] at hpassed
  apply hpassed.bind
  intro _ _ hlast
  exact (hlast.insert HeaderName.dynamicImportPackage anyPackage).mapError _

/-- A name that the deployer gives is the one that counts. -/
theorem complete_of_value? {name : Text} {params : Params}
    (h : params.value? HeaderName.bundleSymbolicName = some name) (v w : Text) (c : Config)
    (entries : List Archive.Entry) (main : Attributes) :
    complete c v entries params main = complete c w entries params main := by
  simp only [complete, Bundle.settle_of_value? h (some v) (some w)]

/-- Two numbers with room make names that can be stored alike, and two without make none. -/
theorem agree_name (hstem : p.names.stem = q.names.stem)
    (hroom : Text.hasRoom p.names.counter = Text.hasRoom q.names.counter) :
    Agree Text.Alike p.names.name q.names.name := by
  rw [NameGenerator.name, NameGenerator.name, hroom, hstem]
  cases Text.hasRoom q.names.counter with
  | false => exact .error _
  | true =>
      refine .ok ⟨?_, ?_⟩
      · rw [List.any_append, List.any_append, Text.unbroken_ofInt, Text.unbroken_ofInt]
      · rw [Text.surrogate?_append, Text.surrogate?_append, Text.surrogate?_ofInt,
          Text.surrogate?_ofInt]

/-- The second stage comes to the same but for the name at two numbers that have room or not
alike. -/
theorem agree_finish (hstem : p.names.stem = q.names.stem)
    (hroom : Text.hasRoom p.names.counter = Text.hasRoom q.names.counter) (c : Config)
    (entries : List Archive.Entry) (params : Params) (m : Manifest) :
    Agree Manifest.SameButName (finish c p.names entries (.unnamed params m)).result
      (finish c q.names entries (.unnamed params m)).result := by
  simp only [finish, Traced.result_bind, Traced.result_ofExcept, Traced.result_pure]
  apply ((agree_name hstem hroom).mapError _).bind
  intro v w halike
  apply (agree_complete halike c entries params m.main).bind
  intro a b hmain
  -- Signatures are stripped from the entry sections only, which are those of the archive.
  exact .ok ⟨hmain.headers, rfl⟩

/-- The second stage comes to the same, whatever the number is, where the deployer gives a name. -/
theorem finish_of_value? (hstem : p.names.stem = q.names.stem)
    (hroom : Text.hasRoom p.names.counter = Text.hasRoom q.names.counter) {name : Text}
    {params : Params} (h : params.value? HeaderName.bundleSymbolicName = some name) (c : Config)
    (entries : List Archive.Entry) (m : Manifest) :
    (finish c p.names entries (.unnamed params m)).result
      = (finish c q.names entries (.unnamed params m)).result := by
  simp only [finish, Traced.result_bind, Traced.result_ofExcept, Traced.result_pure]
  have hnames := agree_name hstem hroom
  -- A number that is as long as the limit is never computed.
  generalize p.names.name = x at hnames ⊢
  generalize q.names.name = y at hnames ⊢
  cases hnames with
  | error e => rfl
  | @ok v w halike =>
      rw [mapError_ok, mapError_ok, ok_bind, ok_bind, complete_of_value? h v w]

/-- Manifests that are the same but for the name are both written or both refused. -/
theorem agree_writable {m n : Manifest} (h : m.SameButName n) :
    Agree Manifest.SameButName (writable m) (writable n) := by
  rw [writable, writable, h.surrogate?_eq]
  cases n.surrogate? with
  | none => exact .ok h
  | some k => exact .error _

/-! ## Whole runs -/

/-- An archive that is left for the second stage is plain and has the parameters of the query. -/
theorem of_prepare_unnamed {c : Config} {a : Archive} {query : Option Text} {params : Params}
    {m : Manifest} (h : (prepare c a query).result = .ok (.unnamed params m)) :
    Bundle.classify a.manifest.main = .plain ∧ params = Params.given query := by
  obtain ⟨-, hkind⟩ := prepare_eq_ok.1 h
  cases hclass : Bundle.classify a.manifest.main with
  | wab =>
      rw [hclass] at hkind
      obtain ⟨n, -, hdone⟩ := hkind
      exact absurd hdone (by simp)
  | plain =>
      rw [hclass] at hkind
      obtain ⟨n, -, hunnamed⟩ := hkind
      exact ⟨rfl, (Stage.unnamed.inj hunnamed).1.symm⟩

/-- A number that is too long to be written ends the run of an archive that draws it. -/
theorem process_of_no_room {a : Archive} {query : Option Text} (hdraws : p.draws a query = true)
    (hroom : Text.hasRoom p.names.counter = false) :
    (p.process a query).1.result = .error (.fault (.accident .numberTooLong)) := by
  rw [draws] at hdraws
  rw [result_process]
  split at hdraws
  next stage hstage =>
    cases stage with
    | done m => exact absurd hdraws Bool.false_ne_true
    | unnamed params m =>
        rw [hstage, ok_bind, finish, NameGenerator.name, hroom]
        rfl
  next => exact absurd hdraws Bool.false_ne_true

/-- **What the number of a processor influences.** Of two processors with the same configuration and
stem, one draws a number for an archive if the other does. If the numbers are both short enough to
be written, or both too long, or none is drawn, they come to the same error or to manifests that are
the same but for the symbolic name, and that are the same altogether for a bundle or where the
deployer gives the name. A number that is drawn and is too long is an error. -/
theorem process_numbers (hconfig : p.config = q.config) (hstem : p.names.stem = q.names.stem)
    (a : Archive) (query : Option Text) :
    p.draws a query = q.draws a query
    ∧ ((p.draws a query = true →
          Text.hasRoom p.names.counter = Text.hasRoom q.names.counter) →
        Agree Manifest.SameButName (p.process a query).1.result (q.process a query).1.result
        ∧ (Bundle.classify a.manifest.main = .wab
            ∨ (Params.given query).value? HeaderName.bundleSymbolicName ≠ none →
          (p.process a query).1.result = (q.process a query).1.result))
    ∧ (p.draws a query = true → Text.hasRoom p.names.counter = false →
        (p.process a query).1.result = .error (.fault (.accident .numberTooLong))) := by
  refine ⟨by rw [draws, draws, hconfig], fun hroom => ?_, process_of_no_room⟩
  rw [result_process, result_process, ← hconfig]
  rw [draws] at hroom
  cases hstage : (prepare p.config a query).result with
  | error e =>
      rw [error_bind, error_bind]
      exact ⟨.error e, fun _ => rfl⟩
  | ok stage =>
      rw [hstage] at hroom
      rw [ok_bind, ok_bind]
      cases stage with
      | done m => exact ⟨agree_writable (.refl m), fun _ => rfl⟩
      | unnamed params m =>
          refine ⟨(agree_finish hstem (hroom rfl) p.config a.entries params m).bind
            fun _ _ hsame => agree_writable hsame, ?_⟩
          obtain ⟨hplain, rfl⟩ := of_prepare_unnamed hstage
          rintro (hwab | hgiven)
          · rw [hplain] at hwab
            exact absurd hwab (by decide)
          · obtain ⟨name, hname⟩ := Option.ne_none_iff_exists'.1 hgiven
            rw [finish_of_value? hstem (hroom rfl) hname p.config a.entries m]

/-- Here two processors give an archive without members names of their own, and a third one, whose
number is too long, fails although the deployer gives the name. -/
theorem process_numbers_tooLong :
    ∃ a m n, (Archive.ofBytes [] .memory (Zip.store [])).result = .ok a
      ∧ (({} : Processor).process a (some ↑"Web-ContextPath=/a")).1.result = .ok m
      ∧ (({ names := { counter := 41 } } : Processor).process a
          (some ↑"Web-ContextPath=/a")).1.result = .ok n
      ∧ Manifest.SameButName m n
      ∧ (({ names := { counter := (Nat.pow 10 4300 : Nat) } } : Processor).process a
          (some ↑"Web-ContextPath=/a&Bundle-SymbolicName=x")).1.result
        = .error (.fault (.accident .numberTooLong)) := by
  obtain ⟨a, ha, hview⟩ := exists_ok_of_toOption
    (e := (Archive.ofBytes [] .memory (Zip.store [])).result)
    (f := fun a => ((({} : Processor).process a
        (some ↑"Web-ContextPath=/a")).1.result.toOption.map fun _ => (),
      ({} : Processor).draws a (some ↑"Web-ContextPath=/a&Bundle-SymbolicName=x")))
    (b := (some (), true)) (by decide +kernel)
  obtain ⟨hsome, hdraws⟩ := Prod.mk.inj hview
  obtain ⟨m, hm, -⟩ := exists_ok_of_toOption hsome
  obtain ⟨-, hboth, -⟩ := process_numbers (p := {}) (q := { names := { counter := 41 } }) rfl rfl a
    (some ↑"Web-ContextPath=/a")
  obtain ⟨hagree, -⟩ := hboth fun _ => by decide +kernel
  obtain ⟨hdrawn, -, hlong⟩ := process_numbers
    (p := { names := { counter := (Nat.pow 10 4300 : Nat) } }) (q := {}) rfl rfl a
    (some ↑"Web-ContextPath=/a&Bundle-SymbolicName=x")
  have hfails := hlong (hdrawn.trans hdraws) (by decide +kernel)
  rw [hm] at hagree
  generalize hn : (({ names := { counter := 41 } } : Processor).process a
    (some ↑"Web-ContextPath=/a")).1.result = second at hagree
  cases hagree with
  | @ok _ n hsame => exact ⟨a, m, n, ha, hm, hn, hsame, hfails⟩

end Processor

end Wab
