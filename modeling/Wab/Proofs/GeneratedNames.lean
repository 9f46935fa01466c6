import Wab.Proofs.Decimal
import Wab.Proofs.PlainArchive
import Wab.Proofs.Refusals

/-! # The names that a processor generates

A processor is called again and again, and some of its calls fail. Each call for a plain archive
with values that can be written and a context path draws a number, whether it then succeeds and
whether the name is used or not, and no other call does. So the numbers are those from the first one
on, and no two bundles come to have the same generated name.

* **`Processor.run`** — what the calls of a processor come to, one after another.
* **`Processor.draws_eq`** — which calls draw a number.
* **`Processor.exists_step`** — what a run leaves of the processor for each call.
* **`Processor.run_names`** — numbers and names in any run. -/

namespace Wab

/-! ## Calls -/

/-- What a processor is called for: an open archive, with a query. -/
structure Call where
  /-- The archive. -/
  archive : Archive
  /-- The query. -/
  query : Option Text
  /-- The archive was opened. -/
  opened : ∃ locator medium bytes, (Archive.ofBytes locator medium bytes).result = .ok archive

namespace Call

/-- The parameters of the query. -/
def params (call : Call) : Params := Params.given call.query

/-- The archive is plain, its parameters pass the check of values, and the context path is among
them. -/
def needsNumber (call : Call) : Bool :=
  Bundle.classify call.archive.manifest.main == .plain
    && (Bundle.checkValues call.params).isOk
    && (call.params.value? HeaderName.webContextPath).isSome

/-- When a call needs a number. -/
theorem needsNumber_iff {call : Call} :
    call.needsNumber = true
      ↔ Bundle.classify call.archive.manifest.main = .plain
        ∧ Bundle.checkValues call.params = .ok ()
        ∧ ∃ path, call.params.value? HeaderName.webContextPath = some path := by
  have hok : (Bundle.checkValues call.params).isOk = true
      ↔ Bundle.checkValues call.params = .ok () := by
    cases Bundle.checkValues call.params with
    | error e => simp [Except.isOk, Except.toBool]
    | ok _ => simp [Except.isOk, Except.toBool]
  rw [needsNumber, Bool.and_eq_true, Bool.and_eq_true, beq_iff_eq, hok, Option.isSome_iff_exists,
    and_assoc]

/-- The manifest of the archive is well-formed. -/
theorem wellFormed (call : Call) : call.archive.manifest.main.WellFormed := by
  obtain ⟨locator, medium, bytes, hopen⟩ := call.opened
  exact (Archive.wellFormed_of_ofBytes hopen).1.main

end Call

namespace Processor

/-- What a call has come to. -/
structure Step where
  /-- The call. -/
  call : Call
  /-- The number that was drawn. -/
  drawn : Option Int
  /-- The manifest of the bundle, or why there is none. -/
  result : Except BundleError Manifest

/-- The name that a bundle was given because nobody had named it. -/
def Step.generated? (s : Step) : Option Text :=
  match s.drawn, s.call.params.value? HeaderName.bundleSymbolicName, s.result with
  | some _, none, .ok m => m.main.get? HeaderName.bundleSymbolicName
  | _, _, _ => none

/-- The processor after a call. -/
def after (p : Processor) (call : Call) : Processor := (p.process call.archive call.query).2

/-- What a call comes to. A number was drawn if the next one is another. -/
def step (p : Processor) (call : Call) : Step where
  call := call
  drawn := if (p.after call).names.counter = p.names.counter then none else some p.names.counter
  result := (p.process call.archive call.query).1.result

/-- What calls come to, one after another. -/
def run (p : Processor) : List Call → List Step
  | [] => []
  | call :: calls => p.step call :: (p.after call).run calls

variable {p : Processor}

@[simp] theorem config_after (call : Call) : (p.after call).config = p.config :=
  config_process p call.archive call.query

@[simp] theorem stem_after (call : Call) : (p.after call).names.stem = p.names.stem :=
  stem_process p call.archive call.query

/-- Each call comes to something. -/
theorem map_call_run (calls : List Call) : (p.run calls).map (·.call) = calls := by
  induction calls generalizing p with
  | nil => rfl
  | cons call calls ih => rw [run, List.map_cons, ih, step]

/-! ## Which calls draw a number -/

/-- The headers that the first stage writes can be stored. -/
theorem exists_begun {params : Params} (hparams : ¬ Bundle.Broken params) {own : Attributes}
    (hown : own.WellFormed) (hversion : p.config.manifestVersion.any Attributes.isBreaking = false)
    {path : Text} (hpath : params.value? HeaderName.webContextPath = some path) :
    ∃ main, own.insertHeaders (begun p.config params own path) = .ok main := by
  refine Attributes.exists_insertHeaders fun header hheader => ?_
  rcases List.mem_cons.1 hheader with rfl | hheader
  · exact ⟨HeaderName.isValid_of_mem_written List.mem_cons_self,
      Bundle.unbroken_rooted hparams hpath⟩
  · obtain ⟨value, hvalue, rfl⟩ := List.mem_map.1 hheader
    refine ⟨HeaderName.isValid_of_mem_written (List.mem_cons_of_mem _ List.mem_cons_self), ?_⟩
    -- The version is that of the deployer, that of the archive, or the configured one.
    rw [Option.mem_toList, Bundle.chosen?] at hvalue
    cases hgiven : params.value? HeaderName.bundleManifestVersion with
    | some given =>
        rw [hgiven] at hvalue
        rw [← Option.some.inj hvalue]
        exact Bundle.unbroken_of_value? hparams hgiven
    | none =>
        rw [hgiven] at hvalue
        cases hfind : own.find? HeaderName.bundleManifestVersion with
        | some header =>
            rw [Attributes.get?, hfind] at hvalue
            rw [← Option.some.inj hvalue]
            exact (hown.kept_of_find? hfind).unbroken
        | none =>
            rw [Attributes.get?, hfind] at hvalue
            rw [← Option.some.inj hvalue]
            exact hversion

/-- **Which calls draw a number**: those that need one, if the configured version can be written. -/
theorem draws_eq (hversion : p.config.manifestVersion.any Attributes.isBreaking = false)
    (call : Call) : p.draws call.archive call.query = call.needsNumber := by
  rw [Bool.eq_iff_iff, Call.needsNumber_iff]
  constructor
  · intro hdraws
    rw [draws] at hdraws
    split at hdraws
    next stage hstage =>
      obtain ⟨hcheck, hkind⟩ := prepare_eq_ok.1 hstage
      cases hclass : Bundle.classify call.archive.manifest.main with
      | wab =>
          rw [hclass] at hkind
          obtain ⟨m, -, rfl⟩ := hkind
          exact absurd hdraws Bool.false_ne_true
      | plain =>
          rw [hclass] at hkind
          obtain ⟨m, hbegin, -⟩ := hkind
          obtain ⟨path, main, hpath, -, -⟩ := (begin_eq_ok call.wellFormed).1 hbegin
          exact ⟨rfl, hcheck, path, hpath⟩
    next => exact absurd hdraws Bool.false_ne_true
  · rintro ⟨hclass, hcheck, path, hpath⟩
    obtain ⟨main, hmain⟩ := exists_begun (Bundle.checkValues_eq_ok_iff.1 hcheck) call.wellFormed
      hversion hpath
    have hbegin := (begin_eq_ok call.wellFormed).2 ⟨path, main, hpath, hmain, rfl⟩
    have hprepare : (prepare p.config call.archive call.query).result
        = .ok (.unnamed call.params { call.archive.manifest with main := main }) := by
      rw [prepare_eq_ok, hclass]
      exact ⟨hcheck, _, hbegin, rfl⟩
    rw [draws, hprepare]
    rfl

/-! ## Numbers -/

/-- A call moves the generator on by one number if it needs one. -/
theorem counter_after (hversion : p.config.manifestVersion.any Attributes.isBreaking = false)
    (call : Call) :
    (p.after call).names.counter = p.names.counter + if call.needsNumber then 1 else 0 := by
  rw [after, counter_process, draws_eq hversion]

/-- The number that a call draws, if it needs one, is the next one. -/
theorem drawn_step (hversion : p.config.manifestVersion.any Attributes.isBreaking = false)
    (call : Call) :
    (p.step call).drawn = if call.needsNumber then some p.names.counter else none := by
  rw [step, counter_after hversion]
  cases call.needsNumber with
  | true =>
      have hmoved : p.names.counter + 1 ≠ p.names.counter := by omega
      simp [hmoved]
  | false => simp

/-- **What a run leaves for each call**: a processor with the same configuration and stem, whose
number has moved on by as many as there are calls before that need one. -/
theorem exists_step (hversion : p.config.manifestVersion.any Attributes.isBreaking = false)
    {calls : List Call} {before behind : List Step} {s : Step}
    (h : p.run calls = before ++ s :: behind) :
    ∃ q : Processor, s = q.step s.call ∧ q.config = p.config ∧ q.names.stem = p.names.stem
      ∧ q.names.counter = p.names.counter + before.countP (·.call.needsNumber) := by
  induction calls generalizing p before with
  | nil => exact absurd h (by simp [run])
  | cons call calls ih =>
      rw [run] at h
      cases before with
      | nil =>
          obtain ⟨rfl, -⟩ := List.cons.inj h
          exact ⟨p, rfl, rfl, rfl, by simp⟩
      | cons first before =>
          obtain ⟨rfl, hrest⟩ := List.cons.inj h
          obtain ⟨q, hs, hconfig, hstem, hcounter⟩ := ih (by rwa [config_after]) hrest
          refine ⟨q, hs, hconfig.trans (config_after call), hstem.trans (stem_after call), ?_⟩
          rw [hcounter, counter_after hversion, List.countP_cons]
          show _ = p.names.counter
            + ((before.countP (·.call.needsNumber) + if call.needsNumber then 1 else 0 : Nat) : Int)
          cases call.needsNumber with
          | true =>
              simp only [if_true]
              omega
          | false =>
              simp only [Bool.false_eq_true, if_false]
              omega

/-! ## Names -/

/-- **A bundle that nobody has named** is named after the next number. -/
theorem get?_step {call : Call} {m : Manifest} (hneeds : call.needsNumber = true)
    (hunnamed : call.params.value? HeaderName.bundleSymbolicName = none)
    (h : (p.step call).result = .ok m) :
    m.main.get? HeaderName.bundleSymbolicName
      = some (p.names.stem ++ Text.ofInt p.names.counter) := by
  have hclass := (Call.needsNumber_iff.1 hneeds).1
  obtain ⟨-, path, name, classPath, main, -, hname, -, hwritten, rfl, -⟩ :=
    (process_plain_eq_ok call.wellFormed hclass).1 h
  obtain ⟨-, rfl⟩ := NameGenerator.name_eq_ok_iff.1 hname
  show main.get? HeaderName.bundleSymbolicName = _
  rw [PlainArchive.get?_of_written (Bundle.classify_eq_plain.1 hclass) hwritten,
    PlainArchive.value?]
  rw [Call.params] at hunnamed
  simp +decide [hunnamed]

/-- A generated name is the stem with the next number behind it. -/
theorem eq_of_generated?_step
    (hversion : p.config.manifestVersion.any Attributes.isBreaking = false) {call : Call}
    {name : Text} (h : (p.step call).generated? = some name) :
    call.needsNumber = true ∧ name = p.names.stem ++ Text.ofInt p.names.counter := by
  rw [Step.generated?] at h
  split at h
  next number m hdrawn hunnamed hresult =>
    rw [drawn_step hversion] at hdrawn
    have hneeds : call.needsNumber = true := by
      cases hneeds : call.needsNumber with
      | true => rfl
      | false =>
          rw [hneeds] at hdrawn
          exact absurd hdrawn (by simp)
    rw [get?_step hneeds hunnamed hresult] at h
    exact ⟨hneeds, (Option.some.inj h).symm⟩
  next => exact absurd h (by simp)

/-- No two generated names are the same: the first one has a lower number than the others. -/
theorem nodup_generated (hversion : p.config.manifestVersion.any Attributes.isBreaking = false)
    (calls : List Call) : ((p.run calls).filterMap Step.generated?).Nodup := by
  rw [List.Nodup, List.pairwise_filterMap]
  induction calls generalizing p with
  | nil => exact .nil
  | cons call calls ih =>
      rw [run, List.pairwise_cons]
      have hlater : (p.after call).config.manifestVersion.any Attributes.isBreaking = false := by
        rwa [config_after]
      refine ⟨fun s hs name hname other hother heq => ?_, ih hlater⟩
      obtain ⟨before, behind, hsplit⟩ := List.append_of_mem hs
      obtain ⟨q, hq, hconfig, hstem, hcounter⟩ := exists_step hlater hsplit
      obtain ⟨hneeds, rfl⟩ := eq_of_generated?_step hversion hname
      rw [hq] at hother
      obtain ⟨-, rfl⟩ := eq_of_generated?_step (hconfig ▸ hlater) hother
      rw [hstem, stem_after] at heq
      have hnumber := Text.ofInt_injective (List.append_cancel_left heq)
      rw [hcounter, counter_after hversion, hneeds, if_pos rfl] at hnumber
      omega

/-- **The names that a processor generates.** In any run the calls that need a number, and no
others, draw one, and these are the numbers from the first one on in the order of the calls. A
bundle that nobody has named is named after the number of its call, and no two are the same. -/
theorem run_names (hversion : p.config.manifestVersion.any Attributes.isBreaking = false)
    (calls : List Call) :
    (p.run calls).map (·.call) = calls
    ∧ (∀ (before behind : List Step) (s : Step), p.run calls = before ++ s :: behind →
      s.drawn = (if s.call.needsNumber then
          some (p.names.counter + before.countP (·.call.needsNumber)) else none)
      ∧ ∀ m, s.result = .ok m → s.call.needsNumber = true →
        s.call.params.value? HeaderName.bundleSymbolicName = none →
        m.main.get? HeaderName.bundleSymbolicName
          = some (p.names.stem
            ++ Text.ofInt (p.names.counter + before.countP (·.call.needsNumber))))
    ∧ ((p.run calls).filterMap Step.generated?).Nodup := by
  refine ⟨map_call_run calls, fun before behind s hsplit => ?_, nodup_generated hversion calls⟩
  obtain ⟨q, hs, hconfig, hstem, hcounter⟩ := exists_step hversion hsplit
  rw [← hstem, ← hcounter]
  constructor
  · calc s.drawn = (q.step s.call).drawn := congrArg Step.drawn hs
      _ = if s.call.needsNumber then some q.names.counter else none :=
        drawn_step (hconfig ▸ hversion) s.call
  · intro m hresult hneeds hunnamed
    rw [hs] at hresult
    exact get?_step hneeds hunnamed hresult

/-- Here a call is refused between two others for an archive without members. -/
theorem run_names_refused :
    ∃ (named refused : Call) (s t u : Step) (m : Manifest),
      ({} : Processor).run [named, refused, named] = [s, t, u]
      ∧ s.drawn = some 0 ∧ t.drawn = none ∧ u.drawn = some 1 ∧ u.result = .ok m
      ∧ m.main.get? HeaderName.bundleSymbolicName
          = some ↑"org.glassfish.fighterfish.autogenerated_1" := by
  obtain ⟨a, ha, hview⟩ := exists_ok_of_toOption
    (e := (Archive.ofBytes [] .memory (Zip.store [])).result)
    (f := fun a =>
      let params := Params.given (some ↑"Web-ContextPath=/a")
      let last := ((({} : Processor).process a (some ↑"Web-ContextPath=/a")).2.process a
        none).2.process a (some ↑"Web-ContextPath=/a")
      (Bundle.classify a.manifest.main == .plain && (Bundle.checkValues params).isOk
          && (params.value? HeaderName.webContextPath).isSome,
        params.value? HeaderName.bundleSymbolicName, last.1.result.toOption.map fun _ => ()))
    (b := (true, none, some ())) (by decide +kernel)
  simp only [Prod.mk.injEq] at hview
  obtain ⟨hneeds, hunnamed, hsome⟩ := hview
  obtain ⟨m, hm, -⟩ := exists_ok_of_toOption hsome
  let named : Call := ⟨a, some ↑"Web-ContextPath=/a", [], .memory, _, ha⟩
  let refused : Call := ⟨a, none, [], .memory, _, ha⟩
  have hdraws : named.needsNumber = true := hneeds
  have hrefused : refused.needsNumber = false := by
    have hgiven : (Params.given none).value? HeaderName.webContextPath = none := by decide
    simp [Call.needsNumber, Call.params, refused, hgiven]
  have hcall (p : Processor) (call : Call) : (p.step call).call = call := rfl
  obtain ⟨-, hnumbers, -⟩ := run_names (p := {}) (by decide) [named, refused, named]
  obtain ⟨hfirst, -⟩ := hnumbers [] _ _ rfl
  obtain ⟨hsecond, -⟩ := hnumbers [_] _ _ rfl
  obtain ⟨hthird, hname⟩ := hnumbers [_, _] [] _ rfl
  simp only [hcall, hdraws, hrefused, List.countP_cons, List.countP_nil]
    at hfirst hsecond hthird hname
  exact ⟨named, refused, _, _, _, m, rfl, hfirst, hsecond, hthird, hm, hname m hm trivial hunnamed⟩

end Processor

end Wab
