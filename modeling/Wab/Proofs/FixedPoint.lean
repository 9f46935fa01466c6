import Wab.Proofs.CustomizedBundle
import Wab.Proofs.PlainArchive
import Wab.Proofs.WrittenBundle
import Wab.Proofs.WrittenParams

/-! # Bundles that are processed again

Whatever an archive was, the manifest that comes out is one of a bundle, and its context path begins
with a slash. To process it again with this context path changes nothing: the path holds no
ampersand, since it came from a query, so an encoding of it is read back whole, and it is written
where it stands already.

* **`Params.given_of_encodes`** — a query that gives the context path alone.
* **`Processor.get?_contextPath`** — the context path of what was processed.
* **`Processor.process_again`** — what was processed is processed to itself. -/

namespace Wab

/-- A query made of the name of the context path and an encoding of a path gives this path and
nothing else. -/
theorem Params.given_of_encodes {path encoded : Text} (hpath : path ≠ [])
    (hwhole : .scalar '&' ∉ path) (h : Query.Encodes path encoded) :
    Params.given (some (HeaderName.webContextPath ++ .scalar '=' :: encoded))
      = [(HeaderName.webContextPath, some path)] := by
  have hname : Query.Encodes HeaderName.webContextPath HeaderName.webContextPath :=
    Query.encodes_self (by decide)
  have hclear : Query.clear (HeaderName.webContextPath ++ .scalar '=' :: encoded)
      = HeaderName.webContextPath ++ .scalar '=' :: path :=
    Query.clear_of_encodes (hname.append (.raw (by decide) h))
  -- In clear there is one token, as neither the name nor the path holds an ampersand.
  have htoken : HeaderName.webContextPath ++ .scalar '=' :: path ≠ []
      ∧ .scalar '&' ∉ HeaderName.webContextPath ++ .scalar '=' :: path := by
    rw [List.mem_append, List.mem_cons, not_or, not_or]
    exact ⟨by simp, by decide, by decide, hwhole⟩
  have htokens : tokens (HeaderName.webContextPath ++ .scalar '=' :: path)
      = [HeaderName.webContextPath ++ .scalar '=' :: path] := by
    have hone : ∀ clear ∈ [HeaderName.webContextPath ++ .scalar '=' :: path],
        clear ≠ [] ∧ .scalar '&' ∉ clear := by
      intro clear hclear
      rwa [List.mem_singleton.1 hclear]
    rw [← tokens_intercalate hone, List.intercalate_singleton]
  have hread : ofToken (HeaderName.webContextPath ++ .scalar '=' :: path)
      = (HeaderName.webContextPath, some path) := by
    rw [ofToken_append (by decide +kernel) (by decide), if_neg hpath]
  rw [given, hclear, ofQuery, htokens, List.map_singleton, hread]
  rfl

namespace Processor

variable {locator : Text} {medium : Medium} {bytes : Bytes} {a : Archive} {p : Processor}
  {query : Option Text} {m : Manifest}

/-! ## The context path -/

/-- The context path of what was processed is the one that was given, with a slash in front. -/
theorem get?_contextPath (hopen : (Archive.ofBytes locator medium bytes).result = .ok a)
    (h : (p.process a query).1.result = .ok m) :
    ∃ path, (Params.given query).value? HeaderName.webContextPath = some path
      ∧ m.main.get? HeaderName.webContextPath = some (Bundle.rooted path) := by
  have hown := (Archive.wellFormed_of_ofBytes hopen).1.main
  cases hkind : Bundle.classify a.manifest.main with
  | wab =>
      obtain ⟨-, -, path, main, hpath, hmain, rfl, -⟩ := (process_wab_eq_ok hkind).1 h
      refine ⟨path, hpath, ?_⟩
      show main.get? HeaderName.webContextPath = _
      rw [Attributes.get?_insertHeaders hmain, Attributes.lastValue?_singleton,
        HeaderName.same_self]
      rfl
  | plain =>
      obtain ⟨-, path, name, classPath, main, hpath, -, -, hmain, rfl, -⟩ :=
        (process_plain_eq_ok hown hkind).1 h
      refine ⟨path, hpath, ?_⟩
      show main.get? HeaderName.webContextPath = _
      rw [PlainArchive.get?_of_written (Bundle.classify_eq_plain.1 hkind) hmain,
        PlainArchive.value?, HeaderName.same_self, if_pos rfl, PlainArchive.rooted_eq]

/-- A path with a slash in front holds an ampersand only if it holds one without. -/
theorem ampersand_not_mem_rooted {path : Text} (h : .scalar '&' ∉ path) :
    .scalar '&' ∉ Bundle.rooted path := by
  rw [Bundle.rooted]
  split
  next => exact h
  next =>
    rw [List.mem_cons, not_or]
    exact ⟨by decide, h⟩

/-- Nothing is put in front of a path that begins with a slash. -/
theorem rooted_of_head? {path : Text} (h : path.head? = some (.scalar '/')) :
    Bundle.rooted path = path := by
  rw [PlainArchive.rooted_eq, if_pos h]

/-! ## The second time -/

/-- A section with a context path is that of a bundle. -/
theorem classify_of_contextPath {own : Attributes} {path : Text}
    (h : own.get? HeaderName.webContextPath = some path) : Bundle.classify own = .wab := by
  obtain ⟨header, hfind, -⟩ := Option.map_eq_some_iff.1 h
  have hcontains : own.contains HeaderName.webContextPath = true := by
    rw [Attributes.contains, hfind]
    rfl
  have hany : HeaderName.customizable.any own.contains = true :=
    List.any_eq_true.2 ⟨HeaderName.webContextPath, by decide, hcontains⟩
  rw [Bundle.classify, hany, if_pos rfl]

/-- A bundle that is given the context path that it has stays as it is, if it can be written. -/
theorem process_of_contextPath {b : Archive} {path : Text} {query : Option Text}
    (hown : b.manifest.main.WellFormed) (hnone : b.manifest.surrogate? = none)
    (hpath : b.manifest.main.get? HeaderName.webContextPath = some path)
    (hhead : path.head? = some (.scalar '/'))
    (hgiven : Params.given query = [(HeaderName.webContextPath, some path)]) (q : Processor) :
    (q.process b query).1.result = .ok b.manifest := by
  have hstored : b.manifest.main.insertHeaders [⟨HeaderName.webContextPath, Bundle.rooted path⟩]
      = .ok b.manifest.main := by
    rw [rooted_of_head? hhead, Attributes.insertHeaders_cons, hown.insert_of_get? hpath]
    rfl
  have hcheck : Bundle.checkValues (Params.given query) = .ok () := by
    rw [hgiven, Bundle.checkValues_eq_ok_iff]
    rintro ⟨name, value, hmem, c, hc, hbreaking⟩
    obtain ⟨-, hvalue⟩ := Prod.mk.inj (List.mem_singleton.1 hmem)
    obtain rfl := Option.some.inj hvalue
    -- The path is the value of a header, and no such value is broken.
    obtain ⟨header, hfind, rfl⟩ := Option.map_eq_some_iff.1 hpath
    exact List.any_eq_false.1 (hown.kept_of_find? hfind).unbroken c hc
      (Attributes.isBreaking_iff.2 hbreaking)
  have hvalue : (Params.given query).value? HeaderName.webContextPath = some path := by
    rw [hgiven, Params.value?, Dictionary.get?_cons, if_pos rfl]
    rfl
  refine (process_wab_eq_ok (classify_of_contextPath hpath)).2
    ⟨hcheck, ?_, path, b.manifest.main, hvalue, hstored, rfl, hnone⟩
  rw [hgiven]
  rfl

/-- **What was processed is processed to itself.** Its context path begins with a slash, an archive
with that manifest is a bundle, and every processor that is given any encoding of that path makes
the same manifest of it and draws no number. -/
theorem process_again (hopen : (Archive.ofBytes locator medium bytes).result = .ok a)
    (h : (p.process a query).1.result = .ok m) :
    ∃ path, m.main.get? HeaderName.webContextPath = some path
      ∧ path.head? = some (.scalar '/')
      ∧ (∃ encoded, Query.Encodes path encoded)
      ∧ ∀ b : Archive, b.manifest = m →
        Bundle.classify b.manifest.main = .wab
        ∧ ∀ encoded, Query.Encodes path encoded → ∀ q : Processor,
          (q.process b
            (some (HeaderName.webContextPath ++ .scalar '=' :: encoded))).1.result = .ok m
          ∧ (q.process b (some (HeaderName.webContextPath ++ .scalar '=' :: encoded))).2 = q := by
  obtain ⟨given, hgiven, hpath⟩ := get?_contextPath hopen h
  have hmain := (wellFormed_of_process hopen h).1.main
  have hnone := (process_eq_ok.1 h).2
  have hhead := head?_rooted given
  have hne : Bundle.rooted given ≠ [] := by
    intro hempty
    rw [hempty] at hhead
    exact absurd hhead (by simp)
  have hwhole : .scalar '&' ∉ Bundle.rooted given :=
    ampersand_not_mem_rooted (Params.ampersand_not_mem (Params.mem_of_value? hgiven))
  refine ⟨Bundle.rooted given, hpath, hhead, Query.exists_encodes _, ?_⟩
  rintro b rfl
  have hwab := classify_of_contextPath hpath
  refine ⟨hwab, fun encoded hencoded q => ⟨?_, process_snd_of_wab hwab⟩⟩
  exact process_of_contextPath hmain hnone hpath hhead
    (Params.given_of_encodes hne hwhole hencoded) q

/-- Here the path holds a letter of two bytes, an equals sign and a percent sign, and the processor
that is called again is at another number. -/
theorem process_again_escaped :
    ∃ a m, (Archive.ofBytes [] .memory (Zip.store [])).result = .ok a
      ∧ (({} : Processor).process a (some ↑"web-contextpath=é%3D%25")).1.result = .ok m
      ∧ m.main.get? HeaderName.webContextPath = some ↑"/é=%"
      ∧ (({ names := { counter := 7 } } : Processor).process { a with manifest := m }
          (some ↑"Web-ContextPath=/%C3%a9=%25")).1.result = .ok m := by
  obtain ⟨a, ha, hview⟩ := exists_ok_of_toOption
    (e := (Archive.ofBytes [] .memory (Zip.store [])).result)
    (f := fun a => (({} : Processor).process a
      (some ↑"web-contextpath=é%3D%25")).1.result.toOption.map fun m =>
        m.main.get? HeaderName.webContextPath)
    (b := some (some ↑"/é=%")) (by decide +kernel)
  obtain ⟨m, hm, hpath⟩ := exists_ok_of_toOption hview
  obtain ⟨path, hown, -, -, hthen⟩ := process_again ha hm
  obtain rfl : path = "/é=%" := Option.some.inj (hown.symm.trans hpath)
  have hletter : Query.Escapes (String.utf8EncodeChar 'é') ['%', 'C', '3', '%', 'a', '9'] :=
    .cons (Or.inr (by decide)) (Or.inl (by decide))
      (.cons (Or.inl (by decide)) (Or.inl (by decide)) .nil)
  have hpercent : Query.Escapes (String.utf8EncodeChar '%') ['%', '2', '5'] :=
    .cons (Or.inl (by decide)) (Or.inl (by decide)) .nil
  have hencoded : Query.Encodes ['/', 'é', '=', '%']
      (.scalar '/' :: ((['%', 'C', '3', '%', 'a', '9'] : Text)
        ++ .scalar '=' :: ((['%', '2', '5'] : Text) ++ []))) :=
    .raw (by decide) (.escaped hletter (.raw (by decide) (.escaped hpercent .nil)))
  obtain ⟨-, hagain⟩ := hthen { a with manifest := m } rfl
  exact ⟨a, m, ha, hm, hown, (hagain _ hencoded _).1⟩

end Processor

end Wab
