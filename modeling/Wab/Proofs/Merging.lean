import Wab.Proofs.Attributes

/-! # Headers that come one after another

What a section holds after headers were stored one after another is said at once for all of them:
each name in the spelling it first came in, with the value it last came with.

* **`Attributes.Storable`** — headers that can be stored one after another.
* **`Attributes.merged`** — the headers that a section then has.
* **`Attributes.insertHeaders_empty_eq_ok_iff`** — storing headers in an empty section.
* **`Attributes.insertHeaders_ofMerged_eq_ok_iff`** — storing further ones. -/

namespace Wab.Attributes

/-- Headers can be stored one after another: no value holds NUL, and each name is valid or is that
of an earlier header in some letter case. -/
def Storable (headers : List Header) : Prop :=
  ∀ before h after, headers = before ++ h :: after →
    .scalar '\x00' ∉ h.value
    ∧ (HeaderName.isValid h.name = true ∨ ∃ g ∈ before, HeaderName.same g.name h.name = true)

/-- The headers of a section in which headers were stored: a name is spelled as where it comes
first, and has the value that it has where it comes last. -/
def merged (headers : List Header) : List Header :=
  (newNames [] (headers.map (·.name))).map fun name => ⟨name, (lastValue? headers name).getD []⟩

/-- The section in which headers were stored. -/
def ofMerged (headers : List Header) : Attributes :=
  ⟨(merged headers).map fun h => (Text.lower h.name, h)⟩

theorem storable_nil : Storable [] := fun _ _ _ h => absurd h (by simp)

/-- Of headers that can be stored one after another, the first ones can be. -/
theorem Storable.of_append {headers more : List Header} (h : Storable (headers ++ more)) :
    Storable headers := by
  intro before g after hheaders
  exact h before g (after ++ more) (by rw [hheaders, List.append_assoc, List.cons_append])

/-! ## A section by its names -/

/-- Each header of a section stands under the lower-case form of its name. -/
theorem WellFormed.slots_eq {a : Attributes} (ha : a.WellFormed) :
    a.slots = a.headers.map fun h => (Text.lower h.name, h) := by
  rw [headers, List.map_map]
  refine (List.map_id a.slots).symm.trans (List.map_congr_left fun slot hslot => ?_)
  exact Prod.ext (ha.kept slot hslot).keyed rfl

/-- The headers of a section are its names with their values. -/
theorem WellFormed.headers_eq {a : Attributes} (ha : a.WellFormed) :
    a.headers = a.names.map fun name => ⟨name, (a.get? name).getD []⟩ := by
  rw [names, List.map_map]
  refine (List.map_id a.headers).symm.trans (List.map_congr_left fun h hh => ?_)
  obtain ⟨slot, hslot, rfl⟩ := List.mem_map.1 hh
  have hkeyed := (ha.kept slot hslot).keyed
  have hfind : a.find? slot.2.name = some slot.2 :=
    Dictionary.get?_of_mem ha.distinct (hkeyed ▸ hslot)
  simp [get?, hfind]

/-- A section in which headers were stored is the one that they merge to. -/
theorem eq_ofMerged {headers : List Header} {a : Attributes}
    (h : empty.insertHeaders headers = .ok a) : a = ofMerged headers := by
  have ha := wellFormed_empty.insertHeaders h
  have hnames : a.names = newNames [] (headers.map (·.name)) :=
    wellFormed_empty.names_insertHeaders h
  have hvalues : ∀ name, a.get? name = lastValue? headers name := by
    intro name
    rw [get?_insertHeaders h, get?_empty]
    cases lastValue? headers name with
    | none => rfl
    | some value => rfl
  have hheaders : a.headers = merged headers := by
    simp only [ha.headers_eq, hnames, hvalues, merged]
  obtain ⟨slots⟩ := a
  exact congrArg Attributes.mk (ha.slots_eq.trans (hheaders ▸ rfl))

/-! ## Headers that can be stored -/

/-- A value can be stored if no line ends in it and it holds no NUL. -/
theorem any_isBreaking_iff {value : Text} (h : Lines.Unbroken value) :
    value.any isBreaking = false ↔ .scalar '\x00' ∉ value := by
  rw [List.any_eq_false]
  constructor
  · exact fun hfree hmem => hfree _ hmem (by decide)
  · intro hfree c hc hbreaking
    rcases isBreaking_iff.1 hbreaking with rfl | rfl | rfl
    · exact h.1 hc
    · exact h.2 hc
    · exact hfree hc

/-- After a header was stored there are those of its name and those before. -/
theorem isSome_find?_of_insert {a b : Attributes} {name value : Text}
    (h : a.insert name value = .ok b) (other : Text) :
    (b.find? other).isSome = true
      ↔ HeaderName.same name other = true ∨ (a.find? other).isSome = true := by
  have hget : ∀ c : Attributes, (c.find? other).isSome = (c.get? other).isSome := by
    intro c
    rw [get?, Option.isSome_map]
  rw [hget, hget, get?_of_insert h, HeaderName.same_iff]
  by_cases hsame : Text.lower name = Text.lower other
  · simp [hsame]
  · simp [hsame]

/-- What holds of each place in a list holds of the first one and of those behind it. -/
theorem forall_eq_append_cons_iff {first : Header} {rest : List Header}
    {P : List Header → Header → Prop} :
    (∀ before h after, first :: rest = before ++ h :: after → P before h)
      ↔ P [] first ∧ ∀ before h after, rest = before ++ h :: after → P (first :: before) h := by
  constructor
  · intro hall
    refine ⟨hall [] first rest rfl, fun before h after hrest => ?_⟩
    exact hall (first :: before) h after (by rw [hrest, List.cons_append])
  · rintro ⟨hfirst, hrest⟩ before h after hlist
    cases before with
    | nil =>
        obtain ⟨rfl, rfl⟩ := List.cons.inj hlist
        exact hfirst
    | cons g before =>
        obtain ⟨rfl, hbehind⟩ := List.cons.inj hlist
        exact hrest before h after hbehind

/-- Headers can be stored in a section if each has a valid name, one of the section or one of an
earlier header. -/
theorem exists_insertHeaders_iff {a : Attributes} {headers : List Header}
    (hvalues : ∀ h ∈ headers, Lines.Unbroken h.value) :
    (∃ b, a.insertHeaders headers = .ok b)
      ↔ ∀ before h after, headers = before ++ h :: after →
        .scalar '\x00' ∉ h.value
          ∧ (HeaderName.isValid h.name = true ∨ (a.find? h.name).isSome = true
            ∨ ∃ g ∈ before, HeaderName.same g.name h.name = true) := by
  induction headers generalizing a with
  | nil => exact iff_of_true ⟨a, rfl⟩ fun before h after hnil => absurd hnil (by simp)
  | cons first rest ih =>
      have hfirst : (∃ next, a.insert first.name first.value = .ok next)
          ↔ .scalar '\x00' ∉ first.value
            ∧ (HeaderName.isValid first.name = true ∨ (a.find? first.name).isSome = true) := by
        rw [exists_insert_iff, any_isBreaking_iff (hvalues first List.mem_cons_self)]
      have hrest := fun next => ih (a := next) fun h hh => hvalues h (List.mem_cons_of_mem _ hh)
      -- A name that the first header brings in is one of the section for the later ones.
      have hnext : ∀ {next}, a.insert first.name first.value = .ok next → ∀ before (h : Header),
          ((next.find? h.name).isSome = true ∨ ∃ g ∈ before, HeaderName.same g.name h.name = true)
            ↔ (a.find? h.name).isSome = true
              ∨ ∃ g ∈ first :: before, HeaderName.same g.name h.name = true := by
        intro next hinsert before h
        rw [isSome_find?_of_insert hinsert, or_assoc, or_left_comm]
        simp only [List.mem_cons, exists_eq_or_imp]
      simp only [insertHeaders_cons_eq_ok, forall_eq_append_cons_iff]
      constructor
      · rintro ⟨b, next, hinsert, hstored⟩
        have hbefore := hfirst.1 ⟨next, hinsert⟩
        refine ⟨⟨hbefore.1, hbefore.2.imp_right Or.inl⟩, fun before h after hlist => ?_⟩
        rw [← hnext hinsert]
        exact (hrest next).1 ⟨b, hstored⟩ before h after hlist
      · rintro ⟨⟨hnul, hname⟩, hall⟩
        have hknown : HeaderName.isValid first.name = true
            ∨ (a.find? first.name).isSome = true := by
          simpa using hname
        obtain ⟨next, hinsert⟩ := hfirst.2 ⟨hnul, hknown⟩
        obtain ⟨b, hstored⟩ := (hrest next).2 fun before h after hlist => by
          rw [hnext hinsert]
          exact hall before h after hlist
        exact ⟨b, next, hinsert, hstored⟩

/-- **Storing headers in an empty section** gives the section that they merge to, if they can be
stored one after another. -/
theorem insertHeaders_empty_eq_ok_iff {headers : List Header} {a : Attributes}
    (hvalues : ∀ h ∈ headers, Lines.Unbroken h.value) :
    empty.insertHeaders headers = .ok a ↔ Storable headers ∧ a = ofMerged headers := by
  have hstorable : (∃ b, empty.insertHeaders headers = .ok b) ↔ Storable headers := by
    rw [exists_insertHeaders_iff hvalues]
    simp only [Storable, find?, empty, Dictionary.get?_nil, Option.isSome_none,
      Bool.false_eq_true, false_or]
  rw [← hstorable]
  constructor
  · exact fun h => ⟨⟨a, h⟩, eq_ofMerged h⟩
  · rintro ⟨⟨b, hb⟩, rfl⟩
    rw [hb, eq_ofMerged hb]

/-- **Storing further headers** gives the section that all of them merge to. -/
theorem insertHeaders_ofMerged_eq_ok_iff {known headers : List Header} {a : Attributes}
    (hknown : Storable known) (hvalues : ∀ h ∈ known ++ headers, Lines.Unbroken h.value) :
    (ofMerged known).insertHeaders headers = .ok a
      ↔ Storable (known ++ headers) ∧ a = ofMerged (known ++ headers) := by
  have hfirst : empty.insertHeaders known = .ok (ofMerged known) :=
    (insertHeaders_empty_eq_ok_iff fun h hh => hvalues h (List.mem_append_left _ hh)).2
      ⟨hknown, rfl⟩
  rw [← insertHeaders_empty_eq_ok_iff hvalues, insertHeaders_append_list, hfirst]
  rfl

end Wab.Attributes
