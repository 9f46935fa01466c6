import Wab.Proofs.HeaderList

/-! # A section behaves as a list of headers

Whatever is asked of a section, it answers as the list of its headers does and is left with the
headers that the list is left with. Each operation keeps the section well-formed, so this is so for
any operations in order.

* **`Attributes.WellFormed.perform`** — one operation on a section and on the list of its headers.
* **`Attributes.leftBehind_of_error`** — what an operation that fails leaves behind.
* **`Attributes.run_eq_run`** — operations in order, from a section without headers.
* **`Attributes.copy_run`** — the copy of a section is the section. -/

namespace Wab.Attributes

variable {a : Attributes}

/-! ## One operation -/

/-- A section after an operation and its answer, and the same of a list. -/
structure Agrees (onSection : Attributes × Except AttributeError Answer)
    (onList : HeaderList × Except AttributeError Answer) : Prop where
  /-- The section is well-formed. -/
  wellFormed : onSection.1.WellFormed
  /-- The headers are the same. -/
  headers : onSection.1.headers = onList.1
  /-- The answers are the same. -/
  answer : onSection.2 = onList.2

/-- A change of a section and a change of the list agree if they lead to the same headers. -/
theorem WellFormed.agrees_changed {β : Type} (ha : a.WellFormed) {x : Except AttributeError β}
    {next : β → Answer × Attributes} {onList : Except AttributeError (Answer × HeaderList)}
    (hkept : ∀ r, x = .ok r → (next r).2.WellFormed)
    (h : x.map (fun r => ((next r).1, (next r).2.headers)) = onList) :
    Agrees (a.changed (x.map next)) (HeaderList.changed a.headers onList) := by
  rw [← h]
  cases x with
  | error e => exact ⟨ha, rfl, rfl⟩
  | ok r => exact ⟨hkept r rfl, rfl, rfl⟩

/-- **One operation on a section and on the list of its headers.** -/
theorem WellFormed.perform (ha : a.WellFormed) (operation : Operation) :
    Agrees (a.perform operation) (HeaderList.perform a.headers operation) := by
  cases operation with
  | set name value =>
      refine ha.agrees_changed (fun b hb => ha.insertValue hb) ?_
      rw [← ha.insertValue_view]
      cases a.insertValue name value with
      | error e => rfl
      | ok b => rfl
  | get name =>
      refine ⟨ha, rfl, ?_⟩
      rw [Attributes.perform, HeaderList.perform, ha.get_view]
      cases HeaderList.take a.headers name with
      | error e => rfl
      | ok result => rfl
  | getOr name default =>
      refine ⟨ha, rfl, ?_⟩
      rw [Attributes.perform, HeaderList.perform, ha.find?_headers, get?]
      cases a.find? name with
      | none => rfl
      | some header => rfl
  | delete name =>
      rw [Attributes.perform, erase_eq_map_pop]
      refine ha.agrees_changed (fun b hb => ?_) ?_
      · cases hpop : a.pop name with
        | error e => exact absurd hb (by simp [hpop, Except.map])
        | ok result =>
            rw [hpop] at hb
            rw [← Except.ok.inj hb]
            exact ha.pop hpop
      · rw [← ha.pop_view]
        cases a.pop name with
        | error e => rfl
        | ok result => rfl
  | holds name =>
      refine ⟨ha, rfl, ?_⟩
      rw [Attributes.perform, HeaderList.perform]
      cases name.text? with
      | none => rfl
      | some name =>
          dsimp only
          rw [ha.find?_headers]
          rfl
  | size =>
      refine ⟨ha, rfl, ?_⟩
      rw [Attributes.perform, HeaderList.perform, headers, List.length_map]
      rfl
  | names => exact ⟨ha, rfl, rfl⟩
  | pop name =>
      refine ha.agrees_changed (fun result hresult => ha.pop hresult) ?_
      rw [← ha.pop_view]
      cases a.pop name with
      | error e => rfl
      | ok result => rfl
  | popOr name default =>
      have hview := ha.pop_view name
      rw [HeaderList.take] at hview
      rw [Attributes.perform, HeaderList.perform]
      cases hfind : HeaderList.find? a.headers name with
      | none =>
          rw [hfind] at hview
          cases hpop : a.pop name with
          | error e => exact ⟨ha, rfl, rfl⟩
          | ok result => exact absurd hview (by simp [hpop, Except.map])
      | some header =>
          rw [hfind] at hview
          cases hpop : a.pop name with
          | error e => exact absurd hview (by simp [hpop, Except.map])
          | ok result =>
              rw [hpop] at hview
              obtain ⟨hvalue, hheaders⟩ := Prod.mk.inj (Except.ok.inj hview)
              have hanswer := congrArg (fun v => Answer.value (.text v)) hvalue
              exact ⟨ha.pop hpop, hheaders, congrArg Except.ok hanswer⟩
  | popFirst =>
      obtain ⟨slots⟩ := a
      cases slots with
      | nil => exact ⟨ha, rfl, rfl⟩
      | cons slot rest =>
          rw [Attributes.perform, ha.popFirst_cons]
          exact ⟨ha.sublist (List.sublist_cons_self slot rest), rfl, rfl⟩
  | setDefault name value =>
      rw [Attributes.perform, HeaderList.perform, getOrInsert, get?, ha.find?_headers]
      cases hfind : a.find? name with
      | some header => exact ⟨ha, rfl, rfl⟩
      | none =>
          have hset := ha.insertValue_view name value
          cases hinsert : a.insertValue name value with
          | error e =>
              rw [hinsert] at hset
              rw [← hset]
              exact ⟨ha, rfl, rfl⟩
          | ok b =>
              obtain ⟨text, rfl, hget⟩ := get_of_insertValue hinsert
              rw [hinsert] at hset
              rw [← hset, Option.map_none]
              dsimp only
              rw [ok_bind, hget]
              exact ⟨ha.insertValue hinsert, rfl, rfl⟩
  | clear =>
      rw [Attributes.perform, ha.clear_eq]
      exact ⟨wellFormed_empty, rfl, rfl⟩
  | update entries =>
      obtain ⟨hkept, hview⟩ := ha.insertAll_view entries
      obtain ⟨hheaders, hanswer⟩ := Prod.mk.inj hview
      exact ⟨hkept, hheaders, congrArg (Except.map _) hanswer⟩
  | copy =>
      rw [Attributes.perform, ha.copy_eq]
      exact ⟨ha, rfl, rfl⟩

/-- **Operations in order on a section and on the list of its headers.** -/
theorem WellFormed.run (ha : a.WellFormed) (operations : List Operation) :
    (a.run operations).1.WellFormed
      ∧ HeaderList.run a.headers operations
        = ((a.run operations).1.headers, (a.run operations).2) := by
  induction operations generalizing a with
  | nil => exact ⟨ha, rfl⟩
  | cons operation operations ih =>
      obtain ⟨hkept, hheaders, hanswer⟩ := ha.perform operation
      obtain ⟨hrest, hrun⟩ := ih hkept
      rw [hheaders] at hrun
      refine ⟨hrest, ?_⟩
      rw [HeaderList.run, hrun, ← hanswer]
      rfl

/-! ## Operations that fail -/

/-- What an operation that fails with an error leaves behind: the section as it was, but after an
update the section that an update by the headers before the offending one leads to. -/
def LeftBehind (a : Attributes) (e : AttributeError) : Operation → Prop
  | .update entries => ∃ before name value after, entries = before ++ (name, value) :: after
    ∧ a.perform (.update before) = ((a.perform (.update entries)).1, .ok .done)
    ∧ (a.perform (.update entries)).1.perform (.set name value)
      = ((a.perform (.update entries)).1, .error e)
  | operation => (a.perform operation).1 = a

theorem perform_update (a : Attributes) (entries : List (Text × Value)) :
    a.perform (.update entries)
      = ((a.insertAll entries).1, (a.insertAll entries).2.map fun () => .done) := rfl

/-- Storing headers stops at the first that cannot be stored. -/
theorem exists_of_insertAll_eq_error {entries : List (Text × Value)} {e : AttributeError}
    (h : (a.insertAll entries).2 = .error e) :
    ∃ before name value after, entries = before ++ (name, value) :: after
      ∧ a.insertAll before = ((a.insertAll entries).1, .ok ())
      ∧ (a.insertAll entries).1.insertValue name value = .error e := by
  induction entries generalizing a with
  | nil => exact absurd h (by simp [insertAll])
  | cons entry entries ih =>
      obtain ⟨name, value⟩ := entry
      rw [insertAll] at h ⊢
      cases hinsert : a.insertValue name value with
      | error cause =>
          rw [hinsert] at h
          exact ⟨[], name, value, entries, rfl, rfl,
            hinsert.trans (congrArg _ (Except.error.inj h))⟩
      | ok next =>
          rw [hinsert] at h
          obtain ⟨before, n, v, after, rfl, hbefore, herror⟩ := ih h
          refine ⟨(name, value) :: before, n, v, after, rfl, ?_, herror⟩
          rw [insertAll, hinsert]
          exact hbefore

/-- A change that fails leaves the section as it was. -/
theorem changed_fst_of_error {change : Except AttributeError (Answer × Attributes)}
    {e : AttributeError} (h : (a.changed change).2 = .error e) : (a.changed change).1 = a := by
  cases change with
  | error cause => rfl
  | ok result => exact absurd h (by simp [Attributes.changed])

/-- **An operation that fails** leaves the section as it was, or the part of an update before the
header that cannot be stored. -/
theorem leftBehind_of_error {operation : Operation} {e : AttributeError}
    (h : (a.perform operation).2 = .error e) : a.LeftBehind e operation := by
  cases operation with
  | set name value => exact changed_fst_of_error h
  | delete name => exact changed_fst_of_error h
  | pop name => exact changed_fst_of_error h
  | popFirst => exact changed_fst_of_error h
  | setDefault name value => exact changed_fst_of_error h
  | copy => exact changed_fst_of_error h
  | popOr name default =>
      -- It is always answered.
      rw [Attributes.perform] at h
      split at h
      next => exact absurd h (by simp)
      next => exact absurd h (by simp)
  | update entries =>
      have hstop : (a.insertAll entries).2 = .error e := by
        rw [perform_update] at h
        cases hresult : (a.insertAll entries).2 with
        | ok _ => exact absurd h (by simp [hresult, Except.map])
        | error cause => simpa [hresult, Except.map] using h
      obtain ⟨before, name, value, after, hentries, hbefore, herror⟩ :=
        exists_of_insertAll_eq_error hstop
      refine ⟨before, name, value, after, hentries, ?_, ?_⟩
      · rw [perform_update, hbefore]
        rfl
      · rw [perform_update, Attributes.perform, herror]
        rfl
  | clear => exact absurd h (by simp [Attributes.perform])
  | get name => rfl
  | getOr name default => rfl
  | holds name => rfl
  | size => rfl
  | names => rfl

/-! ## Runs -/

/-- **A section behaves as a list of headers of different names**: whatever is asked of a section
that was empty at first, it is answered as the list does and has the headers of the list, where a
name stands for the only header that has it. An operation that fails leaves the section as it was,
or the part of an update before the header that cannot be stored. -/
theorem run_eq_run (operations : List Operation) :
    HeaderList.run [] operations
        = ((run empty operations).1.headers, (run empty operations).2)
      ∧ HeaderList.Distinct (run empty operations).1.headers
      ∧ (∀ name header, HeaderList.find? (run empty operations).1.headers name = some header
        ↔ header ∈ (run empty operations).1.headers ∧ HeaderName.same header.name name = true)
      ∧ ∀ operation e, ((run empty operations).1.perform operation).2 = .error e →
        (run empty operations).1.LeftBehind e operation := by
  obtain ⟨hkept, hrun⟩ := wellFormed_empty.run operations
  exact ⟨hrun, hkept.distinct_headers,
    fun name header => HeaderList.find?_eq_some_iff hkept.distinct_headers,
    fun operation e h => leftBehind_of_error h⟩

/-- Here an update gives a value to a name that the Kelvin sign stands for, and then to none. -/
theorem run_eq_run_kelvin :
    ((run empty [.set ['k'] (.text ['1'])]).1.perform
          (.update [(['\u212A'], .text ['2']), (['é'], .text ['3'])])).2
        = .error (.invalidName ['é'])
      ∧ (run empty [.set ['k'] (.text ['1'])]).1.LeftBehind (.invalidName ['é'])
          (.update [(['\u212A'], .text ['2']), (['é'], .text ['3'])]) := by
  have hfails : ((run empty [.set ['k'] (.text ['1'])]).1.perform
      (.update [(['\u212A'], .text ['2']), (['é'], .text ['3'])])).2
        = .error (.invalidName ['é']) := by
    have hall : ((run empty [.set ['k'] (.text ['1'])]).1.insertAll
        [(['\u212A'], .text ['2']), (['é'], .text ['3'])]).2 = .error (.invalidName ['é']) := by
      decide +kernel
    rw [perform_update, hall]
    rfl
  exact ⟨hfails, (run_eq_run _).2.2.2 _ _ hfails⟩

/-! ## Copies -/

/-- The headers of a section that come first are stored as they are, and the next one is new behind
them and passes every check. -/
theorem WellFormed.ofHeaders_next (ha : a.WellFormed) {before after : List Header}
    {header : Header} (h : a.headers = before ++ header :: after) :
    ∃ b c, ofHeaders before = .ok b ∧ b.headers = before ∧ b.contains header.name = false
      ∧ b.insert header.name header.value = .ok c ∧ c.headers = before ++ [header] := by
  obtain ⟨first, rest, hslots, rfl, hrest⟩ := List.map_eq_append_iff.1 h
  obtain ⟨slot, others, rfl, rfl, -⟩ := List.map_eq_cons_iff.1 hrest
  have hnext : WellFormed ⟨first ++ slot :: others⟩ := by
    rw [← hslots]
    exact ha
  have hfirst : WellFormed ⟨first⟩ := hnext.sublist (List.sublist_append_left first _)
  obtain ⟨hnew, hinsert⟩ := hnext.insert_next
  refine ⟨⟨first⟩, ⟨first ++ [slot]⟩, hfirst.insertHeaders_headers, rfl, ?_, hinsert, ?_⟩
  · rw [contains, hnew, Option.isSome_none]
  · rw [headers, List.map_append, List.map_singleton]

/-- **The copy of a section is the section**, whatever was asked of it before. Its headers are
stored again one by one, and none of them is refused or takes the place of another: each is new
behind those before it, and comes last with its spelling and value. -/
theorem copy_run (operations : List Operation) :
    (run empty operations).1.copy = .ok (run empty operations).1
      ∧ ∀ before header after, (run empty operations).1.headers = before ++ header :: after →
        ∃ b c, ofHeaders before = .ok b ∧ b.headers = before ∧ b.contains header.name = false
          ∧ b.insert header.name header.value = .ok c ∧ c.headers = before ++ [header] := by
  have hkept := (wellFormed_empty.run operations).1
  exact ⟨hkept.copy_eq, fun before header after h => hkept.ofHeaders_next h⟩

/-- Here the first header was given its value under the Kelvin sign, and the last one has a name
with a line feed behind it. -/
theorem copy_run_kelvin :
    (run empty [.set ['k'] (.text ['1']), .set ['a'] (.text ['2']), .set ['\u212A'] (.text ['3']),
          .set ['X', '\n'] (.text [])]).1.headers
        = [⟨['k'], ['3']⟩] ++ ⟨['a'], ['2']⟩ :: [⟨['X', '\n'], []⟩]
      ∧ ∃ b c, ofHeaders [⟨['k'], ['3']⟩] = .ok b ∧ b.headers = [⟨['k'], ['3']⟩]
        ∧ b.contains ['a'] = false ∧ b.insert ['a'] ['2'] = .ok c
        ∧ c.headers = [⟨['k'], ['3']⟩] ++ [⟨['a'], ['2']⟩] := by
  have hheaders : (run empty [.set ['k'] (.text ['1']), .set ['a'] (.text ['2']),
      .set ['\u212A'] (.text ['3']), .set ['X', '\n'] (.text [])]).1.headers
      = [⟨['k'], ['3']⟩] ++ ⟨['a'], ['2']⟩ :: [⟨['X', '\n'], []⟩] := by
    decide +kernel
  exact ⟨hheaders, (copy_run _).2 _ _ _ hheaders⟩

end Wab.Attributes
