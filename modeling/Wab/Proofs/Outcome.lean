import Wab.Log

/-! # Taking computations apart

A sequence of computations succeeds if and only if each of them does, so that a result can be traced
back through the steps that led to it. If one fails, it is the first that does so that counts.

* **`failure?`**, **`outcome`** — the failure of a result, and the result of a failure.
* **`failure?_mapM`** — a traversal fails as the first item that fails.
* **`foldlM_eq_outcome`** — a fold fails as the first item that fails, if the items alone decide.
* **`foldlM_eq_error_iff`**, **`mapM_eq_error_iff`** — where a fold or a traversal fails.
* **`Agree`** — two results that are the same failure or related values. -/

namespace Wab

variable {ε ε' α β : Type}

/-- A value is passed on to what follows. -/
@[simp] theorem ok_bind (a : α) (f : α → Except ε β) : (Except.ok a >>= f) = f a := rfl

/-- After an error nothing follows. -/
@[simp] theorem error_bind (e : ε) (f : α → Except ε β) :
    ((Except.error e : Except ε α) >>= f) = .error e := rfl

@[simp] theorem pure_eq_ok (a : α) : (pure a : Except ε α) = .ok a := rfl

/-- A sequence succeeds if and only if both computations do. -/
theorem bind_eq_ok {x : Except ε α} {f : α → Except ε β} {b : β} :
    (x >>= f) = .ok b ↔ ∃ a, x = .ok a ∧ f a = .ok b := by
  cases x with
  | error e => simp
  | ok a => simp

/-- A sequence fails if and only if the first computation does, or the one that follows it. -/
theorem bind_eq_error {x : Except ε α} {f : α → Except ε β} {e : ε} :
    (x >>= f) = .error e ↔ x = .error e ∨ ∃ a, x = .ok a ∧ f a = .error e := by
  cases x with
  | error cause => simp
  | ok a => simp

@[simp] theorem mapError_ok (f : ε → ε') (a : α) :
    (Except.ok a : Except ε α).mapError f = .ok a := rfl

@[simp] theorem mapError_error (f : ε → ε') (e : ε) :
    (Except.error e : Except ε α).mapError f = .error (f e) := rfl

/-- Putting a failure into other words does not touch success. -/
theorem mapError_eq_ok {x : Except ε α} {f : ε → ε'} {a : α} :
    x.mapError f = .ok a ↔ x = .ok a := by
  cases x with
  | error e => simp
  | ok a => simp

/-- A failure that was put into other words was one before. -/
theorem mapError_eq_error {x : Except ε α} {f : ε → ε'} {e : ε'} :
    x.mapError f = .error e ↔ ∃ cause, x = .error cause ∧ f cause = e := by
  cases x with
  | error cause => simp
  | ok a => simp

/-- A failure is put into other words twice, or once into the last words. -/
theorem mapError_mapError {ε'' : Type} (x : Except ε α) (f : ε → ε') (g : ε' → ε'') :
    (x.mapError f).mapError g = x.mapError fun e => g (f e) := by
  cases x with
  | error e => rfl
  | ok a => rfl

/-- A failure of a sequence is put into other words where it arises. -/
theorem mapError_bind (x : Except ε α) (f : α → Except ε β) (g : ε → ε') :
    (x >>= f).mapError g = (x.mapError g >>= fun a => (f a).mapError g) := by
  cases x with
  | error e => rfl
  | ok a => rfl

/-- A failure of a fold is put into other words where it arises. -/
theorem mapError_foldlM (f : β → α → Except ε β) (g : ε → ε') (xs : List α) (b : β) :
    (xs.foldlM f b).mapError g = xs.foldlM (fun b x => (f b x).mapError g) b := by
  induction xs generalizing b with
  | nil => rfl
  | cons x xs ih =>
      rw [List.foldlM_cons, List.foldlM_cons, mapError_bind]
      simp only [ih]

/-! ## First failures -/

/-- The failure of a result that is none. -/
def failure? : Except ε α → Option ε
  | .ok _ => none
  | .error e => some e

/-- The value, unless there is a failure. -/
def outcome (failure : Option ε) (a : α) : Except ε α :=
  match failure with
  | none => .ok a
  | some e => .error e

@[simp] theorem outcome_none (a : α) : outcome (none : Option ε) a = .ok a := rfl

@[simp] theorem outcome_some (e : ε) (a : α) : outcome (some e) a = .error e := rfl

theorem failure?_eq_some_iff {x : Except ε α} {e : ε} : failure? x = some e ↔ x = .error e := by
  cases x with
  | error cause => simp [failure?]
  | ok a => simp [failure?]

theorem failure?_eq_none_iff {x : Except ε α} : failure? x = none ↔ ∃ a, x = .ok a := by
  cases x with
  | error cause => simp [failure?]
  | ok a => simp [failure?]

/-- **A traversal fails as the first item that fails.** -/
theorem failure?_mapM (f : α → Except ε β) (xs : List α) :
    failure? (xs.mapM f) = xs.findSome? fun x => failure? (f x) := by
  induction xs with
  | nil => rfl
  | cons x xs ih =>
      rw [List.mapM_cons, List.findSome?_cons, ← ih]
      cases f x with
      | error e => rfl
      | ok y =>
          cases xs.mapM f with
          | error e => rfl
          | ok ys => rfl

/-- A traversal has the values of all items, unless one fails. -/
theorem mapM_eq_outcome {f : α → Except ε β} {failed : α → Option ε} {g : α → β}
    (h : ∀ x, f x = outcome (failed x) (g x)) (xs : List α) :
    xs.mapM f = outcome (xs.findSome? failed) (xs.map g) := by
  induction xs with
  | nil => rfl
  | cons x xs ih =>
      rw [List.mapM_cons, h, ih, List.findSome?_cons]
      cases failed x with
      | some e => rfl
      | none => cases xs.findSome? failed <;> rfl

/-- A traversal succeeds with the value of each item. -/
theorem mapM_eq_ok {f : α → Except ε β} {g : α → β} {xs : List α} (h : ∀ x ∈ xs, f x = .ok (g x)) :
    xs.mapM f = .ok (xs.map g) := by
  induction xs with
  | nil => rfl
  | cons x xs ih =>
      have hrest := ih fun y hy => h y (List.mem_cons_of_mem _ hy)
      rw [List.mapM_cons, h x List.mem_cons_self, hrest]
      rfl

/-- **A fold fails as the first item that fails**, if it does not depend on what came before whether
an item fails. -/
theorem foldlM_eq_outcome {f : β → α → Except ε β} {failed : α → Option ε} {g : β → α → β}
    {xs : List α} (h : ∀ x ∈ xs, ∀ b, f b x = outcome (failed x) (g b x)) (b : β) :
    xs.foldlM f b = outcome (xs.findSome? failed) (xs.foldl g b) := by
  induction xs generalizing b with
  | nil => rfl
  | cons x xs ih =>
      rw [List.foldlM_cons, h x List.mem_cons_self, List.findSome?_cons, List.foldl_cons]
      cases failed x with
      | some e => rfl
      | none => exact ih (fun y hy => h y (List.mem_cons_of_mem _ hy)) (g b x)

/-- Folds are equal if each item is taken up alike. -/
theorem foldlM_congr {f g : β → α → Except ε β} {xs : List α} (h : ∀ x ∈ xs, ∀ b, f b x = g b x)
    (b : β) : xs.foldlM f b = xs.foldlM g b := by
  induction xs generalizing b with
  | nil => rfl
  | cons x xs ih =>
      rw [List.foldlM_cons, List.foldlM_cons, h x List.mem_cons_self]
      exact bind_congr (ih fun y hy => h y (List.mem_cons_of_mem _ hy))

/-- **A fold fails** if and only if an item fails on what the items before it lead to. -/
theorem foldlM_eq_error_iff {f : β → α → Except ε β} {xs : List α} {b : β} {e : ε} :
    xs.foldlM f b = .error e
      ↔ ∃ before x after c, xs = before ++ x :: after ∧ before.foldlM f b = .ok c
        ∧ f c x = .error e := by
  constructor
  · intro h
    induction xs generalizing b with
    | nil => exact absurd h (by simp)
    | cons x xs ih =>
        rw [List.foldlM_cons] at h
        rcases bind_eq_error.1 h with hx | ⟨c, hx, hrest⟩
        · exact ⟨[], x, xs, b, rfl, rfl, hx⟩
        · obtain ⟨before, y, after, d, rfl, hbefore, hy⟩ := ih hrest
          refine ⟨x :: before, y, after, d, rfl, ?_, hy⟩
          rw [List.foldlM_cons, hx, ok_bind, hbefore]
  · rintro ⟨before, x, after, c, rfl, hbefore, hx⟩
    rw [List.foldlM_append, hbefore, ok_bind, List.foldlM_cons, hx, error_bind]

/-- A traversal fails if and only if an item fails and those before it do not. -/
theorem mapM_eq_error_iff {f : α → Except ε β} {xs : List α} {e : ε} :
    xs.mapM f = .error e
      ↔ ∃ before x after ys, xs = before ++ x :: after ∧ before.mapM f = .ok ys
        ∧ f x = .error e := by
  constructor
  · intro h
    induction xs with
    | nil => exact absurd h (by simp)
    | cons x xs ih =>
        rw [List.mapM_cons] at h
        rcases bind_eq_error.1 h with hx | ⟨y, hx, hrest⟩
        · exact ⟨[], x, xs, [], rfl, rfl, hx⟩
        · rcases bind_eq_error.1 hrest with hxs | ⟨ys, -, hys⟩
          · obtain ⟨before, z, after, ys, rfl, hbefore, hz⟩ := ih hxs
            refine ⟨x :: before, z, after, y :: ys, rfl, ?_, hz⟩
            rw [List.mapM_cons, hx, ok_bind, hbefore]
            rfl
          · exact absurd hys (by simp)
  · rintro ⟨before, x, after, ys, rfl, hbefore, hx⟩
    rw [List.mapM_append, hbefore, ok_bind, List.mapM_cons, hx, error_bind, error_bind]

/-! ## Two results -/

/-- Two results agree: they are the same failure, or values that are related. -/
inductive Agree (R : α → β → Prop) : Except ε α → Except ε β → Prop where
  /-- The same failure. -/
  | error (e : ε) : Agree R (.error e) (.error e)
  /-- Values that are related. -/
  | ok {a : α} {b : β} (h : R a b) : Agree R (.ok a) (.ok b)

namespace Agree

variable {γ δ : Type} {R : α → β → Prop} {S : γ → δ → Prop}

/-- A result agrees with itself if every value is related to itself. -/
theorem refl {R : α → α → Prop} (h : ∀ a, R a a) (x : Except ε α) : Agree R x x := by
  cases x with
  | error e => exact .error e
  | ok a => exact .ok (h a)

/-- Results that agree in equal values are equal. -/
theorem eq {x y : Except ε α} (h : Agree Eq x y) : x = y := by
  cases h with
  | error e => rfl
  | ok hab => rw [hab]

/-- **Sequences agree** if the first computations do and related values are passed on to
computations that do. -/
theorem bind {x : Except ε α} {y : Except ε β} (h : Agree R x y) {f : α → Except ε γ}
    {g : β → Except ε δ} (hfg : ∀ a b, R a b → Agree S (f a) (g b)) :
    Agree S (x >>= f) (y >>= g) := by
  cases h with
  | error e => exact .error e
  | ok hab => exact hfg _ _ hab

/-- Results that agree do so in other words. -/
theorem mapError {x : Except ε α} {y : Except ε β} (h : Agree R x y) (f : ε → ε') :
    Agree R (x.mapError f) (y.mapError f) := by
  cases h with
  | error e => exact .error (f e)
  | ok hab => exact .ok hab

/-- **Folds agree** if related values stay related, or fail alike, with each item. -/
theorem foldlM {xs : List δ} {f : α → δ → Except ε α} {g : β → δ → Except ε β}
    (hfg : ∀ x a b, R a b → Agree R (f a x) (g b x)) {a : α} {b : β} (h : R a b) :
    Agree R (xs.foldlM f a) (xs.foldlM g b) := by
  induction xs generalizing a b with
  | nil => exact .ok h
  | cons x xs ih =>
      rw [List.foldlM_cons, List.foldlM_cons]
      exact (hfg x a b h).bind fun _ _ hnext => ih hnext

end Agree

/-- A result of which something is known is there. -/
theorem exists_ok_of_toOption {e : Except ε α} {f : α → β} {b : β}
    (h : e.toOption.map f = some b) : ∃ a, e = .ok a ∧ f a = b := by
  cases e with
  | error _ => exact absurd h (by simp [Except.toOption])
  | ok a => exact ⟨a, rfl, Option.some.inj h⟩

end Wab
