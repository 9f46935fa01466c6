/-!
# Reports along the way

A computation of this library that has something to report carries its log lines beside its result:
what was reported before an error stays reported. The result of a composed computation is the
composition of the results, whatever was logged, so that a statement about results can leave the log
aside.

* **`Log.Level`**, **`Log.Entry`**: a log line and its weight.
* **`Traced ε α`**: a computation that logs and gives an `α` or fails with an `ε`.
* **`Traced.result_bind`**: the result of a sequence is the sequence of the results.
-/

namespace Wab

namespace Log

/-- The weight of a log line. -/
inductive Level where
  | debug
  | info
  | warning
  deriving DecidableEq, Repr

/-- The weights in order. -/
def Level.rank : Level → Nat
  | debug => 0
  | info => 1
  | warning => 2

/-- The weight as it is written. -/
def Level.name : Level → String
  | debug => "DEBUG"
  | info => "INFO"
  | warning => "WARNING"

/-- The weight with a name. -/
def Level.ofName? (name : String) : Option Level :=
  [Level.debug, .info, .warning].find? fun level => level.name == name

/-- A log line. -/
structure Entry where
  /-- Its weight. -/
  level : Level
  /-- Its text. -/
  message : String
  deriving DecidableEq, Repr

/-- The lines of at least a given weight. -/
def atLeast (level : Level) (entries : List Entry) : List Entry :=
  entries.filter fun entry => level.rank ≤ entry.level.rank

end Log

/-- A computation that logs and then gives a value or fails. -/
structure Traced (ε α : Type) where
  /-- The lines logged, in order. -/
  log : List Log.Entry
  /-- What came out. -/
  result : Except ε α

namespace Traced

variable {ε α β : Type}

/-- Only a result. -/
def ofExcept (result : Except ε α) : Traced ε α := ⟨[], result⟩

/-- Only a log line. -/
def say (level : Log.Level) (message : String) : Traced ε Unit := ⟨[⟨level, message⟩], .ok ()⟩

/-- One computation after another, which does not start if the first one fails. -/
def bind (x : Traced ε α) (f : α → Traced ε β) : Traced ε β :=
  match x.result with
  | .ok a => ⟨x.log ++ (f a).log, (f a).result⟩
  | .error e => ⟨x.log, .error e⟩

instance : Monad (Traced ε) where
  pure a := ofExcept (.ok a)
  bind := bind

/-- The computation with its failure put into other words. -/
def mapError {ε' : Type} (f : ε → ε') (x : Traced ε α) : Traced ε' α :=
  ⟨x.log, x.result.mapError f⟩

/-- The computation with its failure as part of its value. -/
def attempt {ε' : Type} (x : Traced ε α) : Traced ε' (Except ε α) := ⟨x.log, .ok x.result⟩

/-! ## Readings -/

@[simp] theorem result_pure (a : α) : (pure a : Traced ε α).result = .ok a := rfl

@[simp] theorem result_ofExcept (r : Except ε α) : (ofExcept r).result = r := rfl

@[simp] theorem result_say (level : Log.Level) (message : String) :
    (say level message : Traced ε Unit).result = .ok () := rfl

@[simp] theorem result_mapError {ε' : Type} (f : ε → ε') (x : Traced ε α) :
    (x.mapError f).result = x.result.mapError f := rfl

@[simp] theorem result_attempt {ε' : Type} (x : Traced ε α) :
    (x.attempt : Traced ε' (Except ε α)).result = .ok x.result := rfl

/-- The result of a sequence is the sequence of the results. -/
@[simp] theorem result_bind (x : Traced ε α) (f : α → Traced ε β) :
    (x >>= f).result = x.result >>= fun a => (f a).result := by
  show (bind x f).result = _
  unfold bind
  cases h : x.result <;> rfl

/-- The result of a fold is the fold of the results. -/
theorem result_foldlM (f : β → α → Traced ε β) (b : β) (xs : List α) :
    (xs.foldlM f b).result = xs.foldlM (fun b a => (f b a).result) b := by
  induction xs generalizing b with
  | nil => rfl
  | cons x xs ih =>
    simp only [List.foldlM_cons, result_bind]
    cases h : (f b x).result with
    | error e => rfl
    | ok b' => exact ih b'

/-- Reports over a list do not fail. -/
theorem result_forM_say (level : Log.Level) (message : α → String) (xs : List α) :
    (xs.forM fun x => (say level (message x) : Traced ε Unit)).result = .ok () := by
  induction xs with
  | nil => rfl
  | cons x xs ih =>
    simp only [List.forM_eq_forM, List.forM_cons, result_bind, result_say] at ih ⊢
    exact ih

end Traced

end Wab
