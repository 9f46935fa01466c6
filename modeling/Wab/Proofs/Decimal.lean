import Wab.Proofs.Attributes
import Wab.Proofs.Utf8

/-! # Decimal forms

A number is known by its decimal form, and the form can be stored as a part of a value.

* **`Text.ofNat_injective`**, **`Text.ofInt_injective`** — different numbers have different forms.
* **`Text.unbroken_ofInt`**, **`Text.surrogate?_ofInt`** — a decimal form breaks no line and can be
  written. -/

namespace Wab.Text

/-- The decimal form of a natural number is the text of its digits. -/
theorem ofNat_eq (n : Nat) : ofNat n = (Nat.toDigits 10 n).map .scalar := by
  rw [ofNat, of, Nat.toString_eq_repr, Nat.toList_repr]

/-- A natural number is known by its decimal form. -/
theorem ofNat_injective : Function.Injective ofNat := by
  intro m n h
  have hdigits : Nat.toDigits 10 m = Nat.toDigits 10 n := by
    rw [ofNat_eq, ofNat_eq] at h
    exact (List.map_inj_right fun _ _ => CodePoint.scalar.inj).1 h
  calc m = Nat.ofDigitChars 10 (Nat.toDigits 10 m) 0 := Nat.ofDigitChars_ten_toDigits.symm
    _ = Nat.ofDigitChars 10 (Nat.toDigits 10 n) 0 := by rw [hdigits]
    _ = n := Nat.ofDigitChars_ten_toDigits

/-- The decimal form of a natural number consists of digits. -/
theorem isDigit_of_mem_ofNat {n : Nat} {c : CodePoint} (h : c ∈ ofNat n) : c.isDigit = true := by
  rw [ofNat_eq, List.mem_map] at h
  obtain ⟨digit, hdigit, rfl⟩ := h
  exact Nat.isDigit_of_mem_toDigits (by omega) (by omega) hdigit

/-- No decimal form of a natural number begins with a minus sign. -/
theorem hyphen_not_mem_ofNat (n : Nat) : .scalar '-' ∉ ofNat n := fun hmem =>
  absurd (isDigit_of_mem_ofNat hmem) (by decide)

/-- A decimal form can be stored as a part of a value. -/
theorem unbroken_ofInt (n : Int) : (ofInt n).any Attributes.isBreaking = false := by
  have hdigits : ∀ i : Nat, (ofNat i).any Attributes.isBreaking = false := by
    intro i
    rw [List.any_eq_false]
    intro c hc hbreaking
    have hdigit := isDigit_of_mem_ofNat hc
    rcases Attributes.isBreaking_iff.1 hbreaking with rfl | rfl | rfl <;>
      exact absurd hdigit (by decide)
  cases n with
  | ofNat i => exact hdigits i
  | negSucc i =>
      rw [ofInt, List.any_cons, hdigits]
      rfl

/-- There is no surrogate in a decimal form. -/
theorem surrogate?_ofInt (n : Int) : surrogate? (ofInt n) = none := by
  rw [surrogate?_eq_none_iff]
  cases n with
  | ofNat i => exact ⟨_, ofNat_eq i⟩
  | negSucc i =>
      refine ⟨'-' :: Nat.toDigits 10 (i + 1), ?_⟩
      rw [ofInt, ofNat_eq, List.map_cons]

/-- **An integer is known by its decimal form.** -/
theorem ofInt_injective : Function.Injective ofInt := by
  intro m n h
  have hsign : ∀ i j : Nat, ofNat i ≠ .scalar '-' :: ofNat j := by
    intro i j hij
    exact hyphen_not_mem_ofNat i (hij ▸ List.mem_cons_self)
  cases m with
  | ofNat i =>
      cases n with
      | ofNat j => exact congrArg Int.ofNat (ofNat_injective h)
      | negSucc j => exact absurd h (hsign i (j + 1))
  | negSucc i =>
      cases n with
      | ofNat j => exact absurd h.symm (hsign j (i + 1))
      | negSucc j =>
          have hsucc := ofNat_injective (List.cons.inj h).2
          rw [Nat.succ.inj hsucc]

end Wab.Text
