/-
# Fallible code

A Go function that returns a value and an error is an `Except`, written in `do` notation with
two helpers for the two shapes an early return takes:

    if bad { return err }                    check bad err
    x, ok := f(); if !ok { return err }      let x ← orError f err

The lemmas invert a run that returned normally, one statement of the block at a time; the rules of
`FailsIn` say which errors a block can return.
-/
import Mathlib.Logic.Basic

namespace ReCasaOS.Lib

variable {ε α β : Type}
variable {x : Except ε α} {f : Unit → Except ε β}

/-- `if bad { return err }`. -/
def check (bad : Prop) [Decidable bad] (err : ε) : Except ε Unit :=
  if bad then .error err else .ok ()

/-- A missing value is the error `err`. -/
def orError (x : Option α) (err : ε) : Except ε α :=
  match x with
  | some a => .ok a
  | none => .error err

lemma bind_eq_ok {f : α → Except ε β} {b : β} :
    (x >>= f) = .ok b ↔ ∃ a, x = .ok a ∧ f a = .ok b := by
  cases x with
  | error e => simp [bind, Except.bind]
  | ok a => simp [bind, Except.bind]

/-- Two continuations that agree on what a computation returns. -/
lemma bind_congr_ok {f g : α → Except ε β} (h : ∀ a, x = .ok a → f a = g a) :
    (x >>= f) = (x >>= g) := by
  cases x with
  | error e => rfl
  | ok a => exact h a rfl

lemma ok_bind (a : α) (f : α → Except ε β) : ((.ok a : Except ε α) >>= f) = f a := rfl

lemma ok_of_toOption {a : α} (h : x.toOption = some a) : x = .ok a := by
  cases x with
  | ok b => exact congrArg Except.ok (Option.some.inj h)
  | error err => cases h

variable {err : ε}
variable {bad : Prop}

@[simp] lemma check_eq_ok [Decidable bad] {u : Unit} : check bad err = .ok u ↔ ¬ bad := by
  unfold check
  split <;> simp_all

@[simp] lemma orError_eq_ok {x : Option α} {a : α} : orError x err = .ok a ↔ x = some a := by
  cases x <;> simp [orError]

@[simp] lemma pure_eq_ok {a b : α} : (pure a : Except ε α) = .ok b ↔ a = b := by
  simp [pure, Except.pure]

@[simp] lemma mapError_ok {ε' : Type} (a : α) (f : ε → ε') :
    (.ok a : Except ε α).mapError f = .ok a := rfl

@[simp] lemma mapError_eq_ok {ε' : Type} {f : ε → ε'} {a : α} :
    x.mapError f = .ok a ↔ x = .ok a := by
  cases x with
  | error e => exact iff_of_false (fun h => by cases h) (fun h => by cases h)
  | ok b => rw [mapError_ok, Except.ok.injEq, Except.ok.injEq]

/-- A guard in front of a computation that returned normally. -/
lemma check_bind_eq_ok [Decidable bad] {b : β} :
    (check bad err >>= f) = .ok b ↔ ¬ bad ∧ f () = .ok b := by
  rw [bind_eq_ok]
  constructor
  · rintro ⟨⟨⟩, hg, hf⟩
    exact ⟨check_eq_ok.mp hg, hf⟩
  · rintro ⟨hg, hf⟩
    exact ⟨(), check_eq_ok.mpr hg, hf⟩

lemma check_bind_of_not [Decidable bad] (h : ¬ bad) : (check bad err >>= f) = f () := by
  rw [check, if_neg h]
  rfl

/-! ## The one error of a computation

Most parsers report every failure by the same error, so a run that returns no value is known. -/

/-- Whenever the computation fails, it fails with `err`. -/
def FailsWith (x : Except ε α) (err : ε) : Prop := ∀ e, x = .error e → e = err

lemma FailsWith.pure (a : α) (err : ε) : FailsWith (Pure.pure a : Except ε α) err := by
  intro e h
  cases h

lemma FailsWith.check_bind [Decidable bad] (h : FailsWith (f ()) err) :
    FailsWith (check bad err >>= f) err := by
  by_cases hbad : bad
  · intro e he
    rw [check, if_pos hbad] at he
    cases he
    rfl
  · rwa [check_bind_of_not hbad]

/-- A computation that does not return a value fails with its error. -/
lemma FailsWith.eq_error (h : FailsWith x err) (hno : ∀ a, x ≠ .ok a) : x = .error err := by
  cases x with
  | ok a => exact absurd rfl (hno a)
  | error e => rw [h e rfl]

/-! ## The errors a computation can return -/

/-- Every error the computation returns satisfies `P`. -/
def FailsIn (P : ε → Prop) (x : Except ε α) : Prop := ∀ e, x = .error e → P e

section

variable {P : ε → Prop}

lemma FailsIn.pure (a : α) : FailsIn P (Pure.pure a : Except ε α) := by
  intro e h
  cases h

lemma FailsIn.error {e : ε} (h : P e) : FailsIn P (.error e : Except ε α) := by
  rintro _ ⟨⟩
  exact h

lemma FailsIn.bind {x : Except ε α} {f : α → Except ε β} (hx : FailsIn P x)
    (hf : ∀ a, FailsIn P (f a)) : FailsIn P (x >>= f) := by
  cases x with
  | error e => exact FailsIn.error (hx e rfl)
  | ok a => exact hf a

lemma FailsIn.check {bad : Prop} [Decidable bad] {err : ε} (h : P err) :
    FailsIn P (check bad err) := by
  intro e he
  unfold Lib.check at he
  split at he
  · cases he
    exact h
  · cases he

lemma FailsIn.orError {x : Option α} {err : ε} (h : P err) : FailsIn P (orError x err) := by
  cases x with
  | none => exact FailsIn.error h
  | some a => exact FailsIn.pure a

lemma FailsIn.mapError {ε' : Type} {x : Except ε' α} {f : ε' → ε} (h : ∀ e, P (f e)) :
    FailsIn P (x.mapError f) := by
  cases x with
  | error e => exact FailsIn.error (h e)
  | ok a => exact FailsIn.pure a

lemma FailsIn.map {x : Except ε α} {f : α → β} (h : FailsIn P x) : FailsIn P (x.map f) := by
  cases x with
  | error e => exact FailsIn.error (h e rfl)
  | ok a => exact FailsIn.pure (f a)

end

end ReCasaOS.Lib
