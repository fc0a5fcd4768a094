/-
# Errors that wrap errors

A Go error may wrap another one (`Unwrap() error`) or several (`Unwrap() []error`), either of
which may be nil. Error values are shared and can be made cyclic, so the errors behind one error
are a graph. Two measures of its unfolding into a tree are used by code that walks it: how deep
it goes, and how many errors it has when an error is counted once for every way to reach it.
-/
import Mathlib

namespace ReCasaOS.Lib

open List

/-- What the `Unwrap` method of an error returns, if it has one. -/
inductive Unwrapped (ν : Type)
  | leaf
  | one (err : Option ν)
  | many (errs : List (Option ν))

def Unwrapped.errors {ν : Type} : Unwrapped ν → List (Option ν)
  | leaf => []
  | one err => [err]
  | many errs => errs

/-- A type of error values. -/
structure ErrorGraph (ν : Type) where
  unwrap : ν → Unwrapped ν

namespace ErrorGraph

variable {ν : Type} (g : ErrorGraph ν)

/-- `n` wraps `m` directly. -/
def Wraps (n m : ν) : Prop := some m ∈ (g.unwrap n).errors

/-- `m` is `n` or behind it. -/
abbrev Contains (n m : ν) : Prop := Relation.ReflTransGen g.Wraps n m

/-- No chain of wrapped errors below `n` has more than `depth` links. -/
def FitsDepth : Nat → ν → Prop
  | 0, n => ∀ m, ¬ g.Wraps n m
  | depth + 1, n => ∀ m, g.Wraps n m → FitsDepth depth m

/-- The number of errors in the unfolding of `n`, down to `depth`. -/
def size : Nat → ν → Nat
  | 0, _ => 1
  | depth + 1, n => 1 + ((g.unwrap n).errors.map fun err => err.elim 0 (size depth)).sum

/-- No error behind `n` wraps nil. -/
def NoNil (n : ν) : Prop := ∀ m, g.Contains n m → none ∉ (g.unwrap m).errors

variable {g}

lemma one_le_size (depth : Nat) (n : ν) : 1 ≤ g.size depth n := by
  cases depth with
  | zero => exact le_refl 1
  | succ depth => exact Nat.le_add_right 1 _

variable {depth : Nat}
variable {n : ν}

/-- The wrapped errors of an error that fits a depth fit one level less. -/
lemma FitsDepth.wrapped {m : ν} (h : g.FitsDepth depth n) (hm : g.Wraps n m) :
    1 ≤ depth ∧ g.FitsDepth (depth - 1) m := by
  cases depth with
  | zero => exact absurd hm (h m)
  | succ depth => exact ⟨Nat.le_add_left 1 depth, h m hm⟩

/-- The size of an error that fits the depth is made up of the sizes of what it wraps. -/
lemma size_eq (h : g.FitsDepth depth n) : g.size depth n
      = 1 + ((g.unwrap n).errors.map fun err => err.elim 0 (g.size (depth - 1))).sum := by
  cases depth with
  | succ depth => rfl
  | zero =>
    have hz : ∀ errs : List (Option ν), (∀ m, some m ∉ errs) →
        (errs.map fun err => err.elim 0 (g.size 0)).sum = 0 := by
      intro errs herrs
      induction errs with
      | nil => rfl
      | cons err errs ih =>
        obtain rfl : err = none := by
          cases err with
          | none => rfl
          | some m => exact absurd (.head _) (herrs m)
        rw [map_cons, sum_cons, ih fun m hm => herrs m (mem_cons_of_mem _ hm)]
        rfl
    rw [hz _ h]
    rfl

lemma FitsDepth.succ (h : g.FitsDepth depth n) : g.FitsDepth (depth + 1) n := by
  induction depth generalizing n with
  | zero => exact fun m hm => absurd hm (h m)
  | succ depth ih => exact fun m hm => ih (h m hm)

/-- A level more than an error needs adds nothing to its size. -/
lemma size_succ (h : g.FitsDepth depth n) : g.size (depth + 1) n = g.size depth n := by
  induction depth generalizing n with
  | zero => rw [size_eq h.succ, size_eq h]
  | succ depth ih =>
    rw [size, size]
    congr 2
    refine map_congr_left fun err herr => ?_
    cases err with
    | none => rfl
    | some m => exact ih (h m herr)

lemma fits_of_le {few many : Nat} (hle : few ≤ many) (h : g.FitsDepth few n) :
    g.FitsDepth many n ∧ g.size many n = g.size few n := by
  induction hle with
  | refl => exact ⟨h, rfl⟩
  | step _ ih => exact ⟨ih.1.succ, (size_succ ih.1).trans ih.2⟩

lemma size_lt_of_wraps {m : ν} (h : g.Wraps n m) : g.size depth m < g.size (depth + 1) n := by
  have hmem : g.size depth m ∈ (g.unwrap n).errors.map fun err => err.elim 0 (g.size depth) :=
    mem_map.mpr ⟨some m, h, rfl⟩
  have hle := single_le_sum (fun _ _ => Nat.zero_le _) _ hmem
  rw [size]
  omega

end ErrorGraph

end ReCasaOS.Lib
