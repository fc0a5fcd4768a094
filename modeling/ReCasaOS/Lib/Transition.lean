/-
# Transition systems

A system is a step relation on a type of states; a run is a chain of steps. The file has the
one rule every safety proof above it uses: what holds at the start and is kept by every step
holds at the end of every run.

Many systems are a list of components with some shared state, where a step replaces one
component. A shared counter then counts the components in some condition, and `countP_set` says
how the count moves with the component that was replaced.
-/
import Mathlib

namespace ReCasaOS.Lib

open List Option

/-- `t` is the end of a run that starts in `s`. -/
abbrev Reaches {σ : Type} (step : σ → σ → Prop) (s t : σ) : Prop := Relation.ReflTransGen step s t

/-- **The invariant rule.** -/
theorem Reaches.invariant {σ : Type} {step : σ → σ → Prop} {inv : σ → Prop} {s t : σ}
    (hrun : Reaches step s t) (hsrt : inv s) (hst : ∀ u v, inv u → step u v → inv v) :
    inv t := by
  induction hrun with
  | refl => exact hsrt
  | tail _ hla ih => exact hst _ _ ih hla

section

variable {α : Type}

/-- Replacing one component moves a count by that component alone. -/
lemma countP_set {p : α → Bool} {b : α} : ∀ {l : List α} {i : Nat} {a : α}, l[i]? = some a →
      (l.set i b).countP p + (p a).toNat = l.countP p + (p b).toNat
  | [], _, _, h => by simp at h
  | x :: l, 0, a, h => by
    obtain rfl : x = a := by simpa using h
    rw [set_cons_zero, countP_cons, countP_cons]
    cases p x <;> cases p b <;> simp
  | x :: l, i + 1, a, h => by
    have ih := countP_set (p := p) (b := b) (l := l) (i := i) (a := a) (by simpa using h)
    rw [set_cons_succ, countP_cons, countP_cons]
    omega

/-- Replacing one component moves a sum by that component alone. -/
lemma sum_map_set {f : α → Nat} {b : α} : ∀ {l : List α} {i : Nat} {a : α}, l[i]? = some a →
      ((l.set i b).map f).sum + f a = (l.map f).sum + f b
  | [], _, _, h => by simp at h
  | x :: l, 0, a, h => by
    obtain rfl : x = a := by simpa using h
    rw [set_cons_zero, map_cons, map_cons, sum_cons, sum_cons]
    omega
  | x :: l, i + 1, a, h => by
    have ih := sum_map_set (f := f) (b := b) (l := l) (i := i) (a := a) (by simpa using h)
    rw [set_cons_succ, map_cons, map_cons, sum_cons, sum_cons]
    omega

variable {l : List α}

lemma le_sum_map {f : α → Nat} {i : Nat} {a : α} (h : l[i]? = some a) : f a ≤ (l.map f).sum :=
  single_le_sum (by simp) _ (List.mem_map_of_mem (mem_of_getElem? h))

/-- After a replacement, a component is the new one at its place or an old one elsewhere. -/
lemma getElem?_set_cases {i j : Nat} {b c : α} (h : (l.set i b)[j]? = some c) :
    (j = i ∧ c = b) ∨ (j ≠ i ∧ l[j]? = some c) := by
  grind

/-- A count is at most the sum of two counts that cover it. -/
lemma countP_le_add {p q r : α → Bool} : ∀ {l : List α}, (∀ a ∈ l, p a → q a ∨ r a) →
      l.countP p ≤ l.countP q + l.countP r
  | [], _ => by simp
  | x :: l, h => by
    have ih := countP_le_add fun a ha => h a (.tail _ ha)
    grind

/-- What holds of every component and of the one put in holds of every component after. -/
lemma forall_mem_set {q : α → Prop} {i : Nat} {b : α} (hl : ∀ a ∈ l, q a)
    (hb : q b) : ∀ a ∈ l.set i b, q a := by
  intro a ha
  rcases mem_or_eq_of_mem_set ha with ha | rfl
  · exact hl a ha
  · exact hb

end

/-! ## A mutex

The components of a system are tasks, and some of them are inside a section. The mutex knows the
position of the task that holds it. -/

section

variable {α : Type} {holds : α → Bool} {mu mu' : Option Nat} {l : List α} {i : Nat} {a b : α}

/-- The task that holds the mutex is the one that is inside the section. -/
def MutexHeld (holds : α → Bool) (mu : Option Nat) (l : List α) : Prop :=
  ∀ i, mu = some i ↔ ∃ a, l[i]? = some a ∧ holds a

/-- The step of task `i` takes the mutex only for itself and gives only its own away. -/
structure MutexStep (holds : α → Bool) (i : Nat) (mu : Option Nat) (mu' : Option Nat) (b : α) :
    Prop where
  own : holds b = true ↔ mu' = some i
  others : ∀ j, j ≠ i → (mu' = some j ↔ mu = some j)

lemma MutexStep.keep (hlock : holds a ↔ mu = some i) (h : holds b = holds a) :
    MutexStep holds i mu mu b :=
  ⟨by rw [h, hlock], fun _ _ => Iff.rfl⟩

lemma MutexStep.take (hb : holds b) (hfe : mu = none) : MutexStep holds i mu (some i) b := by
  refine ⟨iff_of_true hb rfl, fun j hji => ?_⟩
  rw [hfe]
  exact iff_of_false (fun h => hji (some.inj h).symm) (some_ne_none j ∘ Eq.symm)

lemma MutexStep.give (hb : holds b = false) (hheld : mu = some i) :
    MutexStep holds i mu none b := by
  refine ⟨?_, fun j hji => ?_⟩
  · rw [hb]
    exact iff_of_false Bool.false_ne_true (some_ne_none i ∘ Eq.symm)
  · rw [hheld]
    exact iff_of_false (some_ne_none j ∘ Eq.symm) fun h => hji (some.inj h).symm

lemma mutexHeld_nil (holds : α → Bool) : MutexHeld holds none [] := by
  intro i
  simp

lemma MutexHeld.holder (h : MutexHeld holds mu l) (ha : l[i]? = some a) :
    holds a ↔ mu = some i := by
  rw [h i]
  constructor
  · intro hholds
    exact ⟨a, ha, hholds⟩
  · rintro ⟨c, hc, hholds⟩
    obtain rfl := some.inj (ha.symm.trans hc)
    exact hholds

/-- **While one task is inside, no other is.** -/
theorem MutexHeld.exclusive (h : MutexHeld holds mu l) (ha : l[i]? = some a) {j : Nat}
    (hb : l[j]? = some b) (hij : j ≠ i) (hholds : holds b) : holds a = false := by
  rw [← Bool.not_eq_true, h.holder ha, (h.holder hb).mp hholds]
  intro hji
  exact hij (some.inj hji)

/-- A mutex that is free after the step, or is the step's own, was so before. -/
lemma MutexStep.before (h : MutexStep holds i mu mu' b) (hmu : mu' = none ∨ mu' = some i) :
    mu = none ∨ mu = some i := by
  cases hk : mu with
  | none => exact .inl rfl
  | some k =>
    by_cases hki : k = i
    · exact Or.inr (by rw [hki])
    · have hsm := (h.others k hki).mpr hk
      rcases hmu with hmu | hmu
      · cases hmu.symm.trans hsm
      · exact absurd (some.inj (hmu.symm.trans hsm)).symm hki

lemma MutexHeld.step (h : MutexHeld holds mu l) (ha : l[i]? = some a)
    (hst : MutexStep holds i mu mu' b) : MutexHeld holds mu' (l.set i b) := by
  intro j
  by_cases hji : j = i
  · subst hji
    have hself : (l.set j b)[j]? = some b := by
      rw [getElem?_set_self', ha]
      rfl
    simp only [hself, some.injEq, exists_eq_left']
    exact hst.own.symm
  · simp only [hst.others j hji, getElem?_set_ne (Ne.symm hji)]
    exact h j

lemma getElem?_concat_cases {j : Nat} (hj : (l ++ [b])[j]? = some a) :
    l[j]? = some a ∨ j = l.length ∧ a = b := by
  grind

lemma MutexHeld.concat (h : MutexHeld holds mu l) (hb : holds b = false) :
    MutexHeld holds mu (l ++ [b]) := by
  intro j
  rw [h j]
  constructor
  · rintro ⟨c, hc, hholds⟩
    exact ⟨c, by rw [getElem?_append_left (List.getElem?_eq_some_iff.mp hc).1, hc], hholds⟩
  · rintro ⟨c, hc, hholds⟩
    rcases getElem?_concat_cases hc with hc | ⟨-, rfl⟩
    · exact ⟨c, hc, hholds⟩
    · rw [hb] at hholds
      cases hholds

lemma MutexHeld.concat_take (h : MutexHeld holds none l) (hb : holds b) :
    MutexHeld holds (some l.length) (l ++ [b]) := by
  intro j
  constructor
  · rintro hj
    cases hj
    exact ⟨b, getElem?_concat_length, hb⟩
  · rintro ⟨c, hc, hholds⟩
    by_cases hj : j < l.length
    · rw [getElem?_append_left hj] at hc
      cases (h j).mpr ⟨c, hc, hholds⟩
    · have hlt := (List.getElem?_eq_some_iff.mp hc).1
      rw [length_append, length_singleton] at hlt
      exact congrArg some (by omega)

end

end ReCasaOS.Lib
