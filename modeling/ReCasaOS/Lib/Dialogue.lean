/-
# Programs that ask an environment

A program sends requests, and an environment answers each of them as it likes: the answer may depend
on all that was said before. What was said is the history, and a program is a `Fallible` program on
histories.

A safety property of such a program says of every request that it is sent only when the history is
`ready` for it (`Guarded`). The rule of `Guarded` is one step: a request may be sent to a history that
is ready for it. A program that `Asks` requests for which every history is ready keeps the property
without further proof (`Unsent.asks_then`).
-/
import Mathlib.Data.List.Induction
import ReCasaOS.Lib.Fallible

namespace ReCasaOS.Lib

open List

section

variable {Q : Type} {A : Q → Type}

/-- A request and its answer. -/
abbrev Exchange (A : Q → Type) := (q : Q) × A q

abbrev History (A : Q → Type) := List (Exchange A)

abbrev Environment (A : Q → Type) := History A → (q : Q) → A q

/-- Every request was sent when the history was ready for it. -/
def Guarded (ready : Q → History A → Prop) (h : History A) : Prop :=
  ∀ before q a after, h = before ++ ⟨q, a⟩ :: after → ready q before

/-- The history has gone on, with requests in `p` only. -/
def Grows (p : Q → Prop) (h t : History A) : Prop := ∃ new, t = h ++ new ∧ ∀ e ∈ new, p e.1

variable {ready : Q → History A → Prop} {p : Q → Prop} {h t u : History A}

lemma Guarded.nil : Guarded ready ([] : History A) := by
  intro before q a after heq
  cases before with
  | nil => cases heq
  | cons e before => cases heq

/-- **One request more.** -/
theorem Guarded.snoc (hh : Guarded ready h) {q : Q} (a : A q) (hq : ready q h) :
    Guarded ready (h ++ [⟨q, a⟩]) := by
  intro before q' a' after heq
  rcases eq_nil_or_concat after with rfl | ⟨after, last, rfl⟩
  · obtain ⟨rfl, hla⟩ := append_inj' heq rfl
    cases hla
    exact hq
  · rw [concat_eq_append, ← cons_append, ← append_assoc] at heq
    exact hh before q' a' after (append_inj' heq rfl).1

lemma Guarded.of_append {new : History A} (hh : Guarded ready (h ++ new)) : Guarded ready h := by
  intro before q a after heq
  refine hh before q a (after ++ new) ?_
  rw [heq, append_assoc, cons_append]

lemma Guarded.mono {ready' : Q → History A → Prop} (hh : Guarded ready h)
    (hrdy : ∀ q t, ready q t → ready' q t) : Guarded ready' h :=
  fun before q a after heq => hrdy q before (hh before q a after heq)

lemma Grows.refl (h : History A) : Grows p h h := ⟨[], (append_nil h).symm, fun _ he => nomatch he⟩

lemma Grows.trans (ht : Grows p h t) (hu : Grows p t u) : Grows p h u := by
  obtain ⟨new, rfl, hnew⟩ := ht
  obtain ⟨new', rfl, hnew'⟩ := hu
  refine ⟨new ++ new', append_assoc h new new', fun e he => ?_⟩
  exact (mem_append.mp he).elim (hnew e) (hnew' e)

lemma Grows.single {q : Q} (a : A q) (hq : p q) : Grows p h (h ++ [⟨q, a⟩]) := by
  refine ⟨_, rfl, fun e he => ?_⟩
  obtain rfl := mem_singleton.mp he
  exact hq

lemma Grows.mono {r : Q → Prop} (hg : Grows p h t) (hp : ∀ q, p q → r q) : Grows r h t := by
  obtain ⟨new, heq, hnew⟩ := hg
  exact ⟨new, heq, fun e he => hp _ (hnew e he)⟩

/-- What holds of all requests of the old history and of the new ones. -/
lemma Grows.forall_mem {r : Q → Prop} (hg : Grows p h t) (hh : ∀ e ∈ h, r e.1)
    (hp : ∀ q, p q → r q) : ∀ e ∈ t, r e.1 := by
  obtain ⟨new, rfl, hnew⟩ := hg
  exact fun e he => (mem_append.mp he).elim (hh e) fun he => hp _ (hnew e he)

lemma Grows.guarded (hg : Grows p h t) (hh : Guarded ready h) (hp : ∀ q, p q → ∀ u, ready q u) :
    Guarded ready t := by
  obtain ⟨new, rfl, hnew⟩ := hg
  induction new generalizing h with
  | nil => rwa [append_nil]
  | cons e new ih =>
    have hst := hh.snoc e.2 (hp e.1 (hnew e (.head _)) h)
    have hrs := ih hst fun e he => hnew e (.tail _ he)
    rwa [append_assoc, singleton_append] at hrs

/-- A request that is sent only while none of its kind was sent before is sent once. -/
lemma Guarded.countP_le_one {kind : Q → Bool}
    (hh : Guarded (fun q before => kind q → ∀ e ∈ before, kind e.1 = false) h) :
    h.countP (fun e => kind e.1) ≤ 1 := by
  induction h using reverseRecOn with
  | nil => exact Nat.zero_le 1
  | append_singleton h last ih =>
    rw [countP_append, countP_singleton]
    by_cases hla : kind last.1
    · have hbef := hh h last.1 last.2 [] rfl hla
      have hz : h.countP (fun e => kind e.1) = 0 := by
        refine countP_eq_zero.mpr fun e he => ?_
        rw [hbef e he]
        exact Bool.false_ne_true
      rw [hz, if_pos hla]
    · rw [if_neg hla]
      exact ih hh.of_append

end

namespace Fallible

variable {Q : Type} {A : Q → Type} {ε ε' α β : Type}

def ask (env : Environment A) (q : Q) : Fallible (History A) ε (A q) :=
  fun h => (.ok (env h q), h ++ [⟨q, env h q⟩])

/-- The program sends requests in `p` only. -/
def Asks (p : Q → Prop) (m : Fallible (History A) ε α) : Prop :=
  ∀ h, m.Ends h (fun _ t => Grows p h t) fun _ t => Grows p h t

section

variable {env : Environment A} {p : Q → Prop} {h : History A}
variable {m : Fallible (History A) ε α}

lemma Ends.ask {q : Q} {P : A q → History A → Prop} {E : ε → History A → Prop}
    (hP : ∀ a, P a (h ++ [⟨q, a⟩])) : (Fallible.ask env q).Ends h P E :=
  .of_ok rfl (hP (env h q))

lemma Asks.ends (hm : m.Asks p) {P : α → History A → Prop} {E : ε → History A → Prop}
    (hok : ∀ a t, Grows p h t → P a t) (herr : ∀ e t, Grows p h t → E e t) :
    m.Ends h P E :=
  (hm h).mono hok herr

lemma Asks.ask {q : Q} (hq : p q) : (Fallible.ask env q : Fallible (History A) ε (A q)).Asks p :=
  fun _ => .ask fun a => .single a hq

lemma Asks.pure (a : α) : (pure a : Fallible (History A) ε α).Asks p := fun h => .pure (.refl h)

lemma Asks.guard {bad : Prop} [Decidable bad] {e : ε} :
    (Fallible.guard bad e : Fallible (History A) ε Unit).Asks p :=
  fun h => .guard (fun _ => .refl h) fun _ => .refl h

lemma Asks.ofExcept (x : Except ε α) : (Fallible.ofExcept x : Fallible (History A) ε α).Asks p :=
  fun h => .ofExcept (fun _ _ => .refl h) fun _ _ => .refl h

lemma Asks.bind {f : α → Fallible (History A) ε β} (hm : m.Asks p) (hf : ∀ a, (f a).Asks p) :
    (m >>= f).Asks p := by
  intro h
  refine .bind (hm h) fun a t ht => ?_
  exact (hf a).ends (fun _ _ hu => ht.trans hu) fun _ _ hu => ht.trans hu

lemma Asks.onError {f : History A → ε → ε'} (hm : m.Asks p) : (m.onError f).Asks p :=
  fun h => .onError (hm h)

end

end Fallible

/-- So far everything was sent when it might be, and nothing of the given kind. -/
structure Unsent {Q : Type} {A : Q → Type} (ready : Q → History A → Prop) (kind : Q → Bool)
    (h : History A) : Prop where
  guarded : Guarded ready h
  unsent : ∀ e ∈ h, kind e.1 = false

section

variable {Q : Type} {A : Q → Type} {ε α β : Type} {ready : Q → History A → Prop} {kind : Q → Bool}
  {p : Q → Prop} {h t : History A}

lemma Unsent.grows (hh : Unsent ready kind h) (hp : ∀ q, p q → kind q = false ∧ ∀ u, ready q u)
    (ht : Grows p h t) : Unsent ready kind t :=
  ⟨ht.guarded hh.guarded fun q hq => (hp q hq).2, ht.forall_mem hh.unsent fun q hq => (hp q hq).1⟩

/-- **Requests that are always ready come first.** -/
theorem Unsent.asks_then {m : Fallible (History A) ε α} {f : α → Fallible (History A) ε β}
    {P : β → History A → Prop} (hh : Unsent ready kind h)
    (hp : ∀ q, p q → kind q = false ∧ ∀ u, ready q u) (hm : m.Asks p)
    (hf : ∀ a t, Unsent ready kind t → (f a).Ends t P fun _ t => Guarded ready t) :
    (m >>= f).Ends h P fun _ t => Guarded ready t :=
  .bind (hm.ends (fun _ _ ht => hh.grows hp ht) fun _ _ ht => (hh.grows hp ht).guarded) hf

end

end ReCasaOS.Lib
