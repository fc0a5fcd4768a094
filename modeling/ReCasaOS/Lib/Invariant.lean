/-
# Programs that keep an invariant

Between two states of a run stands a relation, often "everything else is unchanged". `m.Keeps I R`
says that a run from a state in `I` ends in `I`, related by `R` to its start, whether it fails or not.
If `R` is a preorder, a program keeps what all of its statements keep.

`m.Looks s P` is the case of a program that changes nothing: it only learns `P` about what it returns.
-/
import Mathlib
import ReCasaOS.Lib.Fallible

namespace ReCasaOS.Lib.Fallible

variable {τ ε ε' α β : Type} {I : τ → Prop} {R : τ → τ → Prop}
variable {m : Fallible (Faulty τ) ε α}

def Keeps (I : τ → Prop) (R : τ → τ → Prop) (m : Fallible (Faulty τ) ε α) : Prop :=
  ∀ w : Faulty τ, I w.state →
    m.Ends w (fun _ t => I t.state ∧ R w.state t.state) fun _ t => I t.state ∧ R w.state t.state

lemma Keeps.ends (h : m.Keeps I R) {w : Faulty τ} (hw : I w.state) {P : α → Faulty τ → Prop}
    {E : ε → Faulty τ → Prop} (hok : ∀ a t, I t.state → R w.state t.state → P a t)
    (herr : ∀ e t, I t.state → R w.state t.state → E e t) : m.Ends w P E :=
  (h w hw).mono (fun a t ht => hok a t ht.1 ht.2) fun e t ht => herr e t ht.1 ht.2

/-- From here the run ends in `I`, whether it fails or not. -/
abbrev Stays (m : Fallible (Faulty τ) ε α) (w : Faulty τ) (I : τ → Prop) : Prop :=
  m.Ends w (fun _ t => I t.state) fun _ t => I t.state

lemma Stays.attempt {w : Faulty τ} (h : m.Stays w I) :
    (Fallible.attempt m : Fallible (Faulty τ) ε' (Except ε α)).Stays w I :=
  Ends.attempt h

lemma Keeps.attempt (h : m.Keeps I R) :
    (Fallible.attempt m : Fallible (Faulty τ) ε' (Except ε α)).Keeps I R :=
  fun w hw => .attempt (h w hw)

lemma Keeps.onError {f : Faulty τ → ε → ε'} (h : m.Keeps I R) : (m.onError f).Keeps I R :=
  fun w hw => .onError (h w hw)

section

variable [IsPreorder τ R]

lemma Keeps.pure (a : α) : (pure a : Fallible (Faulty τ) ε α).Keeps I R :=
  fun _ hw => .pure ⟨hw, refl _⟩

lemma Keeps.fail (e : ε) : (Fallible.fail e : Fallible (Faulty τ) ε α).Keeps I R :=
  fun _ hw => .fail ⟨hw, refl _⟩

lemma Keeps.guard {bad : Prop} [Decidable bad] {e : ε} :
    (Fallible.guard bad e : Fallible (Faulty τ) ε Unit).Keeps I R :=
  fun _ hw => .guard (fun _ => ⟨hw, refl _⟩) fun _ => ⟨hw, refl _⟩

lemma Keeps.ofExcept (x : Except ε α) : (Fallible.ofExcept x : Fallible (Faulty τ) ε α).Keeps I R :=
  fun _ hw => .ofExcept (fun _ _ => ⟨hw, refl _⟩) fun _ _ => ⟨hw, refl _⟩

lemma Keeps.bind {m : Fallible (Faulty τ) ε α} {f : α → Fallible (Faulty τ) ε β}
    (hm : m.Keeps I R) (hf : ∀ a, (f a).Keeps I R) : (m >>= f).Keeps I R := by
  intro w hw
  refine .seq (hm.ends hw (fun a t ht hr => ?_) fun e t ht hr => ⟨ht, hr⟩)
  refine (hf a).ends ht (fun b u hu hr' => ?_) fun e u hu hr' => ?_
  · exact ⟨hu, Trans.trans hr hr'⟩
  · exact ⟨hu, Trans.trans hr hr'⟩

end

/-! ## Programs that only look -/

section

variable {s : τ} {m : Fallible (Faulty τ) ε α} {P : α → Prop}

def Looks (m : Fallible (Faulty τ) ε α) (s : τ) (P : α → Prop) : Prop :=
  ∀ faults, m.Ends ⟨s, faults⟩ (fun a t => t.state = s ∧ P a) fun _ t => t.state = s

lemma Looks.pure {a : α} (h : P a) : (pure a : Fallible (Faulty τ) ε α).Looks s P :=
  fun _ => .pure ⟨rfl, h⟩

lemma Looks.fail (e : ε) : (Fallible.fail e : Fallible (Faulty τ) ε α).Looks s P := fun _ => .fail rfl

lemma Looks.guard {bad : Prop} [Decidable bad] {e : ε} {P : Unit → Prop} (h : ¬bad → P ()) :
    (Fallible.guard bad e : Fallible (Faulty τ) ε Unit).Looks s P :=
  fun _ => .guard (fun _ => rfl) fun hg => ⟨rfl, h hg⟩

lemma Looks.mono {Q : α → Prop} (hm : m.Looks s P) (h : ∀ a, P a → Q a) : m.Looks s Q :=
  fun faults => (hm faults).mono (fun a _ ht => ⟨ht.1, h a ht.2⟩) fun _ _ ht => ht

lemma Looks.attempt (hm : m.Looks s P) :
    (Fallible.attempt m : Fallible (Faulty τ) ε' _).Looks s fun res => ∀ a, res = .ok a → P a := by
  refine fun faults => .attempt ((hm faults).mono (fun a t ht => ⟨ht.1, ?_⟩) fun e t ht => ⟨ht, nofun⟩)
  rintro b ⟨⟩
  exact ht.2

lemma Looks.seq {f : α → Fallible (Faulty τ) ε β} {w : Faulty τ} {Q : β → Faulty τ → Prop}
    {E : ε → Faulty τ → Prop} (hm : m.Looks w.state P)
    (hf : ∀ a faults, P a → (f a).Ends ⟨w.state, faults⟩ Q E) (hE : ∀ e faults, E e ⟨w.state, faults⟩) :
    (m >>= f).Ends w Q E := by
  refine Ends.seq ((hm w.faults).mono ?_ ?_)
  · rintro a ⟨state, faults⟩ ⟨rfl, ha⟩
    exact hf a faults ha
  · rintro e ⟨state, faults⟩ rfl
    exact hE e faults

lemma Looks.seq_attempt {f : Except ε α → Fallible (Faulty τ) ε' β} {w : Faulty τ}
    {Q : β → Faulty τ → Prop} {E : ε' → Faulty τ → Prop} (hm : m.Looks w.state P)
    (hf : ∀ res faults, (∀ a, res = .ok a → P a) → (f res).Ends ⟨w.state, faults⟩ Q E) :
    (Fallible.attempt m >>= f).Ends w Q E := by
  refine Ends.seq (.attempt ((hm w.faults).mono ?_ ?_))
  · rintro a ⟨state, faults⟩ ⟨rfl, ha⟩
    exact hf _ faults fun b hb => Except.ok.inj hb ▸ ha
  · rintro e ⟨state, faults⟩ rfl
    exact hf _ faults nofun

lemma Looks.bind {f : α → Fallible (Faulty τ) ε β} {Q : β → Prop} (hm : m.Looks s P)
    (hf : ∀ a, P a → (f a).Looks s Q) : (m >>= f).Looks s Q :=
  fun _ => hm.seq (fun a faults ha => hf a ha faults) fun _ _ => rfl

lemma Keeps.looks (h : m.Keeps (fun _ => True) fun s t => t = s) : m.Looks s fun _ => True :=
  fun _ => h.ends trivial (fun _ _ _ ht => ⟨ht, trivial⟩) fun _ _ _ ht => ht

end

end ReCasaOS.Lib.Fallible
