/-
# Programs that fail part-way

A Go function that works on a state and returns an error leaves the state as it was when it
failed. `Fallible σ ε α` is such a function in `do` notation; `m.Ends s Q E` says that the run of
`m` from `s` ends in `Q` if it returns a value and in `E` if it fails, and the rules take a run
apart into the runs of its statements.

The second part adds system calls that fail at will. A `Faulty` state carries the faults to come,
one for every call: a call with a fault does nothing but return its error number. `ENOENT` and
`EEXIST` say what a name is bound to, and no fault reports them. When the list is used up nothing
fails any more (`Faulty.Quiet`).
-/
import ReCasaOS.Lib.Posix

namespace ReCasaOS.Lib

open List

/-! ## 1. Programs -/

/-- A program that works on a state and may fail, with the state it leaves in either case. -/
def Fallible (σ ε α : Type) := σ → Except ε α × σ

namespace Fallible

variable {σ ε ε' α β : Type}

/-- What follows a statement: the rest of the program, unless the statement failed. -/
def andThen (f : α → Fallible σ ε β) : Except ε α × σ → Except ε β × σ
  | (.ok a, t) => f a t
  | (.error e, t) => (.error e, t)

instance instMonadFallible : Monad (Fallible σ ε) where
  pure a := fun s => (.ok a, s)
  bind m f := fun s => andThen f (m s)

def fail (e : ε) : Fallible σ ε α := fun s => (.error e, s)

/-- `if bad { return err }`. -/
def guard (bad : Prop) [Decidable bad] (e : ε) : Fallible σ ε Unit :=
  fun s => (if bad then .error e else .ok (), s)

/-- A computation without calls. -/
def ofExcept (x : Except ε α) : Fallible σ ε α := fun s => (x, s)

def get : Fallible σ ε σ := fun s => (.ok s, s)

def modify (f : σ → σ) : Fallible σ ε Unit := fun s => (.ok (), f s)

/-- `result, err := m`, with the error left to the caller. -/
def attempt (m : Fallible σ ε α) : Fallible σ ε' (Except ε α) := fun s => (.ok (m s).1, (m s).2)

/-- `if err := m; err != nil { return f(err) }`; the new error may depend on the state. -/
def onError (m : Fallible σ ε α) (f : σ → ε → ε') : Fallible σ ε' α :=
  fun s => ((m s).1.mapError (f (m s).2), (m s).2)

/-- The run from `s` ends in `Q`, or fails in `E`. -/
def Ends (m : Fallible σ ε α) (s : σ) (Q : α → σ → Prop) (E : ε → σ → Prop) : Prop :=
  (∀ a, (m s).1 = .ok a → Q a (m s).2) ∧ ∀ e, (m s).1 = .error e → E e (m s).2

section

variable {m : Fallible σ ε α} {f : α → Fallible σ ε β} {s : σ}
variable {P : α → σ → Prop} {Q : β → σ → Prop} {E : ε → σ → Prop}
variable {P' : α → σ → Prop} {E' : ε → σ → Prop}

lemma Ends.of_ok {a : α} {t : σ} (hrun : m s = (.ok a, t)) (h : P a t) : m.Ends s P E := by
  refine ⟨fun a' ha => ?_, fun e he => ?_⟩
  · rw [hrun] at ha ⊢
    cases ha
    exact h
  · rw [hrun] at he
    cases he

lemma Ends.of_error {e : ε} {t : σ} (hrun : m s = (.error e, t)) (h : E e t) : m.Ends s P E := by
  refine ⟨fun a ha => ?_, fun e' he => ?_⟩
  · rw [hrun] at ha
    cases ha
  · rw [hrun] at he ⊢
    cases he
    exact h

lemma Ends.cases (h : m.Ends s P E) :
    (∃ a t, m s = (.ok a, t) ∧ P a t) ∨ ∃ e t, m s = (.error e, t) ∧ E e t := by
  cases hr : (m s).1 with
  | ok a => exact .inl ⟨a, (m s).2, Prod.ext hr rfl, h.1 a hr⟩
  | error e => exact .inr ⟨e, (m s).2, Prod.ext hr rfl, h.2 e hr⟩

lemma Ends.pure {a : α} (h : P a s) : (pure a : Fallible σ ε α).Ends s P E := .of_ok rfl h

lemma Ends.fail {e : ε} (h : E e s) : (fail e : Fallible σ ε α).Ends s P E := .of_error rfl h

lemma Ends.bind (hm : m.Ends s P E) (hf : ∀ a t, P a t → (f a).Ends t Q E) :
    (m >>= f).Ends s Q E := by
  rcases hm.cases with ⟨a, t, hrun, hP⟩ | ⟨e, t, hrun, hE⟩
  · have hbind : (m >>= f) s = f a t := congrArg (andThen f) hrun
    rcases (hf a t hP).cases with ⟨b, u, hrun, hQ⟩ | ⟨e, u, hrun, hE⟩
    · exact .of_ok (hbind.trans hrun) hQ
    · exact .of_error (hbind.trans hrun) hE
  · exact .of_error (congrArg (andThen f) hrun) hE

/-- The same, backwards: the first statement has to end where the rest ends well. -/
lemma Ends.seq (hm : m.Ends s (fun a t => (f a).Ends t Q E) E) : (m >>= f).Ends s Q E :=
  Ends.bind hm fun _ _ hf => hf

lemma Ends.mono (h : m.Ends s P E) (hP : ∀ a t, P a t → P' a t) (hE : ∀ e t, E e t → E' e t) :
    m.Ends s P' E' :=
  ⟨fun a ha => hP a _ (h.1 a ha), fun e he => hE e _ (h.2 e he)⟩

lemma Ends.imp (h : m.Ends s P E) (hP : ∀ a t, P a t → P' a t) : m.Ends s P' E :=
  h.mono hP fun _ _ h => h

lemma Ends.impError (h : m.Ends s P E) (hE : ∀ e t, E e t → E' e t) : m.Ends s P E' :=
  h.mono (fun _ _ h => h) hE

lemma Ends.and (h : m.Ends s P E) (h' : m.Ends s P' E') :
    m.Ends s (fun a t => P a t ∧ P' a t) (fun e t => E e t ∧ E' e t) :=
  ⟨fun a ha => ⟨h.1 a ha, h'.1 a ha⟩, fun e he => ⟨h.2 e he, h'.2 e he⟩⟩

lemma Ends.guard {bad : Prop} [Decidable bad] {e : ε} {P : Unit → σ → Prop}
    (hbad : bad → E e s) (hg : ¬ bad → P () s) : (guard bad e).Ends s P E := by
  by_cases h : bad
  · exact .of_error (Prod.ext (if_pos h) rfl) (hbad h)
  · exact .of_ok (Prod.ext (if_neg h) rfl) (hg h)

lemma Ends.ofExcept {x : Except ε α} (hok : ∀ a, x = .ok a → P a s) (herr : ∀ e, x = .error e → E e s) :
    (Fallible.ofExcept x).Ends s P E :=
  ⟨hok, herr⟩

lemma Ends.get {P : σ → σ → Prop} (h : P s s) : (get : Fallible σ ε σ).Ends s P E := .of_ok rfl h

lemma Ends.modify {f : σ → σ} {P : Unit → σ → Prop} (h : P () (f s)) :
    (modify f : Fallible σ ε Unit).Ends s P E :=
  .of_ok rfl h

lemma Ends.attempt {P : Except ε α → σ → Prop} {E' : ε' → σ → Prop}
    (h : m.Ends s (fun a t => P (.ok a) t) (fun e t => P (.error e) t)) :
    (attempt m : Fallible σ ε' (Except ε α)).Ends s P E' := by
  rcases h.cases with ⟨a, t, hrun, hP⟩ | ⟨e, t, hrun, hP⟩
  · exact .of_ok (t := t) (by rw [Fallible.attempt, hrun]) hP
  · exact .of_ok (t := t) (by rw [Fallible.attempt, hrun]) hP

lemma Ends.onError {g : σ → ε → ε'} {E' : ε' → σ → Prop}
    (h : m.Ends s P fun e t => E' (g t e) t) : (m.onError g).Ends s P E' := by
  rcases h.cases with ⟨a, t, hrun, hP⟩ | ⟨e, t, hrun, hE⟩
  · exact .of_ok (by rw [Fallible.onError, hrun]; rfl) hP
  · exact .of_error (by rw [Fallible.onError, hrun]; rfl) hE

lemma Ends.returns (h : m.Ends s P fun _ _ => False) : ∃ a t, m s = (.ok a, t) ∧ P a t := by
  rcases h.cases with hok | ⟨e, t, -, hf⟩
  · exact hok
  · exact hf.elim

end

end Fallible

/-! ## 2. Calls that fail at will -/

/-- A fault. `read` is the number of directory entries that a `ReadDir` had read by then. -/
structure Failure where
  code : Errno
  known : code ≠ .enoent ∧ code ≠ .eexist
  read : Nat

/-- A state and the faults to come. -/
structure Faulty (τ : Type) where
  state : τ
  faults : List (Option Failure)

namespace Faulty

variable {τ ι : Type}

/-- The fault of the next call. -/
def next (w : Faulty τ) : Option Failure := w.faults.head?.join

/-- After a call that changes nothing. -/
abbrev later (w : Faulty τ) : Faulty τ := ⟨w.state, w.faults.tail⟩

/-- Nothing fails any more. -/
def Quiet (w : Faulty τ) : Prop := ∀ fault ∈ w.faults, fault = none

lemma Quiet.next {w : Faulty τ} (h : w.Quiet) : w.next = none := by
  unfold Faulty.next
  cases hf : w.faults with
  | nil => rfl
  | cons fault faults =>
    have hflt : fault = none := h fault (by rw [hf]; exact mem_cons_self)
    rw [head?_cons, hflt]
    rfl

lemma Quiet.tail {w : Faulty τ} (h : w.Quiet) (t : ι) : Quiet (⟨t, w.faults.tail⟩ : Faulty ι) :=
  fun fault hflt => h fault (mem_of_mem_tail hflt)

end Faulty

namespace Fallible

variable {τ ι ε α : Type}

/-- A system call. -/
def call (effect : τ → Except Errno α × τ) : Fallible (Faulty τ) Errno α := fun w =>
  match w.next with
  | some failure => (.error failure.code, ⟨w.state, w.faults.tail⟩)
  | none => ((effect w.state).1, ⟨(effect w.state).2, w.faults.tail⟩)

/-- A call with errors of its own; `fault` is what it makes of an error number. -/
def act (fault : Errno → ε) (effect : τ → Except ε α × τ) : Fallible (Faulty τ) ε α := fun w =>
  match w.next with
  | some failure => (.error (fault failure.code), ⟨w.state, w.faults.tail⟩)
  | none => ((effect w.state).1, ⟨(effect w.state).2, w.faults.tail⟩)

/-- A system call that changes nothing. -/
def query (answer : τ → Except Errno α) : Fallible (Faulty τ) Errno α :=
  call fun t => (answer t, t)

/-- A program on a part of the state. -/
def zoom (part : τ → ι) (put : τ → ι → τ) (m : Fallible (Faulty ι) ε α) :
    Fallible (Faulty τ) ε α := fun w =>
  ((m ⟨part w.state, w.faults⟩).1,
    ⟨put w.state (m ⟨part w.state, w.faults⟩).2.state, (m ⟨part w.state, w.faults⟩).2.faults⟩)

section

variable {w : Faulty τ} {P : α → Faulty τ → Prop} {E : Errno → Faulty τ → Prop}
variable {ans : τ → Except Errno α}

lemma Ends.act {E : ε → Faulty τ → Prop} {fault : Errno → ε} {eff : τ → Except ε α × τ}
    (hflt : ∀ failure : Failure, w.next = some failure → E (fault failure.code) w.later)
    (hok : ∀ a, (eff w.state).1 = .ok a → P a ⟨(eff w.state).2, w.faults.tail⟩)
    (herr : ∀ e, (eff w.state).1 = .error e → E e ⟨(eff w.state).2, w.faults.tail⟩) :
    (act fault eff).Ends w P E := by
  cases hnx : w.next with
  | some failure =>
    exact .of_error (by rw [Fallible.act, hnx]) (hflt failure hnx)
  | none =>
    have hrun : Fallible.act fault eff w = ((eff w.state).1, ⟨(eff w.state).2, w.faults.tail⟩) := by
      rw [Fallible.act, hnx]
    cases hr : (eff w.state).1 with
    | ok a => exact .of_ok (hrun.trans (by rw [hr])) (hok a hr)
    | error e => exact .of_error (hrun.trans (by rw [hr])) (herr e hr)

lemma Ends.call {eff : τ → Except Errno α × τ}
    (hflt : ∀ failure : Failure, w.next = some failure → E failure.code w.later)
    (hok : ∀ a, (eff w.state).1 = .ok a → P a ⟨(eff w.state).2, w.faults.tail⟩)
    (herr : ∀ e, (eff w.state).1 = .error e → E e ⟨(eff w.state).2, w.faults.tail⟩) :
    (call eff).Ends w P E := by
  change (Fallible.act id eff).Ends w P E
  exact .act hflt hok herr

/-- A query keeps the state, whatever it answers; `ENOENT` and `EEXIST` are answers. -/
lemma Ends.query (hok : ∀ a, ans w.state = .ok a → P a w.later)
    (herr : ∀ e, (e = .enoent ∨ e = .eexist → ans w.state = .error e) → E e w.later) :
    (query ans).Ends w P E := by
  refine Ends.call (fun failure _ => herr failure.code ?_) hok fun e he => herr e fun _ => he
  rintro (h | h)
  · exact absurd h failure.known.1
  · exact absurd h failure.known.2

lemma Ends.call_quiet {eff : τ → Except Errno α × τ} (hw : w.Quiet) {a : α} {t : τ}
    (ha : eff w.state = (.ok a, t)) (h : P a ⟨t, w.faults.tail⟩) :
    (Fallible.call eff).Ends w P E := by
  refine .of_ok (t := ⟨t, w.faults.tail⟩) ?_ h
  rw [Fallible.call, hw.next, ha]

lemma Ends.query_quiet (hw : w.Quiet) {a : α} (ha : ans w.state = .ok a) (h : P a w.later) :
    (Fallible.query ans).Ends w P E :=
  Ends.call_quiet hw (Prod.ext ha rfl : (ans w.state, w.state) = (.ok a, w.state)) h

lemma Ends.query_quiet_error (hw : w.Quiet) {e : Errno} (he : ans w.state = .error e)
    (h : E e w.later) :
    (Fallible.query ans).Ends w P E := by
  refine .of_error (t := w.later) ?_ h
  rw [Fallible.query, Fallible.call, hw.next, he]

lemma Ends.zoom {part : τ → ι} {put : τ → ι → τ} {m : Fallible (Faulty ι) ε α}
    {E : ε → Faulty τ → Prop}
    (h : m.Ends ⟨part w.state, w.faults⟩ (fun a v => P a ⟨put w.state v.state, v.faults⟩)
      (fun e v => E e ⟨put w.state v.state, v.faults⟩)) : (zoom part put m).Ends w P E :=
  ⟨fun a ha => h.1 a ha, fun e he => h.2 e he⟩

end

/-! ## 3. Programs that only ask

A program that changes nothing and has returned a value returns it again, when nothing fails and
its questions have the same answers. -/

/-- `m` changes nothing, and where it has returned a value once it does so again, from any state that
looks the `same`. -/
structure Replays (same : τ → τ → Prop) (m : Fallible (Faulty τ) ε α) : Prop where
  state : ∀ w, (m w).2.state = w.state
  again : ∀ w a, (m w).1 = .ok a → ∀ w', w'.Quiet → same w.state w'.state →
    ∃ v, m w' = (.ok a, v) ∧ v.Quiet ∧ v.state = w'.state

section

variable {same : τ → τ → Prop} {β : Type}
variable {m : Fallible (Faulty τ) ε α}

lemma Replays.pure (a : α) : Replays same (pure a : Fallible (Faulty τ) ε α) := by
  refine ⟨fun _ => rfl, fun w b hb w' hw' _ => ⟨w', ?_, hw', rfl⟩⟩
  obtain rfl : a = b := Except.ok.inj hb
  rfl

lemma Replays.fail (e : ε) : Replays same (fail e : Fallible (Faulty τ) ε α) := by
  refine ⟨fun _ => rfl, fun w a ha => ?_⟩
  cases ha

lemma Replays.bind {f : α → Fallible (Faulty τ) ε β} (hm : Replays same m)
    (hf : ∀ a, Replays same (f a)) : Replays same (m >>= f) := by
  have hrun : ∀ w, (m >>= f) w = andThen f (m w) := fun _ => rfl
  constructor
  · intro w
    rw [hrun]
    cases hr : (m w).1 with
    | error e =>
      rw [show m w = (.error e, (m w).2) from Prod.ext hr rfl]
      exact hm.state w
    | ok a =>
      rw [show m w = (.ok a, (m w).2) from Prod.ext hr rfl]
      exact ((hf a).state _).trans (hm.state w)
  · intro w b hb w' hw' hsm
    rw [hrun] at hb
    cases hr : (m w).1 with
    | error e =>
      rw [show m w = (.error e, (m w).2) from Prod.ext hr rfl] at hb
      cases hb
    | ok a =>
      rw [show m w = (.ok a, (m w).2) from Prod.ext hr rfl] at hb
      obtain ⟨v, hv, hqt, hsta⟩ := hm.again w a hr w' hw' hsm
      have hsm' : same (m w).2.state v.state := by rwa [hm.state w, hsta]
      obtain ⟨v', hv', hqt', hsta'⟩ := (hf a).again _ b hb v hqt hsm'
      refine ⟨v', ?_, hqt', hsta'.trans hsta⟩
      rw [hrun, hv]
      exact hv'

lemma Replays.guard {bad : Prop} [Decidable bad] {e : ε} :
    Replays same (guard bad e : Fallible (Faulty τ) ε Unit) := by
  refine ⟨fun _ => rfl, fun w a ha w' hw' _ => ⟨w', Prod.ext ha rfl, hw', rfl⟩⟩

lemma Replays.ofExcept (x : Except ε α) : Replays same (ofExcept x : Fallible (Faulty τ) ε α) :=
  ⟨fun _ => rfl, fun _ _ ha w' hw' _ => ⟨w', Prod.ext ha rfl, hw', rfl⟩⟩

lemma Replays.ofExcept_bind {x : Except ε α} {f : α → Fallible (Faulty τ) ε β}
    (h : ∀ a, x = .ok a → Replays same (f a)) : Replays same (Fallible.ofExcept x >>= f) := by
  cases x with
  | error e => exact .fail e
  | ok a => exact h a rfl

/-- What a program that only asks has returned, it has returned from there. -/
lemma Replays.ends (h : Replays same m) (w : Faulty τ) :
    m.Ends w (fun a w' => (m w).1 = .ok a ∧ w'.state = w.state) (fun _ w' => w'.state = w.state) :=
  ⟨fun _ ha => ⟨ha, h.state w⟩, fun _ _ => h.state w⟩

lemma Replays.query {answer : τ → Except Errno α}
    (h : ∀ t t', same t t' → ∀ a, answer t = .ok a → answer t' = .ok a) :
    Replays same (query answer) := by
  constructor
  · intro w
    rw [Fallible.query, Fallible.call]
    cases w.next <;> rfl
  · intro w a ha w' hw' hsm
    refine ⟨⟨w'.state, w'.faults.tail⟩, ?_, hw'.tail _, rfl⟩
    rw [Fallible.query, Fallible.call] at ha ⊢
    cases hnx : w.next with
    | some failure =>
      rw [hnx] at ha
      cases ha
    | none =>
      rw [hnx] at ha
      rw [hw'.next, h _ _ hsm a ha]

lemma Replays.onError {ε' : Type} {f : Faulty τ → ε → ε'} (h : Replays same m) :
    Replays same (m.onError f) := by
  refine ⟨h.state, fun w a ha w' hw' hsm => ?_⟩
  have hok : (m w).1 = .ok a := by
    cases hr : (m w).1 with
    | error e =>
      rw [Fallible.onError, hr] at ha
      cases ha
    | ok b =>
      rw [Fallible.onError, hr] at ha
      exact congrArg Except.ok (Except.ok.inj ha)
  obtain ⟨v, hv, hqt, hsta⟩ := h.again w a hok w' hw' hsm
  exact ⟨v, by rw [Fallible.onError, hv]; rfl, hqt, hsta⟩

end

/-! ## 4. Reading a directory

    for {
        batch, readErr := directory.ReadDir(256)
        for _, entry := range batch { .. }
        if errors.Is(readErr, io.EOF) { break }
        if readErr != nil { return readErr }
    }

`names` are the entries not yet visited, `left` those of them that the last `ReadDir` returned, and
`readErr` its error. A `ReadDir` may return entries and an error; the end of the directory takes
a call of its own. -/

/-- The next entries, when the batch is used up. -/
def nextBatch (error : Errno → ε) (left : Nat) (readErr : Option ε) :
    Fallible (Faulty τ) ε (Nat × Option ε) := fun w =>
  if 0 < left then (.ok (left, readErr), w)
  else
    match readErr with
    | some e => (.error e, w)
    | none =>
      match w.next with
      | none => (.ok (256, none), ⟨w.state, w.faults.tail⟩)
      | some failure =>
        if failure.read = 0 then (.error (error failure.code), ⟨w.state, w.faults.tail⟩)
        else (.ok (failure.read, some (error failure.code)), ⟨w.state, w.faults.tail⟩)

def forEachEntry (error : Errno → ε) (visit : Bytes → Fallible (Faulty τ) ε Unit) :
    (names : List Bytes) → (left : Nat) → (readErr : Option ε) → Fallible (Faulty τ) ε Unit
  | [], _, readErr => do
    let _ ← nextBatch error 0 readErr
    pure ()
  | name :: names, left, readErr => do
    let (left, readErr) ← nextBatch error left readErr
    visit name
    forEachEntry error visit names (left - 1) readErr

section

variable {error : Errno → ε} {visit : Bytes → Fallible (Faulty τ) ε Unit}
variable {E : ε → Faulty τ → Prop} {I : List Bytes → Faulty τ → Prop}

/-- What the loop may assume of its invariant, which holds between two visits: reading keeps it,
and the error of a failed read may be returned wherever it holds. -/
structure ReadInvariant (error : Errno → ε) (I : List Bytes → Faulty τ → Prop)
    (E : ε → Faulty τ → Prop) : Prop where
  read : ∀ names w, I names w → I names ⟨w.state, w.faults.tail⟩
  failed : ∀ names w, I names w → ∀ failure, w.next = some failure →
    ∀ rest t, I rest t → E (error failure.code) t

lemma nextBatch_ends (hI : ReadInvariant error I E) {names : List Bytes} {left : Nat}
    {readErr : Option ε} {w : Faulty τ} (hw : I names w)
    (herr : ∀ e ∈ readErr, ∀ rest t, I rest t → E e t) :
    (nextBatch error left readErr).Ends w
      (fun next t => I names t ∧ ∀ e ∈ next.2, ∀ rest t, I rest t → E e t) E := by
  by_cases hleft : 0 < left
  · exact .of_ok (if_pos hleft) ⟨hw, herr⟩
  cases readErr with
  | some e => exact .of_error (if_neg hleft) (herr e rfl names w hw)
  | none =>
    have hrd := hI.read names w hw
    cases hnx : w.next with
    | none =>
      refine .of_ok ((if_neg hleft).trans (by rw [hnx])) ⟨hrd, fun e he => ?_⟩
      cases he
    | some failure =>
      have hfa := hI.failed names w hw failure hnx
      by_cases hz : failure.read = 0
      · exact .of_error ((if_neg hleft).trans (by rw [hnx]; exact if_pos hz))
          (hfa names _ hrd)
      · refine .of_ok ((if_neg hleft).trans (by rw [hnx]; exact if_neg hz))
          ⟨hrd, fun e he => ?_⟩
        cases he
        exact hfa

/-- **The rule of the loop.** An invariant that every visit takes one entry on holds at the end. -/
theorem forEachEntry_ends (hI : ReadInvariant error I E) {names : List Bytes}
    (hvisit : ∀ name rest w, name :: rest <:+ names → I (name :: rest) w →
      (visit name).Ends w (fun _ t => I rest t) E) :
    ∀ {left readErr w}, I names w → (∀ e ∈ readErr, ∀ rest t, I rest t → E e t) →
      (forEachEntry error visit names left readErr).Ends w (fun _ t => I [] t) E := by
  induction names with
  | nil =>
    intro left readErr w hw herr
    exact Ends.bind (nextBatch_ends hI hw herr) fun _ t ht => Ends.pure ht.1
  | cons name names ih =>
    intro left readErr w hw herr
    refine Ends.bind (nextBatch_ends hI hw herr) fun next t ht => ?_
    refine Ends.bind (hvisit name names t suffix_rfl ht.1) fun _ u hu => ?_
    refine ih (fun name rest w hsuffix => ?_) hu ht.2
    exact hvisit name rest w (hsuffix.trans (suffix_cons _ _))

end

end Fallible

end ReCasaOS.Lib
