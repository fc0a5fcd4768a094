/-
# Admission of upload space

`pkg/filesecurity/upload_space.go`: `UploadSpaceAdmission.Reserve` and the release functions it
returns. Uploads run concurrently, so a call of `Reserve` is a program counter that stays in the
state after the call has returned: it is then the release function, which may be called any number
of times and by anyone. The steps of different calls interleave. What keeps a check and the
update behind it together is the mutex, which the model holds explicitly: the comparison and the
addition are two steps, and so are the comparison and the subtraction of a release.

The checker asks the file system how much space is available; its answer is arbitrary here, and a
new one for every call.
-/
import ReCasaOS.Lib.Bytes
import ReCasaOS.Lib.Transition

namespace ReCasaOS.FileSecurity

open Lib List

/-! ## 1. The state -/

/-- The errors of `Reserve`; the second is joined with the error of the checker. -/
inductive UploadSpaceError (ε : Type)
  | unavailable
  | unavailableBecause (err : ε)
  | insufficient
  deriving DecidableEq, Repr

/-- The arguments of `Reserve`. -/
structure SpaceRequest where
  /-- `roots != nil`. -/
  hasRoots : Bool
  parent : Bytes
  bytes : UInt64
  reservedFree : UInt64
  deriving DecidableEq

/-- Where a call of `Reserve` is, and after it has returned its release function. -/
inductive ReservePc (ε : Type)
  | entered
  /-- `a.mu.Lock()` is next. -/
  | locking
  /-- In `a.checker(roots, parent)`, with the lock. -/
  | checking
  /-- The comparisons are next. -/
  | comparing (available : UInt64)
  /-- `a.reserved += bytes` is next. -/
  | adding (available : UInt64)
  /-- `return nil, err`, with the lock. -/
  | refusing (err : UploadSpaceError ε)
  | refused (err : UploadSpaceError ε)
  /-- `return func() {..}, nil`, with the lock. -/
  | granting
  /-- Returned; the release function has not been called. -/
  | granted
  /-- Returned `func() {}`. -/
  | nothing
  /-- In the body of `once`; `a.mu.Lock()` is next. -/
  | releasing
  /-- `bytes <= a.reserved` is next. -/
  | releaseComparing
  /-- `a.reserved -= bytes` is next. -/
  | subtracting
  /-- `a.reserved = 0` is next. -/
  | clamping
  /-- `a.mu.Unlock()` of the release is next. -/
  | unlocking
  | released
  deriving DecidableEq, Repr

structure ReserveCall (ε : Type) where
  request : SpaceRequest
  pc : ReservePc ε
  deriving DecidableEq

/-- `UploadSpaceAdmission` without its checker; the mutex knows the call that holds it. -/
structure SpaceAdmission where
  mu : Option Nat
  reserved : UInt64
  deriving DecidableEq

/-- The admission and every call of `Reserve` that was made. -/
structure UploadSpace (ε : Type) where
  admission : SpaceAdmission
  calls : List (ReserveCall ε)

/-- `NewUploadSpaceAdmission`. -/
def UploadSpace.start (ε : Type) : UploadSpace ε := ⟨⟨none, 0⟩, []⟩

/-! ## 2. The steps -/

/-- The comparisons of `Reserve` that end in `ErrUploadSpaceInsufficient`. -/
def insufficientSpace (reserved available : UInt64) (request : SpaceRequest) : Prop :=
  (available < request.reservedFree ∨ available - request.reservedFree < reserved
    ∨ available - request.reservedFree - reserved < request.bytes)
  ∨ ~~~0 - reserved < request.bytes

instance instDecidableInsufficient (reserved available : UInt64) (request : SpaceRequest) :
    Decidable (insufficientSpace reserved available request) :=
  inferInstanceAs (Decidable ((_ ∨ _ ∨ _) ∨ _))

/-- `a.checker == nil || roots == nil || parent == ""`. -/
def unusableRequest (hasChecker : Bool) (request : SpaceRequest) : Prop :=
  hasChecker = false ∨ request.hasRoots = false ∨ request.parent = []

/-- The release function exists and has been called, or does nothing. -/
def ReservePc.releaseCalled {ε : Type} : ReservePc ε → Bool
  | nothing | releasing | releaseComparing | subtracting | clamping | unlocking | released => true
  | _ => false

/-- The steps of the call at position `i`. -/
inductive ReserveStep {ε : Type} (hasChecker : Bool) (i : Nat) :
    SpaceAdmission → ReserveCall ε → SpaceAdmission → ReserveCall ε → Prop
  | noBytes {a c} (h : c.pc = .entered) (hbytes : c.request.bytes = 0) :
      ReserveStep hasChecker i a c a { c with pc := .nothing }
  | unusable {a c} (h : c.pc = .entered) (hbytes : c.request.bytes ≠ 0)
      (hunusable : unusableRequest hasChecker c.request) :
      ReserveStep hasChecker i a c a { c with pc := .refused .unavailable }
  | usable {a c} (h : c.pc = .entered) (hbytes : c.request.bytes ≠ 0)
      (husable : ¬ unusableRequest hasChecker c.request) :
      ReserveStep hasChecker i a c a { c with pc := .locking }
  | lock {a c} (h : c.pc = .locking) (hfree : a.mu = none) :
      ReserveStep hasChecker i a c { a with mu := some i } { c with pc := .checking }
  | checkerFails {a c} (h : c.pc = .checking) (err : ε) :
      ReserveStep hasChecker i a c a { c with pc := .refusing (.unavailableBecause err) }
  | checkerAnswers {a c} (h : c.pc = .checking) (available : UInt64) :
      ReserveStep hasChecker i a c a { c with pc := .comparing available }
  | insufficient {a c available} (h : c.pc = .comparing available)
      (hspace : insufficientSpace a.reserved available c.request) :
      ReserveStep hasChecker i a c a { c with pc := .refusing .insufficient }
  | sufficient {a c available} (h : c.pc = .comparing available)
      (hspace : ¬ insufficientSpace a.reserved available c.request) :
      ReserveStep hasChecker i a c a { c with pc := .adding available }
  | add {a c available} (h : c.pc = .adding available) :
      ReserveStep hasChecker i a c { a with reserved := a.reserved + c.request.bytes }
        { c with pc := .granting }
  | refuse {a c err} (h : c.pc = .refusing err) :
      ReserveStep hasChecker i a c { a with mu := none } { c with pc := .refused err }
  | grant {a c} (h : c.pc = .granting) :
      ReserveStep hasChecker i a c { a with mu := none } { c with pc := .granted }
  /-- The first call of the release function enters `once`. -/
  | release {a c} (h : c.pc = .granted) :
      ReserveStep hasChecker i a c a { c with pc := .releasing }
  /-- Any other call of it waits for `once` and returns. -/
  | releaseAgain {a c} (h : c.pc.releaseCalled) : ReserveStep hasChecker i a c a c
  | releaseLock {a c} (h : c.pc = .releasing) (hfree : a.mu = none) :
      ReserveStep hasChecker i a c { a with mu := some i } { c with pc := .releaseComparing }
  | covered {a c} (h : c.pc = .releaseComparing) (hle : c.request.bytes ≤ a.reserved) :
      ReserveStep hasChecker i a c a { c with pc := .subtracting }
  | uncovered {a c} (h : c.pc = .releaseComparing) (hlt : ¬ c.request.bytes ≤ a.reserved) :
      ReserveStep hasChecker i a c a { c with pc := .clamping }
  | subtract {a c} (h : c.pc = .subtracting) :
      ReserveStep hasChecker i a c { a with reserved := a.reserved - c.request.bytes }
        { c with pc := .unlocking }
  | clamp {a c} (h : c.pc = .clamping) :
      ReserveStep hasChecker i a c { a with reserved := 0 } { c with pc := .unlocking }
  | releaseUnlock {a c} (h : c.pc = .unlocking) :
      ReserveStep hasChecker i a c { a with mu := none } { c with pc := .released }

/-- The steps of all uploads. -/
inductive UploadSpaceStep {ε : Type} (hasChecker : Bool) : UploadSpace ε → UploadSpace ε → Prop
  /-- Somebody calls `Reserve`. -/
  | reserve {s} (request : SpaceRequest) :
      UploadSpaceStep hasChecker s { s with calls := s.calls ++ [⟨request, .entered⟩] }
  /-- One of the calls goes on. -/
  | step {s i c a' c'} (hc : s.calls[i]? = some c)
      (hstep : ReserveStep hasChecker i s.admission c a' c') :
      UploadSpaceStep hasChecker s ⟨a', s.calls.set i c'⟩

/-! ## 3. What is outstanding -/

section

variable {ε : Type}

/-- Admitted, and not yet released. -/
def ReservePc.outstanding : ReservePc ε → Bool
  | granting | granted | releasing | releaseComparing | subtracting | clamping => true
  | _ => false

def ReservePc.holdsLock : ReservePc ε → Bool
  | checking | comparing _ | adding _ | refusing _ | granting | releaseComparing | subtracting
  | clamping | unlocking => true
  | _ => false

/-- The bytes a call has reserved. -/
def ReserveCall.reservedBytes (c : ReserveCall ε) : Nat :=
  if c.pc.outstanding then c.request.bytes.toNat else 0

/-- The sum of the reservations admitted and not yet released. -/
def UploadSpace.outstanding (s : UploadSpace ε) : Nat := (s.calls.map ReserveCall.reservedBytes).sum

/-- What a call between a comparison and its update relies on. -/
def ReserveCall.Relies (c : ReserveCall ε) (reserved : UInt64) : Prop :=
  match c.pc with
  | .adding available =>
    reserved.toNat + c.request.bytes.toNat + c.request.reservedFree.toNat ≤ available.toNat
  | .subtracting => c.request.bytes ≤ reserved
  | .clamping => False
  | _ => True

/-- **The invariant.** The total is exact, the mutex has at most one holder, and no comparison
has been invalidated before its update. -/
structure UploadSpace.Good (s : UploadSpace ε) : Prop where
  total : s.admission.reserved.toNat = s.outstanding
  lock : MutexHeld (fun c : ReserveCall ε => c.pc.holdsLock) s.admission.mu s.calls
  relies : ∀ (i : Nat) (c : ReserveCall ε), s.calls[i]? = some c → c.Relies s.admission.reserved

lemma UploadSpace.start_good : (UploadSpace.start ε).Good :=
  ⟨rfl, mutexHeld_nil _, by simp [start]⟩

lemma ReserveCall.relies_of_unlocked {c : ReserveCall ε} (h : c.pc.holdsLock = false)
    (reserved : UInt64) : c.Relies reserved := by
  unfold Relies
  cases hpc : c.pc <;> simp_all [ReservePc.holdsLock]

/-- The comparisons say what they are for, without wrapping around. -/
lemma not_insufficientSpace {reserved available : UInt64} {request : SpaceRequest}
    (h : ¬ insufficientSpace reserved available request) :
    reserved.toNat + request.bytes.toNat + request.reservedFree.toNat ≤ available.toNat := by
  simp only [insufficientSpace, not_or, UInt64.not_lt] at h
  obtain ⟨⟨hfe, hresv, hbs⟩, -⟩ := h
  rw [UInt64.le_iff_toNat_le] at hfe hresv hbs
  have hrs := UInt64.toNat_sub_of_le _ _ (UInt64.le_iff_toNat_le.mpr hfe)
  have hrm := UInt64.toNat_sub_of_le _ _ (UInt64.le_iff_toNat_le.mpr hresv)
  omega

variable {hasChecker : Bool} {i : Nat} {a a' : SpaceAdmission} {c c' : ReserveCall ε}

section

variable (h : ReserveStep hasChecker i a c a' c')
include h

/-- **A step moves the total by what it does to its own reservation.** -/
theorem ReserveStep.total (hrelies : c.Relies a.reserved) :
    a'.reserved.toNat + c.reservedBytes = a.reserved.toNat + c'.reservedBytes := by
  cases h with
  | @add available h =>
    have hrm : a.reserved.toNat + c.request.bytes.toNat + c.request.reservedFree.toNat
        ≤ available.toNat := by
      rw [ReserveCall.Relies, h] at hrelies
      exact hrelies
    have hsum : (a.reserved + c.request.bytes).toNat = a.reserved.toNat + c.request.bytes.toNat := by
      rw [UInt64.toNat_add, Nat.mod_eq_of_lt]
      exact lt_of_le_of_lt (by omega) available.toNat_lt
    simp only [ReserveCall.reservedBytes, h, ReservePc.outstanding, hsum]
    simp
  | subtract h =>
    have hle : c.request.bytes ≤ a.reserved := by
      rw [ReserveCall.Relies, h] at hrelies
      exact hrelies
    have hdiff := UInt64.toNat_sub_of_le _ _ hle
    rw [UInt64.le_iff_toNat_le] at hle
    simp only [ReserveCall.reservedBytes, h, ReservePc.outstanding, hdiff]
    simp
    omega
  | clamp h =>
    rw [ReserveCall.Relies, h] at hrelies
    exact hrelies.elim
  | releaseAgain h => rfl
  | _ => simp_all [ReserveCall.reservedBytes, ReservePc.outstanding]

lemma ReserveStep.relies (hresv : c.reservedBytes ≤ a.reserved.toNat)
    (hrelies : c.Relies a.reserved) : c'.Relies a'.reserved := by
  cases h with
  | sufficient h hspace => exact not_insufficientSpace hspace
  | covered h hle => exact hle
  | uncovered h hlt =>
    -- what is outstanding is part of the total
    simp only [ReserveCall.reservedBytes, h, ReservePc.outstanding, if_true] at hresv
    exact absurd (UInt64.le_iff_toNat_le.mpr hresv) hlt
  | releaseAgain h => exact hrelies
  | _ => trivial

/-- A step takes the lock only when it is free, and gives back only its own. -/
lemma ReserveStep.mutex (hlock : c.pc.holdsLock ↔ a.mu = some i) :
    MutexStep (fun c : ReserveCall ε => c.pc.holdsLock) i a.mu a'.mu c' := by
  cases h with
  | lock h hfe => exact .take rfl hfe
  | releaseLock h hfe => exact .take rfl hfe
  | refuse h => exact .give rfl (hlock.mp (by rw [h]; rfl))
  | grant h => exact .give rfl (hlock.mp (by rw [h]; rfl))
  | releaseUnlock h => exact .give rfl (hlock.mp (by rw [h]; rfl))
  | releaseAgain h => exact .keep hlock rfl
  | _ => exact .keep hlock (by simp_all [ReservePc.holdsLock])

lemma ReserveStep.reserved_of_unlocked (hlock : c.pc.holdsLock = false) :
    a'.reserved = a.reserved := by
  cases h <;> simp_all [ReservePc.holdsLock]

lemma ReserveStep.checked {available : UInt64} (hpc : c'.pc = .adding available) :
    a.reserved.toNat + c.request.bytes.toNat + c.request.reservedFree.toNat ≤ available.toNat := by
  cases h with
  | sufficient h hspace =>
    obtain rfl := ReservePc.adding.inj hpc
    exact not_insufficientSpace hspace
  | releaseAgain h =>
    rw [hpc] at h
    cases h
  | _ => cases hpc

end

/-- **One step of one call keeps the invariant.** -/
theorem UploadSpace.Good.step {s : UploadSpace ε} (hg : s.Good) (hc : s.calls[i]? = some c)
    (h : ReserveStep hasChecker i s.admission c a' c') :
    UploadSpace.Good ⟨a', s.calls.set i c'⟩ := by
  have hrelies := hg.relies i c hc
  have hpart : c.reservedBytes ≤ s.admission.reserved.toNat := by
    rw [hg.total]
    exact le_sum_map hc
  refine ⟨?_, hg.lock.step hc (h.mutex (hg.lock.holder hc)), ?_⟩
  · have hmove := h.total hrelies
    have hsum : ((s.calls.set i c').map ReserveCall.reservedBytes).sum + c.reservedBytes
        = s.outstanding + c'.reservedBytes := sum_map_set hc
    have htot := hg.total
    show a'.reserved.toNat = ((s.calls.set i c').map ReserveCall.reservedBytes).sum
    omega
  · intro j d hd
    rcases getElem?_set_cases hd with ⟨rfl, rfl⟩ | ⟨hji, hd⟩
    · exact h.relies hpart hrelies
    · -- either the other call is outside the lock, or this step did not touch the total
      by_cases hlock : d.pc.holdsLock
      · show d.Relies a'.reserved
        rw [h.reserved_of_unlocked (hg.lock.exclusive hc hd hji hlock)]
        exact hg.relies j d hd
      · exact d.relies_of_unlocked (Bool.not_eq_true _ ▸ hlock) _

lemma UploadSpaceStep.good {s s' : UploadSpace ε} (hg : s.Good)
    (h : UploadSpaceStep hasChecker s s') : s'.Good := by
  cases h with
  | reserve request =>
    -- a call that has just been made is outside the lock and has reserved nothing
    refine ⟨?_, hg.lock.concat rfl, ?_⟩
    · have hsum : ((s.calls ++ [(⟨request, .entered⟩ : ReserveCall ε)]).map
          ReserveCall.reservedBytes).sum = s.outstanding := by
        rw [map_append, sum_append]
        rfl
      exact hg.total.trans hsum.symm
    · intro j d hd
      rcases getElem?_concat_cases hd with hd | ⟨-, rfl⟩
      · exact hg.relies j d hd
      · trivial
  | step hc hst => exact hg.step hc hst

lemma UploadSpace.good_of_run {s : UploadSpace ε}
    (hrun : Reaches (UploadSpaceStep hasChecker) (UploadSpace.start ε) s) : s.Good :=
  hrun.invariant UploadSpace.start_good fun _ _ hg hst => hst.good hg

end

end ReCasaOS.FileSecurity
