/-
# Mutation leases and the recovery inventory

`pkg/filesecurity/managed_mutation_linux.go` (`AcquireMutation`), `managed_roots_linux.go`
(`Close`) and `managed_recovery_linux.go` (`InventoryManagedTransferTransactions`). A mutation
holds `mutationMu` and bumps `mutationGeneration` when it begins and when it ends, so the
generation is odd while it runs. An inventory takes no lease. It samples the generation before
and after it reads the directory, and calls its result complete only if both samples are the same
even number.

The calls run concurrently. A section of `m.mu`, an operation on `mutationMu`, an atomic
operation on the generation and a call of `ReadDir` are one step each. The generation is a natural
number: 2^63 mutations do not happen.
-/
import ReCasaOS.Lib.Bytes
import ReCasaOS.Lib.Transition

namespace ReCasaOS.FileSecurity

open Lib List Option

/-! ## 1. The result of an inventory -/

def maxManagedTransferInventoryEntries : Nat := 4096
def maxManagedTransferInventoryCandidates : Nat := 128

/-- The findings about the inventory as a whole. -/
inductive ManagedTransferFinding
  | parentIdentityChanged
  | directoryReadFailed
  | entryLimitExceeded
  | candidateLimitExceeded
  | concurrentMutation
  deriving DecidableEq, Repr

/-- `ManagedTransferInventoryResult`; `ι` are the items, one for each inspected transaction. -/
structure ManagedTransferInventoryResult (ι : Type) where
  items : List ι
  complete : Bool
  truncated : Bool
  scanned : Nat
  candidateCount : Nat
  findings : List ManagedTransferFinding

/-- `.recasaos-transfer-`. -/
def managedTransferTransactionPrefix : Bytes :=
  [46, 114, 101, 99, 97, 115, 97, 111, 115, 45, 116, 114, 97, 110, 115, 102, 101, 114, 45]

def isLowerHexDigit (b : UInt8) : Bool := (48 ≤ b && b ≤ 57) || (97 ≤ b && b ≤ 102)

/-- The characters of the suffix are compared as runes; a rune that is no hex digit is no byte of
one either. -/
def isManagedTransferTransactionName (name : Bytes) : Bool :=
  managedTransferTransactionPrefix.isPrefixOf name
    && decide ((name.drop managedTransferTransactionPrefix.length).length = 32)
    && (name.drop managedTransferTransactionPrefix.length).all isLowerHexDigit

namespace ManagedTransferInventoryResult

variable {ι : Type}

/-- The result an inventory starts with. -/
def start : ManagedTransferInventoryResult ι := ⟨[], true, false, 0, 0, []⟩

/-- `markManagedTransferInventoryIncomplete`. -/
def markIncomplete (result : ManagedTransferInventoryResult ι) (truncated : Bool)
    (finding : ManagedTransferFinding) : ManagedTransferInventoryResult ι :=
  { result with
    complete := false
    truncated := result.truncated || truncated
    findings := if finding ∈ result.findings then result.findings else result.findings ++ [finding] }

/-- The loop over one batch of directory entries, each with the item an inspection of it would
give. The flag is `scanComplete`. -/
def scanEntries : ManagedTransferInventoryResult ι → List (Bytes × ι) →
    ManagedTransferInventoryResult ι × Bool
  | result, [] => (result, false)
  | result, (name, item) :: entries =>
    if maxManagedTransferInventoryEntries ≤ result.scanned then
      (result.markIncomplete true .entryLimitExceeded, true)
    else
      let result := { result with scanned := result.scanned + 1 }
      if isManagedTransferTransactionName name = false then scanEntries result entries
      else
        let result := { result with candidateCount := result.candidateCount + 1 }
        if maxManagedTransferInventoryCandidates ≤ result.items.length then
          scanEntries (result.markIncomplete true .candidateLimitExceeded) entries
        else scanEntries { result with items := result.items ++ [item] } entries

/-- The comparison of the two samples. -/
def sampled (result : ManagedTransferInventoryResult ι) (baseline current : Nat) :
    ManagedTransferInventoryResult ι :=
  if baseline % 2 ≠ 0 ∨ current ≠ baseline ∨ current % 2 ≠ 0 then
    result.markIncomplete false .concurrentMutation
  else result

end ManagedTransferInventoryResult

/-! ## 2. The calls and their steps -/

/-- How `ReadDir` ends. -/
inductive ReadDirEnd
  | more
  | eof
  | failed
  deriving DecidableEq, Repr

/-- A call, and where it is. -/
inductive RootsCall (ι : Type)
  /-- `AcquireMutation`: `mutationMu.Lock()` is next. -/
  | acquiring
  /-- The section of `m.mu` that reads `closed` is next. -/
  | acquireChecking
  /-- Closed; `mutationMu.Unlock()` is next. -/
  | acquireRefusing
  | acquireRefused
  /-- `mutationGeneration.Add(1)` is next. -/
  | acquireBeginning
  /-- The lease was granted and not released. -/
  | leased
  /-- In the body of `once`; `mutationGeneration.Add(1)` is next. -/
  | releasing
  /-- `mutationMu.Unlock()` of the release is next. -/
  | releaseUnlocking
  | released
  /-- `Close`: `mutationMu.Lock()` is next. -/
  | closing
  /-- `mutationGeneration.Add(1)` is next. -/
  | closeBeginning
  /-- The section of `m.mu` is next. -/
  | closeMarking
  /-- The second `mutationGeneration.Add(1)` is next. -/
  | closeEnding
  | closeUnlocking
  | closeReturned
  /-- `InventoryManagedTransferTransactions`: the snapshot is next. -/
  | inventoryEntered
  /-- The first sample was taken; `openManagedAtFD` and the checks of the parent are next. -/
  | inventoryOpening (baseline : Nat)
  /-- `parent.ReadDir(256)` is next. -/
  | inventoryReading (baseline : Nat) (result : ManagedTransferInventoryResult ι)
  /-- `revalidateManagedTransferInventoryParent` is next. -/
  | inventoryRevalidating (baseline : Nat) (result : ManagedTransferInventoryResult ι)
  /-- `mutationGeneration.Load()` is next. -/
  | inventorySampling (baseline : Nat) (result : ManagedTransferInventoryResult ι)
  | inventoryReturned (result : ManagedTransferInventoryResult ι)
  | inventoryFailed

/-- The fields of `ManagedRoots` the calls share; the mutex knows the call that holds it. -/
structure RootsState where
  mutationMu : Option Nat
  mutationGeneration : Nat
  closed : Bool
  deriving DecidableEq

/-- The roots and every call that was made. -/
structure RootsSystem (ι : Type) where
  roots : RootsState
  calls : List (RootsCall ι)

/-- Roots that have just been opened. -/
def RootsSystem.start (ι : Type) : RootsSystem ι := ⟨⟨none, 0, false⟩, []⟩

namespace RootsCall

variable {ι : Type}

/-- The calls that have made no step. -/
def isEntry : RootsCall ι → Bool
  | acquiring | closing | inventoryEntered => true
  | _ => false

/-- The release function has been called. -/
def releaseCalled : RootsCall ι → Bool
  | releasing | releaseUnlocking | released => true
  | _ => false

def holdsMutationMu : RootsCall ι → Bool
  | acquireChecking | acquireRefusing | acquireBeginning | leased | releasing | releaseUnlocking
  | closeBeginning | closeMarking | closeEnding | closeUnlocking => true
  | _ => false

/-- The call holds a lease: its mutation has begun and not ended. -/
def holdsLease : RootsCall ι → Bool
  | leased | releasing | closeMarking | closeEnding => true
  | _ => false

end RootsCall

/-- What follows a batch: the end of the scan, another batch, or the end of the directory. -/
def afterBatch {ι : Type} (baseline : Nat) :
    ManagedTransferInventoryResult ι × Bool → ReadDirEnd → RootsCall ι
  | (result, true), _ => .inventoryRevalidating baseline result
  | (result, false), .more => .inventoryReading baseline result
  | (result, false), .eof => .inventoryRevalidating baseline result
  | (result, false), .failed =>
    .inventoryRevalidating baseline (result.markIncomplete false .directoryReadFailed)

/-- The steps of the call at position `i`. -/
inductive RootsCallStep {ι : Type} (i : Nat) :
    RootsState → RootsCall ι → RootsState → RootsCall ι → Prop
  | acquireLock {r} (hfree : r.mutationMu = none) :
      RootsCallStep i r .acquiring { r with mutationMu := some i } .acquireChecking
  | acquireClosed {r} (hclosed : r.closed) :
      RootsCallStep i r .acquireChecking r .acquireRefusing
  | acquireOpen {r} (hopen : r.closed = false) :
      RootsCallStep i r .acquireChecking r .acquireBeginning
  | acquireRefuse {r} :
      RootsCallStep i r .acquireRefusing { r with mutationMu := none } .acquireRefused
  | acquireBegin {r} :
      RootsCallStep i r .acquireBeginning
        { r with mutationGeneration := r.mutationGeneration + 1 } .leased
  /-- The first call of the release function. -/
  | release {r} : RootsCallStep i r .leased r .releasing
  /-- Any other call of it waits for `once` and returns. -/
  | releaseAgain {r c} (h : c.releaseCalled) : RootsCallStep i r c r c
  | releaseEnd {r} :
      RootsCallStep i r .releasing { r with mutationGeneration := r.mutationGeneration + 1 }
        .releaseUnlocking
  | releaseUnlock {r} :
      RootsCallStep i r .releaseUnlocking { r with mutationMu := none } .released
  | closeLock {r} (hfree : r.mutationMu = none) :
      RootsCallStep i r .closing { r with mutationMu := some i } .closeBeginning
  | closeBegin {r} :
      RootsCallStep i r .closeBeginning
        { r with mutationGeneration := r.mutationGeneration + 1 } .closeMarking
  | closeMark {r} : RootsCallStep i r .closeMarking { r with closed := true } .closeEnding
  /-- The deferred function, after `m.mu.Unlock()`. -/
  | closeEnd {r} :
      RootsCallStep i r .closeEnding { r with mutationGeneration := r.mutationGeneration + 1 }
        .closeUnlocking
  | closeUnlock {r} :
      RootsCallStep i r .closeUnlocking { r with mutationMu := none } .closeReturned
  /-- The roots are closed, or a descriptor cannot be duplicated. -/
  | snapshotFails {r} : RootsCallStep i r .inventoryEntered r .inventoryFailed
  /-- The section of `m.mu` with the first sample in it. -/
  | snapshot {r} (hopen : r.closed = false) :
      RootsCallStep i r .inventoryEntered r (.inventoryOpening r.mutationGeneration)
  /-- No root matches the path, the parent cannot be opened, or its checks fail. -/
  | openFails {r baseline} : RootsCallStep i r (.inventoryOpening baseline) r .inventoryFailed
  | opened {r baseline} :
      RootsCallStep i r (.inventoryOpening baseline) r (.inventoryReading baseline .start)
  | readDir {r baseline result} (entries : List (Bytes × ι)) (readErr : ReadDirEnd) :
      RootsCallStep i r (.inventoryReading baseline result) r
        (afterBatch baseline (result.scanEntries entries) readErr)
  | parentSame {r baseline result} :
      RootsCallStep i r (.inventoryRevalidating baseline result) r
        (.inventorySampling baseline result)
  | parentChanged {r baseline result} :
      RootsCallStep i r (.inventoryRevalidating baseline result) r
        (.inventorySampling baseline (result.markIncomplete false .parentIdentityChanged))
  /-- The last sample. -/
  | sample {r baseline result} :
      RootsCallStep i r (.inventorySampling baseline result) r
        (.inventoryReturned (result.sampled baseline r.mutationGeneration))

/-- The steps of the system. -/
inductive RootsStep {ι : Type} : RootsSystem ι → RootsSystem ι → Prop
  /-- Somebody makes a call. -/
  | call {s} (c : RootsCall ι) (hc : c.isEntry) :
      RootsStep s { s with calls := s.calls ++ [c] }
  /-- One of the calls goes on. -/
  | step {s i c r' c'} (hc : s.calls[i]? = some c) (hstep : RootsCallStep i s.roots c r' c') :
      RootsStep s ⟨r', s.calls.set i c'⟩

/-! ## 3. The generation is odd while a lease is held -/

section

variable {ι : Type}
variable {s : RootsSystem ι}

/-- **The invariant.** The mutex has at most one holder, and the generation says whether that
holder has a lease. -/
structure RootsSystem.Good (s : RootsSystem ι) : Prop where
  mutex : MutexHeld RootsCall.holdsMutationMu s.roots.mutationMu s.calls
  free : s.roots.mutationMu = none → s.roots.mutationGeneration % 2 = 0
  held : ∀ (i : Nat) (c : RootsCall ι), s.calls[i]? = some c → c.holdsMutationMu →
    s.roots.mutationGeneration % 2 = c.holdsLease.toNat

lemma RootsCall.holdsMutationMu_of_lease {c : RootsCall ι} (h : c.holdsLease) :
    c.holdsMutationMu := by
  cases c <;> first | rfl | cases h

@[simp] lemma holdsMutationMu_afterBatch (baseline : Nat)
    (p : ManagedTransferInventoryResult ι × Bool) (readErr : ReadDirEnd) :
    (afterBatch baseline p readErr).holdsMutationMu = false := by
  obtain ⟨res, _ | _⟩ := p <;> cases readErr <;> rfl

lemma RootsCall.holdsLease_eq_false {c : RootsCall ι} (h : c.holdsMutationMu = false) :
    c.holdsLease = false := by
  rw [← Bool.not_eq_true]
  intro hlease
  rw [holdsMutationMu_of_lease hlease] at h
  cases h

variable {i : Nat} {r r' : RootsState} {c c' : RootsCall ι}

/-- A step takes `mutationMu` only when it is free, and gives back only its own. -/
lemma RootsCallStep.mutex (h : RootsCallStep i r c r' c')
    (hlock : c.holdsMutationMu ↔ r.mutationMu = some i) :
    MutexStep RootsCall.holdsMutationMu i r.mutationMu r'.mutationMu c' := by
  cases h with
  | acquireLock hfe => exact .take rfl hfe
  | closeLock hfe => exact .take rfl hfe
  | acquireRefuse => exact .give rfl (hlock.mp rfl)
  | releaseUnlock => exact .give rfl (hlock.mp rfl)
  | closeUnlock => exact .give rfl (hlock.mp rfl)
  | readDir entries readErr => exact .keep hlock (holdsMutationMu_afterBatch _ _ _)
  | _ => exact .keep hlock rfl

/-- A step moves the generation and the lease of its call together, and under the mutex. -/
lemma RootsCallStep.generation (h : RootsCallStep i r c r' c') :
    (r'.mutationGeneration = r.mutationGeneration ∧ c'.holdsLease = c.holdsLease) ∨
      (r'.mutationGeneration = r.mutationGeneration + 1 ∧ c'.holdsLease = !c.holdsLease ∧
        c.holdsMutationMu ∧ c'.holdsMutationMu) := by
  cases h with
  | acquireBegin => exact .inr ⟨rfl, rfl, rfl, rfl⟩
  | releaseEnd => exact .inr ⟨rfl, rfl, rfl, rfl⟩
  | closeBegin => exact .inr ⟨rfl, rfl, rfl, rfl⟩
  | closeEnd => exact .inr ⟨rfl, rfl, rfl, rfl⟩
  | readDir entries readErr =>
    exact .inl ⟨rfl, RootsCall.holdsLease_eq_false (holdsMutationMu_afterBatch _ _ _)⟩
  | _ => exact .inl ⟨rfl, rfl⟩

/-- **One step of one call keeps the invariant.** -/
theorem RootsSystem.Good.step (hg : s.Good) (hc : s.calls[i]? = some c)
    (h : RootsCallStep i s.roots c r' c') : RootsSystem.Good ⟨r', s.calls.set i c'⟩ := by
  have hmtx := h.mutex (hg.mutex.holder hc)
  -- the generation fits the lease of this call whenever the call can see the mutex
  have hown : s.roots.mutationMu = none ∨ s.roots.mutationMu = some i →
      s.roots.mutationGeneration % 2 = c.holdsLease.toNat := by
    rintro (hfe | hheld)
    · have hout : c.holdsMutationMu = false := by
        rw [← Bool.not_eq_true, hg.mutex.holder hc, hfe]
        exact some_ne_none i ∘ Eq.symm
      rw [hg.free hfe, RootsCall.holdsLease_eq_false hout]
      rfl
    · exact hg.held i c hc ((hg.mutex.holder hc).mpr hheld)
  refine ⟨hg.mutex.step hc hmtx, ?_, ?_⟩
  · intro hfe
    have hprty := hown (hmtx.before (.inl hfe))
    have hout : c'.holdsMutationMu = false := by
      rw [← Bool.not_eq_true, hmtx.own]
      intro hheld
      cases hfe.symm.trans hheld
    rcases h.generation with ⟨hsm, hlease⟩ | ⟨-, -, -, hin⟩
    · have hno := RootsCall.holdsLease_eq_false hout
      rw [hlease] at hno
      rw [hno] at hprty
      show r'.mutationGeneration % 2 = 0
      rw [hsm]
      exact hprty
    · cases hout.symm.trans hin
  · intro j d hd hin
    rcases getElem?_set_cases hd with ⟨rfl, rfl⟩ | ⟨hji, hd⟩
    · have hprty := hown (hmtx.before (.inr (hmtx.own.mp hin)))
      show r'.mutationGeneration % 2 = _
      rcases h.generation with ⟨hsm, hlease⟩ | ⟨hnx, hlease, -, -⟩
      · rw [hsm, hlease]
        exact hprty
      · rw [hnx, hlease]
        cases hbef : c.holdsLease <;> rw [hbef] at hprty <;>
          simp only [Bool.toNat_true, Bool.toNat_false, Bool.not_true, Bool.not_false] at hprty ⊢ <;>
          omega
    · have hsm : r'.mutationGeneration = s.roots.mutationGeneration := by
        rcases h.generation with ⟨hsm, -⟩ | ⟨-, -, hheld, -⟩
        · exact hsm
        · cases hheld.symm.trans (hg.mutex.exclusive hc hd hji hin)
      show r'.mutationGeneration % 2 = _
      rw [hsm]
      exact hg.held j d hd hin

lemma RootsStep.good {s' : RootsSystem ι} (hg : s.Good) (h : RootsStep s s') : s'.Good := by
  cases h with
  | call c hc =>
    have hout : c.holdsMutationMu = false := by
      cases c <;> first | rfl | cases hc
    refine ⟨hg.mutex.concat hout, hg.free, ?_⟩
    intro j d hd hin
    rcases getElem?_concat_cases hd with hd | ⟨-, rfl⟩
    · exact hg.held j d hd hin
    · cases hout.symm.trans hin
  | step hc hst => exact hg.step hc hst

lemma RootsSystem.good_of_run (hrun : Reaches RootsStep (RootsSystem.start ι) s) : s.Good :=
  hrun.invariant ⟨mutexHeld_nil _, fun _ => rfl, by simp [start]⟩ fun _ _ hg h => h.good hg

end

end ReCasaOS.FileSecurity
