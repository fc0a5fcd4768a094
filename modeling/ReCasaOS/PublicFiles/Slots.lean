/-
# Slots, quarantine and the bound on children

What holds in every state the isolated storage manager can reach, whatever the interleaving.

The argument is local. `Worker.Good` is an invariant of one worker, kept by every step on that
worker. The two counters of the manager count workers: `slots` those that hold a slot, and
`quarantine` those that were aborted and are not reaped. `WorkerStep.slots` and
`WorkerStep.quarantine` say that a step moves a counter exactly as it moves the worker in or out
of the count, and `Manager.Good` puts this together.

The bound on children is one more count, of the workers that hold a slot or have a live child.
No step of a worker enters it; only admission does, and admission is refused while too many
workers are in quarantine.
-/
import ReCasaOS.PublicFiles.Manager

namespace ReCasaOS.PublicFiles

open Lib List

/-! ## 1. One worker -/

namespace Worker

variable {w : Worker}

/-- The process is known outside `startRequestWorker`. -/
def Published (w : Worker) : Prop :=
  w.start = .registered ∨ w.start = .returned ∨ w.start = .rejectedAborting

instance (w : Worker) : Decidable w.Published :=
  inferInstanceAs (Decidable (w.start = .registered ∨ w.start = .returned ∨ _))

lemma holdsSlot_of_published (h : w.Published) : w.holdsSlot = decide (w.release ≠ .done) := by
  rcases h with h | h | h <;> simp [holdsSlot, startInProgress, unreleased, isProcess, h]

lemma holdsSlot_of_inProgress (h : w.startInProgress) : w.holdsSlot := by
  simp [holdsSlot, h]

lemma holdsSlot_of_unreleased (h : w.isProcess) (hrelease : w.release ≠ .done) : w.holdsSlot := by
  simp [holdsSlot, unreleased, h, hrelease]

/-- The invariant of one worker. -/
structure Good (w : Worker) : Prop where
  abort_published : w.abort ≠ .idle → w.Published
  reap_published : w.reap ≠ .idle → w.start = .returned ∨ w.start = .rejectedAborting
  /-- A release is made by an abort that could signal, or by the reaper. -/
  release_cause : w.release ≠ .idle →
    w.aborted ∧ w.signalFailed = false ∨ w.reaped
  /-- The slot was given back once if it is not held, and not at all if it is. -/
  slot : w.slotReturns = if w.holdsSlot then 0 else 1
  finished_iff : w.finished = true ↔ w.reap = .unquarantine ∨ w.reaped
  unquarantine : w.reap = .unquarantine → w.quarantined
  quarantined_aborted : w.quarantined → w.aborted
  aborted_quarantined : w.aborted → w.reaped = false → w.quarantined
  signalFailed_abort : w.signalFailed → w.abort = .done
  released : w.reap = .closing ∨ w.reap = .done → w.release = .done

lemma admitted_good : admitted.Good := by
  constructor <;> decide

/-- The slot of a published process, by the progress of its release. -/
lemma slot_of_published (hpub : w.Published)
    (h : w.slotReturns = if w.release = .done then 1 else 0) :
    w.slotReturns = if w.holdsSlot then 0 else 1 := by
  rw [h, holdsSlot_of_published hpub]
  by_cases hdn : w.release = .done <;> simp [hdn]

section

variable (hw : w.Good)
include hw

lemma Good.slot_published (hpub : w.Published) :
    w.slotReturns = if w.release = .done then 1 else 0 := by
  rw [hw.slot, holdsSlot_of_published hpub]
  by_cases hdn : w.release = .done <;> simp [hdn]

/-- A process that is not published is in no other hands. -/
lemma Good.idle (h : ¬ w.Published) : w.abort = .idle ∧ w.reap = .idle ∧ w.release = .idle := by
  have habort : w.abort = .idle := by
    by_contra hne
    exact h (hw.abort_published hne)
  have hreap : w.reap = .idle := by
    by_contra hne
    exact h (.inr (hw.reap_published hne))
  refine ⟨habort, hreap, ?_⟩
  by_contra hne
  rcases hw.release_cause hne with ⟨habt, -⟩ | hrpd
  · simp [aborted, habort] at habt
  · simp [reaped, hreap] at hrpd

/-- The start goes on with a process that is not published. -/
lemma Good.goOn (h : ¬ w.Published) {start : StartPc} {pidfdOpen inWorkers : Bool}
    (hold : w.holdsSlot)
    (hnew : w.release ≠ .done → { w with start := start }.holdsSlot) :
    { w with start := start, pidfdOpen := pidfdOpen, inWorkers := inWorkers }.Good := by
  obtain ⟨habort, hreap, hrelease⟩ := hw.idle h
  have hslot : w.slotReturns = 0 := by rw [hw.slot, if_pos hold]
  have hnew' := hnew (by simp [hrelease])
  exact { hw with
    abort_published := fun hne => absurd habort hne
    reap_published := fun hne => absurd hreap hne
    slot := hslot.trans (if_pos hnew').symm }

/-- A process that is registered and not returned yet has no reaper. -/
lemma Good.reap_idle (h : w.start = .registered) : w.reap = .idle := by
  by_contra hne
  rcases hw.reap_published hne with hs | hs <;> simp [h] at hs

/-- The reaper goes on before its section of `p.mu`, or to the end of the quarantine. -/
lemma Good.unsettled (hold : w.reaped = false) {reap : ReapPc} {finished pidfdOpen : Bool}
    (hsrt : w.start = .returned ∨ w.start = .rejectedAborting)
    (hfin : finished ↔ reap = .unquarantine)
    (hquard : reap = .unquarantine → w.quarantined)
    (hnew : { w with reap := reap }.reaped = false) :
    { w with reap := reap, finished := finished, pidfdOpen := pidfdOpen }.Good :=
  { hw with
    reap_published := fun _ => hsrt
    release_cause := fun hne => (hw.release_cause hne).imp_right fun hc => by simp [hold] at hc
    finished_iff := hfin.trans ⟨Or.inl, fun h => h.resolve_right fun hc => by cases hnew.symm.trans hc⟩
    unquarantine := hquard
    aborted_quarantined := fun ha _ => hw.aborted_quarantined ha hold
    released := fun hc => by rcases hc with rfl | rfl <;> cases hnew }

lemma Good.settled (h : w.reap ≠ .idle) {reap : ReapPc} {finished pidfdOpen : Bool}
    (hfin : finished) (hrpd : { w with reap := reap }.reaped)
    (hreld : reap = .closing ∨ reap = .done → w.release = .done) :
    { w with reap := reap, finished := finished, pidfdOpen := pidfdOpen }.Good :=
  { hw with
    reap_published := fun _ => hw.reap_published h
    release_cause := fun _ => .inr hrpd
    finished_iff := ⟨fun _ => .inr hrpd, fun _ => hfin⟩
    unquarantine := by
      rintro rfl
      cases hrpd
    aborted_quarantined := fun _ hr => by cases hrpd.symm.trans hr
    released := hreld }

/-- `go process.reap()`: the goroutine is at its first statement. -/
lemma Good.goReap (hreap : w.reap = .idle) {start : StartPc}
    (hsrt : start = .returned ∨ start = .rejectedAborting)
    (hslot : { w with start := start }.holdsSlot = w.holdsSlot) :
    { w with start := start, reap := .waiting }.Good := by
  have hrpd : w.reaped = false := by simp [reaped, hreap]
  have hfin : w.finished = false := by simpa [hreap, hrpd] using hw.finished_iff
  have hbg : { w with start := start }.Good :=
    { hw with
      abort_published := fun _ => .inr hsrt
      reap_published := fun _ => hsrt
      slot := hslot ▸ hw.slot }
  exact hbg.unsettled hrpd hsrt (by simp [hfin]) (by rintro ⟨⟩) rfl

lemma Good.pastLock (h : w.abort = .locking) {abort : AbortPc} {quarantined signalFailed : Bool}
    (haborted : { w with abort := abort }.aborted)
    (hk : w.reap = .unquarantine → quarantined)
    (hquard : w.reaped = false → quarantined)
    (hfa : signalFailed → abort = .done) :
    { w with abort := abort, quarantined := quarantined, signalFailed := signalFailed }.Good :=
  { hw with
    abort_published := fun _ => hw.abort_published (by simp [h])
    release_cause := fun hne => (hw.release_cause hne).imp (fun hc => by simp [aborted, h] at hc) id
    unquarantine := hk
    quarantined_aborted := fun _ => haborted
    aborted_quarantined := fun _ => hquard
    signalFailed_abort := hfa }

end

end Worker

section

variable {sh sh' : Shared} {w w' : Worker}

lemma StartStep.good (hst : StartStep sh w sh' w') (hw : w.Good) : w'.Good := by
  cases hst with
  | startFails h | spawn h | childSocketFails h | killedWait h _ =>
    refine hw.goOn (by simp [Worker.Published, h]) ?_ fun _ => ?_
    · exact Worker.holdsSlot_of_inProgress (by simp [Worker.startInProgress, h])
    · exact Worker.holdsSlot_of_inProgress rfl
  | childSocketClosed h =>
    refine hw.goOn (by simp [Worker.Published, h]) ?_ fun hrelease => ?_
    · exact Worker.holdsSlot_of_inProgress (by simp [Worker.startInProgress, h])
    · exact Worker.holdsSlot_of_unreleased rfl hrelease
  | register h _ _ | reject h _ =>
    have hpub : ¬ w.Published := by simp [Worker.Published, h]
    obtain ⟨-, -, hid⟩ := hw.idle hpub
    refine hw.goOn hpub ?_ fun hrelease => ?_
    · exact Worker.holdsSlot_of_unreleased (by simp [Worker.isProcess, h]) (by simp [hid])
    · exact Worker.holdsSlot_of_unreleased rfl hrelease
  | returnSlot h _ =>
    obtain ⟨habort, hreap, -⟩ := hw.idle (by simp [Worker.Published, h])
    have hslot : w.slotReturns = 0 := by
      rw [hw.slot, Worker.holdsSlot_of_inProgress (by simp [Worker.startInProgress, h]), if_pos rfl]
    exact { hw with
      abort_published := fun hne => absurd habort hne
      reap_published := fun hne => absurd hreap hne
      slot := congrArg (· + 1) hslot }
  | goReap h =>
    refine hw.goReap (hw.reap_idle h) (.inl rfl) ?_
    rw [Worker.holdsSlot_of_published (Or.inl h), Worker.holdsSlot_of_published (.inr (.inl rfl))]
  | goReapRejected h =>
    obtain ⟨-, hreap, hid⟩ := hw.idle (by simp [Worker.Published, h])
    refine hw.goReap hreap (.inr rfl) ?_
    have hold : w.holdsSlot :=
      Worker.holdsSlot_of_unreleased (by simp [Worker.isProcess, h]) (by simp [hid])
    rw [hold, Worker.holdsSlot_of_published (Or.inr (Or.inr rfl))]
    simp [hid]

lemma AbortStep.good (hst : AbortStep sh w sh' w') (hw : w.Good) : w'.Good := by
  have hsig : w.abort ≠ .done → w.signalFailed = false := by
    intro hne
    by_contra hfa
    exact hne (hw.signalFailed_abort (by simpa using hfa))
  cases hst with
  | begins h hshared =>
    have habt : w.aborted = false := by simp [Worker.aborted, h]
    exact { hw with
      abort_published := fun _ => hshared
      release_cause := fun hne => (hw.release_cause hne).imp (fun hc => by simp [habt] at hc) id
      quarantined_aborted := fun hq => by simpa [habt] using hw.quarantined_aborted hq
      aborted_quarantined := fun hc => by cases hc
      signalFailed_abort := fun hc => by simp [hsig (by simp [h])] at hc }
  | finished h hfin =>
    refine hw.pastLock h rfl hw.unquarantine (fun hr => ?_) fun hc => by simp [hsig (by simp [h])] at hc
    rcases hw.finished_iff.mp hfin with hu | hr'
    · exact hw.unquarantine hu
    · exact absurd (hr'.symm.trans hr) (by decide)
  | signals h hfin _ =>
    exact hw.pastLock h rfl (fun _ => rfl) (fun _ => rfl) fun hc => by simp [hsig (by simp [h])] at hc
  | signalFails h hfin => exact hw.pastLock h rfl (fun _ => rfl) (fun _ => rfl) fun _ => rfl
  | returns h hrelease =>
    exact { hw with
      abort_published := fun _ => hw.abort_published (by simp [h])
      release_cause := fun hne => (hw.release_cause hne).imp (fun hc => ⟨rfl, hc.2⟩) id
      quarantined_aborted := fun _ => rfl
      aborted_quarantined := fun _ hr => hw.aborted_quarantined (by simp [Worker.aborted, h]) hr
      signalFailed_abort := fun _ => rfl }

lemma ReapStep.good (hst : ReapStep sh w sh' w') (hw : w.Good) : w'.Good := by
  have hset : w.reaped → w.finished := fun h => hw.finished_iff.mpr (.inr h)
  cases hst with
  | wait h _ =>
    have hrpd : w.reaped = false := by simp [Worker.reaped, h]
    have hfin : w.finished = false := by simpa [h, hrpd] using hw.finished_iff
    exact hw.unsettled hrpd (hw.reap_published (by simp [h])) (by simp [hfin]) (by rintro ⟨⟩) rfl
  | finishes h =>
    have hrpd : w.reaped = false := by simp [Worker.reaped, h]
    by_cases hq : w.quarantined
    · rw [if_pos hq]
      exact hw.unsettled hrpd (hw.reap_published (by simp [h])) (by simp) (fun _ => hq) rfl
    · rw [if_neg hq]
      exact hw.settled (by simp [h]) rfl rfl (by simp)
  | unquarantines h =>
    exact hw.settled (by simp [h]) (hw.finished_iff.mpr (Or.inl h)) rfl (by simp)
  | released h hrelease =>
    exact hw.settled (by simp [h]) (hset (by simp [Worker.reaped, h])) rfl fun _ => hrelease
  | returns h =>
    exact hw.settled (by simp [h]) (hset (by simp [Worker.reaped, h])) rfl fun _ =>
      hw.released (.inl h)

lemma Worker.Good.release_published (hw : w.Good) (h : w.release ≠ .idle) : w.Published := by
  by_contra hpub
  exact h (hw.idle hpub).2.2

lemma ReleaseStep.good (hst : ReleaseStep sh w sh' w') (hw : w.Good) : w'.Good := by
  cases hst with
  | begins h hcaller =>
    have hpub : w.Published := by
      rcases hcaller with hc | hc
      · exact hw.abort_published (by simp [hc])
      · exact Or.inr (hw.reap_published (by simp [hc]))
    exact { hw with
      release_cause := fun _ => by
        rcases hcaller with hc | hc
        · refine Or.inl ⟨by simp [Worker.aborted, hc], ?_⟩
          by_contra hfa
          have hdn := hw.signalFailed_abort (by simpa using hfa)
          simp [hc] at hdn
        · exact Or.inr (by simp [Worker.reaped, hc])
      slot := Worker.slot_of_published hpub (by simpa [h] using hw.slot_published hpub)
      released := fun hc => by simpa [h] using hw.released hc }
  | deletes h =>
    have hpub := hw.release_published (by simp [h])
    exact { hw with
      release_cause := fun _ => hw.release_cause (by simp [h])
      slot := Worker.slot_of_published hpub (by simpa [h] using hw.slot_published hpub)
      released := fun hc => by simpa [h] using hw.released hc }
  | receives h _ =>
    have hpub := hw.release_published (by simp [h])
    exact { hw with
      release_cause := fun _ => hw.release_cause (by simp [h])
      slot := Worker.slot_of_published hpub (by simpa [h] using hw.slot_published hpub)
      released := fun _ => rfl }

lemma WorkerStep.good (hst : WorkerStep sh w sh' w') (hw : w.Good) : w'.Good := by
  cases hst with
  | start h => exact h.good hw
  | abort h => exact h.good hw
  | reap h => exact h.good hw
  | release h => exact h.good hw
  | finish h => exact { hw with }
  | childExits h => exact { hw with }

/-! ## 2. A step moves the counters as it moves the worker -/

/-- Every slot that leaves the channel is recorded as received back, and none enters it. -/
lemma WorkerStep.returns (hst : WorkerStep sh w sh' w') :
    sh'.slots + w'.slotReturns = sh.slots + w.slotReturns ∧ sh'.slots ≤ sh.slots := by
  cases hst with
  | start h =>
    cases h with
    | returnSlot h hslot =>
      simp only
      omega
    | _ => exact ⟨rfl, le_refl _⟩
  | abort h => cases h <;> exact ⟨rfl, le_refl _⟩
  | reap h => cases h <;> exact ⟨rfl, le_refl _⟩
  | release h =>
    cases h with
    | receives h hslot =>
      simp only
      omega
    | _ => exact ⟨rfl, le_refl _⟩
  | finish h => exact ⟨rfl, le_refl _⟩
  | childExits h => exact ⟨rfl, le_refl _⟩

lemma Worker.Good.slot_toNat (hw : w.Good) : w.holdsSlot.toNat + w.slotReturns = 1 := by
  rw [hw.slot]
  cases w.holdsSlot <;> rfl

/-- A step takes a token out of `slots` exactly when the worker stops holding one. -/
lemma WorkerStep.slots (hst : WorkerStep sh w sh' w') (hw : w.Good) :
    sh'.slots + w.holdsSlot.toNat = sh.slots + w'.holdsSlot.toNat := by
  have hreturns := hst.returns.1
  have hold := hw.slot_toNat
  have hnew := (hst.good hw).slot_toNat
  omega

/-- Aborted and not yet reaped. -/
def Worker.inQuarantine (w : Worker) : Bool := w.aborted && !w.reaped

attribute [local simp] Worker.inQuarantine Worker.aborted Worker.reaped

lemma StartStep.quarantine (hst : StartStep sh w sh' w') (hw : w.Good) :
    sh'.quarantine = sh.quarantine ∧ w'.inQuarantine = w.inQuarantine := by
  cases hst with
  | goReap h =>
    exact ⟨rfl, by simp [hw.reap_idle h]⟩
  | goReapRejected h =>
    obtain ⟨-, hreap, -⟩ := hw.idle (by simp [Worker.Published, h])
    exact ⟨rfl, by simp [hreap]⟩
  | _ => exact ⟨rfl, rfl⟩

/-- `abort` raises the counter when it puts the worker into quarantine, and only then. -/
lemma AbortStep.quarantine (hst : AbortStep sh w sh' w') (hw : w.Good) :
    sh'.quarantine + w.inQuarantine.toNat = sh.quarantine + w'.inQuarantine.toNat := by
  have hnotReaped : w.finished = false → w.reaped = false := by
    intro hfin
    by_contra hr
    have hfin' := hw.finished_iff.mpr (Or.inr (by simpa using hr))
    simp [hfin] at hfin'
  cases hst with
  | begins h hshared => simp [h]
  | finished h hfin =>
    -- The reaper is past its section; it would have to settle a quarantine that never began.
    have hrpd : w.reaped := by
      rcases hw.finished_iff.mp hfin with hu | hr
      · have habt := hw.quarantined_aborted (hw.unquarantine hu)
        simp [h] at habt
      · exact hr
    have hrpd' : { w with abort := AbortPc.releasing }.reaped := hrpd
    rw [Worker.inQuarantine, Worker.inQuarantine, hrpd, hrpd', Bool.not_true, Bool.and_false,
      Bool.and_false]
  | signals h hfin _ =>
    have hold : w.inQuarantine = false := by simp [h]
    have hnew : ({ w with abort := .releasing, quarantined := true } : Worker).inQuarantine := by
      have hr := hnotReaped hfin
      simp only [Worker.reaped] at hr
      simp [hr]
    rw [hold, hnew]
    simp
  | signalFails h hfin =>
    have hold : w.inQuarantine = false := by simp [h]
    have hnew : ({ w with abort := .done, quarantined := true, signalFailed := true } : Worker).inQuarantine
        := by
      have hr := hnotReaped hfin
      simp only [Worker.reaped] at hr
      simp [hr]
    rw [hold, hnew]
    simp
  | returns h hrelease =>
    have hsm : ({ w with abort := .done } : Worker).inQuarantine = w.inQuarantine := by simp [h]
    rw [hsm]

/-- `reap` lowers the counter when it takes the worker out of quarantine, and only then. -/
lemma ReapStep.quarantine (hst : ReapStep sh w sh' w') (hw : w.Good) :
    sh'.quarantine + w.inQuarantine.toNat = sh.quarantine + w'.inQuarantine.toNat := by
  cases hst with
  | wait h _ => simp [h]
  | finishes h =>
    have hrpd : w.reaped = false := by simp [Worker.reaped, h]
    by_cases hq : w.quarantined
    · rw [if_pos hq]
      simp [h]
    · have habt : w.aborted = false := by
        by_contra ha
        exact hq (hw.aborted_quarantined (by simpa using ha) hrpd)
      simp only [Worker.aborted] at habt
      simp [habt]
  | unquarantines h =>
    have habt := hw.quarantined_aborted (hw.unquarantine h)
    simp only [Worker.aborted] at habt
    simp [h, habt]
  | released h _ => simp [h]
  | returns h => simp [h]

lemma WorkerStep.quarantine (hst : WorkerStep sh w sh' w') (hw : w.Good) :
    sh'.quarantine + w.inQuarantine.toNat = sh.quarantine + w'.inQuarantine.toNat := by
  cases hst with
  | start h =>
    obtain ⟨hq, hw'⟩ := h.quarantine hw
    rw [hq, hw']
  | abort h => exact h.quarantine hw
  | reap h => exact h.quarantine hw
  | release h => cases h <;> rfl
  | finish h => rfl
  | childExits h => rfl

/-! ## 3. No step of a worker makes a new child outside a slot -/

/-- The worker holds a slot or has a live child. -/
def Worker.occupied (w : Worker) : Bool := w.holdsSlot || w.live

lemma WorkerStep.live (hst : WorkerStep sh w sh' w') (hw : w.Good) (hlv : w'.live) :
    w.live ∨ w.holdsSlot := by
  cases hst with
  | start h =>
    cases h with
    | startFails h | spawn h | childSocketFails h | childSocketClosed h | killedWait h _
    | returnSlot h _ =>
      exact Or.inr (Worker.holdsSlot_of_inProgress (by simp [Worker.startInProgress, h]))
    | register h _ _ | reject h _ | goReapRejected h =>
      obtain ⟨-, hreap, -⟩ := hw.idle (by simp [Worker.Published, h])
      exact Or.inl (by simp [Worker.live, h, hreap])
    | goReap h => exact Or.inl (by simp [Worker.live, h, hw.reap_idle h])
  | abort h => cases h <;> exact .inl hlv
  | reap h =>
    cases h with
    | wait h hexit =>
      rcases hw.reap_published (by simp [h]) with hs | hs <;> simp [Worker.live, hs] at hlv
    | finishes h =>
      by_cases hq : w.quarantined = true <;>
        rcases hw.reap_published (by simp [h]) with hs | hs <;> simp [Worker.live, hs, hq] at hlv
    | unquarantines h | released h _ | returns h =>
      rcases hw.reap_published (by simp [h]) with hs | hs <;> simp [Worker.live, hs] at hlv
  | release h => cases h <;> exact .inl hlv
  | finish h => exact .inl hlv
  | childExits h => exact .inl hlv

lemma WorkerStep.occupied (hst : WorkerStep sh w sh' w') (hw : w.Good)
    (h : w'.occupied) : w.occupied := by
  rw [Worker.occupied, Bool.or_eq_true] at h ⊢
  rcases h with hslot | hlv
  · -- A slot is never taken by a step of a worker.
    have hmove := hst.slots hw
    have hle := hst.returns.2
    rw [hslot, Bool.toNat_true] at hmove
    cases hold : w.holdsSlot with
    | true => exact .inl rfl
    | false =>
      rw [hold, Bool.toNat_false] at hmove
      omega
  · exact (hst.live hw hlv).symm

lemma Worker.Good.live_quarantine (hw : w.Good) (hlv : w.live)
    (hslot : w.holdsSlot = false) : w.inQuarantine := by
  have hprocess : w.isProcess ∧ w.reaped = false := by
    simp only [Worker.holdsSlot, Worker.startInProgress, Worker.live, Worker.isProcess,
      Worker.reaped] at *
    cases hs : w.start <;> cases hr : w.reap <;> simp_all
  have hdn : w.release = .done := by
    by_contra hne
    rw [Worker.holdsSlot_of_unreleased hprocess.1 hne] at hslot
    cases hslot
  rcases hw.release_cause (by simp [hdn]) with ⟨habt, -⟩ | hr
  · rw [Worker.inQuarantine, habt, hprocess.2]
    rfl
  · cases hprocess.2.symm.trans hr

end

/-! ## 4. The manager -/

/-- The invariant of the manager. -/
structure Manager.Good (limits : Limits) (m : Manager) : Prop where
  workers : ∀ w ∈ m.workers, w.Good
  slots : m.shared.slots = m.workers.countP Worker.holdsSlot
  slots_le : m.shared.slots ≤ limits.maxWorkers
  quarantine : m.shared.quarantine = m.workers.countP Worker.inQuarantine
  occupied : m.workers.countP Worker.occupied + 1 ≤
    limits.maxWorkers + limits.quarantineAdmissionLimit
  signalFailure : ∀ w ∈ m.workers, w.signalFailed → m.shared.signalFailure

variable {limits : Limits} {m m' : Manager}

lemma Manager.start_good (limits : Limits) : Manager.start.Good limits := by
  have hlimit := limits.limit_bounds
  refine ⟨by simp [Manager.start], by simp [Manager.start], by simp [Manager.start],
    by simp [Manager.start], ?_, by simp [Manager.start]⟩
  simp only [Manager.start, countP_nil]
  omega

/-- The workers that hold a slot or have a live child hold a slot or are in quarantine. -/
lemma Manager.Good.occupied_le (hm : m.Good limits) : m.workers.countP Worker.occupied ≤
      m.workers.countP Worker.holdsSlot + m.workers.countP Worker.inQuarantine := by
  refine countP_le_add fun w hw hocc => ?_
  rw [Worker.occupied, Bool.or_eq_true] at hocc
  rcases hocc with hslot | hlv
  · exact .inl hslot
  · cases hslot : w.holdsSlot with
    | true => exact .inl rfl
    | false => exact .inr ((hm.workers w hw).live_quarantine hlv hslot)

/-- The signal failure of a worker is recorded in the manager. -/
lemma WorkerStep.signalFailure {sh sh' : Shared} {w w' : Worker} (hst : WorkerStep sh w sh' w') :
    (sh.signalFailure → sh'.signalFailure) ∧
      (w'.signalFailed → w.signalFailed ∨ sh'.signalFailure) ∧
      (w.signalFailed → w'.signalFailed) := by
  cases hst with
  | start h => cases h <;> exact ⟨id, Or.inl, id⟩
  | abort h =>
    cases h with
    | signalFails => exact ⟨fun _ => rfl, fun _ => .inr rfl, fun _ => rfl⟩
    | _ => exact ⟨id, Or.inl, id⟩
  | reap h => cases h <;> exact ⟨id, Or.inl, id⟩
  | release h => cases h <;> exact ⟨id, Or.inl, id⟩
  | finish h => exact ⟨id, Or.inl, id⟩
  | childExits h => exact ⟨id, Or.inl, id⟩

lemma Manager.Good.step (hm : m.Good limits) (hst : ManagerStep limits m m') : m'.Good limits := by
  cases hst with
  | enter hop hrt hsig hquar hslot =>
    have hslots := hm.slots
    have hq := hm.quarantine
    have hocc := hm.occupied_le
    have hadm : Worker.admitted.holdsSlot ∧ Worker.admitted.inQuarantine = false ∧
        Worker.admitted.occupied := by decide
    obtain ⟨h1, h2, h3⟩ := hadm
    refine ⟨?_, ?_, ?_, ?_, ?_, ?_⟩
    · intro w hw
      rcases mem_append.mp hw with hw | hw
      · exact hm.workers w hw
      · rw [mem_singleton.mp hw]
        exact Worker.admitted_good
    · simp [countP_append, h1, hslots]
    · exact hslot
    · simp [countP_append, h2, hq]
    · simp only [countP_append, countP_singleton, h3, if_true]
      omega
    · intro w hw hfa
      rcases mem_append.mp hw with hw | hw
      · exact hm.signalFailure w hw hfa
      · rw [mem_singleton.mp hw] at hfa
        cases hfa
  | @worker i w w' sh hw hst =>
    have hwm := mem_of_getElem? hw
    have hg := hm.workers w hwm
    have hslots := hst.slots hg
    have hq := hst.quarantine hg
    have hslotCount := countP_set (p := Worker.holdsSlot) (b := w') hw
    have hqCount := countP_set (p := Worker.inQuarantine) (b := w') hw
    have hoccCount := countP_set (p := Worker.occupied) (b := w') hw
    obtain ⟨hkeep, hcause, -⟩ := hst.signalFailure
    have hocc : w'.occupied.toNat ≤ w.occupied.toNat := by
      cases hnew : w'.occupied with
      | false => exact Nat.zero_le _
      | true => exact Nat.le_of_eq (by rw [hst.occupied hg hnew])
    refine ⟨?_, ?_, ?_, ?_, ?_, ?_⟩
    · exact forall_mem_set hm.workers (hst.good hg)
    · have := hm.slots
      simp only
      omega
    · exact Nat.le_trans hst.returns.2 hm.slots_le
    · have := hm.quarantine
      simp only
      omega
    · have := hm.occupied
      simp only
      omega
    · refine forall_mem_set (fun a ha hfa => hkeep (hm.signalFailure a ha hfa)) ?_
      intro hfa
      rcases hcause hfa with hold | hnew
      · exact hkeep (hm.signalFailure w hwm hold)
      · exact hnew
  | close hop => exact { hm with }
  | closeNext hclosing hw habort => exact { hm with }

lemma Manager.good_of_run (hrun : Reaches (ManagerStep limits) Manager.start m) : m.Good limits :=
  hrun.invariant (Manager.start_good limits) fun _ _ hm hst => hm.step hst

/-- **The bound on isolated storage children.** In every reachable state the request workers
that were started and have not been waited for number at most
`maxWorkers + quarantineAdmissionLimit - 1`, which is 11 with the shipped constants. -/
theorem isolated_children_bound (limits : Limits) (m : Manager)
    (hrun : Reaches (ManagerStep limits) Manager.start m) :
    m.workers.countP Worker.live ≤ limits.maxWorkers + limits.quarantineAdmissionLimit - 1 ∧
      Limits.shipped.maxWorkers + Limits.shipped.quarantineAdmissionLimit - 1 = 11 := by
  have hgood := Manager.good_of_run hrun
  have hle : m.workers.countP Worker.live ≤ m.workers.countP Worker.occupied := by
    refine countP_mono_left fun w _ hlive => ?_
    simp [Worker.occupied, hlive]
  have hocc := hgood.occupied
  exact ⟨by omega, rfl⟩

/-- A request has been admitted and its child started. -/
def oneChild : Manager :=
  { Manager.start with
    shared := { Manager.start.shared with slots := 1 }
    workers := [{ Worker.admitted with start := .spawned }] }

lemma oneChild_reached : Reaches (ManagerStep Limits.shipped) Manager.start oneChild := by
  have hadmit : ManagerStep Limits.shipped Manager.start { Manager.start with
        shared := { Manager.start.shared with slots := 1 }, workers := [Worker.admitted] } :=
    ManagerStep.enter rfl rfl rfl (by decide) (by decide)
  exact (Relation.ReflTransGen.single hadmit).tail
    (ManagerStep.worker (i := 0) rfl (.start (.spawn rfl)))

theorem isolated_children_bound_one :
    oneChild.workers.countP Worker.live = 1 ∧ oneChild.workers.countP Worker.live ≤ 8 + 4 - 1 :=
  ⟨by decide, (isolated_children_bound Limits.shipped oneChild oneChild_reached).1⟩

/-! ## 5. Failed signals -/

/-- With a signal failure on record, no start succeeds any more. -/
lemma WorkerStep.startSucceeded {sh sh' : Shared} {w w' : Worker}
    (hst : WorkerStep sh w sh' w') (hsig : sh.signalFailure)
    (h : w'.startSucceeded) : w.startSucceeded := by
  cases hst with
  | start hs =>
    cases hs with
    | register _ _ hok => simp [hsig] at hok
    | goReap hreg => simp [Worker.startSucceeded, hreg]
    | _ => simp [Worker.startSucceeded] at h
  | abort hs => cases hs <;> exact h
  | reap hs => cases hs <;> exact h
  | release hs => cases hs <;> exact h
  | finish hs => exact h
  | childExits hs => exact h

/-- After a signal failure: it stays on record, and the starts that succeed are the ones that
had succeeded already. -/
structure Manager.Shut (before m : Manager) : Prop where
  signalFailure : m.shared.signalFailure
  started : ∀ (i : Nat) (w : Worker), m.workers[i]? = some w → w.startSucceeded →
    ∃ w₀, before.workers[i]? = some w₀ ∧ w₀.startSucceeded
  failed : ∀ (i : Nat) (w₀ : Worker), before.workers[i]? = some w₀ → w₀.signalFailed →
    ∃ w, m.workers[i]? = some w ∧ w.signalFailed

lemma Manager.Shut.step {before : Manager} (hshut : before.Shut m)
    (hst : ManagerStep limits m m') : before.Shut m' := by
  cases hst with
  | enter _ _ hsig _ _ =>
    rw [hshut.signalFailure] at hsig
    cases hsig
  | @worker i w w' sh hw hst =>
    obtain ⟨hkeep, -, hfa⟩ := hst.signalFailure
    refine ⟨hkeep hshut.signalFailure, ?_, ?_⟩
    · intro j v hv hsucc
      rcases getElem?_set_cases hv with ⟨rfl, rfl⟩ | ⟨-, hv⟩
      · exact hshut.started j w hw (hst.startSucceeded hshut.signalFailure hsucc)
      · exact hshut.started j v hv hsucc
    · intro j w0 hw0 hfailed
      obtain ⟨v, hv, hvf⟩ := hshut.failed j w0 hw0 hfailed
      by_cases hij : i = j
      · subst hij
        obtain rfl : w = v := Option.some.inj (hw.symm.trans hv)
        have hlt : i < m.workers.length := (List.getElem?_eq_some_iff.mp hw).1
        exact ⟨w', getElem?_set_self hlt, hfa hvf⟩
      · exact ⟨v, (getElem?_set_ne hij).trans hv, hvf⟩
  | close _ => exact { hshut with }
  | closeNext _ _ _ => exact { hshut with }

end ReCasaOS.PublicFiles
