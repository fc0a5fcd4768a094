/-
# The isolated storage manager

`pkg/publicfiles/worker_parent_linux.go`: `startRequestWorker`, `startIsolatedStorageProcess`,
`reap`, `abort`, `release`, `finishNormally` and `close`. Every request is served by a child
process of its own. The manager admits a request by putting a token into the channel `slots`,
and takes the token out again when the child has exited or has been killed. A killed child may
stay around until the kernel reaps it, so it is counted in `quarantine`, and too many of those
stop admission.

Each of these functions is run by goroutines that interleave. The model is a step relation: a
mutex section, an atomic operation outside one, a channel operation or a system call that blocks
is one step, and the program counters of the goroutines that work on one child are fields of its
`Worker`. A `sync.Once` body is entered by whoever comes first; the others wait until it is
done, which is a step that is not enabled.

A refused start (`ctx.Err()`, a closed manager, the admission limit, no free slot) changes
nothing and is not a step.
-/
import ReCasaOS.Lib.Transition

namespace ReCasaOS.PublicFiles

open Lib

/-! ## 1. The state -/

/-- The admission constants, within the bounds that `newIsolatedStorageWith` checks. -/
structure Limits where
  maxWorkers : Nat
  quarantineAdmissionLimit : Nat
  maxWorkers_bounds : 1 ≤ maxWorkers ∧ maxWorkers ≤ 8
  limit_bounds : 1 ≤ quarantineAdmissionLimit ∧ quarantineAdmissionLimit ≤ 4

/-- `DefaultMaxActiveStorageWorkers` and `DefaultQuarantineAdmissionLimit`. -/
def Limits.shipped : Limits := ⟨8, 4, by decide, by decide⟩

/-- Where `startRequestWorker` is, from the moment it has a slot. -/
inductive StartPc
  /-- In `startIsolatedStorageProcess`, no child yet. -/
  | acquired
  /-- `command.Start` has returned; `childSocket.Close` is next. -/
  | spawned
  /-- `childSocket.Close` failed, the child was killed; in `command.Wait`. -/
  | killed
  /-- The start failed; `<-m.slots` is next. -/
  | failed
  | failedDone
  /-- There is a process; the second section of `m.mu` is next. -/
  | started
  /-- Refused in that section; `go process.reap()` is next. -/
  | rejected
  /-- Refused and being reaped; `process.abort()` is next or running. -/
  | rejectedAborting
  /-- In `m.workers`; `go process.reap()` is next. -/
  | registered
  /-- The process was returned to the request. -/
  | returned
  deriving DecidableEq, Repr

/-- The body of `abortOnce`. -/
inductive AbortPc
  | idle
  /-- The section of `p.mu` is next. -/
  | locking
  /-- In `p.release()`. -/
  | releasing
  | done
  deriving DecidableEq, Repr

/-- The goroutine `reap`. -/
inductive ReapPc
  | idle
  /-- In `p.command.Wait()`. -/
  | waiting
  /-- The section of `p.mu` is next. -/
  | waited
  /-- `quarantine.Add(-1)` is next. -/
  | unquarantine
  /-- In `p.release()`. -/
  | releasing
  /-- `close(p.done)` is next. -/
  | closing
  | done
  deriving DecidableEq, Repr

/-- The body of `releaseOnce`. -/
inductive ReleasePc
  | idle
  /-- The section of `m.mu` is next. -/
  | deleting
  /-- `<-p.manager.slots` is next. -/
  | receiving
  | done
  deriving DecidableEq, Repr

/-- A call of `finishNormally`. -/
inductive FinishPc
  | idle
  | selecting
  /-- The timer fired; in `p.abort()`. -/
  | aborting
  | returned
  deriving DecidableEq, Repr

/-- One admitted request: `isolatedStorageProcess`, the goroutines that work on it, and two
history variables. -/
structure Worker where
  start : StartPc
  abort : AbortPc
  reap : ReapPc
  release : ReleasePc
  finish : FinishPc
  /-- The child has exited, whether or not it has been waited for. -/
  exited : Bool
  pidfdOpen : Bool
  finished : Bool
  quarantined : Bool
  /-- The process is a key of `m.workers`. -/
  inWorkers : Bool
  /-- History: the signal of `abort` failed with anything but `ESRCH`. -/
  signalFailed : Bool
  /-- History: how often the slot of this request was received back. -/
  slotReturns : Nat
  deriving DecidableEq

def Worker.admitted : Worker :=
  ⟨.acquired, .idle, .idle, .idle, .idle, false, false, false, false, false, false, 0⟩

/-- The fields of the manager that its workers share. -/
structure Shared where
  /-- Tokens in the channel `slots`. -/
  slots : Nat
  quarantine : Int
  signalFailure : Bool
  closed : Bool
  rootOpen : Bool
  deriving DecidableEq

structure Manager where
  shared : Shared
  workers : List Worker
  /-- The workers `close` still has to abort, in its order. -/
  closing : List Nat

/-- The manager that `bootstrap` leaves. -/
def Manager.start : Manager := ⟨⟨0, 0, false, false, true⟩, [], []⟩

/-! ## 2. What a worker is counted as -/

namespace Worker

section

variable (w : Worker)

/-- `startRequestWorker` has a slot and no process to show for it yet. -/
def startInProgress : Bool :=
  match w.start with
  | .acquired | .spawned | .killed | .failed => true
  | _ => false

/-- `startIsolatedStorageProcess` has returned a process. -/
def isProcess : Bool :=
  match w.start with
  | .started | .rejected | .rejectedAborting | .registered | .returned => true
  | _ => false

/-- The request got its process: `startRequestWorker` succeeds. -/
def startSucceeded : Bool :=
  match w.start with
  | .registered | .returned => true
  | _ => false

/-- A process whose `release` has not given the slot back. -/
def unreleased : Bool := w.isProcess && decide (w.release ≠ .done)

/-- The request occupies a slot. -/
def holdsSlot : Bool := w.startInProgress || w.unreleased

/-- The child was started and has not been waited for. -/
def live : Bool :=
  match w.start with
  | .spawned | .killed => true
  | .started | .rejected | .rejectedAborting | .registered | .returned =>
    match w.reap with
    | .idle | .waiting => true
    | _ => false
  | _ => false

/-- The section of `abort` has been executed. -/
def aborted : Bool :=
  match w.abort with
  | .releasing | .done => true
  | _ => false

/-- `reap` has waited for the child and settled its quarantine. -/
def reaped : Bool :=
  match w.reap with
  | .releasing | .closing | .done => true
  | _ => false

end

end Worker

/-! ## 3. The steps -/

/-- `startRequestWorker`, from the moment it has a slot. -/
inductive StartStep : Shared → Worker → Shared → Worker → Prop
  /-- `newStorageWorkerSocketPair`, `commandFactory` or `command.Start` fails. -/
  | startFails {sh w} (h : w.start = .acquired) : StartStep sh w sh { w with start := .failed }
  /-- `command.Start` returns; the child may exit from now on. -/
  | spawn {sh w} (h : w.start = .acquired) : StartStep sh w sh { w with start := .spawned }
  /-- `childSocket.Close` fails, or there is no pidfd: `command.Process.Kill`. -/
  | childSocketFails {sh w} (h : w.start = .spawned) :
      StartStep sh w sh { w with start := .killed }
  | childSocketClosed {sh w} (h : w.start = .spawned) :
      StartStep sh w sh { w with start := .started, pidfdOpen := true }
  /-- `command.Wait` of a start that failed. -/
  | killedWait {sh w} (h : w.start = .killed) (hexit : w.exited) :
      StartStep sh w sh { w with start := .failed }
  /-- `<-m.slots` of a start that failed. -/
  | returnSlot {sh w} (h : w.start = .failed) (hslot : 0 < sh.slots) :
      StartStep sh w { sh with slots := sh.slots - 1 }
        { w with start := .failedDone, slotReturns := w.slotReturns + 1 }
  /-- The second section of `m.mu`, admission still open. -/
  | register {sh w} (h : w.start = .started) (hopen : sh.closed = false)
      (hsignal : sh.signalFailure = false) :
      StartStep sh w sh { w with start := .registered, inWorkers := true }
  /-- The second section of `m.mu`, admission closed meanwhile. -/
  | reject {sh w} (h : w.start = .started) (hclosed : sh.closed ∨ sh.signalFailure) :
      StartStep sh w sh { w with start := .rejected }
  /-- `go process.reap()` of a registered process, which is then returned. -/
  | goReap {sh w} (h : w.start = .registered) :
      StartStep sh w sh { w with start := .returned, reap := .waiting }
  /-- `go process.reap()` of a refused process. -/
  | goReapRejected {sh w} (h : w.start = .rejected) :
      StartStep sh w sh { w with start := .rejectedAborting, reap := .waiting }

/-- `abort`. -/
inductive AbortStep : Shared → Worker → Shared → Worker → Prop
  /-- The first call: by the request, by `finishNormally`, by `close`, or by the start that was
  refused. Later calls wait for it and do nothing. -/
  | begins {sh w} (h : w.abort = .idle)
      (hshared : w.start = .registered ∨ w.start = .returned ∨ w.start = .rejectedAborting) :
      AbortStep sh w sh { w with abort := .locking }
  /-- The section of `p.mu`, the child already reaped. -/
  | finished {sh w} (h : w.abort = .locking) (hfin : w.finished) :
      AbortStep sh w sh { w with abort := .releasing }
  /-- The section of `p.mu`; the signal was accepted, or answered with `ESRCH`. -/
  | signals {sh w} (h : w.abort = .locking) (hfin : w.finished = false)
      (hpidfd : w.pidfdOpen) :
      AbortStep sh w { sh with quarantine := sh.quarantine + 1 }
        { w with abort := .releasing, quarantined := true }
  /-- The section of `p.mu`; there was no pidfd, or the signal failed. -/
  | signalFails {sh w} (h : w.abort = .locking) (hfin : w.finished = false) :
      AbortStep sh w { sh with quarantine := sh.quarantine + 1, signalFailure := true }
        { w with abort := .done, quarantined := true, signalFailed := true }
  /-- `p.release()` returns. -/
  | returns {sh w} (h : w.abort = .releasing) (hrelease : w.release = .done) :
      AbortStep sh w sh { w with abort := .done }

/-- `reap`. -/
inductive ReapStep : Shared → Worker → Shared → Worker → Prop
  /-- `p.command.Wait()` returns. -/
  | wait {sh w} (h : w.reap = .waiting) (hexit : w.exited) :
      ReapStep sh w sh { w with reap := .waited }
  /-- The section of `p.mu`. -/
  | finishes {sh w} (h : w.reap = .waited) :
      ReapStep sh w sh
        { w with
          reap := if w.quarantined then .unquarantine else .releasing
          finished := true
          pidfdOpen := false }
  /-- `quarantine.Add(-1)`. -/
  | unquarantines {sh w} (h : w.reap = .unquarantine) :
      ReapStep sh w { sh with quarantine := sh.quarantine - 1 } { w with reap := .releasing }
  /-- `p.release()` returns. -/
  | released {sh w} (h : w.reap = .releasing) (hrelease : w.release = .done) :
      ReapStep sh w sh { w with reap := .closing }
  /-- `close(p.done)`. -/
  | returns {sh w} (h : w.reap = .closing) : ReapStep sh w sh { w with reap := .done }

/-- `release`. -/
inductive ReleaseStep : Shared → Worker → Shared → Worker → Prop
  /-- The first call, by `abort` or by `reap`. -/
  | begins {sh w} (h : w.release = .idle) (hcaller : w.abort = .releasing ∨ w.reap = .releasing) :
      ReleaseStep sh w sh { w with release := .deleting }
  /-- The section of `m.mu`. -/
  | deletes {sh w} (h : w.release = .deleting) :
      ReleaseStep sh w sh { w with release := .receiving, inWorkers := false }
  /-- `<-p.manager.slots`. -/
  | receives {sh w} (h : w.release = .receiving) (hslot : 0 < sh.slots) :
      ReleaseStep sh w { sh with slots := sh.slots - 1 }
        { w with release := .done, slotReturns := w.slotReturns + 1 }

/-- `finishNormally`. -/
inductive FinishStep : Worker → FinishPc → Prop
  | begins {w} (h : w.finish = .idle) (hstart : w.start = .returned) : FinishStep w .selecting
  /-- `<-p.done`. -/
  | done {w} (h : w.finish = .selecting) (hdone : w.reap = .done) : FinishStep w .returned
  /-- `<-timer.C`; the call of `abort` that follows is a step of its own. -/
  | timesOut {w} (h : w.finish = .selecting) : FinishStep w .aborting
  | aborted {w} (h : w.finish = .aborting) (hdone : w.abort = .done) : FinishStep w .returned

/-- The steps on one child: of the goroutines that work on it, and of the child itself. -/
inductive WorkerStep : Shared → Worker → Shared → Worker → Prop
  | start {sh w sh' w'} (h : StartStep sh w sh' w') : WorkerStep sh w sh' w'
  | abort {sh w sh' w'} (h : AbortStep sh w sh' w') : WorkerStep sh w sh' w'
  | reap {sh w sh' w'} (h : ReapStep sh w sh' w') : WorkerStep sh w sh' w'
  | release {sh w sh' w'} (h : ReleaseStep sh w sh' w') : WorkerStep sh w sh' w'
  | finish {sh w pc} (h : FinishStep w pc) : WorkerStep sh w sh { w with finish := pc }
  /-- The child exits, killed or by itself. -/
  | childExits {sh w} (h : w.live) : WorkerStep sh w sh { w with exited := true }

/-- The positions of the workers that are in the map. -/
def Manager.registeredWorkers (m : Manager) : List Nat :=
  m.workers.findIdxs Worker.inWorkers

/-- The steps of the manager. -/
inductive ManagerStep (limits : Limits) : Manager → Manager → Prop
  /-- The first section of `m.mu` in `startRequestWorker`: the checks pass and the token goes
  into the channel. -/
  | enter {m : Manager} (hopen : m.shared.closed = false) (hroot : m.shared.rootOpen)
      (hsignal : m.shared.signalFailure = false)
      (hquarantine : m.shared.quarantine < limits.quarantineAdmissionLimit)
      (hslot : m.shared.slots < limits.maxWorkers) :
      ManagerStep limits m
        { m with
          shared := { m.shared with slots := m.shared.slots + 1 }
          workers := m.workers ++ [Worker.admitted] }
  /-- A goroutine of one worker takes a step. -/
  | worker {m : Manager} {i : Nat} {w w' : Worker} {sh : Shared} (hw : m.workers[i]? = some w)
      (hstep : WorkerStep m.shared w sh w') :
      ManagerStep limits m { m with shared := sh, workers := m.workers.set i w' }
  /-- The section of `m.mu` in `close`: the workers in the map are taken down. -/
  | close {m : Manager} (hopen : m.shared.closed = false) :
      ManagerStep limits m
        { m with
          shared := { m.shared with closed := true, rootOpen := false }
          closing := m.registeredWorkers }
  /-- `worker.abort()` returns to `close`. -/
  | closeNext {m : Manager} {i : Nat} {rest : List Nat} {w : Worker}
      (hclosing : m.closing = i :: rest) (hw : m.workers[i]? = some w) (habort : w.abort = .done) :
      ManagerStep limits m { m with closing := rest }

end ReCasaOS.PublicFiles
