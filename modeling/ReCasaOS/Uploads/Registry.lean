/-
# The registry of upload sessions

`FileUploadService` (`service/file_upload.go`) binds keys to sessions in `uploadStatus`, under
`sessionsMu`. Every request first cleans up what has expired and prunes tombstones, then finds or
creates its session, works under the lock of the session, and in the end may delete it. A session
that was bound to a key once is a generation here, and stays in the model after the key has let it go.

The two kinds of locks are taken separately. `sessionsMu` is modelled by what its holder is about to
do (`Holder`), one lock section or system call at a time; the lock of a session is taken and given
back in two steps, and a `TryLock` in between fails. So a session can change between any two
statements of the holder.

A session only ever goes one way (`Generation.Evolves`), and that is why what the holder has read stays
true long enough: `upload_registry_safe` has the bounds, the cleanup in front of every new
generation of a key, and what pruning may remove.
-/
import ReCasaOS.Uploads.Service

namespace ReCasaOS.Uploads

open Lib FileSecurity List Option AList

/-! ## 1. State -/

def maxActiveUploadSessions : Nat := 16

def maxCompletedUploadTombstones : Nat := 128

/-- `6 * time.Hour`, in seconds. -/
def uploadSessionTTL : Nat := 21600

/-- `10 * time.Minute`, in seconds. -/
def uploadCompletionTTL : Nat := 600

/-- `!at.IsZero() && now.Sub(at) > ttl`. -/
def expiredSince (now : Nat) (time : Option Nat) (ttl : Nat) : Bool :=
  match time with
  | none => false
  | some time => decide ((ttl : Int) < now - time)

/-- `Before`, with the zero time in front of all others. -/
def before : Option Nat → Option Nat → Bool
  | none, some _ => true
  | some a, some b => decide (a < b)
  | _, none => false

/-- A session that was bound to a key. `cleaned` is history: `cleanupUploadStaging` of this session
has returned nil. -/
structure Generation (δ : Type) where
  key : Bytes
  session : UploadSession δ
  locked : Bool
  cleaned : Bool

def Generation.info {δ : Type} (generation : Generation δ) : FileInfo δ := generation.session.info

/-- What `sessionsMu` protects, and the sessions behind the pointers. -/
structure Bound (δ : Type) where
  uploadStatus : AList fun _ : Bytes => Nat
  generations : List (Generation δ)

/-- A request, with the key of its session. -/
inductive Task
  | upload (key : Bytes) (request : UploadRequest)
  | test (key : Bytes) (request : TestRequest)

/-- A request of `UploadFile` that has passed the checks on its numbers. -/
def CheckedRequest := { request : UploadRequest // request.validate = .ok () }

/-- A request that has found its session. -/
inductive Work
  | upload (key : Bytes) (request : CheckedRequest)
  | test (request : TestRequest)

/-- A request that does not hold `sessionsMu`. -/
inductive Thread
  | arrived (task : Task)
  | expired (task : Task)
  | waiting (work : Work) (generation : Nat)
  | working (work : Work) (generation : Nat)
  | deleting (key : Bytes) (generation : Nat) (requestChanged : Bool)

/-- What comes after pruning. -/
inductive AfterPrune
  | expired (task : Task)
  | create (key : Bytes) (request : CheckedRequest)
  | deleted

/-- A tombstone that pruning may evict: `cleanCompleted`. -/
structure CleanCompleted where
  key : Bytes
  completedAt : Option Nat
  deriving DecidableEq

/-- What the holder of `sessionsMu` is about to do, with the local variables of its loops; `todo` is
the part of a map that is still to be ranged over. -/
inductive Holder
  | expire (task : Task) (now : Nat) (todo : List Bytes)
  | expireTombstone (task : Task) (now : Nat) (todo : List Bytes) (key : Bytes) (generation : Nat)
      (completionExpired : Bool)
  | expireRead (task : Task) (now : Nat) (todo : List Bytes) (key : Bytes) (generation : Nat)
      (terminal requestChanged completed : Bool)
  | expireFailed (task : Task) (now : Nat) (todo : List Bytes) (generation : Nat) (cleanupErr : OpError)
  | expireCleaned (task : Task) (now : Nat) (todo : List Bytes) (key : Bytes) (generation : Nat)
      (completed : Bool)
  | prune (now : Nat) (todo : List Bytes) (clean : List CleanCompleted) (completedCount : Nat)
      (next : AfterPrune)
  | pruneRead (now : Nat) (todo : List Bytes) (clean : List CleanCompleted) (completedCount : Nat)
      (next : AfterPrune) (key : Bytes) (completed stagingClean : Bool) (completedAt : Option Nat)
  | evict (todo : List CleanCompleted) (completedCount : Nat) (next : AfterPrune)
  | evictRead (todo : List CleanCompleted) (completedCount : Nat) (next : AfterPrune) (key : Bytes)
      (eligible : Bool)
  | pruned (next : AfterPrune)
  | count (key : Bytes) (request : CheckedRequest) (todo : List Bytes) (active : Nat)
  | delete (key : Bytes) (generation : Nat) (requestChanged : Bool)
  | deleteFailed (generation : Nat) (cleanupErr : OpError)
  | deleteCleaned (key : Bytes) (generation : Nat)
  | deleteRead (key : Bytes) (generation : Nat) (completed : Bool)

/-- How the holder goes on: inside, or by giving `sessionsMu` back, as a request or with its answer. -/
inductive Next
  | go (holder : Holder)
  | release (thread : Option Thread)

/-- What is not determined by the state: the order in which a map is ranged over, the order of equal
tombstones, the time, and the error of a staging cleanup. -/
structure Oracle where
  order : List Bytes
  sorted : List CleanCompleted
  now : Nat
  cleanup : Option OpError

/-! ## 2. What the holder of the mutex does -/

section

variable {δ : Type}

/-- The order of a `range` over the map. -/
def Oracle.range (oracle : Oracle) (s : Bound δ) : List Bytes :=
  if oracle.order.Perm s.uploadStatus.keys then oracle.order else s.uploadStatus.keys

/-- `sort.Slice` by the time of completion. -/
def Oracle.sort (oracle : Oracle) (clean : List CleanCompleted) : List CleanCompleted :=
  if oracle.sorted.Perm clean ∧ oracle.sorted.Pairwise fun a b => before b.completedAt a.completedAt = false
  then oracle.sorted
  else clean.mergeSort fun a b => !before b.completedAt a.completedAt

namespace Bound

variable (s : Bound δ)

/-- What a section behind a `TryLock` reads, unless the lock is taken. -/
def tryLock (generation : Nat) : Option (FileInfo δ) :=
  match s.generations[generation]? with
  | none => none
  | some g => if g.locked then none else some g.info

def change (generation : Nat) (f : Generation δ → Generation δ) : Bound δ :=
  { s with generations := s.generations.modify generation f }

def setInfo (generation : Nat) (f : FileInfo δ → FileInfo δ) : Bound δ :=
  s.change generation fun g => { g with session := { g.session with info := f g.session.info } }

/-- A section behind a `TryLock` that writes, or nothing. -/
def tryWrite (generation : Nat) (f : FileInfo δ → FileInfo δ) : Bound δ :=
  if (s.tryLock generation).isSome then s.setInfo generation f else s

/-- `cleanupUploadStaging` has returned nil, and the descriptors are closed. -/
def markCleaned (generation : Nat) : Bound δ :=
  (s.setInfo generation fun info => { info with pinned := false }).change generation fun g =>
    { g with cleaned := true }

/-- `delete(s.uploadStatus, key)`. -/
def unbind (key : Bytes) : Bound δ := { s with uploadStatus := s.uploadStatus.erase key }

/-- `s.uploadStatus[key] = candidate` and the removal of what may be left in its staging directory. -/
def create [Inhabited δ] (key : Bytes) (request : UploadRequest) (staging : Directory)
    (cleanupErr : Option OpError) : Bound δ where
  uploadStatus := s.uploadStatus.insert key s.generations.length
  generations :=
    let candidate : FileInfo δ := request.candidate.newSession request.now
    let info := match cleanupErr with
      | some err => { candidate with init := false, cleanupErr := some err }
      | none => { candidate with stagingClean := true }
    s.generations ++ [⟨key, ⟨info, staging, [], [], []⟩, false, false⟩]

end Bound

/-- `ManagedMutationChanged(fileInfo.cleanupErr)`. -/
def reportsCleanup (cleanupErr : Option OpError) : Bool :=
  match cleanupErr with
  | none => false
  | some err => decide (Reports err)

/-- One turn of the loop of `cleanupExpiredUploads`, up to `Unlock`. -/
def expireEntry (task : Task) (now : Nat) (todo : List Bytes) (key : Bytes) (generation : Nat)
    (info : FileInfo δ) (s : Bound δ) : Bound δ × Next :=
  if info.completed && info.stagingClean then
    (s, .go (.expireTombstone task now todo key generation
      (expiredSince now info.completedAt uploadCompletionTTL)))
  else
    let init := info.init && !expiredSince now info.lastActivity uploadSessionTTL
    (s.setInfo generation fun info => { info with init := init },
      .go (.expireRead task now todo key generation (!init)
        (decide (0 < info.uploadedChunkNum) || reportsCleanup info.cleanupErr) info.completed))

/-- What is done with a tombstone that was read while pruning. -/
def pruneEntry (now : Nat) (todo : List Bytes) (clean : List CleanCompleted) (completedCount : Nat)
    (next : AfterPrune) (key : Bytes) (completed stagingClean : Bool) (completedAt : Option Nat)
    (s : Bound δ) : Bound δ × Next :=
  if completed = false then (s, .go (.prune now todo clean completedCount next))
  else if stagingClean && expiredSince now completedAt uploadCompletionTTL then
    (s.unbind key, .go (.prune now todo clean completedCount next))
  else if stagingClean then
    (s, .go (.prune now todo (clean ++ [⟨key, completedAt⟩]) (completedCount + 1) next))
  else (s, .go (.prune now todo clean (completedCount + 1) next))

/-- The end of `getOrCreateUploadSession`, when the key is free and the sessions are counted. -/
def createSession [Inhabited δ] (oracle : Oracle) (staging : Directory) (key : Bytes)
    (request : CheckedRequest) (active : Nat) (s : Bound δ) : Bound δ × Next :=
  if maxActiveUploadSessions ≤ active then (s, .release none)
  else if maxActiveUploadSessions + maxCompletedUploadTombstones ≤ s.uploadStatus.entries.length then
    (s, .release none)
  else
    (s.create key request.1 staging oracle.cleanup,
      .release (if oracle.cleanup.isSome then none
        else some (.waiting (.upload key request) s.generations.length)))

/-- One step of the holder of `sessionsMu`; `staging` is what is in a new staging directory. -/
def Holder.step [Inhabited δ] (oracle : Oracle) (staging : Directory) (s : Bound δ) :
    Holder → Bound δ × Next
  | .expire task now [] => (s, .go (.prune now (oracle.range s) [] 0 (.expired task)))
  | .expire task now (key :: todo) =>
    match s.uploadStatus.lookup key with
    | none => (s, .go (.expire task now todo))
    | some generation =>
      match s.tryLock generation with
      | none => (s, .go (.expire task now todo))
      | some info => expireEntry task now todo key generation info s
  | .expireTombstone task now todo key generation completionExpired =>
    if completionExpired && decide (s.uploadStatus.lookup key = some generation) then
      (s.unbind key, .go (.expire task now todo))
    else (s, .go (.expire task now todo))
  | .expireRead task now todo key generation terminal requestChanged completed =>
    if terminal && decide (s.uploadStatus.lookup key = some generation) then
      match oracle.cleanup with
      | some err =>
        (s, .go (.expireFailed task now todo generation (changedServiceUploadErrorIf requestChanged
          "upload staging cleanup remains incomplete" err)))
      | none =>
        (s.markCleaned generation, .go (.expireCleaned task now todo key generation completed))
    else (s, .go (.expire task now todo))
  | .expireFailed task now todo generation cleanupErr =>
    (s.tryWrite generation fun info => { info with cleanupErr := some cleanupErr },
      .go (.expire task now todo))
  | .expireCleaned task now todo key generation completed =>
    if completed then
      (s.tryWrite generation fun info => { info with stagingClean := true, cleanupErr := none },
        .go (.expire task now todo))
    else (s.unbind key, .go (.expire task now todo))
  | .prune _ [] clean completedCount next =>
    if completedCount ≤ maxCompletedUploadTombstones then (s, .go (.pruned next))
    else (s, .go (.evict (oracle.sort clean) completedCount next))
  | .prune now (key :: todo) clean completedCount next =>
    match (s.uploadStatus.lookup key).bind s.tryLock with
    | none => (s, .go (.prune now todo clean completedCount next))
    | some info =>
      (s, .go (.pruneRead now todo clean completedCount next key info.completed info.stagingClean
        info.completedAt))
  | .pruneRead now todo clean completedCount next key completed stagingClean completedAt =>
    pruneEntry now todo clean completedCount next key completed stagingClean completedAt s
  | .evict [] _ next => (s, .go (.pruned next))
  | .evict (candidate :: todo) completedCount next =>
    if completedCount ≤ maxCompletedUploadTombstones then (s, .go (.pruned next))
    else
      match (s.uploadStatus.lookup candidate.key).bind s.tryLock with
      | none => (s, .go (.evict todo completedCount next))
      | some info =>
        (s, .go (.evictRead todo completedCount next candidate.key (info.completed && info.stagingClean)))
  | .evictRead todo completedCount next key eligible =>
    if eligible then (s.unbind key, .go (.evict todo (completedCount - 1) next))
    else (s, .go (.evict todo completedCount next))
  | .pruned (.expired task) => (s, .release (some (.expired task)))
  | .pruned (.create key request) =>
    match s.uploadStatus.lookup key with
    | some generation => (s, .release (some (.waiting (.upload key request) generation)))
    | none => (s, .go (.count key request (oracle.range s) 0))
  | .pruned .deleted => (s, .release none)
  | .count key request [] active => createSession oracle staging key request active s
  | .count key request (other :: todo) active =>
    match (s.uploadStatus.lookup other).bind s.tryLock with
    | none => (s, .go (.count key request todo (active + 1)))
    | some info =>
      (s, .go (.count key request todo (if info.completed then active else active + 1)))
  | .delete key generation requestChanged =>
    match oracle.cleanup with
    | some err =>
      (s, .go (.deleteFailed generation (changedServiceUploadErrorIf requestChanged
        "upload completed but staging cleanup remains incomplete" err)))
    | none => (s.markCleaned generation, .go (.deleteCleaned key generation))
  | .deleteFailed generation cleanupErr =>
    (s.tryWrite generation fun info => { info with init := false, cleanupErr := some cleanupErr },
      .release none)
  | .deleteCleaned key generation =>
    match s.tryLock generation with
    | none => (s, .go (.deleteRead key generation true))
    | some info =>
      (s.tryWrite generation fun info => { info with stagingClean := true, cleanupErr := none },
        .go (.deleteRead key generation info.completed))
  | .deleteRead key _ completed =>
    -- a session whose state is not known counts as completed
    if completed then (s, .go (.prune oracle.now (oracle.range s) [] 0 .deleted))
    else (s.unbind key, .go (.prune oracle.now (oracle.range (s.unbind key)) [] 0 .deleted))

/-- Where a request takes `sessionsMu`. -/
def Thread.acquire (oracle : Oracle) (s : Bound δ) : Thread → Option Next
  | .arrived task => some (.go (.expire task oracle.now (oracle.range s)))
  | .expired (.upload key request) =>
    match hchecked : request.validate with
    | .error _ => some (.release none)
    | .ok _ => some (.go (.prune oracle.now (oracle.range s) [] 0 (.create key ⟨request, hchecked⟩)))
  | .expired (.test key request) =>
    some (.release ((s.uploadStatus.lookup key).map (.waiting (.test request))))
  | .deleting key generation requestChanged =>
    if s.uploadStatus.lookup key = some generation then some (.go (.delete key generation requestChanged))
    else some (.release none)
  | .waiting _ _ => none
  | .working _ _ => none

end

/-! ## 3. The system -/

section

variable {δ : Type} [DecidableEq δ] [Inhabited δ]

/-- The sessions, who holds `sessionsMu`, the requests that do not, and the files. -/
structure Registry (δ : Type) where
  bound : Bound δ
  holder : Option Holder
  threads : Multiset Thread
  destination : Directory

def Registry.start (destination : Directory) : Registry δ := ⟨⟨∅, []⟩, none, 0, destination⟩

/-- The mutex after a step of its holder. -/
def Next.holder : Next → Option Holder
  | .go holder => some holder
  | .release _ => none

/-- The requests that a step of the holder lets go on. -/
def Next.threads : Next → Multiset Thread
  | .go _ => 0
  | .release none => 0
  | .release (some thread) => {thread}

/-- What a request does after its lock section. -/
def afterSection (key : Bytes) (generation : Nat) : Except Ending Unit → Multiset Thread
  | .ok _ => {.deleting key generation true}
  | .error (.deleting requestChanged _) => {.deleting key generation requestChanged}
  | .error (.returned _) => 0

inductive RegistryStep (sha256 : Bytes → δ) : Registry δ → Registry δ → Prop
  | arrive {r : Registry δ} (task : Task) :
      RegistryStep sha256 r { r with threads := .arrived task ::ₘ r.threads }
  /-- A request fails a check on its paths or names. -/
  | refuse {r : Registry δ} {task : Task} {rest : Multiset Thread}
      (hthread : r.threads = .expired task ::ₘ rest) :
      RegistryStep sha256 r { r with threads := rest }
  | acquire {r : Registry δ} {thread : Thread} {rest : Multiset Thread} {next : Next} (oracle : Oracle)
      (hthread : r.threads = thread ::ₘ rest) (hfree : r.holder = none)
      (hnext : thread.acquire oracle r.bound = some next) :
      RegistryStep sha256 r { r with holder := next.holder, threads := next.threads + rest }
  | hold {r : Registry δ} {holder : Holder} (oracle : Oracle) (staging : Directory)
      (hholder : r.holder = some holder) :
      RegistryStep sha256 r { r with
        bound := (holder.step oracle staging r.bound).1
        holder := (holder.step oracle staging r.bound).2.holder
        threads := (holder.step oracle staging r.bound).2.threads + r.threads }
  | lock {r : Registry δ} {work : Work} {g : Nat} {generation : Generation δ} {rest : Multiset Thread}
      (hthread : r.threads = .waiting work g ::ₘ rest) (hget : r.bound.generations[g]? = some generation)
      (hfree : generation.locked = false) :
      RegistryStep sha256 r { r with
        bound := r.bound.change g fun generation => { generation with locked := true }
        threads := .working work g ::ₘ rest }
  | upload {r : Registry δ} {key : Bytes} {request : CheckedRequest} {g : Nat}
      {generation : Generation δ} {rest : Multiset Thread} (faults : List (Option Failure))
      (hthread : r.threads = .working (.upload key request) g ::ₘ rest)
      (hget : r.bound.generations[g]? = some generation) :
      RegistryStep sha256 r { r with
        bound := r.bound.change g fun generation => { generation with
          session := (uploadLocked sha256 request.1
            ⟨⟨generation.session, r.destination⟩, faults⟩).2.state.session
          locked := false }
        threads := afterSection key g (uploadLocked sha256 request.1
          ⟨⟨generation.session, r.destination⟩, faults⟩).1 + rest
        destination := (uploadLocked sha256 request.1
          ⟨⟨generation.session, r.destination⟩, faults⟩).2.state.destination }
  | test {r : Registry δ} {request : TestRequest} {g : Nat}
      {generation : Generation δ} {rest : Multiset Thread} (faults : List (Option Failure))
      (hthread : r.threads = .working (.test request) g ::ₘ rest)
      (hget : r.bound.generations[g]? = some generation) :
      RegistryStep sha256 r { r with
        bound := r.bound.change g fun generation => { generation with
          session := (testChunkLocked request
            ⟨⟨generation.session, r.destination⟩, faults⟩).2.state.session
          locked := false }
        threads := rest }
  /-- Others do what they like to the staging files of a session and to the files outside. -/
  | tamper {r : Registry δ} (g : Nat) (staging destination : Directory) :
      RegistryStep sha256 r { r with
        bound := r.bound.change g fun generation => { generation with
          session := { generation.session with staging := staging } }
        destination := destination }

end

/-! ## 4. A session goes one way -/

section

variable {δ : Type}
variable {a : Generation δ} {s : Bound δ} {f : Generation δ → Generation δ} {sha256 : Bytes → δ}
variable {g : Nat}

/-- What time does to a generation: it keeps its key, what is completed, given up or cleaned stays so,
a session that is given up is not completed later, and a clean tombstone stays clean. -/
structure Generation.Evolves (a b : Generation δ) : Prop where
  key : b.key = a.key
  cleaned : a.cleaned → b.cleaned
  completed : a.info.completed → b.info.completed
  terminal : a.info.init = false → b.info.init = false ∧ b.info.completed = a.info.completed
  tombstone : a.info.completed → a.info.stagingClean → b.info.stagingClean

/-- What holds of a generation by itself. -/
structure Generation.Good (sha256 : Bytes → δ) (g : Generation δ) : Prop where
  session : g.session.Good sha256
  tombstone : g.info.completed → g.info.stagingClean → g.cleaned
  cleaned : g.cleaned → g.info.init = false
  completed : g.info.completed → g.info.init = false

lemma Generation.Evolves.refl (g : Generation δ) : g.Evolves g :=
  ⟨rfl, id, id, fun h => ⟨h, rfl⟩, fun _ => id⟩

lemma Generation.Evolves.trans {b c : Generation δ} (h : a.Evolves b) (h' : b.Evolves c) :
    a.Evolves c where
  key := h'.key.trans h.key
  cleaned ha := h'.cleaned (h.cleaned ha)
  completed ha := h'.completed (h.completed ha)
  terminal ha := ⟨(h'.terminal (h.terminal ha).1).1,
    (h'.terminal (h.terminal ha).1).2.trans (h.terminal ha).2⟩
  tombstone ha hcln := h'.tombstone (h.completed ha) (h.tombstone ha hcln)

/-- The generations have gone on. -/
def Bound.Evolves (s t : Bound δ) : Prop :=
  ∀ (g : Nat) (a : Generation δ), s.generations[g]? = some a →
    ∃ b, t.generations[g]? = some b ∧ a.Evolves b

lemma Bound.Evolves.refl (s : Bound δ) : s.Evolves s := fun _ a ha => ⟨a, ha, .refl a⟩

lemma Bound.Evolves.trans {t u : Bound δ} (h : s.Evolves t) (h' : t.Evolves u) : s.Evolves u := by
  intro g a ha
  obtain ⟨b, hb, hab⟩ := h g a ha
  obtain ⟨c, hc, hbc⟩ := h' g b hb
  exact ⟨c, hc, hab.trans hbc⟩

/-- Whether a key is bound to a session that is not completed. -/
def Bound.isActive (s : Bound δ) (key : Bytes) : Bool :=
  match (s.uploadStatus.lookup key).bind fun g => s.generations[g]? with
  | none => false
  | some g => !g.info.completed

/-- The invariant of the registry. -/
structure Bound.Good (sha256 : Bytes → δ) (s : Bound δ) : Prop where
  bound : ∀ (key : Bytes) (g : Nat), s.uploadStatus.lookup key = some g →
    ∃ a : Generation δ, s.generations[g]? = some a ∧ a.key = key
  each : ∀ (g : Nat) (a : Generation δ), s.generations[g]? = some a → a.Good sha256
  unbound : ∀ (g : Nat) (a : Generation δ), s.generations[g]? = some a →
    s.uploadStatus.lookup a.key ≠ some g → a.cleaned
  ordered : ∀ (g : Nat) (a : Generation δ) (g' : Nat) (b : Generation δ),
    s.generations[g]? = some a → s.generations[g']? = some b → g < g' → a.key = b.key →
    a.cleaned
  total : s.uploadStatus.entries.length ≤ maxActiveUploadSessions + maxCompletedUploadTombstones
  active : s.uploadStatus.keys.countP s.isActive ≤ maxActiveUploadSessions

lemma getElem?_change {g' : Nat} {b : Generation δ}
    (hb : (s.change g f).generations[g']? = some b) :
    ∃ a, s.generations[g']? = some a ∧ b = if g = g' then f a else a := by
  have hmodify := getElem?_modify f g s.generations g'
  obtain ⟨a, ha, hab⟩ := map_eq_some_iff.mp (hmodify.symm.trans hb)
  exact ⟨a, ha, hab.symm⟩

lemma getElem?_change_of {g' : Nat} (ha : s.generations[g']? = some a) :
    (s.change g f).generations[g']? = some (if g = g' then f a else a) := by
  refine (getElem?_modify f g s.generations g').trans ?_
  rw [ha]
  rfl

variable (hs : s.Good sha256)
include hs

variable {key : Bytes}

/-- If the generations go on, a key that stays where it is does not become active. -/
lemma isActive_mono {t : Bound δ}
    (hst : t.uploadStatus.lookup key = s.uploadStatus.lookup key) (h : s.Evolves t)
    (hact : t.isActive key) : s.isActive key := by
  unfold Bound.isActive at hact ⊢
  rw [hst] at hact
  cases hlk : s.uploadStatus.lookup key with
  | none =>
    rw [hlk] at hact
    cases hact
  | some g =>
    obtain ⟨a, ha, -⟩ := hs.bound key g hlk
    obtain ⟨b, hb, hab⟩ := h g a ha
    simp only [hlk, bind_some, ha, hb] at hact ⊢
    cases hcm : a.info.completed with
    | false => rfl
    | true =>
      rw [hab.completed hcm] at hact
      cases hact

/-- **A change that lets every generation go on and keeps each of them good keeps the invariant.** -/
theorem Bound.Good.evolve {t : Bound δ} (hst : t.uploadStatus = s.uploadStatus)
    (hlen : t.generations.length = s.generations.length) (h : s.Evolves t)
    (heach : ∀ (g : Nat) (a : Generation δ), t.generations[g]? = some a → a.Good sha256) :
    t.Good sha256 := by
  have hback : ∀ (g : Nat) (b : Generation δ), t.generations[g]? = some b →
      ∃ a, s.generations[g]? = some a ∧ a.Evolves b := by
    intro g b hb
    have hg : g < s.generations.length := hlen ▸ (List.getElem?_eq_some_iff.mp hb).1
    obtain ⟨b', hb', hab⟩ := h g _ (getElem?_eq_getElem hg)
    obtain rfl := some.inj (hb.symm.trans hb')
    exact ⟨_, getElem?_eq_getElem hg, hab⟩
  refine ⟨fun key g hlk => ?_, heach, fun g b hb hne => ?_, fun g b g' b' hb hb' hlt hkey => ?_, ?_, ?_⟩
  · rw [hst] at hlk
    obtain ⟨a, ha, hkey⟩ := hs.bound key g hlk
    obtain ⟨b, hb, hab⟩ := h g a ha
    exact ⟨b, hb, hab.key.trans hkey⟩
  · obtain ⟨a, ha, hab⟩ := hback g b hb
    rw [hst, hab.key] at hne
    exact hab.cleaned (hs.unbound g a ha hne)
  · obtain ⟨a, ha, hab⟩ := hback g b hb
    obtain ⟨a', ha', hab'⟩ := hback g' b' hb'
    exact hab.cleaned (hs.ordered g a g' a' ha ha' hlt (hab.key.symm.trans (hkey.trans hab'.key)))
  · rw [hst]
    exact hs.total
  · rw [hst]
    exact (countP_mono_left fun key _ hact =>
      isActive_mono hs (by rw [hst]) h hact).trans hs.active

lemma Bound.Good.change
    (hf : ∀ a : Generation δ, s.generations[g]? = some a → a.Evolves (f a) ∧ (f a).Good sha256) :
    (s.change g f).Good sha256 ∧ s.Evolves (s.change g f) := by
  have hevo : s.Evolves (s.change g f) := by
    intro g' a ha
    refine ⟨_, getElem?_change_of ha, ?_⟩
    split
    next hg =>
      subst hg
      exact (hf a ha).1
    · exact .refl a
  refine ⟨hs.evolve rfl (length_modify _ _ _) hevo fun g' b hb => ?_, hevo⟩
  obtain ⟨a, ha, rfl⟩ := getElem?_change hb
  split
  next hg =>
    subst hg
    exact (hf a ha).2
  · exact hs.each g' a ha

/-- What the holder may write into a session. -/
structure Generation.Writes (a : Generation δ) (info : FileInfo δ) : Prop where
  retires : Retires a.info info
  clean : a.info.completed → info.stagingClean → a.cleaned
  stays : a.info.completed → a.info.stagingClean → info.stagingClean

lemma Bound.Good.setInfo {f : FileInfo δ → FileInfo δ}
    (hf : ∀ a : Generation δ, s.generations[g]? = some a → a.Writes (f a.info)) :
    (s.setInfo g f).Good sha256 ∧ s.Evolves (s.setInfo g f) := by
  refine hs.change fun a ha => ?_
  obtain ⟨hretires, hcln, hsts⟩ := hf a ha
  have hg := hs.each g a ha
  have hcm : (f a.info).completed = a.info.completed := by
    obtain ⟨init, stagingClean, cleanupErr, pinned, hinfo⟩ := hretires.rest
    rw [hinfo]
  have hin : a.info.init = false → (f a.info).init = false := by
    intro h
    rw [← Bool.not_eq_true] at h ⊢
    exact fun hin => h (hretires.init hin)
  refine ⟨⟨rfl, id, fun h => hcm.trans h, fun h => ⟨hin h, hcm⟩, hsts⟩, ?_⟩
  refine ⟨hretires.good hg.session, fun h => ?_, fun h => hin (hg.cleaned h), fun h => ?_⟩
  · exact hcln (hcm.symm.trans h)
  · exact hin (hg.completed (hcm.symm.trans h))

lemma Bound.Good.tryWrite {f : FileInfo δ → FileInfo δ}
    (hf : ∀ a : Generation δ, s.generations[g]? = some a → a.Writes (f a.info)) :
    (s.tryWrite g f).Good sha256 ∧ s.Evolves (s.tryWrite g f) := by
  unfold Bound.tryWrite
  split
  · exact hs.setInfo hf
  · exact ⟨hs, .refl s⟩

lemma Bound.Good.tryWriteClean (ha : s.generations[g]? = some a) (hclnd : a.cleaned) :
    (s.tryWrite g fun info => { info with stagingClean := true, cleanupErr := none }).Good sha256 ∧
      s.Evolves (s.tryWrite g fun info => { info with stagingClean := true, cleanupErr := none }) := by
  refine hs.tryWrite fun b hb => ?_
  obtain rfl := some.inj (ha.symm.trans hb)
  exact ⟨⟨id, _, _, _, _, rfl⟩, fun _ _ => hclnd, fun _ _ => rfl⟩

lemma Bound.Good.markCleaned (ha : s.generations[g]? = some a) (hin : a.info.init = false) :
    (s.markCleaned g).Good sha256 ∧ s.Evolves (s.markCleaned g) ∧
      ∃ b, (s.markCleaned g).generations[g]? = some b ∧ b.cleaned := by
  have hwrt := hs.setInfo (g := g) (f := fun info => { info with pinned := false }) fun b hb =>
    ⟨⟨id, b.info.init, b.info.stagingClean, b.info.cleanupErr, false, rfl⟩,
      (hs.each g b hb).tombstone, fun _ => id⟩
  have hcln := hwrt.1.change (g := g) (f := fun b => { b with cleaned := true }) fun b hb => by
    have hg := hwrt.1.each g b hb
    obtain ⟨b', hb', hab⟩ := hwrt.2 g a ha
    obtain rfl := some.inj (hb.symm.trans hb')
    exact ⟨⟨rfl, fun _ => rfl, id, fun h => ⟨h, rfl⟩, fun _ => id⟩,
      ⟨hg.session, fun _ _ => rfl, fun _ => (hab.terminal hin).1, hg.completed⟩⟩
  obtain ⟨b, hb, hab⟩ := hwrt.2 g a ha
  exact ⟨hcln.1, hwrt.2.trans hcln.2, _, getElem?_change_of hb, by rw [if_pos rfl]⟩

lemma Bound.Good.unbind
    (hclnd : ∀ (g : Nat) (a : Generation δ), s.uploadStatus.lookup key = some g →
      s.generations[g]? = some a → a.cleaned) :
    (s.unbind key).Good sha256 := by
  have hoth : ∀ {other : Bytes}, other ≠ key →
      (s.unbind key).uploadStatus.lookup other = s.uploadStatus.lookup other :=
    fun h => lookup_erase_ne h
  have hno : (s.unbind key).uploadStatus.lookup key = none := lookup_erase _ _
  refine ⟨fun other g hlk => ?_, hs.each, fun g a ha hne => ?_, hs.ordered, ?_, ?_⟩
  · by_cases hkey : other = key
    · subst hkey
      cases hno.symm.trans hlk
    · exact hs.bound other g (hoth hkey ▸ hlk)
  · by_cases hkey : a.key = key
    · by_cases hbd : s.uploadStatus.lookup key = some g
      · exact hclnd g a hbd ha
      · exact hs.unbound g a ha (hkey ▸ hbd)
    · rw [hoth hkey] at hne
      exact hs.unbound g a ha hne
  · exact (kerase_sublist _ _).length_le.trans hs.total
  · have hkeys : (s.unbind key).uploadStatus.keys.Sublist s.uploadStatus.keys :=
      (kerase_sublist _ _).map Sigma.fst
    refine (hkeys.countP_le.trans ?_).trans hs.active
    refine countP_mono_left fun other _ hact => ?_
    by_cases hkey : other = key
    · subst hkey
      rw [Bound.isActive, hno] at hact
      cases hact
    · exact isActive_mono hs (hoth hkey) (.refl s) hact

lemma Bound.Good.create [Inhabited δ] (hfe : s.uploadStatus.lookup key = none)
    (request : UploadRequest) (staging : Directory) (cleanupErr : Option OpError)
    (htot : s.uploadStatus.entries.length < maxActiveUploadSessions + maxCompletedUploadTombstones)
    (hact : s.uploadStatus.keys.countP s.isActive < maxActiveUploadSessions) :
    (s.create key request staging cleanupErr).Good sha256 ∧
      s.Evolves (s.create key request staging cleanupErr) := by
  obtain ⟨info, hinfo, hcm, hcreate⟩ : ∃ info : FileInfo δ,
      UploadSession.Good sha256 ⟨info, staging, [], [], []⟩ ∧ info.completed = false ∧
        s.create key request staging cleanupErr = ⟨s.uploadStatus.insert key s.generations.length,
          s.generations ++ [⟨key, ⟨info, staging, [], [], []⟩, false, false⟩]⟩ := by
    have hact := newSession_active sha256 request.candidate request.now staging
    have hretired : ∀ info : FileInfo δ, Retires (request.candidate.newSession request.now) info →
        UploadSession.Good sha256 ⟨info, staging, [], [], []⟩ :=
      fun info h => @Retires.good δ sha256 ⟨_, staging, [], [], []⟩ info h (.inl hact)
    cases cleanupErr with
    | none =>
      refine ⟨_, hretired _ ⟨?_, true, true, none, false, ?_⟩, ?_, rfl⟩
      all_goals first | exact id | rfl
    | some err =>
      refine ⟨_, hretired _ ⟨?_, false, false, some err, false, ?_⟩, ?_, rfl⟩
      · exact fun h => nomatch h
      all_goals rfl
  rw [hcreate]
  have hself : (s.uploadStatus.insert key s.generations.length).lookup key = some s.generations.length :=
    lookup_insert _
  have hoth : ∀ {other : Bytes}, other ≠ key →
      (s.uploadStatus.insert key s.generations.length).lookup other = s.uploadStatus.lookup other :=
    fun h => lookup_insert_ne h
  have hevo : s.Evolves ⟨s.uploadStatus.insert key s.generations.length,
      s.generations ++ [⟨key, ⟨info, staging, [], [], []⟩, false, false⟩]⟩ := fun g a ha =>
    ⟨a, (getElem?_append_left (List.getElem?_eq_some_iff.mp ha).1).trans ha, .refl a⟩
  have hclnd : ∀ {g : Nat} {a : Generation δ}, s.generations[g]? = some a → a.key = key →
      a.cleaned := by
    intro g a ha hkey
    refine hs.unbound g a ha ?_
    rw [hkey, hfe]
    exact some_ne_none g ∘ Eq.symm
  refine ⟨⟨fun other g hlk => ?_, fun g a ha => ?_, fun g a ha hne => ?_,
    fun g a g' b ha hb hlt hkey => ?_, ?_, ?_⟩, hevo⟩
  · by_cases hkey : other = key
    · subst hkey
      obtain rfl := some.inj (hself.symm.trans hlk)
      exact ⟨_, getElem?_concat_length, rfl⟩
    · obtain ⟨a, ha, hakey⟩ := hs.bound other g (hoth hkey ▸ hlk)
      obtain ⟨b, hb, hab⟩ := hevo g a ha
      exact ⟨b, hb, hab.key.trans hakey⟩
  · rcases getElem?_concat_cases ha with ha | ⟨-, rfl⟩
    · exact hs.each g a ha
    · refine ⟨hinfo, fun h => ?_, fun h => (nomatch h), fun h => ?_⟩
      all_goals cases hcm.symm.trans h
  · rcases getElem?_concat_cases ha with ha | ⟨rfl, rfl⟩
    · by_cases hkey : a.key = key
      · exact hclnd ha hkey
      · exact hs.unbound g a ha (hoth hkey ▸ hne)
    · exact absurd hself hne
  · rcases getElem?_concat_cases hb with hb | ⟨rfl, rfl⟩
    · have hlt' := (List.getElem?_eq_some_iff.mp hb).1
      rw [getElem?_append_left (by omega)] at ha
      exact hs.ordered g a g' b ha hb hlt hkey
    · rw [getElem?_append_left hlt] at ha
      exact hclnd ha hkey
  · have hlen := (kerase_sublist key s.uploadStatus.entries).length_le
    change (kerase key s.uploadStatus.entries).length + 1 ≤ _
    omega
  · have hkeys : (kerase key s.uploadStatus.entries).keys.Sublist s.uploadStatus.keys :=
      (kerase_sublist _ _).map Sigma.fst
    refine Nat.le_trans ?_ hact
    change (key :: (kerase key s.uploadStatus.entries).keys).countP _ ≤ _
    rw [countP_cons]
    refine Nat.add_le_add ((countP_mono_left fun other hmem hact' => ?_).trans hkeys.countP_le)
      (ite_le_one (Nat.le_refl 1) (Nat.zero_le 1))
    refine isActive_mono hs (hoth ?_) hevo hact'
    rintro rfl
    exact notMem_keys_kerase other s.uploadStatus.nodupKeys hmem

end

/-! ## 5. What the holder knows -/

section

variable {δ : Type}
variable {s : Bound δ} {key : Bytes} {sha256 : Bytes → δ}

/-- The key is bound to a generation of which `p` holds. -/
def Bound.Names (s : Bound δ) (key : Bytes) (g : Nat) (p : Generation δ → Prop) : Prop :=
  s.uploadStatus.lookup key = some g ∧ ∃ a, s.generations[g]? = some a ∧ p a

/-- A tombstone whose staging is clean. -/
def Generation.CleanTombstone (a : Generation δ) : Prop :=
  a.info.completed ∧ a.info.stagingClean

/-- What the holder has read and still relies on. -/
def Holder.Knows (s : Bound δ) : Holder → Prop
  | .expireTombstone _ _ _ _ g _ => ∃ a, s.generations[g]? = some a ∧ a.CleanTombstone
  | .expireRead _ _ _ _ g terminal _ completed => terminal →
    ∃ a, s.generations[g]? = some a ∧ a.info.init = false ∧ a.info.completed = completed
  | .expireCleaned _ _ _ key g _ => s.Names key g fun a => a.cleaned
  | .pruneRead _ _ _ _ _ key completed stagingClean _ => completed → stagingClean →
    ∃ g, s.Names key g Generation.CleanTombstone
  | .evictRead _ _ _ key eligible => eligible → ∃ g, s.Names key g Generation.CleanTombstone
  | .count key _ todo active => s.uploadStatus.lookup key = none ∧
    ∃ visited, (visited ++ todo).Perm s.uploadStatus.keys ∧ visited.countP s.isActive ≤ active
  | .delete key g _ => s.Names key g fun a => a.info.init = false
  | .deleteCleaned key g => s.Names key g fun a => a.cleaned
  | .deleteRead key g completed => completed = false → s.Names key g fun a => a.cleaned
  | _ => True

/-- A request is going to delete only what was given up. -/
def Thread.Knows (s : Bound δ) : Thread → Prop
  | .deleting _ g _ => ∃ a, s.generations[g]? = some a ∧ a.info.init = false
  | _ => True

variable {t : Bound δ}

lemma Bound.Names.evolve {g : Nat} {p : Generation δ → Prop}
    (hst : t.uploadStatus = s.uploadStatus) (h : s.Evolves t)
    (hp : ∀ a b : Generation δ, a.Evolves b → p a → p b) (hs : s.Names key g p) :
    t.Names key g p := by
  obtain ⟨hlk, a, ha, hpa⟩ := hs
  obtain ⟨b, hb, hab⟩ := h g a ha
  exact ⟨hst ▸ hlk, b, hb, hp a b hab hpa⟩

lemma CleanTombstone.evolve {a b : Generation δ} (h : a.Evolves b) (ha : a.CleanTombstone) :
    b.CleanTombstone :=
  ⟨h.completed ha.1, h.tombstone ha.1 ha.2⟩

/-- **What the holder knows stays true** while others work on the sessions. -/
theorem Holder.Knows.evolve (hs : s.Good sha256)
    (hst : t.uploadStatus = s.uploadStatus) (h : s.Evolves t) {holder : Holder}
    (hkn : holder.Knows s) : holder.Knows t := by
  have hclnd : ∀ a b : Generation δ, a.Evolves b → a.cleaned → b.cleaned :=
    fun a b hab => hab.cleaned
  have htomb : ∀ a b : Generation δ, a.Evolves b → a.CleanTombstone → b.CleanTombstone :=
    fun a b => CleanTombstone.evolve
  cases holder with
  | expireTombstone _ _ _ _ g _ =>
    obtain ⟨a, ha, hcln⟩ := hkn
    obtain ⟨b, hb, hab⟩ := h g a ha
    exact ⟨b, hb, CleanTombstone.evolve hab hcln⟩
  | expireRead _ _ _ _ g terminal _ completed =>
    intro hterm
    obtain ⟨a, ha, hin, hcm⟩ := hkn hterm
    obtain ⟨b, hb, hab⟩ := h g a ha
    exact ⟨b, hb, (hab.terminal hin).1, (hab.terminal hin).2.trans hcm⟩
  | expireCleaned _ _ _ key g _ => exact Bound.Names.evolve hst h hclnd hkn
  | pruneRead _ _ _ _ _ key completed stagingClean _ =>
    intro hcm hcln
    obtain ⟨g, hg⟩ := hkn hcm hcln
    exact ⟨g, hg.evolve hst h htomb⟩
  | evictRead _ _ _ key eligible =>
    intro helig
    obtain ⟨g, hg⟩ := hkn helig
    exact ⟨g, hg.evolve hst h htomb⟩
  | count key _ todo active =>
    obtain ⟨hfe, visited, hpm, hcnt⟩ := hkn
    refine ⟨hst ▸ hfe, visited, hst ▸ hpm, le_trans ?_ hcnt⟩
    exact countP_mono_left fun other _ hact => isActive_mono hs (by rw [hst]) h hact
  | delete key g _ =>
    exact Bound.Names.evolve hst h (fun a b hab hin => (hab.terminal hin).1) hkn
  | deleteCleaned key g => exact Bound.Names.evolve hst h hclnd hkn
  | deleteRead key g completed =>
    exact fun hcm => (hkn hcm).evolve hst h hclnd
  | expire => trivial
  | expireFailed => trivial
  | prune => trivial
  | evict => trivial
  | pruned => trivial
  | deleteFailed => trivial

lemma Thread.Knows.evolve (h : s.Evolves t) {thread : Thread}
    (hkn : thread.Knows s) : thread.Knows t := by
  cases thread with
  | deleting _ g _ =>
    obtain ⟨a, ha, hin⟩ := hkn
    obtain ⟨b, hb, hab⟩ := h g a ha
    exact ⟨b, hb, (hab.terminal hin).1⟩
  | arrived => trivial
  | expired => trivial
  | waiting => trivial
  | working => trivial

/-- What is known after a step of the holder. -/
def Next.Knows (s : Bound δ) : Next → Prop
  | .go holder => holder.Knows s
  | .release thread => ∀ t ∈ thread, Thread.Knows s t

variable {info : FileInfo δ}

lemma tryLock_eq_some {g : Nat} (h : s.tryLock g = some info) :
    ∃ a, s.generations[g]? = some a ∧ a.locked = false ∧ a.info = info := by
  unfold Bound.tryLock at h
  split at h
  · cases h
  next a ha =>
    split at h
    · cases h
    next hfe =>
      exact ⟨a, ha, Bool.eq_false_of_not_eq_true hfe, some.inj h⟩

lemma bind_tryLock_eq_some (h : (s.uploadStatus.lookup key).bind s.tryLock = some info) :
    ∃ g, s.Names key g fun a => a.info = info := by
  obtain ⟨g, hlk, hrd⟩ := bind_eq_some_iff.mp h
  obtain ⟨a, ha, -, hinfo⟩ := tryLock_eq_some hrd
  exact ⟨g, hlk, a, ha, hinfo⟩

/-- **A step of the holder** keeps the invariant, lets the generations go on, and leaves the holder
with what it needs to know. -/
def Steps (sha256 : Bytes → δ) (s : Bound δ) (result : Bound δ × Next) : Prop :=
  result.1.Good sha256 ∧ s.Evolves result.1 ∧ result.2.Knows result.1

lemma expireEntry_steps (hs : s.Good sha256) {task : Task} {now : Nat} {todo : List Bytes}
    {g : Nat} (hrd : s.tryLock g = some info) :
    Steps sha256 s (expireEntry task now todo key g info s) := by
  obtain ⟨a, ha, -, rfl⟩ := tryLock_eq_some hrd
  unfold expireEntry
  split
  next hcln =>
    rw [Bool.and_eq_true] at hcln
    exact ⟨hs, .refl s, a, ha, hcln⟩
  · have hwrt := hs.setInfo (g := g) (f := fun info => { info with
      init := a.info.init && !expiredSince now a.info.lastActivity uploadSessionTTL }) fun b hb => by
        obtain rfl := some.inj (ha.symm.trans hb)
        exact ⟨⟨fun h => (Bool.and_eq_true _ _ ▸ h).1, _, _, _, _, rfl⟩, (hs.each g a ha).tombstone,
          fun _ => id⟩
    refine ⟨hwrt.1, hwrt.2, fun hterm => ?_⟩
    refine ⟨_, getElem?_change_of ha, ?_⟩
    rw [if_pos rfl]
    exact ⟨Bool.not_eq_true' _ ▸ hterm, rfl⟩

lemma Oracle.range_perm (oracle : Oracle) (s : Bound δ) :
    (oracle.range s).Perm s.uploadStatus.keys := by
  unfold Oracle.range
  split
  · assumption
  · exact .refl _

section

variable (hs : s.Good sha256)
include hs

lemma steps_same {next : Next} (hkn : next.Knows s) : Steps sha256 s (s, next) :=
  ⟨hs, .refl s, hkn⟩

lemma steps_unbind {g : Nat} (hnms : s.Names key g fun a => a.cleaned) {next : Next}
    (hkn : next.Knows (s.unbind key)) : Steps sha256 s (s.unbind key, next) := by
  refine ⟨hs.unbind fun g' a hlk ha => ?_, .refl s, hkn⟩
  obtain ⟨hlk', b, hb, hclnd⟩ := hnms
  obtain rfl := some.inj (hlk'.symm.trans hlk)
  obtain rfl := some.inj (hb.symm.trans ha)
  exact hclnd

lemma Bound.Good.names_cleaned {g : Nat} (h : s.Names key g Generation.CleanTombstone) :
    s.Names key g fun a => a.cleaned := by
  obtain ⟨hlk, a, ha, hcln⟩ := h
  exact ⟨hlk, a, ha, (hs.each g a ha).tombstone hcln.1 hcln.2⟩

lemma pruneEntry_steps {now : Nat} {todo : List Bytes} {clean : List CleanCompleted}
    {completedCount : Nat} {next : AfterPrune} {completed stagingClean : Bool}
    {completedAt : Option Nat}
    (hkn : completed → stagingClean → ∃ g, s.Names key g Generation.CleanTombstone) :
    Steps sha256 s (pruneEntry now todo clean completedCount next key completed stagingClean
      completedAt s) := by
  unfold pruneEntry
  split
  · exact steps_same hs trivial
  next hcm =>
    split
    next hexpi =>
      rw [Bool.and_eq_true] at hexpi
      obtain ⟨g, hg⟩ := hkn (Bool.eq_true_of_not_eq_false hcm) hexpi.1
      exact steps_unbind hs (hs.names_cleaned hg) trivial
    · split
      · exact steps_same hs trivial
      · exact steps_same hs trivial

lemma createSession_steps [Inhabited δ] {oracle : Oracle} {staging : Directory}
    {request : CheckedRequest} {active : Nat} (hfe : s.uploadStatus.lookup key = none)
    (hact : s.uploadStatus.keys.countP s.isActive ≤ active) :
    Steps sha256 s (createSession oracle staging key request active s) := by
  unfold createSession
  split
  · exact steps_same hs fun _ h => nomatch h
  next hless =>
    split
    · exact steps_same hs fun _ h => nomatch h
    next htot =>
      have hcreate := hs.create hfe request.1 staging oracle.cleanup (by omega) (by omega)
      refine ⟨hcreate.1, hcreate.2, fun thread hthr => ?_⟩
      split at hthr
      · cases hthr
      · cases hthr
        trivial

end

/-- The count goes on: a session that is locked or not completed is one more. -/
lemma count_visit {visited todo : List Bytes} {other : Bytes} {active : Nat}
    (hpm : (visited ++ other :: todo).Perm s.uploadStatus.keys)
    (hcnt : visited.countP s.isActive ≤ active) {active' : Nat}
    (hoth : s.isActive other → active + 1 ≤ active') (hle : active ≤ active') :
    ∃ visited, (visited ++ todo).Perm s.uploadStatus.keys ∧ visited.countP s.isActive ≤ active' := by
  refine ⟨visited ++ [other], ?_, ?_⟩
  · rwa [append_assoc, singleton_append]
  · rw [countP_append, countP_singleton]
    split
    next hact =>
      have := hoth hact
      omega
    · omega

lemma Holder.step_steps [Inhabited δ] (hs : s.Good sha256) (oracle : Oracle) (staging : Directory)
    {holder : Holder} (hkn : holder.Knows s) :
    Steps sha256 s (holder.step oracle staging s) := by
  cases holder with
  | expire task now todo =>
    cases todo with
    | nil => exact steps_same hs trivial
    | cons key todo =>
      simp only [Holder.step]
      split
      · exact steps_same hs trivial
      · split
        · exact steps_same hs trivial
        next hrd =>
          exact expireEntry_steps hs hrd
  | expireTombstone task now todo key g completionExpired =>
    simp only [Holder.step]
    split
    next hexpi =>
      rw [Bool.and_eq_true, decide_eq_true_iff] at hexpi
      exact steps_unbind hs (hs.names_cleaned ⟨hexpi.2, hkn⟩) trivial
    · exact steps_same hs trivial
  | expireRead task now todo key g terminal requestChanged completed =>
    simp only [Holder.step]
    split
    next hterm =>
      rw [Bool.and_eq_true, decide_eq_true_iff] at hterm
      obtain ⟨a, ha, hin, -⟩ := hkn hterm.1
      split
      · exact steps_same hs trivial
      · obtain ⟨hgood, hevo, hclnd⟩ := hs.markCleaned ha hin
        exact ⟨hgood, hevo, hterm.2, hclnd⟩
    · exact steps_same hs trivial
  | expireFailed task now todo g cleanupErr =>
    have hwrt := hs.tryWrite (g := g) (f := fun info => { info with cleanupErr := some cleanupErr })
      fun a ha => ⟨⟨id, _, _, _, _, rfl⟩, (hs.each g a ha).tombstone, fun _ => id⟩
    exact ⟨hwrt.1, hwrt.2, trivial⟩
  | expireCleaned task now todo key g completed =>
    obtain ⟨hlk, a, ha, hclnd⟩ := hkn
    simp only [Holder.step]
    split
    · have hwrt := hs.tryWriteClean ha hclnd
      exact ⟨hwrt.1, hwrt.2, trivial⟩
    · exact steps_unbind hs ⟨hlk, a, ha, hclnd⟩ trivial
  | prune now todo clean completedCount next =>
    cases todo with
    | nil =>
      simp only [Holder.step]
      split
      · exact steps_same hs trivial
      · exact steps_same hs trivial
    | cons key todo =>
      simp only [Holder.step]
      split
      · exact steps_same hs trivial
      next info hrd =>
        obtain ⟨g, hlk, a, ha, rfl⟩ := bind_tryLock_eq_some hrd
        exact steps_same hs fun hcm hcln => ⟨g, hlk, a, ha, hcm, hcln⟩
  | pruneRead now todo clean completedCount next key completed stagingClean completedAt =>
    exact pruneEntry_steps hs hkn
  | evict todo completedCount next =>
    cases todo with
    | nil => exact steps_same hs trivial
    | cons candidate todo =>
      simp only [Holder.step]
      split
      · exact steps_same hs trivial
      · split
        · exact steps_same hs trivial
        next info hrd =>
          obtain ⟨g, hlk, a, ha, rfl⟩ := bind_tryLock_eq_some hrd
          exact steps_same hs fun helig =>
            ⟨g, hlk, a, ha, (Bool.and_eq_true _ _).mp helig⟩
  | evictRead todo completedCount next key eligible =>
    simp only [Holder.step]
    split
    next helig =>
      obtain ⟨g, hg⟩ := hkn helig
      exact steps_unbind hs (hs.names_cleaned hg) trivial
    · exact steps_same hs trivial
  | pruned next =>
    cases next with
    | expired task =>
      refine steps_same hs fun thread hthr => ?_
      cases hthr
      trivial
    | create key request =>
      simp only [Holder.step]
      split
      · refine steps_same hs fun thread hthr => ?_
        cases hthr
        trivial
      next hfe =>
        exact steps_same hs ⟨hfe, [], oracle.range_perm s, Nat.zero_le 0⟩
    | deleted => exact steps_same hs fun _ h => nomatch h
  | count key request todo active =>
    obtain ⟨hfe, visited, hpm, hcnt⟩ := hkn
    cases todo with
    | nil =>
      rw [append_nil] at hpm
      exact createSession_steps hs hfe (hpm.countP_eq _ ▸ hcnt)
    | cons other todo =>
      simp only [Holder.step]
      split
      · exact steps_same hs ⟨hfe, count_visit hpm hcnt (fun _ => Nat.le_refl _) (Nat.le_succ _)⟩
      next info hrd =>
        obtain ⟨g, hlk, a, ha, rfl⟩ := bind_tryLock_eq_some hrd
        refine steps_same hs ⟨hfe, count_visit hpm hcnt (fun hact => ?_) ?_⟩
        · simp only [Bound.isActive, hlk, bind_some, ha, Bool.not_eq_true'] at hact
          rw [hact]
          exact Nat.le_refl _
        · split <;> omega
  | delete key g requestChanged =>
    obtain ⟨hlk, a, ha, hin⟩ := hkn
    simp only [Holder.step]
    split
    · exact steps_same hs trivial
    · obtain ⟨hgood, hevo, hclnd⟩ := hs.markCleaned ha hin
      exact ⟨hgood, hevo, hlk, hclnd⟩
  | deleteFailed g cleanupErr =>
    have hwrt := hs.tryWrite (g := g) (f := fun info => { info with
      init := false, cleanupErr := some cleanupErr }) fun a ha =>
        ⟨⟨fun h => (nomatch h), _, _, _, _, rfl⟩, (hs.each g a ha).tombstone, fun _ => id⟩
    exact ⟨hwrt.1, hwrt.2, fun _ h => nomatch h⟩
  | deleteCleaned key g =>
    obtain ⟨hlk, a, ha, hclnd⟩ := hkn
    simp only [Holder.step]
    split
    · exact steps_same hs fun h => nomatch h
    · have hwrt := hs.tryWriteClean ha hclnd
      refine ⟨hwrt.1, hwrt.2, fun _ => ?_⟩
      have hst : (s.tryWrite g fun info => { info with stagingClean := true, cleanupErr :=
        none }).uploadStatus = s.uploadStatus := by
        unfold Bound.tryWrite
        split <;> rfl
      obtain ⟨b, hb, hab⟩ := hwrt.2 g a ha
      exact ⟨hst ▸ hlk, b, hb, hab.cleaned hclnd⟩
  | deleteRead key g completed =>
    simp only [Holder.step]
    split
    · exact steps_same hs trivial
    next hcm =>
      exact steps_unbind hs (hkn (Bool.eq_false_of_not_eq_true hcm)) trivial

end

/-! ## 6. Runs -/

section

variable {δ : Type} {sha256 : Bytes → δ}
variable {s : Bound δ}

/-- A lock section lets its generation go on and keeps it good. -/
lemma Generation.Good.section {a : Generation δ} (ha : a.Good sha256) {session : UploadSession δ}
    (hg : session.Good sha256) {deletes : Bool} (hfate : Fate a.info session.info deletes) :
    a.Evolves { a with session := session, locked := false } ∧
      Generation.Good sha256 { a with session := session, locked := false } := by
  have hterm : a.info.init = false →
      session.info.init = false ∧ session.info.completed = a.info.completed := by
    intro hin
    cases hcm : a.info.completed with
    | true =>
      obtain ⟨h, hsm, -⟩ := hfate.completed hcm
      exact ⟨hsm.trans hin, h⟩
    | false =>
      rw [(hfate.terminal hcm hin).1]
      exact ⟨hin, hcm⟩
  refine ⟨⟨rfl, id, fun h => (hfate.completed h).1, hterm, fun h hcln => ?_⟩,
    ⟨hg, fun h hcln => ?_, fun h => (hterm (ha.cleaned h)).1, fun h => ?_⟩⟩
  · exact (hfate.completed h).2.2.1.trans hcln
  · cases hcm : a.info.completed with
    | true => exact ha.tombstone hcm ((hfate.completed hcm).2.2.1.symm.trans hcln)
    | false =>
      cases hin : a.info.init with
      | false => cases ((hterm hin).2.trans hcm).symm.trans h
      | true =>
        -- a session that completes now has a dirty staging directory
        rcases hfate.alive hcm hin with ⟨-, -, hop⟩ | ⟨-, -, hdirty⟩
        · cases hop.symm.trans h
        · cases (hdirty h).symm.trans hcln
  · cases hin : a.info.init with
    | false => exact (hterm hin).1
    | true =>
      cases hcm : a.info.completed with
      | true => cases (ha.completed hcm).symm.trans hin
      | false =>
        rcases hfate.alive hcm hin with ⟨-, -, hop⟩ | ⟨-, hdead, -⟩
        · cases hop.symm.trans h
        · exact hdead

/-- The invariant of the system: the registry is good, and the holder and every request rely on what
is true. -/
structure Registry.Good (sha256 : Bytes → δ) (r : Registry δ) : Prop where
  bound : r.bound.Good sha256
  holder : ∀ holder ∈ r.holder, Holder.Knows r.bound holder
  threads : ∀ thread ∈ r.threads, Thread.Knows r.bound thread

variable {next : Next}

lemma Next.Knows.holder (h : next.Knows s) : ∀ holder ∈ next.holder, Holder.Knows s holder := by
  cases next with
  | go holder =>
    intro other hoth
    cases hoth
    exact h
  | release thread => exact fun _ hoth => nomatch hoth

lemma Next.Knows.threads (h : next.Knows s) : ∀ thread ∈ next.threads, Thread.Knows s thread := by
  intro thread hthr
  cases next with
  | go holder => exact absurd hthr (Multiset.notMem_zero thread)
  | release released =>
    cases released with
    | none => exact absurd hthr (Multiset.notMem_zero thread)
    | some other =>
      obtain rfl := Multiset.mem_singleton.mp hthr
      exact h _ rfl

/-- A step that takes one request, changes the generations and leaves the map and the mutex. -/
lemma Registry.Good.work {r : Registry δ} (hr : r.Good sha256)
    (hs : s.Good sha256 ∧ r.bound.Evolves s) (hst : s.uploadStatus = r.bound.uploadStatus)
    {threads : Multiset Thread} {dst : Directory}
    (hthreads : ∀ thread ∈ threads, thread ∈ r.threads ∨ Thread.Knows s thread) :
    Registry.Good sha256 ⟨s, r.holder, threads, dst⟩ := by
  refine ⟨hs.1, fun holder hholder => ?_, fun thread hthr => ?_⟩
  · exact (hr.holder holder hholder).evolve hr.bound hst hs.2
  · rcases hthreads thread hthr with hold | hkn
    · exact (hr.threads thread hold).evolve hs.2
    · exact hkn

lemma Thread.acquire_knows {oracle : Oracle} {thread : Thread}
    (hkn : thread.Knows s) (hnx : thread.acquire oracle s = some next) : next.Knows s := by
  cases thread with
  | arrived task =>
    cases hnx
    trivial
  | expired task =>
    cases task with
    | upload key request =>
      simp only [Thread.acquire] at hnx
      split at hnx
      · cases hnx
        exact fun _ h => nomatch h
      · cases hnx
        trivial
    | test key request =>
      cases hnx
      intro other hoth
      obtain ⟨g, -, rfl⟩ := map_eq_some_iff.mp hoth
      trivial
  | deleting key g requestChanged =>
    simp only [Thread.acquire] at hnx
    split at hnx
    next hlk =>
      cases hnx
      exact ⟨hlk, hkn⟩
    · cases hnx
      exact fun _ h => nomatch h
  | waiting => cases hnx
  | working => cases hnx

/-- What a request is going to delete after its section was given up in it. -/
lemma afterSection_knows {key : Bytes} {g : Nat} {b : Generation δ}
    (hb : s.generations[g]? = some b) {res : Except Ending Unit}
    (hdeletes : afterSection key g res ≠ 0 → b.info.init = false) :
    ∀ thread ∈ afterSection key g res, Thread.Knows s thread := by
  intro thread hthr
  have hin := hdeletes fun hz => Multiset.notMem_zero thread (hz ▸ hthr)
  rcases res with ending | _
  · cases ending with
    | returned err => exact absurd hthr (Multiset.notMem_zero thread)
    | deleting requestChanged err =>
      obtain rfl := Multiset.mem_singleton.mp hthr
      exact ⟨b, hb, hin⟩
  · obtain rfl := Multiset.mem_singleton.mp hthr
    exact ⟨b, hb, hin⟩

lemma Fate.dead {s t : FileInfo δ} (h : Fate s t true) : t.init = false := by
  cases hcm : s.completed with
  | true => cases (h.completed hcm).2.2.2.2
  | false =>
    cases hin : s.init with
    | false => cases (h.terminal hcm hin).2
    | true =>
      rcases h.alive hcm hin with ⟨hf, -⟩ | ⟨-, hdead, -⟩
      · cases hf
      · exact hdead

lemma Generation.Good.test {a : Generation δ} (ha : a.Good sha256) (request : TestRequest)
    (dst : Directory) (faults : List (Option Failure)) :
    a.Evolves { a with
        session := (testChunkLocked request ⟨⟨a.session, dst⟩, faults⟩).2.state.session
        locked := false } ∧
      Generation.Good sha256 { a with
        session := (testChunkLocked request ⟨⟨a.session, dst⟩, faults⟩).2.state.session
        locked := false } := by
  have hg : ((testChunkLocked request ⟨⟨a.session, dst⟩, faults⟩).2.state.session).Good sha256 :=
    (testChunkLocked_outcome dst faults ha.session).good
  have hends : (testChunkLocked request).Ends (⟨⟨a.session, dst⟩, faults⟩ : Faulty (Upload δ))
      (fun _ t => Stamped ⟨a.session, dst⟩ t.state)
      (fun _ t => Stamped ⟨a.session, dst⟩ t.state) := testChunkLocked_ends
  obtain ⟨now, hnow⟩ : Stamped ⟨a.session, dst⟩
      (testChunkLocked request ⟨⟨a.session, dst⟩, faults⟩).2.state := by
    rcases hends.cases with ⟨_, t, hrun, h⟩ | ⟨_, t, hrun, h⟩
    all_goals
      rw [hrun]
      exact h
  rw [hnow] at hg ⊢
  exact ⟨⟨rfl, id, id, fun h => ⟨h, rfl⟩, fun _ => id⟩, ⟨hg, ha.tombstone, ha.cleaned, ha.completed⟩⟩

lemma Registry.good_start (dst : Directory) : (Registry.start dst : Registry δ).Good sha256 where
  bound := by
    refine ⟨fun key g hlk => ?_, fun g a ha => ?_, fun g a ha => ?_, fun g a _ _ ha => ?_, ?_, ?_⟩
    · cases (lookup_empty key).symm.trans hlk
    · cases ha
    · cases ha
    · cases ha
    · exact Nat.zero_le _
    · exact Nat.zero_le _
  holder _ h := nomatch h
  threads thread h := absurd h (Multiset.notMem_zero thread)

section

variable [DecidableEq δ] [Inhabited δ] {r r' : Registry δ}

/-- The fate of a session in `uploadLocked`, and that only a dead one is deleted. -/
lemma uploadLocked_fate (request : CheckedRequest) {ses : UploadSession δ}
    (hs : ses.Good sha256) (key : Bytes) (g : Nat) (dst : Directory)
    (faults : List (Option Failure)) :
    ∃ deletes, Fate ses.info (uploadLocked sha256 request.1
        ⟨⟨ses, dst⟩, faults⟩).2.state.session.info deletes ∧
      (afterSection key g (uploadLocked sha256 request.1 ⟨⟨ses, dst⟩, faults⟩).1 ≠ 0 →
        deletes) := by
  rcases (uploadLocked_ends (w := ⟨⟨ses, dst⟩, faults⟩) request.2 hs).cases with
    ⟨_, t, hrun, -, hfate⟩ | ⟨ending, t, hrun, -, hfate⟩
  · rw [hrun]
    exact ⟨true, hfate, fun _ => rfl⟩
  · rw [hrun]
    refine ⟨ending.deletes, hfate, fun hne => ?_⟩
    cases ending with
    | returned err => exact absurd rfl hne
    | deleting requestChanged err => rfl

/-- **A step keeps the invariant and lets the generations go on.** -/
theorem RegistryStep.good (hst : RegistryStep sha256 r r') (hr : r.Good sha256) :
    r'.Good sha256 ∧ r.bound.Evolves r'.bound := by
  cases hst with
  | arrive task =>
    refine ⟨⟨hr.bound, hr.holder, fun thread hthr => ?_⟩, .refl _⟩
    rcases Multiset.mem_cons.mp hthr with rfl | hthr
    · trivial
    · exact hr.threads thread hthr
  | refuse hthr =>
    refine ⟨⟨hr.bound, hr.holder, fun thread hmem => hr.threads thread ?_⟩, .refl _⟩
    rw [hthr]
    exact Multiset.mem_cons_of_mem hmem
  | acquire oracle hthr hfe hnx =>
    have hkn := Thread.acquire_knows (hr.threads _ (hthr ▸ Multiset.mem_cons_self _ _)) hnx
    refine ⟨⟨hr.bound, hkn.holder, fun thread hmem => ?_⟩, .refl _⟩
    rcases Multiset.mem_add.mp hmem with hmem | hmem
    · exact hkn.threads thread hmem
    · exact hr.threads thread (hthr ▸ Multiset.mem_cons_of_mem hmem)
  | hold oracle staging hholder =>
    obtain ⟨hg, hevo, hkn⟩ :=
      Holder.step_steps hr.bound oracle staging (hr.holder _ hholder)
    refine ⟨⟨hg, hkn.holder, fun thread hmem => ?_⟩, hevo⟩
    rcases Multiset.mem_add.mp hmem with hmem | hmem
    · exact hkn.threads thread hmem
    · exact (hr.threads thread hmem).evolve hevo
  | @lock work g generation rest hthr hget hfe =>
    have hchn := hr.bound.change (g := g) (f := fun generation => { generation with locked := true })
      fun a ha => by
        have hg := hr.bound.each g a ha
        exact ⟨⟨rfl, id, id, fun h => ⟨h, rfl⟩, fun _ => id⟩,
          ⟨hg.session, hg.tombstone, hg.cleaned, hg.completed⟩⟩
    refine ⟨hr.work hchn rfl fun thread hmem => ?_, hchn.2⟩
    rcases Multiset.mem_cons.mp hmem with rfl | hmem
    · exact .inr trivial
    · exact .inl (hthr ▸ Multiset.mem_cons_of_mem hmem)
  | @upload key request g generation rest faults hthr hget =>
    obtain ⟨deletes, hfate, hdeletes⟩ := uploadLocked_fate request
      (hr.bound.each g generation hget).session key g r.destination faults
    have hchn := hr.bound.change (g := g) (f := fun generation => { generation with
      session := (uploadLocked sha256 request.1
        ⟨⟨generation.session, r.destination⟩, faults⟩).2.state.session
      locked := false }) fun a ha => by
        obtain rfl := some.inj (hget.symm.trans ha)
        exact (hr.bound.each g _ hget).section
          (uploadLocked_outcome r.destination faults request.2 (hr.bound.each g _ hget).session).good hfate
    refine ⟨hr.work hchn rfl fun thread hmem => ?_, hchn.2⟩
    rcases Multiset.mem_add.mp hmem with hmem | hmem
    · refine .inr (afterSection_knows (getElem?_change_of hget) (fun hne => ?_) thread hmem)
      rw [if_pos rfl]
      exact Fate.dead (hdeletes hne ▸ hfate)
    · exact .inl (hthr ▸ Multiset.mem_cons_of_mem hmem)
  | @test request g generation rest faults hthr hget =>
    have hchn := hr.bound.change (g := g) (f := fun generation => { generation with
      session := (testChunkLocked request
        ⟨⟨generation.session, r.destination⟩, faults⟩).2.state.session
      locked := false }) fun a ha => (hr.bound.each g a ha).test request r.destination faults
    refine ⟨hr.work hchn rfl fun thread hmem => ?_, hchn.2⟩
    exact .inl (hthr ▸ Multiset.mem_cons_of_mem hmem)
  | tamper g staging destination =>
    have hchn := hr.bound.change (g := g) (f := fun generation => { generation with
      session := { generation.session with staging := staging } }) fun a ha => by
        have hg := hr.bound.each g a ha
        exact ⟨⟨rfl, id, id, fun h => ⟨h, rfl⟩, fun _ => id⟩,
          ⟨hg.session.tamper staging, hg.tombstone, hg.cleaned, hg.completed⟩⟩
    exact ⟨hr.work hchn rfl fun thread hmem => .inl hmem, hchn.2⟩

lemma Registry.good_of_run {dst : Directory}
    (hrun : Reaches (RegistryStep sha256) (Registry.start dst) r) : r.Good sha256 :=
  hrun.invariant (Registry.good_start dst) fun _ _ h hst => (hst.good h).1

lemma Registry.Good.evolves (hr : r.Good sha256) (hrun : Reaches (RegistryStep sha256) r r') :
    r.bound.Evolves r'.bound := by
  have h : r'.Good sha256 ∧ r.bound.Evolves r'.bound := by
    induction hrun with
    | refl => exact ⟨hr, .refl _⟩
    | tail _ hstep ih =>
      obtain ⟨ht, hst⟩ := hstep.good ih.1
      exact ⟨ht, ih.2.trans hst⟩
  exact h.2

end

end

/-! ## 7. The results -/

/-- Whether the holder is inside `pruneCompletedUploadTombstonesLocked`. -/
def Holder.prunes : Holder → Bool
  | .prune _ _ _ _ _ => true
  | .pruneRead _ _ _ _ _ _ _ _ _ => true
  | .evict _ _ _ => true
  | .evictRead _ _ _ _ _ => true
  | _ => false

section

variable {δ : Type}

/-- If a key is let go, it is the one that was erased. -/
lemma unbind_gone {s : Bound δ} {key other : Bytes} {g : Nat}
    (hbd : s.uploadStatus.lookup key = some g)
    (hgn : (s.unbind other).uploadStatus.lookup key ≠ some g) : key = other := by
  by_contra hkey
  exact hgn ((lookup_erase_ne hkey).trans hbd)

lemma Holder.prunes_clean [Inhabited δ] {s : Bound δ} {holder : Holder} (hprunes : holder.prunes)
    (hkn : holder.Knows s) {oracle : Oracle} {staging : Directory} {key : Bytes} {g : Nat}
    (hbd : s.uploadStatus.lookup key = some g)
    (hgn : (holder.step oracle staging s).1.uploadStatus.lookup key ≠ some g) :
    ∃ a, s.generations[g]? = some a ∧ a.CleanTombstone := by
  have hnms : ∀ g', s.Names key g' Generation.CleanTombstone →
      ∃ a, s.generations[g]? = some a ∧ a.CleanTombstone := by
    rintro g' ⟨hlk, h⟩
    obtain rfl := some.inj (hlk.symm.trans hbd)
    exact h
  cases holder with
  | prune now todo clean completedCount next =>
    refine absurd hbd ?_
    cases todo with
    | nil =>
      simp only [Holder.step] at hgn
      split at hgn <;> exact hgn
    | cons other todo =>
      simp only [Holder.step] at hgn
      split at hgn <;> exact hgn
  | pruneRead now todo clean completedCount next other completed stagingClean completedAt =>
    simp only [Holder.step, pruneEntry] at hgn
    split at hgn
    · exact absurd hbd hgn
    next hcm =>
      split at hgn
      next hexpi =>
        rw [Bool.and_eq_true] at hexpi
        obtain rfl := unbind_gone hbd hgn
        obtain ⟨g', hg'⟩ := hkn (Bool.eq_true_of_not_eq_false hcm) hexpi.1
        exact hnms g' hg'
      · split at hgn <;> exact absurd hbd hgn
  | evict todo completedCount next =>
    refine absurd hbd ?_
    cases todo with
    | nil => exact hgn
    | cons candidate todo =>
      simp only [Holder.step] at hgn
      split at hgn
      · exact hgn
      · split at hgn <;> exact hgn
  | evictRead todo completedCount next other eligible =>
    simp only [Holder.step] at hgn
    split at hgn
    next helig =>
      obtain rfl := unbind_gone hbd hgn
      obtain ⟨g', hg'⟩ := hkn helig
      exact hnms g' hg'
    · exact absurd hbd hgn
  | _ => cases hprunes

/-- **The registry of uploads is bounded and never binds a dirty key.** In every reachable state it
has at most 144 entries, of which at most 16 are not completed. A completed session stays completed
and given up for ever. When a key has had two generations, a staging cleanup of the earlier one has
returned nil. And a key that pruning lets go was bound to a completed session whose staging is
clean. -/
theorem upload_registry_safe [DecidableEq δ] [Inhabited δ] {sha256 : Bytes → δ} {r : Registry δ}
    {destination : Directory} (hrun : Reaches (RegistryStep sha256) (Registry.start destination) r) :
    (r.bound.uploadStatus.entries.length ≤ 144 ∧ r.bound.uploadStatus.keys.countP r.bound.isActive ≤ 16) ∧
    (∀ (r' : Registry δ) (g : Nat) (a : Generation δ), Reaches (RegistryStep sha256) r r' →
      r.bound.generations[g]? = some a → a.info.completed = true →
      ∃ b, r'.bound.generations[g]? = some b ∧ b.info.completed = true ∧ b.info.init = false) ∧
    (∀ (g g' : Nat) (a b : Generation δ), r.bound.generations[g]? = some a →
      r.bound.generations[g']? = some b → g < g' → a.key = b.key → a.cleaned = true) ∧
    ∀ (holder : Holder) (oracle : Oracle) (staging : Directory) (key : Bytes) (g : Nat),
      r.holder = some holder → holder.prunes = true → r.bound.uploadStatus.lookup key = some g →
      (holder.step oracle staging r.bound).1.uploadStatus.lookup key ≠ some g →
      ∃ a, r.bound.generations[g]? = some a ∧ a.info.completed = true ∧ a.info.stagingClean = true := by
  have hr := Registry.good_of_run hrun
  refine ⟨⟨hr.bound.total, hr.bound.active⟩, fun r' g a hmore ha hcompleted => ?_,
    fun g g' a b ha hb => hr.bound.ordered g a g' b ha hb, ?_⟩
  · obtain ⟨b, hb, hab⟩ := hr.evolves hmore g a ha
    have hgood := (Registry.good_of_run (hrun.trans hmore)).bound.each g b hb
    exact ⟨b, hb, hab.completed hcompleted, hgood.completed (hab.completed hcompleted)⟩
  · intro holder oracle staging key g hholder hprunes hbound hgone
    exact Holder.prunes_clean hprunes (hr.holder holder hholder) hbound hgone

lemma sampleRequest_checked : (sampleRequest 1 [65]).validate = .ok () := rfl

/-- A first request, and the map in its order. -/
def sampleTask : Task := .upload [107] (sampleRequest 1 [65])

def sampleOracle : Oracle := ⟨[], [], 0, none⟩

/-- The registry when the first request has its session. -/
def sampleRegistry : Registry Bytes :=
  ⟨(⟨∅, []⟩ : Bound Bytes).create [107] (sampleRequest 1 [65]) (fun _ => none) none, none,
    {.waiting (.upload [107] ⟨sampleRequest 1 [65], sampleRequest_checked⟩) 0}, fun _ => none⟩

lemma sampleRegistry_reached :
    Reaches (RegistryStep (δ := Bytes) id) (Registry.start fun _ => none) sampleRegistry := by
  have hhold : ∀ {r r' : Registry Bytes} {holder : Holder}, r.holder = some holder → r' = { r with
        bound := (holder.step sampleOracle (fun _ => none) r.bound).1
        holder := (holder.step sampleOracle (fun _ => none) r.bound).2.holder
        threads := (holder.step sampleOracle (fun _ => none) r.bound).2.threads + r.threads } →
      RegistryStep id r r' := by
    rintro r _ holder hholder rfl
    exact .hold sampleOracle (fun _ => none) hholder
  have hacquire : ∀ {r r' : Registry Bytes} (thread : Thread) {next : Next},
      r.threads = thread ::ₘ 0 → r.holder = none → thread.acquire sampleOracle r.bound = some next →
      r' = { r with holder := next.holder, threads := next.threads + 0 } → RegistryStep id r r' := by
    rintro r _ thread next hthr hfe hnx rfl
    exact .acquire sampleOracle hthr hfe hnx
  refine .head (.arrive sampleTask) (.head (hacquire (.arrived sampleTask) rfl rfl rfl rfl) ?_)
  refine .head (hhold rfl rfl) (.head (hhold rfl rfl) (.head (hhold rfl rfl) ?_))
  refine .head (hacquire (.expired sampleTask) rfl rfl rfl rfl) ?_
  refine .head (hhold rfl rfl) (.head (hhold rfl rfl) (.head (hhold rfl rfl) ?_))
  exact .refl

/-- One key is bound, and its session is not completed. -/
theorem sampleRegistry_safe : sampleRegistry.bound.uploadStatus.keys = [[107]] ∧
    sampleRegistry.bound.isActive [107] = true ∧
    sampleRegistry.bound.uploadStatus.entries.length ≤ 144 ∧
    sampleRegistry.bound.uploadStatus.keys.countP sampleRegistry.bound.isActive ≤ 16 :=
  ⟨by decide +kernel, by decide +kernel, (upload_registry_safe sampleRegistry_reached).1⟩

end

end ReCasaOS.Uploads
