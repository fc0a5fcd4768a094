/-
# The queue of file operations

`service/file.go`, `fileOperationQueue`: requests put operations into a bounded queue, one worker
goroutine executes them in order, and clients delete operations and acknowledge those that are
over. Everything but the execution itself happens under the mutex of the queue, so a step of the
system is one locked section, the start of a goroutine, or an execution.

A task is a pointer (`*queuedFileOperation`), and the operations behind the pointers are kept in
the order in which they were allocated. An id that is used again after its task was deleted gets
a new pointer, so the order of the pointers is the order in which tasks were enqueued. `started`
is a history variable: the tasks in the order in which the worker took them.
-/
import Mathlib.Data.List.AList
import ReCasaOS.Files.Operation
import ReCasaOS.Lib.NameTable
import ReCasaOS.Lib.Slice
import ReCasaOS.Lib.Transition

namespace ReCasaOS.Files

open Lib List Option AList

/-! ## 1. The queue -/

def maxQueuedFileOperations : Nat := 32

structure FileOperationQueue where
  tasks : AList fun _ : Bytes => Nat
  order : Slice Bytes
  runningID : Bytes
  workerStarted : Bool
  /-- The operation of every task, by the number of its pointer. -/
  memory : List FileOperate

inductive QueueError
  | full
  | invalid
  | notFound
  | running
  deriving DecidableEq, Repr

namespace FileOperationQueue

def new : FileOperationQueue := ⟨∅, .empty, [], false, []⟩

variable (q : FileOperationQueue)

/-- `id` names the task `task`, whose operation is `operation`. -/
def Entry (id : Bytes) (task : Nat) (operation : FileOperate) : Prop :=
  q.tasks.lookup id = some task ∧ q.memory[task]? = some operation

/-- An operation as it is put into the queue. -/
def queuedOperation (operation : FileOperate) : FileOperate :=
  { operation with
    status := .pending
    finished := false
    durabilityUnknown := false
    item := operation.item.map fun item =>
      { item with status := .pending, finished := false, durabilityUnknown := false } }

/-- `enqueue`, and whether it starts a worker. -/
def enqueue (id : Bytes) (operation : FileOperate) : Except QueueError (FileOperationQueue × Bool) :=
  if maxQueuedFileOperations ≤ q.tasks.entries.length then .error .full
  else if id ∈ q.tasks ∨ id = [] ∨ id = [48] then .error .invalid
  else
    .ok ({ q with
      tasks := q.tasks.insert id q.memory.length
      order := q.order.append id
      memory := q.memory ++ [queuedOperation operation]
      workerStarted := true }, !q.workerStarted)

/-- The task of an id, if it is pending. -/
def pendingTask (id : Bytes) : Option (Nat × FileOperate) := do
  let task ← q.tasks.lookup id
  let operation ← q.memory[task]?
  if operation.status = .pending then some (task, operation) else none

def nextPendingLocked : Option (Bytes × Nat × FileOperate) :=
  q.order.toList.findSome? fun id => (q.pendingTask id).map (Prod.mk id)

/-- The first locked section of `worker`. -/
def takePending : Option (Bytes × Nat × FileOperate) × FileOperationQueue :=
  match q.nextPendingLocked with
  | none => (none, { q with workerStarted := false })
  | some (id, task, operation) =>
    let operation := { operation with status := .running }
    (some (id, task, operation),
      { q with runningID := id, memory := q.memory.set task operation })

/-- The second locked section of `worker`. -/
def storeResult (id : Bytes) (result : FileOperate) : FileOperationQueue :=
  match q.tasks.lookup id with
  | none => { q with runningID := [] }
  | some current => { q with runningID := [], memory := q.memory.set current result }

def compactOrderLocked : FileOperationQueue :=
  { q with order := q.order.compact fun id => decide (id ∈ q.tasks) }

def statusOf (id : Bytes) : Option FileOperationStatus := do
  let task ← q.tasks.lookup id
  let operation ← q.memory[task]?
  pure operation.status

def delete (id : Bytes) : Except QueueError FileOperationQueue :=
  if id = [48] then
    if q.runningID ≠ [] then .error .running
    else .ok { q with tasks := ∅, order := .empty }
  else if id ∉ q.tasks then .error .notFound
  else if id = q.runningID ∨ q.statusOf id = some .running then .error .running
  else .ok { q with tasks := q.tasks.erase id }.compactOrderLocked

/-- The body of the loop of `acknowledgeTerminal`. -/
def acknowledge (tasks : AList fun _ : Bytes => Nat) (id : Bytes) : AList fun _ : Bytes => Nat :=
  match { q with tasks := tasks }.statusOf id with
  | none => tasks
  | some status => if fileOperationStatusTerminal status then tasks.erase id else tasks

def acknowledgeTerminal (ids : List Bytes) : FileOperationQueue :=
  { q with tasks := ids.foldl q.acknowledge q.tasks }.compactOrderLocked

end FileOperationQueue

/-! ## 2. The system -/

/-- Where a goroutine of `worker` is, with the variables it has. -/
inductive Worker
  /-- `go q.worker()` is still to come. -/
  | starting
  | polling
  | executing (id : Bytes) (task : Nat) (operation : FileOperate)
  | storing (id : Bytes) (task : Nat) (result : FileOperate)
  | exited

def Worker.active : Worker → Bool
  | exited => false
  | starting | polling | executing .. | storing .. => true

structure System where
  queue : FileOperationQueue
  workers : List Worker
  started : List Nat

def System.start : System := ⟨.new, [], []⟩

/-- The steps; a request that is refused changes nothing. -/
inductive Step : System → System → Prop
  | enqueue {s : System} {id : Bytes} {operation : FileOperate} {queue : FileOperationQueue}
      {startWorker : Bool} (h : s.queue.enqueue id operation = .ok (queue, startWorker)) :
    Step s { s with
      queue, workers := if startWorker then s.workers ++ [.starting] else s.workers }
  | delete {s : System} {id : Bytes} {queue : FileOperationQueue}
      (h : s.queue.delete id = .ok queue) : Step s { s with queue }
  | acknowledge {s : System} (ids : List Bytes) :
    Step s { s with queue := s.queue.acknowledgeTerminal ids }
  | go {s : System} {i : Nat} (hi : s.workers[i]? = some .starting) :
    Step s { s with workers := s.workers.set i .polling }
  | exit {s : System} {i : Nat} {queue : FileOperationQueue} (hi : s.workers[i]? = some .polling)
      (h : s.queue.takePending = (none, queue)) :
    Step s { s with queue, workers := s.workers.set i .exited }
  | take {s : System} {i : Nat} {id : Bytes} {task : Nat} {operation : FileOperate}
      {queue : FileOperationQueue} (hi : s.workers[i]? = some .polling)
      (h : s.queue.takePending = (some (id, task, operation), queue)) :
    Step s
      { queue, workers := s.workers.set i (.executing id task operation)
        started := s.started ++ [task] }
  | execute {s : System} {i : Nat} {id : Bytes} {task : Nat} {operation result : FileOperate}
      (hi : s.workers[i]? = some (.executing id task operation))
      (h : Executed operation result) :
    Step s { s with workers := s.workers.set i (.storing id task result) }
  | store {s : System} {i : Nat} {id : Bytes} {task : Nat} {result : FileOperate}
      (hi : s.workers[i]? = some (.storing id task result)) :
    Step s { s with
      queue := s.queue.storeResult id result, workers := s.workers.set i .polling }

/-! ## 3. The queue alone -/

namespace FileOperationQueue

variable {q q' : FileOperationQueue} {started : List Nat} {id : Bytes} {task : Nat}
  {operation : FileOperate}
variable {other : Bytes} {tasks : AList fun _ : Bytes => Nat}

/-- The invariant of the queue. -/
structure Good (q : FileOperationQueue) (started : List Nat) : Prop where
  bounded : q.tasks.entries.length ≤ maxQueuedFileOperations
  named : ∀ id task, q.tasks.lookup id = some task → id ≠ []
  allocated : ∀ id task, q.tasks.lookup id = some task → task < q.memory.length
  /-- The order is the one in which the tasks were enqueued. -/
  ordered : q.order.toList.Pairwise fun a b =>
    ∀ task later, q.tasks.lookup a = some task → q.tasks.lookup b = some later → task < later
  listed : ∀ id, id ∈ q.order.toList ↔ id ∈ q.tasks
  running : ∀ id task operation, q.Entry id task operation → operation.status = .running →
    q.runningID = id
  increasing : started.Pairwise (· < ·)
  past : ∀ task ∈ started, task < q.memory.length
  waiting : ∀ id task operation, q.Entry id task operation → operation.status = .pending →
    ∀ earlier ∈ started, earlier < task

lemma new_good : new.Good [] where
  bounded := Nat.zero_le _
  named _ _ h := by cases h
  allocated _ _ h := by cases h
  ordered := List.Pairwise.nil
  listed id := by simp [new]
  running _ _ _ h := by cases h.1
  increasing := List.Pairwise.nil
  past := by simp
  waiting _ _ _ h := by cases h.1

lemma mem_tasks_iff : id ∈ q.tasks ↔ ∃ task, q.tasks.lookup id = some task := by
  rw [← lookup_isSome, isSome_iff_exists]

lemma Good.nodup (h : q.Good started) : q.order.toList.Nodup := by
  refine h.ordered.imp_of_mem fun {a b} ha _ hlt hab => ?_
  obtain ⟨task, htask⟩ := mem_tasks_iff.mp ((h.listed a).mp ha)
  exact lt_irrefl _ (hlt task task htask (hab ▸ htask))

lemma Good.injective (h : q.Good started) (hid : q.tasks.lookup id = some task)
    (hoth : q.tasks.lookup other = some task) : other = id := by
  by_contra hne
  have hmem := (h.listed id).mpr (mem_tasks_iff.mpr ⟨task, hid⟩)
  have hmem' := (h.listed other).mpr (mem_tasks_iff.mpr ⟨task, hoth⟩)
  have hpair := pairwise_iff_getElem.mp h.ordered
  obtain ⟨i, hi, rfl⟩ := getElem_of_mem hmem
  obtain ⟨j, hj, rfl⟩ := getElem_of_mem hmem'
  rcases Nat.lt_trichotomy i j with hij | rfl | hji
  · exact lt_irrefl _ (hpair i j hi hj hij task task hid hoth)
  · exact hne rfl
  · exact lt_irrefl _ (hpair j i hj hi hji task task hoth hid)

/-- Tasks are removed, but not one that runs. -/
structure Removes (q q' : FileOperationQueue) : Prop where
  memory : q'.memory = q.memory
  runningID : q'.runningID = q.runningID
  workerStarted : q'.workerStarted = q.workerStarted
  length : q'.tasks.entries.length ≤ q.tasks.entries.length
  order : q'.order.toList = q.order.toList.filter fun id => decide (id ∈ q'.tasks)
  tasks : ∀ id task, q'.tasks.lookup id = some task → q.tasks.lookup id = some task
  running : ∀ id task operation, q.Entry id task operation → operation.status = .running →
    q'.tasks.lookup id = some task

lemma Removes.entry (h : q.Removes q') (hent : q'.Entry id task operation) :
    q.Entry id task operation :=
  ⟨h.tasks id task hent.1, h.memory ▸ hent.2⟩

lemma Removes.good (h : q.Removes q') (hq : q.Good started) : q'.Good started where
  bounded := h.length.trans hq.bounded
  named id task hid := hq.named id task (h.tasks id task hid)
  allocated id task hid := h.memory ▸ hq.allocated id task (h.tasks id task hid)
  ordered := by
    rw [h.order]
    refine (hq.ordered.filter _).imp fun hlt task later ha hb => ?_
    exact hlt task later (h.tasks _ _ ha) (h.tasks _ _ hb)
  listed id := by
    rw [h.order, mem_filter, hq.listed, decide_eq_true_eq]
    constructor
    · exact And.right
    · intro hid
      obtain ⟨task, htask⟩ := mem_tasks_iff.mp hid
      exact ⟨mem_tasks_iff.mpr ⟨task, h.tasks id task htask⟩, hid⟩
  running id task operation hent hst :=
    h.runningID ▸ hq.running id task operation (h.entry hent) hst
  increasing := hq.increasing
  past task hmem := h.memory ▸ hq.past task hmem
  waiting id task operation hent := hq.waiting id task operation (h.entry hent)

lemma statusOf_eq_some {status : FileOperationStatus} : q.statusOf id = some status ↔
      ∃ task operation, q.Entry id task operation ∧ operation.status = status := by
  simp only [statusOf, Entry, bind_eq_bind, bind_eq_some_iff, Option.pure_def,
    some.injEq, and_assoc, exists_and_left]

lemma length_erase_le (tasks : AList fun _ : Bytes => Nat) (id : Bytes) :
    (tasks.erase id).entries.length ≤ tasks.entries.length :=
  (kerase_sublist id tasks.entries).length_le

lemma delete_removes (hq : q.Good started) (h : q.delete id = .ok q') : q.Removes q' := by
  unfold delete at h
  split at h
  · split at h
    · cases h
    next hid =>
      cases h
      refine ⟨rfl, rfl, rfl, Nat.zero_le _, by simp, fun _ _ h => by simp at h, ?_⟩
      intro id task operation hent hst
      have hnamed := hq.running id task operation hent hst
      exact absurd (hnamed ▸ not_not.mp hid) (hq.named id task hent.1)
  · split at h
    · cases h
    · split at h
      · cases h
      next hsts =>
        cases h
        rw [not_or] at hsts
        refine ⟨rfl, rfl, rfl, length_erase_le _ _, Slice.toList_compact _ _, ?_, ?_⟩
        · intro other task hoth
          exact (NameTable.lookup_erase_eq_some.mp hoth).2
        · intro other task operation hent hst
          have hne : other ≠ id := by
            rintro rfl
            exact hsts.2 (statusOf_eq_some.mpr ⟨task, operation, hent, hst⟩)
          exact (lookup_erase_ne hne).trans hent.1

/-- What acknowledging leaves of the tasks. -/
structure Acknowledged (q : FileOperationQueue) (tasks : AList fun _ : Bytes => Nat) : Prop where
  length : tasks.entries.length ≤ q.tasks.entries.length
  subset : ∀ id task, tasks.lookup id = some task → q.tasks.lookup id = some task
  active : ∀ id task operation, q.Entry id task operation →
    fileOperationStatusTerminal operation.status = false → tasks.lookup id = some task

lemma Acknowledged.next (h : q.Acknowledged tasks) (id : Bytes) :
    q.Acknowledged (q.acknowledge tasks id) := by
  unfold acknowledge
  split
  · exact h
  next status hst =>
    split
    next hterm =>
      refine ⟨(length_erase_le tasks id).trans h.length, ?_, ?_⟩
      · intro other task hoth
        exact h.subset other task (NameTable.lookup_erase_eq_some.mp hoth).2
      · intro other task operation hent hact
        have hoth := h.active other task operation hent hact
        have hne : other ≠ id := by
          rintro rfl
          obtain ⟨task', operation', hent', rfl⟩ := statusOf_eq_some.mp hst
          obtain rfl : task = task' := some.inj (hoth.symm.trans hent'.1)
          obtain rfl : operation = operation' := some.inj (hent.2.symm.trans hent'.2)
          exact Bool.false_ne_true (hact.symm.trans hterm)
        exact (lookup_erase_ne hne).trans hoth
    · exact h

lemma Acknowledged.all (h : q.Acknowledged tasks) (ids : List Bytes) :
    q.Acknowledged (ids.foldl q.acknowledge tasks) := by
  induction ids generalizing tasks with
  | nil => exact h
  | cons id ids ih => exact ih (h.next id)

lemma acknowledgeTerminal_removes (q : FileOperationQueue) (ids : List Bytes) :
    q.Removes (q.acknowledgeTerminal ids) := by
  have hsrt : q.Acknowledged q.tasks :=
    ⟨le_refl _, fun _ _ h => h, fun _ _ _ hent _ => hent.1⟩
  have hall := hsrt.all ids
  refine ⟨rfl, rfl, rfl, hall.length, Slice.toList_compact _ _, hall.subset, ?_⟩
  intro id task operation hent hst
  exact hall.active id task operation hent (by rw [hst]; rfl)

/-- What `enqueue` does. -/
structure Enqueues (q : FileOperationQueue) (id : Bytes) (operation : FileOperate)
    (q' : FileOperationQueue) : Prop where
  room : q.tasks.entries.length < maxQueuedFileOperations
  fresh : id ∉ q.tasks
  named : id ≠ []
  tasks : q'.tasks = q.tasks.insert id q.memory.length
  order : q'.order.toList = q.order.toList ++ [id]
  memory : q'.memory = q.memory ++ [queuedOperation operation]
  runningID : q'.runningID = q.runningID
  workerStarted : q'.workerStarted

lemma enqueue_eq_ok {startWorker : Bool} (h : q.enqueue id operation = .ok (q', startWorker)) :
    q.Enqueues id operation q' ∧ startWorker = !q.workerStarted := by
  unfold enqueue at h
  split at h
  · cases h
  next hrm =>
    split at h
    · cases h
    next hid =>
      rw [not_or, not_or] at hid
      obtain ⟨rfl, rfl⟩ := Prod.mk.inj (Except.ok.inj h)
      exact ⟨⟨Nat.lt_of_not_le hrm, hid.1, hid.2.1, rfl, Slice.toList_append _ _, rfl, rfl, rfl⟩,
        rfl⟩

section

variable (h : q.Enqueues id operation q')
include h

/-- A task of the queue after `enqueue` is the new one, or was there before. -/
lemma Enqueues.lookup (hoth : q'.tasks.lookup other = some task) :
    other = id ∧ task = q.memory.length ∨ other ≠ id ∧ q.tasks.lookup other = some task := by
  rw [h.tasks, NameTable.lookup_insert_eq_some] at hoth
  exact hoth.imp_left fun hnew => ⟨hnew.1, hnew.2.symm⟩

lemma Enqueues.keeps (hoth : q.tasks.lookup other = some task) :
    q'.tasks.lookup other = some task := by
  have hne : other ≠ id := by
    rintro rfl
    exact h.fresh (mem_tasks_iff.mpr ⟨task, hoth⟩)
  rw [h.tasks, lookup_insert_ne hne, hoth]

lemma Enqueues.memory_eq (htask : task < q.memory.length) : q'.memory[task]? = q.memory[task]? := by
  rw [h.memory, getElem?_append_left htask]

lemma Enqueues.entry (hq : q.Good started) {current : FileOperate}
    (hent : q'.Entry other task current) :
    other = id ∧ task = q.memory.length ∧ current = queuedOperation operation ∨
      q.Entry other task current := by
  rcases h.lookup hent.1 with ⟨rfl, rfl⟩ | ⟨-, hold⟩
  · refine .inl ⟨rfl, rfl, ?_⟩
    have hnew := hent.2
    rw [h.memory, getElem?_concat_length] at hnew
    exact (some.inj hnew).symm
  · exact .inr ⟨hold, (h.memory_eq (hq.allocated other task hold)) ▸ hent.2⟩

lemma Enqueues.good (hq : q.Good started) : q'.Good started where
  bounded := by
    rw [h.tasks, entries_insert_of_notMem h.fresh]
    exact h.room
  named other task hoth := by
    rcases h.lookup hoth with ⟨rfl, -⟩ | ⟨-, hold⟩
    · exact h.named
    · exact hq.named other task hold
  allocated other task hoth := by
    rw [h.memory, length_append, length_singleton]
    rcases h.lookup hoth with ⟨-, rfl⟩ | ⟨-, hold⟩
    · exact Nat.lt_succ_self _
    · exact Nat.lt_succ_of_lt (hq.allocated other task hold)
  ordered := by
    rw [h.order, pairwise_append]
    refine ⟨?_, pairwise_singleton _ _, ?_⟩
    · refine hq.ordered.imp_of_mem fun {a b} ha hb hlt task later htask hlater => ?_
      obtain ⟨taskA, hA⟩ := mem_tasks_iff.mp ((hq.listed a).mp ha)
      obtain ⟨taskB, hB⟩ := mem_tasks_iff.mp ((hq.listed b).mp hb)
      obtain rfl := some.inj ((h.keeps hA).symm.trans htask)
      obtain rfl := some.inj ((h.keeps hB).symm.trans hlater)
      exact hlt _ _ hA hB
    · intro a ha b hb task later htask hlater
      obtain ⟨taskA, hA⟩ := mem_tasks_iff.mp ((hq.listed a).mp ha)
      obtain rfl := some.inj ((h.keeps hA).symm.trans htask)
      rcases h.lookup hlater with ⟨-, rfl⟩ | ⟨hne, -⟩
      · exact hq.allocated a _ hA
      · exact absurd (mem_singleton.mp hb) hne
  listed other := by
    rw [h.order, mem_append, mem_singleton, hq.listed, h.tasks, mem_insert, or_comm]
  running other task current hent hst := by
    rw [h.runningID]
    rcases h.entry hq hent with ⟨-, -, rfl⟩ | hold
    · cases hst
    · exact hq.running other task current hold hst
  increasing := hq.increasing
  past task hmem := by
    rw [h.memory, length_append]
    exact Nat.lt_add_right _ (hq.past task hmem)
  waiting other task current hent hst earlier hmem := by
    rcases h.entry hq hent with ⟨-, rfl, -⟩ | hold
    · exact hq.past earlier hmem
    · exact hq.waiting other task current hold hst earlier hmem

end

lemma pendingTask_eq_some : q.pendingTask id = some (task, operation) ↔
      q.Entry id task operation ∧ operation.status = .pending := by
  simp only [pendingTask, Entry, bind_eq_bind, bind_eq_some_iff,
    ite_none_right_eq_some, some.injEq, Prod.mk.injEq]
  constructor
  · rintro ⟨_, hlk, _, hmemo, hst, rfl, rfl⟩
    exact ⟨⟨hlk, hmemo⟩, hst⟩
  · rintro ⟨⟨hlk, hmemo⟩, hst⟩
    exact ⟨task, hlk, operation, hmemo, hst, rfl, rfl⟩

lemma Good.listed_entry (hq : q.Good started) (h : q.Entry id task operation) :
    id ∈ q.order.toList :=
  (hq.listed id).mpr (mem_tasks_iff.mpr ⟨task, h.1⟩)

lemma nextPendingLocked_eq_none (hq : q.Good started) (h : q.nextPendingLocked = none) :
    ∀ id task operation, q.Entry id task operation → operation.status ≠ .pending := by
  intro id task operation hent hst
  have hno := findSome?_eq_none_iff.mp h id (hq.listed_entry hent)
  rw [pendingTask_eq_some.mpr ⟨hent, hst⟩] at hno
  cases hno

/-- The task that is found is pending, and no pending one was enqueued before it. -/
lemma nextPendingLocked_eq_some (hq : q.Good started)
    (h : q.nextPendingLocked = some (id, task, operation)) :
    q.Entry id task operation ∧ operation.status = .pending ∧
      ∀ other later cur, q.Entry other later cur → cur.status = .pending → task ≤ later := by
  obtain ⟨before, found, after, horder, hfnd, hbef⟩ := findSome?_eq_some_iff.mp h
  obtain ⟨⟨task', operation'⟩, hpend, heq⟩ := map_eq_some_iff.mp hfnd
  obtain ⟨rfl, rfl, rfl⟩ : found = id ∧ task' = task ∧ operation' = operation := by
    simpa using heq
  obtain ⟨hent, hst⟩ := pendingTask_eq_some.mp hpend
  refine ⟨hent, hst, fun other later cur hoth hcur => ?_⟩
  have hmem := hq.listed_entry hoth
  rw [horder, mem_append, mem_cons] at hmem
  rcases hmem with hmem | rfl | hmem
  · have hno := hbef other hmem
    rw [pendingTask_eq_some.mpr ⟨hoth, hcur⟩] at hno
    cases hno
  · exact (some.inj (hent.1.symm.trans hoth.1)).le
  · have hordd := hq.ordered
    rw [horder, pairwise_append] at hordd
    exact ((pairwise_cons.mp hordd.2.1).1 other hmem task' later hent.1 hoth.1).le

/-- The operation of a task is written, and nothing else of the queue but the worker's fields. -/
structure Writes (q : FileOperationQueue) (id : Bytes) (task : Nat) (operation : FileOperate)
    (q' : FileOperationQueue) : Prop where
  owner : q.tasks.lookup id = some task
  tasks : q'.tasks = q.tasks
  order : q'.order = q.order
  memory : q'.memory = q.memory.set task operation

section

variable (h : q.Writes id task operation q')
include h

lemma Writes.entry (hq : q.Good started) {task' : Nat} {current : FileOperate}
    (hent : q'.Entry other task' current) :
    other = id ∧ task' = task ∧ current = operation ∨ other ≠ id ∧ q.Entry other task' current := by
  obtain ⟨hlk, hmemo⟩ := hent
  rw [h.tasks] at hlk
  rw [h.memory] at hmemo
  rcases getElem?_set_cases hmemo with ⟨rfl, rfl⟩ | ⟨hne, hold⟩
  · exact .inl ⟨hq.injective h.owner hlk, rfl, rfl⟩
  · refine .inr ⟨?_, hlk, hold⟩
    rintro rfl
    exact hne (some.inj (hlk.symm.trans h.owner))

lemma Writes.written (hq : q.Good started) : q'.Entry id task operation := by
  refine ⟨h.tasks ▸ h.owner, ?_⟩
  rw [h.memory, getElem?_set_self (hq.allocated id task h.owner)]

/-- A write keeps the invariant if the status it writes does. -/
lemma Writes.good {past : List Nat} (hq : q.Good started)
    (hrunning : ∀ other task operation, q'.Entry other task operation →
      operation.status = .running → q'.runningID = other)
    (hincr : past.Pairwise (· < ·)) (hpast : ∀ task ∈ past, task < q.memory.length)
    (hwaiting : ∀ other task operation, q'.Entry other task operation →
      operation.status = .pending → ∀ earlier ∈ past, earlier < task) :
    q'.Good past where
  bounded := h.tasks ▸ hq.bounded
  named := h.tasks ▸ hq.named
  allocated := by
    rw [h.tasks, h.memory, length_set]
    exact hq.allocated
  ordered := by
    rw [h.order, h.tasks]
    exact hq.ordered
  listed := by
    rw [h.order, h.tasks]
    exact hq.listed
  running := hrunning
  increasing := hincr
  past := by
    rw [h.memory, length_set]
    exact hpast
  waiting := hwaiting

end

/-- The worker leaves only a queue in which nothing is pending. -/
lemma takePending_eq_none (hq : q.Good started) (h : q.takePending = (none, q')) :
    q' = { q with workerStarted := false } ∧
      ∀ id task operation, q.Entry id task operation → operation.status ≠ .pending := by
  unfold takePending at h
  split at h
  next hno =>
    exact ⟨(Prod.mk.inj h).2.symm, nextPendingLocked_eq_none hq hno⟩
  · cases (Prod.mk.inj h).1

/-- What the first locked section of the worker does when it finds a task. -/
structure Takes (q : FileOperationQueue) (id : Bytes) (task : Nat) (operation : FileOperate)
    (q' : FileOperationQueue) : Prop where
  writes : q.Writes id task operation q'
  pending : ∃ before, q.Entry id task before ∧ before.status = .pending ∧
    operation = { before with status := .running }
  first : ∀ other later current, q.Entry other later current → current.status = .pending →
    task ≤ later
  runningID : q'.runningID = id
  workerStarted : q'.workerStarted = q.workerStarted

lemma takePending_eq_some (hq : q.Good started)
    (h : q.takePending = (some (id, task, operation), q')) : q.Takes id task operation q' := by
  unfold takePending at h
  split at h
  · cases (Prod.mk.inj h).1
  next id' task' before hso =>
    obtain ⟨hent, hst, hfst⟩ := nextPendingLocked_eq_some hq hso
    obtain ⟨hfnd, rfl⟩ := Prod.mk.inj h
    obtain ⟨rfl, rfl, rfl⟩ := hfnd
    exact ⟨⟨hent.1, rfl, rfl, rfl⟩, ⟨before, hent, hst, rfl⟩, hfst, rfl, rfl⟩

lemma Takes.good (h : q.Takes id task operation q') (hq : q.Good started)
    (hid : q.runningID = []) : q'.Good (started ++ [task]) := by
  obtain ⟨before, hent, hst, hopn⟩ := h.pending
  have halloc := hq.allocated id task hent.1
  have haf := hq.waiting id task before hent hst
  refine h.writes.good hq ?_ ?_ ?_ ?_
  · intro other later cur hoth hcur
    rw [h.runningID]
    rcases h.writes.entry hq hoth with ⟨rfl, -, -⟩ | ⟨-, hold⟩
    · rfl
    · have hnamed := hq.running other later cur hold hcur
      exact absurd (hnamed.symm.trans hid) (hq.named other later hold.1)
  · rw [pairwise_append]
    refine ⟨hq.increasing, pairwise_singleton _ _, fun earlier hearl later hlater => ?_⟩
    rw [mem_singleton.mp hlater]
    exact haf earlier hearl
  · intro other hmem
    rcases mem_append.mp hmem with hmem | hmem
    · exact hq.past other hmem
    · rw [mem_singleton.mp hmem]
      exact halloc
  · intro other later cur hoth hcur earlier hmem
    rcases h.writes.entry hq hoth with ⟨-, -, rfl⟩ | ⟨hne, hold⟩
    · rw [hopn] at hcur
      cases hcur
    · rcases mem_append.mp hmem with hmem | hmem
      · exact hq.waiting other later cur hold hcur earlier hmem
      · rw [mem_singleton.mp hmem]
        refine Nat.lt_of_le_of_ne (h.first other later cur hold hcur) ?_
        rintro rfl
        exact hne (hq.injective hent.1 hold.1)

/-- The second locked section, for the task that runs. -/
lemma storeResult_writes (res : FileOperate) (howner : q.tasks.lookup id = some task) :
    q.Writes id task res (q.storeResult id res) ∧ (q.storeResult id res).runningID = [] ∧
      (q.storeResult id res).workerStarted = q.workerStarted := by
  unfold storeResult
  rw [howner]
  exact ⟨⟨howner, rfl, rfl, rfl⟩, rfl, rfl⟩

lemma storeResult_good {res : FileOperate} (hq : q.Good started)
    (howner : q.tasks.lookup id = some task) (hid : q.runningID = id)
    (hres : fileOperationStatusTerminal res.status) :
    (q.storeResult id res).Good started := by
  obtain ⟨hwrites, -, -⟩ := storeResult_writes res howner
  refine hwrites.good hq ?_ hq.increasing hq.past ?_
  · intro other later cur hoth hcur
    rcases hwrites.entry hq hoth with ⟨-, -, rfl⟩ | ⟨hne, hold⟩
    · rw [hcur] at hres
      cases hres
    · exact absurd ((hq.running other later cur hold hcur).symm.trans hid) hne
  · intro other later cur hoth hcur
    rcases hwrites.entry hq hoth with ⟨-, -, rfl⟩ | ⟨-, hold⟩
    · rw [hcur] at hres
      cases hres
    · exact hq.waiting other later cur hold hcur

/-- The worker executes `operation` of `task`. -/
structure Runs (q : FileOperationQueue) (started : List Nat) (id : Bytes) (task : Nat)
    (operation : FileOperate) : Prop where
  runningID : q.runningID = id
  entry : q.Entry id task operation
  status : operation.status = .running
  last : started.getLast? = some task

lemma Runs.enqueue {new : FileOperate} (h : q.Runs started id task operation)
    (henq : q.Enqueues other new q') (hq : q.Good started) :
    q'.Runs started id task operation where
  runningID := henq.runningID.trans h.runningID
  entry := by
    refine ⟨henq.keeps h.entry.1, ?_⟩
    rw [henq.memory_eq (hq.allocated id task h.entry.1)]
    exact h.entry.2
  status := h.status
  last := h.last

lemma Runs.remove (h : q.Runs started id task operation) (hrmvs : q.Removes q') :
    q'.Runs started id task operation where
  runningID := hrmvs.runningID.trans h.runningID
  entry := ⟨hrmvs.running id task operation h.entry h.status, hrmvs.memory ▸ h.entry.2⟩
  status := h.status
  last := h.last

end FileOperationQueue

/-! ## 4. The system -/

/-- What a worker knows of the queue. -/
def Worker.Serves (q : FileOperationQueue) (started : List Nat) : Worker → Prop
  | starting | polling => q.runningID = []
  | executing id task operation => q.Runs started id task operation
  | storing id task result =>
    ∃ operation, q.Runs started id task operation ∧ Executed operation result
  | exited => True

namespace System

variable {s t : System} {i : Nat} {w w' : Worker} {queue : FileOperationQueue} {started : List Nat}

/-- No worker is needed. -/
def Quiet (q : FileOperationQueue) : Prop :=
  q.runningID = [] ∧
    ∀ id task operation, q.Entry id task operation → operation.status ≠ .pending

structure Good (s : System) : Prop where
  queue : s.queue.Good s.started
  /-- `workerStarted` says whether there is a worker, and there is no second one. -/
  worker : ∃ mu, MutexHeld Worker.active mu s.workers ∧ mu.isSome = s.queue.workerStarted
  serves : ∀ (i : Nat) (w : Worker), s.workers[i]? = some w → w.Serves s.queue s.started
  quiet : s.queue.workerStarted = false → Quiet s.queue

lemma start_good : start.Good where
  queue := FileOperationQueue.new_good
  worker := ⟨none, mutexHeld_nil _, rfl⟩
  serves i w h := by simp [start] at h
  quiet _ := ⟨rfl, fun _ _ _ h => by cases h.1⟩

/-- Next to a worker that is active, every other one has left. -/
lemma Good.others (hs : s.Good) (hi : s.workers[i]? = some w) (hw : w.active) {j : Nat}
    (hji : j ≠ i) (hj : s.workers[j]? = some w') : w' = .exited := by
  obtain ⟨mu, hmtx, -⟩ := hs.worker
  have hinact : w'.active = false := hmtx.exclusive hj hi hji.symm hw
  cases w' with
  | exited => rfl
  | starting => cases hinact
  | polling => cases hinact
  | executing id task operation => cases hinact
  | storing id task result => cases hinact

lemma Good.workerStep (hs : s.Good) (hi : s.workers[i]? = some w) (hw : w.active)
    (hw' : w'.active = queue.workerStarted) (hqueue : queue.Good started)
    (hsrv : w'.Serves queue started) (hqt : queue.workerStarted = false → Quiet queue) :
    (⟨queue, s.workers.set i w', started⟩ : System).Good where
  queue := hqueue
  worker := by
    obtain ⟨mu, hmtx, -⟩ := hs.worker
    have hmu : mu = some i := (hmtx.holder hi).mp hw
    cases hbg : queue.workerStarted with
    | true =>
      have hkeep := MutexStep.keep (hmtx.holder hi) ((hw'.trans hbg).trans hw.symm)
      exact ⟨mu, hmtx.step hi hkeep, by rw [hmu]; rfl⟩
    | false => exact ⟨none, hmtx.step hi (.give (hw'.trans hbg) hmu), rfl⟩
  serves j v hj := by
    rcases getElem?_set_cases hj with ⟨-, rfl⟩ | ⟨hji, hj⟩
    · exact hsrv
    · rw [hs.others hi hw hji hj]
      trivial
  quiet := hqt

/-- The rule for requests that take tasks out of the queue. -/
lemma Good.remove (hs : s.Good) (h : s.queue.Removes queue) : { s with queue }.Good where
  queue := h.good hs.queue
  worker := by
    obtain ⟨mu, hmtx, hmu⟩ := hs.worker
    exact ⟨mu, hmtx, hmu.trans h.workerStarted.symm⟩
  serves j v hj := by
    have hsrv := hs.serves j v hj
    cases v with
    | starting => exact h.runningID.trans hsrv
    | polling => exact h.runningID.trans hsrv
    | executing id task operation => exact hsrv.remove h
    | storing id task result =>
      obtain ⟨operation, hruns, hres⟩ := hsrv
      exact ⟨operation, hruns.remove h, hres⟩
    | exited => trivial
  quiet hbg := by
    obtain ⟨hid, hno⟩ := hs.quiet (h.workerStarted ▸ hbg)
    exact ⟨h.runningID.trans hid, fun id task operation hent =>
      hno id task operation (h.entry hent)⟩

variable {operation : FileOperate}
variable {id : Bytes}

lemma Good.enqueue {startWorker : Bool} (hs : s.Good)
    (h : s.queue.enqueue id operation = .ok (queue, startWorker)) :
    { s with
      queue
      workers := if startWorker then s.workers ++ [Worker.starting] else s.workers }.Good := by
  obtain ⟨henq, rfl⟩ := FileOperationQueue.enqueue_eq_ok h
  obtain ⟨mu, hmtx, hmu⟩ := hs.worker
  have hold : ∀ v : Worker, v.Serves s.queue s.started → v.Serves queue s.started := by
    intro v hsrv
    cases v with
    | starting => exact henq.runningID.trans hsrv
    | polling => exact henq.runningID.trans hsrv
    | executing id task operation => exact hsrv.enqueue henq hs.queue
    | storing id task result =>
      obtain ⟨operation, hruns, hres⟩ := hsrv
      exact ⟨operation, hruns.enqueue henq hs.queue, hres⟩
    | exited => trivial
  have hbg : queue.workerStarted := henq.workerStarted
  refine ⟨henq.good hs.queue, ?_, ?_, fun hno => ?_⟩
  · cases hwkr : s.queue.workerStarted with
    | true => exact ⟨mu, hmtx, by rw [hmu, hwkr, hbg]⟩
    | false =>
      obtain rfl : mu = none := not_isSome_iff_eq_none.mp (by simp [hmu, hwkr])
      exact ⟨some s.workers.length, hmtx.concat_take rfl, by rw [hbg]; rfl⟩
  · intro j v hj
    cases hwkr : s.queue.workerStarted with
    | true =>
      simp only [hwkr, Bool.not_true, Bool.false_eq_true, if_false] at hj
      exact hold v (hs.serves j v hj)
    | false =>
      simp only [hwkr, Bool.not_false, if_true] at hj
      rcases getElem?_concat_cases hj with hj | ⟨-, rfl⟩
      · exact hold v (hs.serves j v hj)
      · exact henq.runningID.trans (hs.quiet hwkr).1
  · rw [hbg] at hno
    cases hno

lemma Good.workerStarted (hs : s.Good) (hi : s.workers[i]? = some w) (hw : w.active) :
    s.queue.workerStarted := by
  obtain ⟨mu, hmtx, hmu⟩ := hs.worker
  rw [← hmu, (hmtx.holder hi).mp hw]
  rfl

/-- **Every step keeps the invariant.** -/
theorem Good.step (hs : s.Good) (h : Step s t) : t.Good := by
  cases h with
  | enqueue h => exact hs.enqueue h
  | delete h => exact hs.remove (FileOperationQueue.delete_removes hs.queue h)
  | acknowledge ids => exact hs.remove (s.queue.acknowledgeTerminal_removes ids)
  | go hi =>
    have hbg := hs.workerStarted hi rfl
    have hid : s.queue.runningID = [] := hs.serves _ _ hi
    exact hs.workerStep hi rfl hbg.symm hs.queue hid hs.quiet
  | exit hi h =>
    obtain ⟨rfl, hnone⟩ := FileOperationQueue.takePending_eq_none hs.queue h
    have hid : s.queue.runningID = [] := hs.serves _ _ hi
    exact hs.workerStep hi rfl rfl { hs.queue with } trivial fun _ => ⟨hid, hnone⟩
  | take hi h =>
    have htakes := FileOperationQueue.takePending_eq_some hs.queue h
    obtain ⟨before, -, -, hopn⟩ := htakes.pending
    have hbg := htakes.workerStarted.trans (hs.workerStarted hi rfl)
    have hg := htakes.good hs.queue (hs.serves _ _ hi)
    refine hs.workerStep hi rfl hbg.symm hg ?_ fun hno => ?_
    · exact ⟨htakes.runningID, htakes.writes.written hs.queue, by rw [hopn],
        getLast?_concat⟩
    · rw [hbg] at hno
      cases hno
  | execute hi h =>
    have hbg := hs.workerStarted hi rfl
    exact hs.workerStep hi rfl hbg.symm hs.queue ⟨_, hs.serves _ _ hi, h⟩ hs.quiet
  | store hi =>
    obtain ⟨operation, hruns, hres⟩ := hs.serves _ _ hi
    obtain ⟨-, hid, hsm⟩ := FileOperationQueue.storeResult_writes _ hruns.entry.1
    have hbg := hsm.trans (hs.workerStarted hi rfl)
    have hg :=
      FileOperationQueue.storeResult_good hs.queue hruns.entry.1 hruns.runningID hres.terminal
    refine hs.workerStep hi rfl hbg.symm hg hid fun hno => ?_
    rw [hbg] at hno
    cases hno

lemma Good.of_reaches (h : Reaches Step .start s) : s.Good :=
  h.invariant start_good fun _ _ hs hst => hs.step hst

/-! ## 5. What a step does to the tasks -/

/-- Tasks start in the order in which they were enqueued, a task that runs stays, and an operation
is written only when its own task starts or its own execution is over. -/
structure Lawful (s t : System) : Prop where
  starts : t.started = s.started ∨
    ∃ id task operation, s.queue.Entry id task operation ∧ operation.status = .pending ∧
      t.started = s.started ++ [task] ∧
      ∀ other later current, s.queue.Entry other later current → current.status = .pending →
        task ≤ later
  keeps : ∀ id task operation, s.queue.Entry id task operation → operation.status = .running →
    ∃ result, t.queue.Entry id task result
  writes : ∀ id task operation result, s.queue.Entry id task operation →
    t.queue.Entry id task result →
      result = operation ∨
      operation.status = .pending ∧ result = { operation with status := .running } ∧
        t.started = s.started ++ [task] ∨
      operation.status = .running ∧ s.queue.runningID = id ∧ Executed operation result

lemma Lawful.same (htasks : t.queue.tasks = s.queue.tasks)
    (hmemo : t.queue.memory = s.queue.memory) (hbg : t.started = s.started) :
    Lawful s t where
  starts := .inl hbg
  keeps _ _ operation hent _ := ⟨operation, htasks ▸ hent.1, hmemo ▸ hent.2⟩
  writes _ _ _ _ hent hres :=
    .inl (some.inj (hres.2.symm.trans (hmemo ▸ hent.2)))

lemma Lawful.remove (h : s.queue.Removes queue) : Lawful s { s with queue } where
  starts := .inl rfl
  keeps id task operation hent hst :=
    ⟨operation, h.running id task operation hent hst, h.memory ▸ hent.2⟩
  writes _ _ _ _ hent hres :=
    .inl (some.inj ((h.entry hres).2.symm.trans hent.2))

lemma Lawful.enqueue {workers : List Worker}
    (hs : s.Good) (h : s.queue.Enqueues id operation queue) :
    Lawful s { s with queue, workers } where
  starts := .inl rfl
  keeps other task cur hent _ := by
    refine ⟨cur, h.keeps hent.1, ?_⟩
    rw [h.memory_eq (hs.queue.allocated other task hent.1)]
    exact hent.2
  writes other task cur result hent hres := by
    have hmemo := h.memory_eq (hs.queue.allocated other task hent.1)
    exact .inl (some.inj (hres.2.symm.trans (hmemo.trans hent.2)))

lemma Lawful.write {task : Nat} {before : FileOperate}
    (hs : s.Good) (h : s.queue.Writes id task operation t.queue)
    (hent : s.queue.Entry id task before)
    (hstarts : t.started = s.started ∨ t.started = s.started ++ [task] ∧ before.status = .pending ∧
      ∀ other later cur, s.queue.Entry other later cur → cur.status = .pending → task ≤ later)
    (hwrites : before.status = .pending ∧ operation = { before with status := .running } ∧
        t.started = s.started ++ [task] ∨
      before.status = .running ∧ s.queue.runningID = id ∧ Executed before operation) :
    Lawful s t where
  starts := by
    rcases hstarts with hsm | ⟨hbg, hst, hfst⟩
    · exact .inl hsm
    · exact .inr ⟨id, task, before, hent, hst, hbg, hfst⟩
  keeps other task' cur hoth _ := by
    have hlk : t.queue.tasks.lookup other = some task' := h.tasks ▸ hoth.1
    have halloc : task' < t.queue.memory.length := by
      rw [h.memory, length_set]
      exact hs.queue.allocated other task' hoth.1
    exact ⟨_, hlk, getElem?_eq_getElem halloc⟩
  writes other task' cur result hoth hres := by
    rcases h.entry hs.queue hres with ⟨rfl, rfl, rfl⟩ | ⟨-, hold⟩
    · obtain rfl := some.inj (hoth.2.symm.trans hent.2)
      exact .inr hwrites
    · exact .inl (some.inj (hold.2.symm.trans hoth.2))

lemma Good.lawful (hs : s.Good) (h : Step s t) : Lawful s t := by
  cases h with
  | enqueue h => exact .enqueue hs (FileOperationQueue.enqueue_eq_ok h).1
  | delete h => exact .remove (FileOperationQueue.delete_removes hs.queue h)
  | acknowledge ids => exact .remove (s.queue.acknowledgeTerminal_removes ids)
  | go hi => exact .same rfl rfl rfl
  | exit hi h =>
    obtain ⟨rfl, -⟩ := FileOperationQueue.takePending_eq_none hs.queue h
    exact .same rfl rfl rfl
  | take hi h =>
    have htakes := FileOperationQueue.takePending_eq_some hs.queue h
    obtain ⟨before, hent, hst, hopn⟩ := htakes.pending
    exact .write hs htakes.writes hent (.inr ⟨rfl, hst, htakes.first⟩) (.inl ⟨hst, hopn, rfl⟩)
  | execute hi h => exact .same rfl rfl rfl
  | store hi =>
    obtain ⟨operation, hruns, hres⟩ := hs.serves _ _ hi
    obtain ⟨hwrites, -, -⟩ := FileOperationQueue.storeResult_writes _ hruns.entry.1
    exact .write hs hwrites hruns.entry (.inl rfl) (.inr ⟨hruns.status, hruns.runningID, hres⟩)

end System

/-- **The queue in every interleaving.** At most 32 tasks exist and the order lists exactly their
ids, each once. There is at most one worker, and one whenever a task is pending. A task that runs
is the one that `runningID` names. Tasks start in the order in which they were enqueued, each at
most once; a task that runs stays in the queue, and what its execution came to is written to its
own entry and to no other. -/
theorem file_operation_queue_safe {s : System} (hrun : Reaches Step .start s) :
    s.queue.tasks.entries.length ≤ maxQueuedFileOperations ∧
    s.queue.order.toList.Nodup ∧ (∀ id, id ∈ s.queue.order.toList ↔ id ∈ s.queue.tasks) ∧
    (∀ (i j : Nat) (v w : Worker), s.workers[i]? = some v → s.workers[j]? = some w →
      v.active = true → w.active = true → i = j) ∧
    (∀ id task operation, s.queue.Entry id task operation → operation.status = .running →
      s.queue.runningID = id) ∧
    (∀ id task operation, s.queue.Entry id task operation → operation.status = .pending →
      ∃ w ∈ s.workers, w.active = true) ∧
    s.started.Pairwise (· < ·) ∧
    ∀ t, Step s t → System.Lawful s t := by
  have hs := System.Good.of_reaches hrun
  obtain ⟨mu, hmutex, hmu⟩ := hs.worker
  refine ⟨hs.queue.bounded, hs.queue.nodup, hs.queue.listed, ?_, hs.queue.running, ?_,
    hs.queue.increasing, fun t hstep => hs.lawful hstep⟩
  · intro i j v w hi hj hv hw
    have hsame := ((hmutex.holder hi).mp hv).symm.trans ((hmutex.holder hj).mp hw)
    exact some.inj hsame
  · intro id task operation hentry hstatus
    have hstarted : s.queue.workerStarted = true := by
      by_contra hno
      exact (hs.quiet (Bool.not_eq_true _ ▸ hno)).2 id task operation hentry hstatus
    rw [← hmu, isSome_iff_exists] at hstarted
    obtain ⟨i, hi⟩ := hstarted
    obtain ⟨w, hw, hactive⟩ := (hmutex i).mp hi
    exact ⟨w, mem_of_getElem? hw, hactive⟩

def sampleOperation : FileOperate :=
  ⟨"copy", [], 0, 0, [47, 97], "skip", false, .other "", "", false⟩

def sampleSystem : System :=
  { queue :=
      { tasks := (∅ : AList fun _ : Bytes => Nat).insert [49] 0
        order := Slice.empty.append [49]
        runningID := []
        workerStarted := true
        memory := [FileOperationQueue.queuedOperation sampleOperation] }
    workers := [.starting]
    started := [] }

/-- After one request its task is pending, and a worker is on its way. -/
theorem queue_safe_after_enqueue :
    Reaches Step .start sampleSystem ∧ sampleSystem.queue.statusOf [49] = some .pending ∧
      ∃ w ∈ sampleSystem.workers, w.active = true := by
  have henqueue : System.start.queue.enqueue [49] sampleOperation
      = .ok (sampleSystem.queue, true) := rfl
  have hrun : Reaches Step .start sampleSystem := .single (.enqueue henqueue)
  obtain ⟨-, -, -, -, -, hwake, -⟩ := file_operation_queue_safe hrun
  exact ⟨hrun, rfl, hwake [49] 0 _ ⟨rfl, rfl⟩ rfl⟩

end ReCasaOS.Files
