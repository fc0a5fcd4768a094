/-
# What a batch reports

`executePreparedFileOperation` keeps its counters, the records of the items and the record of the whole
apart. `Progress.Counts` says how they hang together, and the loop keeps that.
-/
import Mathlib.Algebra.Order.BigOperators.Group.List
import ReCasaOS.Files.Operation

namespace ReCasaOS.Files

open Lib List Option

/-! ## 1. Outcomes -/

namespace Outcome

def panics : Outcome → Bool
  | .returned _ _ => false
  | .panicked _ _ _ => true

def succeeded : Outcome → Bool
  | .returned _ operationErr => operationErr.isNone
  | .panicked _ _ _ => false

/-- The destination was published. -/
def published : Outcome → Bool
  | .returned result _ => result.changed
  | .panicked _ published _ => published

/-- The file system was changed, at the destination or elsewhere. -/
def changed : Outcome → Bool
  | .returned result operationErr => result.changed || operationErr.any (·.mutation.changed)
  | .panicked _ published auxiliary => published || auxiliary

lemma changed_of_published {o : Outcome} (h : o.published) : o.changed := by
  cases o <;> simp_all [published, changed]

/-- The outcomes that a batch comes to: nothing is transferred after a panic. -/
def reached : List Outcome → List Outcome
  | [] => []
  | o :: rest => if o.panics then [o] else o :: reached rest

lemma reached_eq_self {outcomes : List Outcome} (h : ∀ o ∈ outcomes, o.panics = false) :
    reached outcomes = outcomes := by
  induction outcomes with
  | nil => rfl
  | cons o rest ih =>
    simp only [forall_mem_cons] at h
    simp [reached, h.1, ih h.2]

lemma exists_reached {outs : List Outcome} (h : ∃ o ∈ outs, o.panics) :
    ∃ o ∈ reached outs, o.panics := by
  induction outs with
  | nil => simp at h
  | cons o rest ih =>
    by_cases ho : o.panics
    · exact ⟨o, by simp [reached, ho], ho⟩
    · obtain ⟨o', ho', hpanics⟩ := ih (by simpa [ho] using h)
      exact ⟨o', by simp [reached, ho, ho'], hpanics⟩

end Outcome

variable {item : FileItem} {o : Outcome} {p : Progress} {done : List (FileItem × Outcome)}

/-- An item that was recorded: `SUCCESS`, `PARTIAL` or `FAILED` by its outcome, with its size if it
counts as processed. -/
structure FileItem.Recorded (item : FileItem) (o : Outcome) : Prop where
  finished : (item.after o).finished
  processedSize :
    (item.after o).processedSize = if o.succeeded || o.published then item.size else 0
  status : (item.after o).status =
    if o.succeeded then .success else if o.changed then .partialStatus else .failed

lemma FileItem.recorded (item : FileItem) (h : o.panics = false) : item.Recorded o := by
  cases o with
  | panicked recovered published auxiliary => cases h
  | returned result operationErr =>
    cases operationErr with
    | none => exact ⟨rfl, rfl, rfl⟩
    | some operationErr =>
      constructor <;>
        (simp only [FileItem.after, FileItem.record, Outcome.succeeded, Outcome.published,
          Outcome.changed, any_some]
         split_ifs <;> simp_all)

lemma FileItem.Recorded.success_iff (h : item.Recorded o) :
    (item.after o).status = .success ↔ o.succeeded := by
  rw [h.status]
  split_ifs <;> simp_all

lemma FileItem.Recorded.failed_iff (h : item.Recorded o) :
    (item.after o).status = .failed ↔ o.succeeded = false ∧ o.changed = false := by
  rw [h.status]
  split_ifs <;> simp_all

/-! ## 2. The loop -/

/-- The counters of the loop say of its items what they are to say. -/
structure Progress.Counts (p : Progress) (done : List (FileItem × Outcome)) : Prop where
  returned : ∀ d ∈ done, d.2.panics = false
  item : p.item = done.map fun d => d.1.after d.2
  processedSize : p.processedSize = (p.item.map (·.processedSize)).sum
  durabilityUnknown : p.durabilityUnknown = p.item.any (·.durabilityUnknown)
  succeeded : p.succeeded = p.item.countP (·.status = .success)
  partiallyChanged : p.partiallyChanged = p.item.countP (·.status = .partialStatus)

lemma Progress.start_counts : start.Counts [] := ⟨by simp, rfl, rfl, rfl, rfl, rfl⟩

lemma Progress.Counts.record (h : p.Counts done) (item : FileItem)
    (res : ManagedTransferResult) (operationErr : Option OperationError) :
    (p.record item res operationErr).Counts (done ++ [(item, .returned res operationErr)]) := by
  have hsucc := (item.recorded (o := .returned res operationErr) rfl).success_iff
  refine ⟨fun d hd => ?_, ?_, ?_, ?_, ?_, ?_⟩
  · rcases mem_append.mp hd with hd | hd
    · exact h.returned d hd
    · rw [mem_singleton.mp hd]
      rfl
  · simp [Progress.record, h.item, FileItem.after]
  · simp [Progress.record, h.processedSize]
  · simp [Progress.record, h.durabilityUnknown]
  · simp only [FileItem.after, Outcome.succeeded] at hsucc
    cases operationErr <;> simp [Progress.record, h.succeeded, hsucc]
  · simp only [Progress.record, h.partiallyChanged, countP_append, countP_singleton,
      decide_eq_true_iff]
    split_ifs <;> rfl

lemma executeOutcomes_counts {batch : List (FileItem × Outcome)} :
    ∀ {p q : Progress} {done : List (FileItem × Outcome)}, executeOutcomes batch p = .ok q →
      p.Counts done → q.Counts (done ++ batch) := by
  induction batch with
  | nil =>
    intro p q done h hp
    cases h
    rwa [append_nil]
  | cons d batch ih =>
    intro p q done h hp
    obtain ⟨item, o⟩ := d
    cases o with
    | panicked recovered published auxiliary => cases h
    | returned result operationErr =>
      rw [append_cons]
      exact ih h (hp.record item result operationErr)

lemma executeOutcomes_panics {batch : List (FileItem × Outcome)} :
    ∀ {p : Progress} {e : String × List FileItem}, executeOutcomes batch p = .error e →
      ∃ d ∈ batch, d.2.panics := by
  induction batch with
  | nil => exact fun h => by cases h
  | cons d batch ih =>
    intro p e h
    obtain ⟨item, o⟩ := d
    cases o with
    | panicked recovered published auxiliary => exact ⟨_, (.head _), rfl⟩
    | returned result operationErr =>
      obtain ⟨d, hd, hpanics⟩ := ih h
      exact ⟨d, .tail _ hd, hpanics⟩

/-! ## 3. The whole -/

lemma Progress.Counts.length (h : p.Counts done) : p.item.length = done.length := by
  simp [h.item]

lemma Progress.Counts.finished (h : p.Counts done) :
    ∀ item ∈ p.item, item.finished ∧
      (item.status = .success ∨ item.status = .partialStatus ∨ item.status = .failed) := by
  rw [h.item]
  intro item hit
  obtain ⟨d, hd, rfl⟩ := mem_map.mp hit
  have hrec := d.1.recorded (h.returned d hd)
  refine ⟨hrec.finished, ?_⟩
  rw [hrec.status]
  split_ifs <;> simp

lemma Progress.Counts.status (h : p.Counts done) :
    (p.status done.length = .success ↔ ∀ item ∈ p.item, item.status = .success) ∧
      (p.status done.length = .failed ↔ p.item ≠ [] ∧ ∀ item ∈ p.item, item.status = .failed) := by
  have hall : p.succeeded = done.length ∧ p.partiallyChanged = 0 ↔
      ∀ item ∈ p.item, item.status = .success := by
    simp only [h.succeeded, h.partiallyChanged, ← h.length, countP_eq_length,
      countP_eq_zero, decide_eq_true_iff]
    exact ⟨And.left, fun hall => ⟨hall, fun item hit => by simp [hall item hit]⟩⟩
  have hno : p.succeeded = 0 ∧ p.partiallyChanged = 0 ↔ ∀ item ∈ p.item, item.status = .failed := by
    simp only [h.succeeded, h.partiallyChanged, countP_eq_zero, decide_eq_true_iff]
    refine ⟨fun ⟨hsucc, hmixed⟩ item hit => ?_, fun hall => ⟨fun item hit => ?_, fun item hit => ?_⟩⟩
    · rcases (h.finished item hit).2 with hs | hs | hs
      · exact absurd hs (hsucc item hit)
      · exact absurd hs (hmixed item hit)
      · exact hs
    · simp [hall item hit]
    · simp [hall item hit]
  have hne : p.item ≠ [] ↔ done.length ≠ 0 := by simp [← h.length]
  rw [← hall, ← hno, hne, Progress.status]
  split_ifs with hs hf
  · exact ⟨iff_of_true rfl hs, iff_of_false (by simp) (by omega)⟩
  · exact ⟨iff_of_false (by simp) hs, iff_of_true rfl ⟨by omega, hf⟩⟩
  · exact ⟨iff_of_false (by simp) hs, iff_of_false (by simp) fun h => hf h.2⟩

/-- The record of a batch is that of its items, and theirs is that of their outcomes. -/
structure Accounted (temp done : FileOperate) (outcomes : List Outcome) : Prop where
  item : done.item = List.zipWith FileItem.after temp.item outcomes
  finished : ∀ item ∈ done.item, item.finished ∧
    (item.status = .success ∨ item.status = .partialStatus ∨ item.status = .failed)
  processedSize : done.processedSize = ((temp.item.zip outcomes).map fun d =>
    if d.2.succeeded || d.2.published then d.1.size else 0).sum
  bounded : done.processedSize ≤ done.totalSize
  success : done.status = .success ↔ ∀ item ∈ done.item, item.status = .success
  failed : done.status = .failed ↔ done.item ≠ [] ∧ ∀ item ∈ done.item, item.status = .failed
  partialStatus : done.status = .partialStatus ↔ done.status ≠ .success ∧ done.status ≠ .failed
  durabilityUnknown :
    done.durabilityUnknown = true ↔ ∃ item ∈ done.item, item.durabilityUnknown

lemma executeSafely_accounted {temp : FileOperate} {style : ManagedConflictStyle}
    {outcomes : List Outcome} (hsty : parseManagedConflictStyle temp.style = some style)
    (hlength : outcomes.length = temp.item.length)
    (hp : executeOutcomes (temp.item.zip outcomes) .start = .ok p)
    (hsz : ∀ item ∈ temp.item, 0 ≤ item.size)
    (htot : (temp.item.map (·.size)).sum = temp.totalSize) :
    Accounted temp (executeSafely temp outcomes) outcomes := by
  have hcts := executeOutcomes_counts hp Progress.start_counts
  rw [nil_append] at hcts
  have hlen : (temp.item.zip outcomes).length = temp.item.length := by simp [hlength]
  have hprocd : p.processedSize = ((temp.item.zip outcomes).map fun d =>
      if d.2.succeeded || d.2.published then d.1.size else 0).sum := by
    rw [hcts.processedSize, hcts.item, List.map_map]
    exact congrArg sum (map_congr_left fun d hd =>
      (d.1.recorded (hcts.returned d hd)).processedSize)
  have hsizes : ((temp.item.zip outcomes).map fun d => d.1.size).sum = temp.totalSize := by
    rw [← htot]
    conv_rhs => rw [← map_fst_zip hlength.ge, List.map_map]
    rfl
  have hst := hlen ▸ hcts.status
  simp only [executeSafely, hsty, hp]
  refine ⟨?_, hcts.finished, hprocd, ?_, hst.1, hst.2, ?_, ?_⟩
  · rw [hcts.item, zip, map_zipWith]
  · rw [hprocd, ← hsizes]
    refine sum_le_sum fun d hd => ?_
    have := hsz d.1 (of_mem_zip hd).1
    split_ifs <;> simp [this]
  · have := fileOperationStatusTerminal_status p temp.item.length
    cases h : p.status temp.item.length <;> simp_all [fileOperationStatusTerminal]
  · simp [hcts.durabilityUnknown]

section

variable {σ : Type} (roots : TransferRoots σ)
variable {style : ManagedConflictStyle}

/-- What the transfers of the items come to, one after another. -/
def transferOutcomes (operationType : String) (toPath : Bytes) (style : ManagedConflictStyle) :
    List FileItem → σ → List Outcome
  | [], _ => []
  | item :: items, state =>
    let ((result, operationErr), state) :=
      executeManagedFileOperationItem roots operationType item.fromPath toPath style state
    .returned result operationErr :: transferOutcomes operationType toPath style items state

lemma length_transferOutcomes {operationType : String} {toPath : Bytes} (items : List FileItem)
    (state : σ) :
    (transferOutcomes roots operationType toPath style items state).length = items.length := by
  induction items generalizing state with
  | nil => rfl
  | cons item items ih => simp [transferOutcomes, ih]

/-- The loop of the source is the loop over these outcomes. -/
lemma executeOutcomes_transferOutcomes {operationType : String} {toPath : Bytes}
    (items : List FileItem) (p : Progress) (state : σ) :
    executeOutcomes (items.zip (transferOutcomes roots operationType toPath style items state)) p
      = .ok (executeItems roots operationType toPath style items p state).1 := by
  induction items generalizing p state with
  | nil => rfl
  | cons item items ih => simp [transferOutcomes, executeOutcomes, executeItems, ih]

lemma executeSafely_transferOutcomes {temp : FileOperate}
    (hsty : parseManagedConflictStyle temp.style = some style) (state : σ) :
    executeSafely temp (transferOutcomes roots temp.type temp.toPath style temp.item state)
      = (executePreparedFileOperation roots temp state).1 := by
  simp [executeSafely, executePreparedFileOperation, hsty, executeOutcomes_transferOutcomes]

/-- **The record of a batch adds up.** Whatever the transfers of its items come to, each item ends
in one of three ways, the processed bytes are those of the items that were published, and the status
and the durability of the whole are those of its items. -/
theorem batch_accounting {temp : FileOperate} {style : ManagedConflictStyle}
    (hstyle : parseManagedConflictStyle temp.style = some style)
    (hsize : ∀ item ∈ temp.item, 0 ≤ item.size)
    (htotal : (temp.item.map (·.size)).sum = temp.totalSize) (state : σ) :
    Accounted temp (executePreparedFileOperation roots temp state).1
      (transferOutcomes roots temp.type temp.toPath style temp.item state) := by
  rw [← executeSafely_transferOutcomes roots hstyle]
  exact executeSafely_accounted hstyle (length_transferOutcomes roots _ _)
    (executeOutcomes_transferOutcomes roots _ _ _) hsize htotal

end

/-- Roots that answer what a list says. -/
def scriptedRoots : TransferRoots (List (ManagedTransferResult × Option OperationError)) where
  copyInto _ _ _ script := (script.headD (⟨[], false⟩, none), script.tail)
  moveInto _ _ _ script := (script.headD (⟨[], false⟩, none), script.tail)

def sampleCopies : FileOperate :=
  ⟨"copy", [⟨[47, 97], false, 3, 0, [], .pending, "", false⟩, ⟨[47, 98], false, 5, 0, [], .pending, "", false⟩],
    8, 0, [47, 99], "skip", false, .running, "", false⟩

/-- One of them arrives and one does not: three of eight bytes. -/
theorem sampleCopies_accounted : Accounted sampleCopies
        (executePreparedFileOperation scriptedRoots sampleCopies
          [(⟨[47, 99, 47, 97], true⟩, none), (⟨[], false⟩, some (plainError "gone"))]).1
        [.returned ⟨[47, 99, 47, 97], true⟩ none, .returned ⟨[], false⟩ (some (plainError "gone"))] ∧
      (executePreparedFileOperation scriptedRoots sampleCopies
        [(⟨[47, 99, 47, 97], true⟩, none), (⟨[], false⟩, some (plainError "gone"))]).1.processedSize = 3 :=
  ⟨batch_accounting scriptedRoots (show parseManagedConflictStyle "skip" = some .skip from rfl)
    (by decide) rfl _, rfl⟩

/-! ## 4. Panics -/

/-- The result denies nothing: no item that was published is `FAILED` with no bytes, and the whole is
not `FAILED` where something was changed. -/
def Honest (result : FileOperate) (outcomes : List Outcome) : Prop :=
  (∀ (i : Nat) (item : FileItem) (o : Outcome), result.item[i]? = some item → outcomes[i]? = some o →
    o.published → ¬ (item.status = .failed ∧ item.processedSize = 0)) ∧
  ((∃ o ∈ outcomes, o.changed) → result.status ≠ .failed)

/-- The outcomes that an operation comes to, which are none if it is refused. -/
def attempted (operation : FileOperate) (outcomes : List Outcome) : List Outcome :=
  match parseManagedConflictStyle operation.style with
  | none => []
  | some _ => Outcome.reached outcomes

/-- Without a panic the records of the items say what was changed. -/
lemma Progress.Counts.honest {op : FileOperate} {outcomes : List Outcome}
    (h : p.Counts (op.item.zip outcomes)) (hlength : outcomes.length = op.item.length)
    {res : FileOperate} (hit : res.item = p.item)
    (hst : res.status = p.status op.item.length) : Honest res outcomes := by
  have hfa : ∀ d ∈ op.item.zip outcomes, (d.1.after d.2).status = .failed → d.2.changed = false :=
    fun d hd hd' => ((d.1.recorded (h.returned d hd)).failed_iff.mp hd').2
  refine ⟨fun i item o hi ho hpub hdenied => ?_, fun ⟨o, ho, hchg⟩ hres => ?_⟩
  · rw [hit, h.item, getElem?_map, map_eq_some_iff] at hi
    obtain ⟨d, hd, rfl⟩ := hi
    obtain rfl := some.inj ((getElem?_zip_eq_some.mp hd).2.symm.trans ho)
    have := hfa d (mem_of_getElem? hd) hdenied.1
    simp [Outcome.changed_of_published hpub] at this
  · rw [← map_snd_zip hlength.le, List.mem_map] at ho
    obtain ⟨d, hd, rfl⟩ := ho
    have hlen : (op.item.zip outcomes).length = op.item.length := by simp [hlength]
    have hall := ((hlen ▸ h.status).2.mp (hst.symm.trans hres)).2
    have := hfa d hd (hall _ (h.item ▸ List.mem_map_of_mem hd))
    simp [hchg] at this

/-- **A result denies a completed transfer exactly when a panic came after a change.** -/
theorem stored_result_honest_iff {operation : FileOperate} {outcomes : List Outcome}
    (hlength : outcomes.length = operation.item.length) :
    Honest (executeSafely operation outcomes) (attempted operation outcomes) ↔
      (∀ o ∈ attempted operation outcomes, o.panics = false) ∨
        ∀ o ∈ attempted operation outcomes, o.changed = false := by
  unfold attempted
  cases hstyle : parseManagedConflictStyle operation.style with
  | none => simp [Honest]
  | some style =>
    cases hrun : executeOutcomes (operation.item.zip outcomes) .start with
    | ok p =>
      have hcounts := executeOutcomes_counts hrun Progress.start_counts
      have hreturned : ∀ o ∈ outcomes, o.panics = false := by
        rw [← map_snd_zip hlength.le]
        simpa using fun o item hd => hcounts.returned (item, o) hd
      simp only [Outcome.reached_eq_self hreturned]
      refine iff_of_true ?_ (.inl hreturned)
      simp only [executeSafely, hstyle, hrun]
      exact hcounts.honest hlength rfl rfl
    | error e =>
      obtain ⟨d, hd, hpanics⟩ := executeOutcomes_panics hrun
      obtain ⟨o, ho, hpanics⟩ := Outcome.exists_reached ⟨d.2, (of_mem_zip hd).2, hpanics⟩
      simp only [executeSafely, hstyle, hrun]
      refine ⟨fun h => .inr fun o' ho' => ?_, ?_⟩
      · by_contra hchanged
        exact h.2 ⟨o', ho', by simpa using hchanged⟩ rfl
      · rintro (h | h)
        · simp [h o ho] at hpanics
        · refine ⟨fun i item o' _ ho' hpublished => ?_, fun ⟨o', ho', hchanged⟩ => ?_⟩
          · have := h o' (mem_of_getElem? ho')
            simp [Outcome.changed_of_published hpublished] at this
          · simp [h o' ho'] at hchanged

/-- The first file has arrived when the second transfer panics: the result says that both failed. -/
theorem panic_denies_copied_file : ¬ Honest (executeSafely sampleCopies
        [.returned ⟨[47, 99, 47, 97], true⟩ none, .panicked "index out of range" false false])
      (attempted sampleCopies
        [.returned ⟨[47, 99, 47, 97], true⟩ none, .panicked "index out of range" false false]) :=
  fun h => h.2 ⟨_, (.head _), rfl⟩ rfl

/-- Where the first transfer panics at once, the result is true. -/
theorem early_panic_honest :
    Honest (executeSafely sampleCopies [.panicked "index out of range" false false, .returned ⟨[], false⟩ none])
      (attempted sampleCopies [.panicked "index out of range" false false, .returned ⟨[], false⟩ none]) :=
  (stored_result_honest_iff rfl).mpr (.inr (by decide))

end ReCasaOS.Files
