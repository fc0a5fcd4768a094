/-
# Copy and move operations

`service/file.go`: an operation (`model.FileOperate`) is a batch of items to copy or move into one
directory. `executePreparedFileOperation` transfers the items one after another and records, for
each item and for the whole, what came of it.

The transfers themselves are calls of `ManagedFileOperationRoots`. They act on a state of which
nothing is said here, and of an error they return, only its text and what
`ManagedMutationChanged` and `ManagedMutationDurabilityUnknown` say of it is read.
Values are copied where the code calls `cloneFileOperation`, so the clone is the value itself.
-/
import ReCasaOS.FileSecurity.MutationError
import ReCasaOS.Lib.Bytes

namespace ReCasaOS.Files

open Lib FileSecurity

/-! ## 1. Operations -/

/-- `FileOperationPending` and so on; a client may send any other text. -/
inductive FileOperationStatus
  | pending
  | running
  | success
  | failed
  | partialStatus
  | other (text : String)
  deriving DecidableEq, Repr

def fileOperationStatusTerminal : FileOperationStatus → Bool
  | .success | .failed | .partialStatus => true
  | .pending | .running | .other _ => false

structure FileItem where
  fromPath : Bytes
  finished : Bool
  size : Int
  processedSize : Int
  destination : Bytes
  status : FileOperationStatus
  error : String
  durabilityUnknown : Bool
  deriving DecidableEq, Repr

structure FileOperate where
  type : String
  item : List FileItem
  totalSize : Int
  processedSize : Int
  toPath : Bytes
  style : String
  finished : Bool
  status : FileOperationStatus
  error : String
  durabilityUnknown : Bool
  deriving DecidableEq, Repr

inductive ManagedConflictStyle
  | skip
  | replace
  | rename
  deriving DecidableEq, Repr

/-- `string(style)`. -/
def ManagedConflictStyle.text : ManagedConflictStyle → String
  | .skip => "skip"
  | .replace => "replace"
  | .rename => "rename"

/-- `ParseManagedConflictStyle`, with `overwrite` for the old clients. -/
def parseManagedConflictStyle (value : String) : Option ManagedConflictStyle :=
  if value = "overwrite" then some .replace
  else if value = "skip" then some .skip
  else if value = "replace" then some .replace
  else if value = "rename" then some .rename
  else none

lemma parseManagedConflictStyle_text (style : ManagedConflictStyle) :
    parseManagedConflictStyle style.text = some style := by
  cases style <;> rfl

/-! ## 2. Errors -/

/-- What is read of an error. -/
structure OperationError where
  text : String
  mutation : MutationFlags
  deriving DecidableEq, Repr

/-- An error that no mutation is behind. -/
def plainError (text : String) : OperationError := ⟨text, .none⟩

def maxFileOperationErrorRunes : Nat := 512

/-- `safeFileOperationError` of an error with this text. -/
def safeFileOperationError (text : String) : String :=
  let cleaned := text.toList.map fun c => if c.toNat < 0x20 ∨ c.toNat = 0x7f then ' ' else c
  if maxFileOperationErrorRunes < cleaned.length then
    String.ofList (cleaned.take maxFileOperationErrorRunes) ++ "…"
  else String.ofList cleaned

/-- An item of an operation that was not executed. -/
def FileItem.fail (item : FileItem) (errorText : String) (durabilityUnknown : Bool) : FileItem :=
  { item with
    status := .failed
    error := errorText
    finished := true
    processedSize := 0
    durabilityUnknown }

def failQueuedFileOperation (temp : FileOperate) (operationErr : OperationError) : FileOperate :=
  let errorText := safeFileOperationError operationErr.text
  let durabilityUnknown := operationErr.mutation.durabilityUnknown
  { temp with
    error := errorText
    durabilityUnknown
    status := .failed
    finished := true
    processedSize := 0
    item := temp.item.map (·.fail errorText durabilityUnknown) }

/-! ## 3. Execution -/

structure ManagedTransferResult where
  destination : Bytes
  changed : Bool
  deriving DecidableEq, Repr

/-- `CopyInto` and `MoveInto`, on a state `σ`. -/
structure TransferRoots (σ : Type) where
  copyInto : (source destination : Bytes) → ManagedConflictStyle → σ →
    (ManagedTransferResult × Option OperationError) × σ
  moveInto : (source destination : Bytes) → ManagedConflictStyle → σ →
    (ManagedTransferResult × Option OperationError) × σ

section

variable {σ : Type} (roots : TransferRoots σ)

def executeManagedFileOperationItem (operationType : String) (source destination : Bytes)
    (style : ManagedConflictStyle) (state : σ) :
    (ManagedTransferResult × Option OperationError) × σ :=
  if operationType = "copy" then roots.copyInto source destination style state
  else if operationType = "move" then roots.moveInto source destination style state
  else
    ((⟨[], false⟩, some (plainError
      ("invalid managed file operation: unsupported type " ++ operationType.quote))), state)

/-- What the loop writes into an item, given the result of its transfer. -/
def FileItem.record (item : FileItem) (result : ManagedTransferResult) :
    Option OperationError → FileItem
  | some operationErr =>
    let item := { item with
      error := safeFileOperationError operationErr.text
      durabilityUnknown := operationErr.mutation.durabilityUnknown
      finished := true }
    if result.changed then
      { item with
        status := .partialStatus
        destination := result.destination
        processedSize := item.size }
    else if operationErr.mutation.changed then
      { item with status := .partialStatus, destination := [], processedSize := 0 }
    else { item with status := .failed, destination := [], processedSize := 0 }
  | none =>
    { item with
      destination := result.destination
      processedSize := item.size
      finished := true
      status := .success
      error := ""
      durabilityUnknown := false }

/-- The variables of the loop, with the items that are done. -/
structure Progress where
  item : List FileItem
  processedSize : Int
  error : String
  durabilityUnknown : Bool
  succeeded : Nat
  partiallyChanged : Nat

def Progress.start : Progress := ⟨[], 0, "", false, 0, 0⟩

/-- `temp.Error` after one more item has failed. -/
def joinErrors (error itemError : String) : String :=
  safeFileOperationError (if error = "" then itemError else error ++ "; " ++ itemError)

/-- The rest of the body of the loop, after the transfer. -/
def Progress.record (p : Progress) (item : FileItem) (result : ManagedTransferResult)
    (operationErr : Option OperationError) : Progress :=
  let recorded := item.record result operationErr
  { item := p.item ++ [recorded]
    processedSize := p.processedSize + recorded.processedSize
    error := if operationErr.isSome then joinErrors p.error recorded.error else p.error
    durabilityUnknown := p.durabilityUnknown || recorded.durabilityUnknown
    succeeded := if operationErr.isSome then p.succeeded else p.succeeded + 1
    partiallyChanged :=
      if recorded.status = .partialStatus then p.partiallyChanged + 1 else p.partiallyChanged }

/-- The loop over the items. -/
def executeItems (operationType : String) (toPath : Bytes) (style : ManagedConflictStyle) :
    List FileItem → Progress → σ → Progress × σ
  | [], p, state => (p, state)
  | item :: items, p, state =>
    let ((result, operationErr), state) :=
      executeManagedFileOperationItem roots operationType item.fromPath toPath style state
    executeItems operationType toPath style items (p.record item result operationErr) state

/-- The status of the whole, by the numbers of items. -/
def Progress.status (p : Progress) (count : Nat) : FileOperationStatus :=
  if p.succeeded = count ∧ p.partiallyChanged = 0 then .success
  else if p.succeeded = 0 ∧ p.partiallyChanged = 0 then .failed
  else .partialStatus

def executePreparedFileOperation (temp : FileOperate) (state : σ) : FileOperate × σ :=
  match parseManagedConflictStyle temp.style with
  | none =>
    (failQueuedFileOperation temp
      (plainError ("invalid managed copy conflict style: " ++ temp.style.quote)), state)
  | some style =>
    let (p, state) := executeItems roots temp.type temp.toPath style temp.item .start state
    ({ temp with
        item := p.item
        processedSize := p.processedSize
        error := p.error
        durabilityUnknown := p.durabilityUnknown
        finished := true
        status := p.status temp.item.length }, state)

lemma executePreparedFileOperation_eq (temp : FileOperate) {style : ManagedConflictStyle}
    (h : parseManagedConflictStyle temp.style = some style) (state : σ) :
    (executePreparedFileOperation roots temp state).1.item
        = (executeItems roots temp.type temp.toPath style temp.item .start state).1.item ∧
      (executePreparedFileOperation roots temp state).2
        = (executeItems roots temp.type temp.toPath style temp.item .start state).2 := by
  rw [executePreparedFileOperation, h]
  exact ⟨rfl, rfl⟩

end

/-! ## 4. Panics -/

/-- What a transfer comes to: it returns, or it panics, and by then it may have published the
destination or changed something else. -/
inductive Outcome
  | returned (result : ManagedTransferResult) (operationErr : Option OperationError)
  | panicked (recovered : String) (published auxiliary : Bool)
  deriving DecidableEq, Repr

/-- The item in the array when its transfer is over. -/
def FileItem.after (item : FileItem) : Outcome → FileItem
  | .returned result operationErr => item.record result operationErr
  | .panicked _ _ _ => { item with status := .running, durabilityUnknown := false }

/-- The loop over the items, given what their transfers come to. A panic leaves the array as it is. -/
def executeOutcomes : List (FileItem × Outcome) → Progress → Except (String × List FileItem) Progress
  | [], p => .ok p
  | (item, .returned result operationErr) :: rest, p =>
    executeOutcomes rest (p.record item result operationErr)
  | (item, .panicked recovered published auxiliary) :: rest, p =>
    .error (recovered,
      p.item ++ item.after (.panicked recovered published auxiliary) :: rest.map Prod.fst)

/-- `executeSafely` where the roots are available: the executor works on the array of items that
the operation of the handler has too. -/
def executeSafely (operation : FileOperate) (outcomes : List Outcome) : FileOperate :=
  match parseManagedConflictStyle operation.style with
  | none =>
    failQueuedFileOperation operation
      (plainError ("invalid managed copy conflict style: " ++ operation.style.quote))
  | some _ =>
    match executeOutcomes (operation.item.zip outcomes) .start with
    | .ok p =>
      { operation with
        item := p.item
        processedSize := p.processedSize
        error := p.error
        durabilityUnknown := p.durabilityUnknown
        finished := true
        status := p.status operation.item.length }
    | .error (recovered, items) =>
      failQueuedFileOperation { operation with item := items }
        (plainError ("file operation worker panic: " ++ recovered))

/-- `executeSafely`, whose executor is `executeQueuedFileOperation`: the roots may be unavailable,
or the items are executed until one panics. -/
inductive Executed (operation : FileOperate) : FileOperate → Prop
  | failed (operationErr : OperationError) :
    Executed operation (failQueuedFileOperation operation operationErr)
  | executed (outcomes : List Outcome) (h : outcomes.length = operation.item.length) :
    Executed operation (executeSafely operation outcomes)

lemma fileOperationStatusTerminal_status (p : Progress) (count : Nat) :
    fileOperationStatusTerminal (p.status count) := by
  unfold Progress.status
  split
  · rfl
  · split <;> rfl

/-- Whatever an execution comes to, the operation is over. -/
lemma Executed.terminal {op res : FileOperate} (h : Executed op res) :
    fileOperationStatusTerminal res.status := by
  cases h with
  | failed operationErr => rfl
  | executed outcomes h =>
    unfold executeSafely
    split
    · rfl
    · split
      · exact fileOperationStatusTerminal_status _ _
      · rfl

end ReCasaOS.Files
