/-
# An upload session

`UploadFile` (`service/file_upload.go`) does its work under the lock of the session: it creates the
directories, reconciles or writes the chunk, and when all chunks are there it assembles, verifies
and publishes the target. `TestChunk` answers from the same record. Each of these lock sections is
a program here, with every error path; how it ends (`Ending`) says what the request does after
`Unlock`.

The bookkeeping of a session is three fields, the flags, the digests and the counter, and they are
changed on different paths: a published chunk sets them, a vanished one clears them again, an
ambiguous write has to be counted, and completion drops them. `UploadSession.Good` says how they
hang together with what was published, and `uploadLocked_ends` that a section keeps it, whatever
fails. Between the sections the staging files may be tampered with, so nothing is assumed about them.

Sections of different sessions overlap, but they meet only in the commit, which holds the mutation
lease, and nothing in front of it depends on the files outside the staging directory.
-/
import ReCasaOS.Uploads.Staging
import ReCasaOS.Lib.Result
import ReCasaOS.Lib.Transition

namespace ReCasaOS.Uploads

open Lib FileSecurity List Option Fallible

/-! ## 1. Requests -/

def validateChunk (totalChunks chunkNumber : Int) : Except OpError Unit := do
  check (totalChunks < 1 ∨ totalChunks > maxUploadChunks)
    (textError "totalChunks must be between 1 and 256")
  check (chunkNumber < 1 ∨ chunkNumber > totalChunks)
    (textError "chunkNumber must be between 1 and totalChunks")

def validateUploadSizes (chunkSize currentChunkSize totalSize totalChunks : Int) :
    Except OpError Unit := do
  check (chunkSize < 1 ∨ chunkSize > maxUploadChunkSize)
    (textError "chunkSize must be between 1 and 268435456")
  check (currentChunkSize < 0 ∨ currentChunkSize > chunkSize ∨ currentChunkSize > maxUploadChunkSize)
    (textError "currentChunkSize is out of range")
  check (totalSize < 0 ∨ totalSize > maxUploadTotalSize) (textError "totalSize is out of range")
  check (totalChunks < 1 ∨ totalChunks > maxUploadChunks)
    (textError "totalChunks must be between 1 and 256")
  check (totalSize > totalChunks * chunkSize) (textError "totalSize exceeds declared chunk capacity")
  check (totalSize = 0 ∧ (totalChunks ≠ 1 ∨ currentChunkSize ≠ 0))
    (textError "zero-byte upload metadata is inconsistent")
  check (totalSize > 0 ∧ currentChunkSize = 0) (textError "non-empty upload chunk is empty")

def validateChunkShape (chunkNumber chunkSize currentChunkSize totalChunks totalSize : Int) :
    Except OpError Unit := do
  if totalSize = 0 then pure ()
  else
    let minimumSize := (totalChunks - 1) * chunkSize
    check (totalSize ≤ minimumSize)
      (textError "totalSize is inconsistent with totalChunks and chunkSize")
    let expectedCurrentSize :=
      if chunkNumber = totalChunks then totalSize - minimumSize else chunkSize
    check (currentChunkSize ≠ expectedCurrentSize)
      (textError "currentChunkSize is inconsistent with chunk position")

/-- A request of `UploadFile` with its paths resolved. `size` is the declared size of the multipart
file and `content` what it delivers. -/
structure UploadRequest where
  candidate : UploadMetadata
  chunkNumber : Int
  currentChunkSize : Int
  size : Int
  content : Bytes
  now : Nat
  surroundings : Surroundings

/-- The checks of `UploadFile` on the numbers of a request. -/
def UploadRequest.validate (request : UploadRequest) : Except OpError Unit := do
  validateChunk request.candidate.totalChunks request.chunkNumber
  validateUploadSizes request.candidate.chunkSize request.currentChunkSize
    request.candidate.totalSize request.candidate.totalChunks
  validateChunkShape request.chunkNumber request.candidate.chunkSize request.currentChunkSize
    request.candidate.totalChunks request.candidate.totalSize
  check (request.size < 0 ∨ request.size > maxUploadChunkSize ∨ request.size ≠ request.currentChunkSize)
    (textError "uploaded chunk size does not match currentChunkSize")

/-- `chunkIndex := int(chunkNumber - 1)`. -/
def UploadRequest.chunkIndex (request : UploadRequest) : Nat := (request.chunkNumber - 1).toNat

/-- The name of a chunk, by its index. -/
def chunkName (index : Nat) : Bytes := Json.integer (index + 1)

/-- The new session of a request. -/
def UploadMetadata.newSession {δ : Type} [Inhabited δ] (candidate : UploadMetadata) (now : Nat) :
    FileInfo δ where
  init := true
  metadata := candidate
  uploaded := List.replicate candidate.totalChunks.toNat false
  chunkDigests := List.replicate candidate.totalChunks.toNat default
  uploadedChunkNum := 0
  lastActivity := some now
  pinned := false
  cleanupErr := none
  completed := false
  completedAt := none
  completionDigest := default
  completionSize := 0
  completionIdentity := ⟨0, 0, 0⟩
  completionErr := none
  stagingClean := false

/-- What a request of `TestChunk` is compared with. -/
structure TestRequest where
  principalID : Int
  roots : Nat
  base : Bytes
  targetPath : Bytes
  targetRelative : Bytes
  chunkNumber : Int
  now : Nat

def sameServiceUploadNamespace (metadata : UploadMetadata) (request : TestRequest) : Bool :=
  metadata.principalID == request.principalID && metadata.roots == request.roots &&
    metadata.base == request.base && metadata.targetPath == request.targetPath &&
    metadata.targetRelative == request.targetRelative

/-- `sameServiceUploadMetadata`: every immutable field. -/
def sameServiceUploadMetadata {δ : Type} (existing : FileInfo δ) (candidate : UploadMetadata) : Bool :=
  existing.metadata == candidate

/-- `changedServiceUploadError` of an error that is not nil. -/
def changedServiceUploadError (operation : String) (err : OpError) : OpError :=
  .mutation operation ⟨true, managedMutationDurabilityUnknown (managedErrors Cause) (some err)⟩ (some err)

def changedServiceUploadErrorIf (changed : Bool) (operation : String) (err : OpError) : OpError :=
  if changed then changedServiceUploadError operation err else err

/-- How a lock section ends: with a return, or with `deleteUploadSession` and an error in front of
its own. -/
inductive Ending
  | returned (err : Option OpError)
  | deleting (requestChanged : Bool) (err : OpError)

abbrev Section (δ α : Type) := Fallible (Faulty (Upload δ)) Ending α

/-! ## 2. The chunk -/

section

variable {δ : Type}

def fileInfo {ε : Type} : Fallible (Faulty (Upload δ)) ε (FileInfo δ) :=
  fun w => (.ok w.state.session.info, w)

def updateInfo {ε : Type} (f : FileInfo δ → FileInfo δ) : Fallible (Faulty (Upload δ)) ε Unit :=
  Fallible.modify fun w => ⟨w.state.setInfo f, w.faults⟩

/-- `serviceChunkWriteResult` with the error beside it. -/
structure ChunkWrite (δ : Type) where
  published : Bool
  digest : δ
  err : Option OpError

/-- `writeValidatedServiceChunkTo` up to `out.Sync`. -/
def writeUnpublished (temporaryName source : Bytes) (expectedSize : Int) : Action δ Unit := do
  let copyErr ← attempt (write .staging temporaryName source)
  let closeErr ← attempt closing
  match joinErrors [failureOf copyErr, failureOf closeErr] with
  | some err => fail err
  | none =>
    let written := source.length
    guard (maxUploadChunkSize < written) (textError "upload chunk exceeds 268435456 bytes")
    guard ((written : Int) ≠ expectedSize)
      (textError s!"uploaded chunk contains {written} bytes, expected {expectedSize}")
    inspect

def writeValidatedServiceChunkTo (sha256 : Bytes → δ) (temporaryName name source : Bytes)
    (expectedSize : Int) : Action δ (ChunkWrite δ) := do
  let copied := source.take (maxUploadChunkSize + 1)
  match ← attempt (writeUnpublished temporaryName copied expectedSize) with
  | .error err =>
    let aborted ← attempt (abortWriter temporaryName)
    pure ⟨false, sha256 copied, joinErrors [some err, failureOf aborted]⟩
  | .ok _ =>
    match ← attempt (finishWriter temporaryName name) with
    | .error err => pure ⟨decide (Reports err), sha256 copied, some err⟩
    | .ok _ => pure ⟨true, sha256 copied, none⟩

def writeValidatedServiceChunkIn [Inhabited δ] (sha256 : Bytes → δ) (surroundings : Surroundings)
    (name source : Bytes) (expectedSize : Int) : Action δ (ChunkWrite δ) := do
  match ← attempt (createExclusiveIn name surroundings.chunkRandom surroundings.number) with
  | .error err =>
    let closeErr ← attempt closing
    pure ⟨false, default, joinErrors [some err, failureOf closeErr]⟩
  | .ok temporaryName => writeValidatedServiceChunkTo sha256 temporaryName name source expectedSize

/-- A chunk whose file has vanished. -/
def FileInfo.forget [Inhabited δ] (info : FileInfo δ) (chunkIndex : Nat) : FileInfo δ :=
  { info with
    uploaded := info.uploaded.set chunkIndex false
    chunkDigests := info.chunkDigests.set chunkIndex default
    uploadedChunkNum :=
      if 0 < info.uploadedChunkNum then info.uploadedChunkNum - 1 else info.uploadedChunkNum }

/-- A chunk that was published. -/
def FileInfo.accept (info : FileInfo δ) (chunkIndex : Nat) (digest : δ) : FileInfo δ :=
  { info with
    uploadedChunkNum :=
      if info.uploaded.getD chunkIndex false then info.uploadedChunkNum else info.uploadedChunkNum + 1
    uploaded := info.uploaded.set chunkIndex true
    chunkDigests := info.chunkDigests.set chunkIndex digest }

/-- The check of a recorded chunk that was found. -/
def verifyRecorded [DecidableEq δ] (sha256 : Bytes → δ) (recorded : δ) (chunk : StoredFile)
    (expectedSize : Int) : Action δ Bool := do
  inspect
  guard ((chunk.content.length : Int) ≠ expectedSize)
    (unsafeError "recorded upload chunk changed before retry")
  let copyErr ← attempt inspect
  let closeErr ← attempt closing
  match joinErrors [failureOf copyErr, failureOf closeErr] with
  | some err => fail err
  | none =>
    guard (sha256 chunk.content ≠ recorded)
      (unsafeError "recorded upload chunk content changed before retry")
    pure true

def reconcileRecordedServiceChunk [DecidableEq δ] [Inhabited δ] (sha256 : Bytes → δ)
    (chunkIndex : Nat) (name : Bytes) (expectedSize : Int) : Action δ Bool := do
  let info ← fileInfo
  guard (info.chunkDigests.length ≠ info.uploaded.length)
    (textError "invalid upload digest state")
  inspect
  match ← attempt (openRegularIn name) with
  | .ok chunk => verifyRecorded sha256 (info.chunkDigests.getD chunkIndex default) chunk expectedSize
  | .error err =>
    if notExist err then do
      updateInfo fun info => info.forget chunkIndex
      pure false
    else fail err

def reserveSpace (surroundings : Surroundings) : Action δ Unit :=
  (query fun _ => .ok ()).onError fun _ code => surroundings.spaceError code

/-- What `UploadFile` keeps of a published chunk, with the history of the digests. -/
def recordChunk {ε : Type} (chunkIndex : Nat) (digest : δ) : Fallible (Faulty (Upload δ)) ε Unit :=
  Fallible.modify fun w => ⟨{ w.state with session := { w.state.session with
    info := w.state.session.info.accept chunkIndex digest
    recorded := w.state.session.recorded ++ [(chunkIndex, digest)] } }, w.faults⟩

/-- The write of a chunk that is not there yet, with the error of a write that published it all the
same. -/
def storeChunk [Inhabited δ] (sha256 : Bytes → δ) (request : UploadRequest) :
    Section δ (Option OpError) := do
  inspect.onError fun _ err => .returned (some (changedServiceUploadError
    "upload namespace changed before multipart chunk open failed" err))
  match ← attempt (reserveSpace request.surroundings) with
  | .error spaceErr =>
    let closeErr ← attempt closing
    fail (.returned ((joinErrors [some spaceErr, failureOf closeErr]).map
      (changedServiceUploadError "upload directories may have changed before chunk space admission failed")))
  | .ok _ =>
    let result ← onError
      (writeValidatedServiceChunkIn sha256 request.surroundings (chunkName request.chunkIndex)
        request.content request.currentChunkSize) fun _ err => .returned (some err)
    if result.published = false then
      fail (.returned (some (match result.err with
        | some err => changedServiceUploadError "upload namespace changed before chunk publication failed" err
        | none => changedServiceUploadError
          "upload namespace changed before chunk publication was confirmed"
          (textError "validated upload chunk was not published"))))
    else do
      recordChunk request.chunkIndex result.digest
      pure result.err

/-- `reconcileRecordedServiceChunk` if the chunk is recorded. -/
def reconcileChunk [DecidableEq δ] [Inhabited δ] (sha256 : Bytes → δ) (request : UploadRequest) :
    Section δ Bool := do
  let info ← fileInfo
  if info.uploaded.getD request.chunkIndex false then
    (reconcileRecordedServiceChunk sha256 request.chunkIndex (chunkName request.chunkIndex)
      request.currentChunkSize).onError fun _ err => .returned (some (changedServiceUploadError
        "upload namespace changed before recorded chunk reconciliation failed" err))
  else pure false

/-- From the reconciliation to the record of the chunk. -/
def acceptChunk [DecidableEq δ] [Inhabited δ] (sha256 : Bytes → δ) (request : UploadRequest) :
    Section δ (Option OpError) := do
  let reconciled ← reconcileChunk sha256 request
  if reconciled then pure none else storeChunk sha256 request

/-! ## 3. The assembly -/

/-- One turn of the loop of `assembleServiceUpload`; the bytes that were copied are returned. -/
def assembleChunk [DecidableEq δ] [Inhabited δ] (sha256 : Bytes → δ) (temporaryName : Bytes)
    (digests : List δ) (index : Nat) : Action δ Bytes := do
  let number := index + 1
  match ← statDirectoryEntry (chunkName index) with
  | .regular file =>
    guard (maxUploadChunkSize < file.content.length) (textError s!"invalid upload chunk {number}")
    let chunk ← openRegularIn (chunkName index)
    let copied := chunk.content.take (maxUploadChunkSize + 1)
    write .staging temporaryName copied
    closing
    guard (maxUploadChunkSize < copied.length)
      (textError s!"upload chunk {number} exceeds 268435456 bytes")
    guard (sha256 copied ≠ digests.getD index default)
      (unsafeError s!"upload chunk {number} changed before assembly")
    pure copied
  | _ => fail (textError s!"invalid upload chunk {number}")

/-- The loop, over the indices that are left. -/
def assembleChunks [DecidableEq δ] [Inhabited δ] (sha256 : Bytes → δ) (temporaryName : Bytes)
    (digests : List δ) : List Nat → Action δ (List Bytes)
  | [] => pure []
  | index :: rest => do
    let chunk ← assembleChunk sha256 temporaryName digests index
    let chunks ← assembleChunks sha256 temporaryName digests rest
    pure (chunk :: chunks)

/-- `assembleServiceUpload` while `.complete` is written. -/
def assembleContent [DecidableEq δ] [Inhabited δ] (sha256 : Bytes → δ) (temporaryName : Bytes)
    (info : FileInfo δ) : Action δ Bytes := do
  let chunks ← assembleChunks sha256 temporaryName info.chunkDigests
    (List.range info.metadata.totalChunks.toNat)
  let content := chunks.flatten
  let totalWritten := content.length
  let expected := info.metadata.totalSize
  guard ((totalWritten : Int) ≠ expected)
    (textError s!"assembled file contains {totalWritten} bytes, expected {expected}")
  -- the path of the target, then `out.Sync`
  inspect
  inspect
  pure content

def ensureStagingDirectory : Action δ Unit := do
  let info ← fileInfo
  if info.pinned then pure ()
  else do
    inspect.onError fun _ err => .wrapped "pin upload staging parent" err
    inspect.onError fun _ err => .wrapped "pin upload staging directory" err
    updateInfo fun info => { info with pinned := true }

/-- The old `.complete` is removed; `namespaceChanged` says whether there was one. -/
def removeOldAssembly : Action δ Bool := do
  match ← attempt (removeIn completeName) with
  | .ok _ => pure true
  | .error err => if notExist err then pure false else fail err

/-- `serviceAssemblyResult` of a commit that was tried, with the error beside it. -/
structure Assembly (δ : Type) where
  targetPublished : Bool
  digest : δ
  size : Nat
  identity : FileIdentity
  err : Option OpError

/-- `assembleServiceUpload`; where it fails, nothing was published at the target. -/
def assembleServiceUpload [DecidableEq δ] [Inhabited δ] (sha256 : Bytes → δ)
    (surroundings : Surroundings) : Action δ (Assembly δ) := do
  let info ← fileInfo
  guard (info.chunkDigests.length ≠ info.uploaded.length)
    (textError "invalid upload digest state")
  ensureStagingDirectory
  let namespaceChanged ← removeOldAssembly
  let temporaryName ← (createExclusiveIn completeName surroundings.assemblyRandom
    surroundings.number).onError fun _ err => changedServiceUploadErrorIf namespaceChanged
      "old upload assembly removed before recreation failed" err
  match ← attempt (assembleContent sha256 temporaryName info) with
  | .error err =>
    let aborted ← attempt (abortWriter temporaryName)
    fail (changedServiceUploadErrorIf namespaceChanged
      "upload assembly namespace changed before failure" (.joined (err :: (failureOf aborted).toList)))
  | .ok content =>
    match ← attempt (finishWriter temporaryName completeName) with
    | .error err =>
      fail (changedServiceUploadErrorIf (namespaceChanged || decide (Reports err))
        "upload assembly namespace changed before failure" err)
    | .ok assemblyIdentity =>
      let (identity, err) ← commitNoReplace sha256 surroundings completeName info.metadata.targetPath
        assemblyIdentity (sha256 content)
      pure ⟨err.elim true fun err => decide (Reports err), sha256 content, content.length, identity,
        err.map (changedServiceUploadError "upload assembly namespace changed before failure")⟩

/-- A session whose target was published. -/
def FileInfo.complete (info : FileInfo δ) (now : Nat) (assembly : Assembly δ) : FileInfo δ :=
  { info with
    completed := true
    completedAt := some now
    completionDigest := assembly.digest
    completionSize := assembly.size
    completionIdentity := assembly.identity
    completionErr := assembly.err
    uploaded := []
    chunkDigests := []
    uploadedChunkNum := 0 }

/-- From the last chunk to `Unlock`. -/
def publishUpload [DecidableEq δ] [Inhabited δ] (sha256 : Bytes → δ) (request : UploadRequest)
    (writeErr : Option OpError) : Section δ Unit := do
  (reserveSpace request.surroundings).onError fun _ spaceErr => .returned
    ((joinErrors [writeErr, some spaceErr]).map
      (changedServiceUploadError "upload chunks published before assembly space admission failed"))
  match ← attempt (assembleServiceUpload sha256 request.surroundings) with
  | .error err =>
    updateInfo fun info => { info with init := false }
    fail (.deleting true (changedServiceUploadError
      "upload chunk published before assembly failed" (.joined (writeErr.toList ++ [err]))))
  | .ok assembly =>
    updateInfo fun info =>
      { (if assembly.targetPublished then info.complete request.now assembly else info) with
        init := false }
    match assembly.err with
    | some err =>
      fail (.deleting true (changedServiceUploadError
        "upload chunk published before assembly failed" (.joined (writeErr.toList ++ [err]))))
    | none =>
      guard (assembly.targetPublished = false) (.deleting true
        (textError "upload assembly completed without publishing its target"))

/-! ## 4. The lock sections -/

/-- `if err := m; err != nil { fileInfo.init = false; .. }`. -/
def orTerminal {α : Type} (m : Action δ α) (ending : OpError → Ending) : Section δ α := do
  match ← attempt m with
  | .ok a => pure a
  | .error err =>
    updateInfo fun info => { info with init := false }
    fail (ending err)

def makeUploadDirectory (surroundings : Surroundings) : Action δ Unit :=
  (query fun _ => .ok ()).onError fun _ code => surroundings.mkdirError code

/-- The directories of the request. -/
def prepareStaging (request : UploadRequest) (hadPublishedChunks : Bool) : Section δ Unit := do
  orTerminal (makeUploadDirectory request.surroundings) fun err =>
    .deleting (hadPublishedChunks || decide (Reports err))
      (changedServiceUploadErrorIf (hadPublishedChunks || decide (Reports err))
        "upload session changed before target parent creation failed" err)
  orTerminal inspect fun err => .deleting true
    (changedServiceUploadError "target path changed after parent creation" err)
  orTerminal (makeUploadDirectory request.surroundings) fun err => .deleting true
    (changedServiceUploadError "target parent created before upload staging creation failed" err)
  orTerminal ensureStagingDirectory fun err => .deleting true
    (changedServiceUploadError "upload staging directory could not be pinned" err)
  updateInfo fun info => { info with stagingClean := false, lastActivity := some request.now }

/-- `verifyCompletedServiceUpload`: the target still is the file that was published. -/
def verifyCompletedServiceUpload : Action δ Unit := do
  let info ← fileInfo
  guard (info.completed = false ∨ info.completionSize < 0)
    (textError "invalid completed upload state")
  let entry ← openAt fun u : Upload δ =>
    match u.destination info.metadata.targetPath with
    | none => .error .enoent
    | some entry => .ok entry
  inspect
  match entry with
  | .regular file =>
    guard (file.links ≠ 1)
      (unsafeError "completed upload target is not a single-link regular file")
    guard (file.identity ≠ info.completionIdentity)
      (unsafeError "completed upload target identity changed")
    inspect
  | _ => fail (unsafeError "completed upload target is not a single-link regular file")

/-- The section of `UploadFile` for a session that is completed. -/
def replyCompleted (request : UploadRequest) : Section δ Unit := do
  let info ← fileInfo
  guard (sameServiceUploadMetadata info request.candidate = false)
    (.returned (some (textError
      "identifier is already bound to a completed upload with different metadata")))
  verifyCompletedServiceUpload.onError fun _ err => .returned (some err)
  updateInfo fun info => { info with lastActivity := some request.now }
  fail (.returned info.completionErr)

/-- The section of `UploadFile` for a session that is alive. -/
def uploadActive [DecidableEq δ] [Inhabited δ] (sha256 : Bytes → δ) (request : UploadRequest) :
    Section δ Unit := do
  let info ← fileInfo
  guard (sameServiceUploadMetadata info request.candidate = false)
    (.returned (some (textError "identifier is already bound to different upload metadata")))
  guard (info.chunkDigests.length ≠ info.uploaded.length)
    (.returned (some (textError "invalid upload digest state")))
  inspect.onError fun _ err => .returned (some (.wrapped "resolve bound upload chunk" err))
  prepareStaging request (decide (0 < info.uploadedChunkNum))
  let writeErr ← acceptChunk sha256 request
  let info ← fileInfo
  guard (info.uploadedChunkNum ≠ request.candidate.totalChunks) (.returned writeErr)
  publishUpload sha256 request writeErr

/-- `UploadFile` under the lock of the session; if it returns, `deleteUploadSession` follows and the
request has succeeded. -/
def uploadLocked [DecidableEq δ] [Inhabited δ] (sha256 : Bytes → δ) (request : UploadRequest) :
    Section δ Unit := do
  let info ← fileInfo
  if info.completed then replyCompleted request
  else if info.init = false then
    fail (.returned (some
      (info.cleanupErr.getD (textError "upload session cleanup is pending"))))
  else uploadActive sha256 request

/-- `TestChunk` under the lock of the session. -/
def testChunkLocked (request : TestRequest) : Action δ (Option OpError) := do
  let info ← fileInfo
  guard (sameServiceUploadNamespace info.metadata request = false ∨
    info.init = false ∧ info.completed = false) (textError "file not initialized")
  updateInfo fun info => { info with lastActivity := some request.now }
  ofExcept (validateChunk info.metadata.totalChunks request.chunkNumber)
  if info.completed then do
    verifyCompletedServiceUpload
    pure info.completionErr
  else do
    guard (info.uploadedChunkNum = info.metadata.totalChunks)
      (textError "upload assembly is pending")
    guard (info.uploaded.getD (request.chunkNumber - 1).toNat false = false)
      (textError "file not found")
    pure none

end

/-! ## 5. The books of a session -/

section

variable {δ : Type}
variable {i : Nat} {sha256 : Bytes → δ} {s : UploadSession δ} {t : Upload δ}

/-- What was last published under a name. -/
def lastPublished (log : List (Bytes × Bytes)) (name : Bytes) : Option Bytes :=
  (log.reverse.find? fun entry => entry.1 == name).map Prod.snd

variable (log : List (Bytes × Bytes))

lemma lastPublished_append_self (name content : Bytes) :
    lastPublished (log ++ [(name, content)]) name = some content := by
  simp [lastPublished]

lemma lastPublished_append_ne {name other : Bytes} (content : Bytes)
    (h : name ≠ other) : lastPublished (log ++ [(name, content)]) other = lastPublished log other := by
  simp [lastPublished, h]

lemma readInteger_chunkName (index : Nat) :
    Json.readInteger (chunkName index) = some ((index : Int) + 1, []) := by
  have hrd := @Json.readInteger_integer [] ((index : Int) + 1) fun b hb => nomatch hb
  rwa [append_nil] at hrd

lemma chunkName_injective {j : Nat} (h : chunkName i = chunkName j) : i = j := by
  have hrd := (readInteger_chunkName i).symm.trans (h ▸ readInteger_chunkName j)
  simp only [some.injEq, Prod.mk.injEq, and_true] at hrd
  omega

lemma completeName_ne_chunkName (index : Nat) : completeName ≠ chunkName index := by
  intro h
  have hrd := readInteger_chunkName index
  rw [← h] at hrd
  have hrs : (Json.readInteger completeName).map Prod.snd = some [] := by
    rw [hrd]
    rfl
  exact absurd hrs (by decide)

/-- The three fields of a session that is not completed: a flag for every chunk, the number of flags
that are set, and for every flag that is set the digest of what was last published for it. -/
structure Bookkeeping (sha256 : Bytes → δ) (s : UploadSession δ) : Prop where
  uploaded : s.info.uploaded.length = s.info.metadata.totalChunks.toNat
  chunkDigests : s.info.chunkDigests.length = s.info.metadata.totalChunks.toNat
  counted : s.info.uploadedChunkNum = (s.info.uploaded.count true : Nat)
  accepted : ∀ i, s.info.uploaded[i]? = some true → ∃ content,
    lastPublished s.log (chunkName i) = some content ∧
      s.info.chunkDigests[i]? = some (sha256 content) ∧ (i, sha256 content) ∈ s.recorded

/-- A completed session has given up the three fields. -/
structure Released (info : FileInfo δ) : Prop where
  uploaded : info.uploaded = []
  chunkDigests : info.chunkDigests = []
  uploadedChunkNum : info.uploadedChunkNum = 0

/-- The content has the announced size and is the chunks that were accepted last, in the order of
their indices. -/
def Assembled (sha256 : Bytes → δ) (s : UploadSession δ) (content : Bytes) : Prop :=
  (content.length : Int) = s.info.metadata.totalSize ∧
    ∃ chunks : List Bytes, chunks.length = s.info.metadata.totalChunks.toNat ∧
      content = chunks.flatten ∧ ∀ i chunk, chunks[i]? = some chunk →
        lastPublished s.log (chunkName i) = some chunk ∧ (i, sha256 chunk) ∈ s.recorded

/-- What was published for a chunk on the books came with a request that passed the checks. -/
def Requested (s : UploadSession δ) : Prop :=
  ∀ i content, s.info.uploaded[i]? = some true → lastPublished s.log (chunkName i) = some content →
    ∃ request : UploadRequest, request.validate = .ok () ∧ request.candidate = s.info.metadata ∧
      request.chunkIndex = i ∧ (content.length : Int) = request.currentChunkSize

/-- A session that has not published. -/
structure Active (sha256 : Bytes → δ) (s : UploadSession δ) : Prop where
  books : Bookkeeping sha256 s
  requested : Requested s
  completed : s.info.completed = false
  published : s.published = []

/-- A session that has. -/
structure Done (sha256 : Bytes → δ) (s : UploadSession δ) : Prop where
  released : Released s.info
  completed : s.info.completed
  published : ∃ content, s.published = [content] ∧
    (Function.Injective sha256 → Assembled sha256 s content)

/-- The invariant of a session. -/
def UploadSession.Good (sha256 : Bytes → δ) (s : UploadSession δ) : Prop :=
  Active sha256 s ∨ Done sha256 s

/-- The staging directory may change, and what is kept about the cleanup. -/
lemma UploadSession.Good.aside {sha256 : Bytes → δ} {s : UploadSession δ} (hs : s.Good sha256)
    (staging : Directory) (init stagingClean pinned : Bool) (cleanupErr : Option OpError)
    (lastActivity : Option Nat) : UploadSession.Good sha256 { s with
      staging, info := { s.info with init, stagingClean, pinned, cleanupErr, lastActivity } } := by
  rcases hs with hs | hs
  · exact .inl ⟨⟨hs.books.1, hs.books.2, hs.books.3, hs.books.4⟩, hs.requested, hs.completed,
      hs.published⟩
  · exact .inr ⟨⟨hs.released.1, hs.released.2, hs.released.3⟩, hs.completed, hs.published⟩

lemma newSession_active [Inhabited δ] (sha256 : Bytes → δ) (cand : UploadMetadata) (now : Nat)
    (staging : Directory) : Active sha256 ⟨cand.newSession now, staging, [], [], []⟩ := by
  refine ⟨⟨?_, ?_, ?_, fun i hi => ?_⟩, fun i _ hi => ?_, rfl, rfl⟩
  · exact length_replicate
  · exact length_replicate
  · simp [UploadMetadata.newSession, count_replicate]
  all_goals simp [UploadMetadata.newSession, getElem?_replicate] at hi

variable {flags : List Bool}

lemma getElem?_of_getD (hi : i < flags.length) {b : Bool}
    (h : flags.getD i false = b) : flags[i]? = some b := by
  rw [getD_eq_getElem?_getD, getElem?_eq_getElem hi] at h
  rw [getElem?_eq_getElem hi]
  exact congrArg some h

lemma count_clear (h : flags[i]? = some true) :
    (flags.set i false).count true + 1 = flags.count true := by
  obtain ⟨hi, hflag⟩ := List.getElem?_eq_some_iff.mp h
  have hpos : 0 < flags.count true := count_pos_iff.mpr (hflag ▸ getElem_mem hi)
  rw [count_set hi, hflag]
  simp only [beq_self_eq_true, if_true, Bool.false_beq, Bool.not_true, Bool.false_eq_true, if_false]
  omega

lemma count_mark (h : flags[i]? = some false) :
    (flags.set i true).count true = flags.count true + 1 := by
  obtain ⟨hi, hflag⟩ := List.getElem?_eq_some_iff.mp h
  rw [count_set hi, hflag]
  simp

lemma Bookkeeping.forget [Inhabited δ] (h : Bookkeeping sha256 s)
    (hflag : s.info.uploaded[i]? = some true) (staging : Directory) :
    Bookkeeping sha256 { s with info := s.info.forget i, staging := staging } := by
  have hcnt := count_clear hflag
  refine ⟨?_, ?_, ?_, fun j hj => ?_⟩
  · simp only [FileInfo.forget, length_set]
    exact h.uploaded
  · simp only [FileInfo.forget, length_set]
    exact h.chunkDigests
  · have hnum := h.counted
    simp only [FileInfo.forget]
    split <;> omega
  · simp only [FileInfo.forget] at hj ⊢
    have hne : i ≠ j := by
      rintro rfl
      rw [getElem?_set_self' , hflag] at hj
      cases hj
    rw [getElem?_set_ne hne] at hj ⊢
    exact h.accepted j hj

/-- A chunk that was published while its flag was not set is put on the books. -/
lemma Bookkeeping.accept (h : Bookkeeping sha256 s) (hflag : s.info.uploaded[i]? = some false)
    (content : Bytes) (staging : Directory) :
    Bookkeeping sha256 { s with
      info := s.info.accept i (sha256 content)
      staging := staging
      log := s.log ++ [(chunkName i, content)]
      recorded := s.recorded ++ [(i, sha256 content)] } := by
  have hcnt := count_mark hflag
  have hi : i < s.info.chunkDigests.length := by
    rw [h.chunkDigests, ← h.uploaded]
    exact (List.getElem?_eq_some_iff.mp hflag).1
  have hunset : s.info.uploaded.getD i false = false := by
    rw [getD_eq_getElem?_getD, hflag]
    rfl
  refine ⟨?_, ?_, ?_, fun j hj => ?_⟩
  · simp only [FileInfo.accept, length_set]
    exact h.uploaded
  · simp only [FileInfo.accept, length_set]
    exact h.chunkDigests
  · have hnum := h.counted
    simp only [FileInfo.accept, hunset]
    simp only [Bool.false_eq_true, if_false]
    omega
  · simp only [FileInfo.accept] at hj ⊢
    by_cases hij : i = j
    · subst hij
      exact ⟨content, lastPublished_append_self _ _ _, getElem?_set_self hi,
        mem_append_right _ (mem_singleton_self _)⟩
    · rw [getElem?_set_ne hij] at hj ⊢
      obtain ⟨old, hla, hdig, hrec⟩ := h.accepted j hj
      refine ⟨old, ?_, hdig, mem_append_left _ hrec⟩
      rw [lastPublished_append_ne _ _ fun hnm => hij (chunkName_injective hnm)]
      exact hla

lemma Requested.forget [Inhabited δ] (h : Requested s) (i : Nat) (staging : Directory) :
    Requested { s with info := s.info.forget i, staging := staging } := by
  intro j content hj hla
  simp only [FileInfo.forget] at hj
  refine h j content ?_ hla
  rcases eq_or_ne i j with rfl | hij
  · simp [getElem?_set_self'] at hj
  · rwa [getElem?_set_ne hij] at hj

lemma Requested.accept (h : Requested s) {request : UploadRequest}
    (hreq : request.validate = .ok ()) (hmeta : s.info.metadata = request.candidate)
    {content : Bytes} (hsz : (content.length : Int) = request.currentChunkSize) (digest : δ)
    (staging : Directory) (recorded : List (Nat × δ)) : Requested { s with
      info := s.info.accept request.chunkIndex digest
      staging := staging
      log := s.log ++ [(chunkName request.chunkIndex, content)]
      recorded := recorded } := by
  intro j other hj hla
  rcases eq_or_ne request.chunkIndex j with rfl | hij
  · rw [lastPublished_append_self, some.injEq] at hla
    exact ⟨request, hreq, hmeta.symm, rfl, hla ▸ hsz⟩
  · simp only [FileInfo.accept, getElem?_set_ne hij] at hj
    rw [lastPublished_append_ne _ _ fun hnm => hij (chunkName_injective hnm)] at hla
    exact h j other hj hla

/-- When as many chunks are counted as there are, every flag is set. -/
lemma Bookkeeping.all (h : Bookkeeping sha256 s)
    (hall : s.info.uploadedChunkNum = s.info.metadata.totalChunks)
    (hi : i < s.info.metadata.totalChunks.toNat) : s.info.uploaded[i]? = some true := by
  have hcnt : s.info.uploaded.count true = s.info.uploaded.length := by
    have hnum := h.counted
    rw [h.uploaded]
    omega
  have hi' : i < s.info.uploaded.length := h.uploaded ▸ hi
  have htrue := count_eq_length.mp hcnt _ (getElem_mem hi')
  rw [getElem?_eq_getElem hi', ← htrue]

/-- The books are the same, and so is everything that decides what becomes of the session. -/
structure SameBooks (s t : Upload δ) : Prop where
  metadata : t.session.info.metadata = s.session.info.metadata
  uploaded : t.session.info.uploaded = s.session.info.uploaded
  chunkDigests : t.session.info.chunkDigests = s.session.info.chunkDigests
  uploadedChunkNum : t.session.info.uploadedChunkNum = s.session.info.uploadedChunkNum
  completed : t.session.info.completed = s.session.info.completed
  init : t.session.info.init = s.session.info.init
  stagingClean : t.session.info.stagingClean = s.session.info.stagingClean
  recorded : t.session.recorded = s.session.recorded
  published : t.session.published = s.session.published
  lastPublished : ∀ i, lastPublished t.session.log (chunkName i)
    = lastPublished s.session.log (chunkName i)
  keeps : Keeps s t

lemma SameBooks.refl (s : Upload δ) : SameBooks s s :=
  ⟨rfl, rfl, rfl, rfl, rfl, rfl, rfl, rfl, rfl, fun _ => rfl, .refl s⟩

lemma SameBooks.trans {s u : Upload δ} (h : SameBooks s t) (h' : SameBooks t u) : SameBooks s u :=
  ⟨h'.metadata.trans h.metadata, h'.uploaded.trans h.uploaded, h'.chunkDigests.trans h.chunkDigests,
    h'.uploadedChunkNum.trans h.uploadedChunkNum, h'.completed.trans h.completed,
    h'.init.trans h.init, h'.stagingClean.trans h.stagingClean, h'.recorded.trans h.recorded,
    h'.published.trans h.published, fun i => (h'.lastPublished i).trans (h.lastPublished i),
    fun path entry hs => h'.keeps path entry (h.keeps path entry hs)⟩

lemma StagingOnly.sameBooks {s : Upload δ} (h : StagingOnly s t) : SameBooks s t := by
  obtain ⟨staging, rfl⟩ := h
  exact ⟨rfl, rfl, rfl, rfl, rfl, rfl, rfl, rfl, rfl, fun _ => rfl, .refl _⟩

lemma Logged.sameBooks {content : Bytes} {s : Upload δ} (h : Logged completeName content s t) :
    SameBooks s t := by
  obtain ⟨staging, rfl⟩ := h
  exact ⟨rfl, rfl, rfl, rfl, rfl, rfl, rfl, rfl, rfl,
    fun i => lastPublished_append_ne _ _ (completeName_ne_chunkName i), .refl _⟩

lemma SameBooks.bookkeeping {s : Upload δ} (h : SameBooks s t) (hs : Bookkeeping sha256 s.session) :
    Bookkeeping sha256 t.session := by
  refine ⟨?_, ?_, ?_, fun i hi => ?_⟩
  · rw [h.uploaded, h.metadata]
    exact hs.uploaded
  · rw [h.chunkDigests, h.metadata]
    exact hs.chunkDigests
  · rw [h.uploadedChunkNum, h.uploaded]
    exact hs.counted
  · rw [h.uploaded] at hi
    rw [h.lastPublished, h.chunkDigests, h.recorded]
    exact hs.accepted i hi

lemma SameBooks.active {s : Upload δ} (h : SameBooks s t) (hs : Active sha256 s.session) :
    Active sha256 t.session :=
  ⟨h.bookkeeping hs.books, fun i content hi hla => by
    rw [h.uploaded] at hi
    rw [h.lastPublished] at hla
    rw [h.metadata]
    exact hs.requested i content hi hla,
    h.completed.trans hs.completed, h.published.trans hs.published⟩

end

/-! ## 6. Chunks -/

section

variable {δ : Type} {w : Faulty (Upload δ)}
variable {sha256 : Bytes → δ}

lemma fileInfo_ends {ε : Type} {P : FileInfo δ → Faulty (Upload δ) → Prop}
    {E : ε → Faulty (Upload δ) → Prop} (h : P w.state.session.info w) :
    (fileInfo : Fallible (Faulty (Upload δ)) ε (FileInfo δ)).Ends w P E :=
  .of_ok rfl h

lemma updateInfo_ends {ε : Type} {f : FileInfo δ → FileInfo δ} {P : Unit → Faulty (Upload δ) → Prop}
    {E : ε → Faulty (Upload δ) → Prop} (h : P () ⟨w.state.setInfo f, w.faults⟩) :
    (updateInfo f : Fallible (Faulty (Upload δ)) ε Unit).Ends w P E :=
  .modify h

variable {expectedSize : Int}

/-- While the chunk is written, its content is that of the temporary file. -/
lemma writeUnpublished_ends {tmp source : Bytes} {n : Nat}
    (hw : w.state.session.staging tmp = some (.regular ⟨n, 1, []⟩)) :
    (writeUnpublished tmp source expectedSize).Ends w (fun _ t => StagingOnly w.state t.state ∧
        t.state.session.staging tmp = some (.regular ⟨n, 1, source⟩) ∧
        (source.length : Int) = expectedSize) (fun _ t => StagingOnly w.state t.state) := by
  have hwr : (w.state.append .staging tmp source).session.staging tmp
      = some (.regular ⟨n, 1, source⟩) := by
    have hdir : w.state.directory .staging tmp = some (.regular ⟨n, 1, []⟩) := hw
    simp only [Upload.append, hdir]
    exact Function.update_self _ _ _
  refine .seq (.attempt ((write_ends .staging tmp source).mono (fun _ t1 h1 => ?_) fun _ t1 h1 => ?_))
  · refine .seq (.attempt (asks_closing.ends (fun _ t2 h2 => ?_) fun err t2 _ h2 => .fail ?_))
    · have hsm : t2.state = w.state.append .staging tmp source := h2.trans h1
      have hstgs : StagingOnly w.state t2.state := hsm ▸ stagingOnly_append _ _ _
      refine .seq (.guard (fun _ => hstgs) fun _ => .seq (.guard (fun _ => hstgs) fun hsz => ?_))
      refine asks_inspect.ends (fun _ t h => ⟨h ▸ hstgs, ?_, not_not.mp hsz⟩)
        fun _ t _ h => h ▸ hstgs
      rw [h, hsm]
      exact hwr
    · rw [h2, h1]
      exact stagingOnly_append _ _ _
  · obtain ⟨-, k, hk⟩ := h1
    refine .seq (.attempt (asks_closing.ends (fun _ t2 h2 => .fail ?_) fun err t2 _ h2 => .fail ?_))
    all_goals
      rw [h2, hk]
      exact stagingOnly_append _ _ _

/-- **`Published` is exact**, and the digest is that of the published content. -/
def WroteChunk (sha256 : Bytes → δ) (name : Bytes) (expectedSize : Int) (s : Upload δ)
    (result : ChunkWrite δ) (t : Upload δ) : Prop :=
  result.published = false ∧ StagingOnly s t ∨
    result.published ∧ ∃ content, result.digest = sha256 content ∧
      (content.length : Int) = expectedSize ∧ Logged name content s t

lemma writeValidatedServiceChunkTo_ends {tmp name src : Bytes}
    {n : Nat} (hw : w.state.session.staging tmp = some (.regular ⟨n, 1, []⟩)) :
    (writeValidatedServiceChunkTo sha256 tmp name src expectedSize).Ends w
      (fun res t => WroteChunk sha256 name expectedSize w.state res t.state) (fun _ _ => False) := by
  refine .seq (.attempt ((writeUnpublished_ends hw).mono (fun _ t1 h1 => ?_) fun err t1 h1 => ?_))
  · have hpub : ∀ {t : Upload δ}, PublishedAs tmp name t1.state t →
        ∃ content, sha256 (src.take (maxUploadChunkSize + 1)) = sha256 content ∧
          (content.length : Int) = expectedSize ∧ Logged name content w.state t := by
      rintro t ⟨entry, hent, hlogged⟩
      obtain rfl := some.inj (h1.2.1.symm.trans hent)
      exact ⟨_, rfl, h1.2.2, h1.1.logged hlogged⟩
    refine .seq (.attempt ((finishWriter_ends tmp name).mono (fun _ t h => .pure ?_)
      fun err t h => .pure ?_))
    · exact .inr ⟨rfl, hpub h⟩
    · rcases h with ⟨hreps, h⟩ | ⟨hreps, h⟩
      · exact .inr ⟨decide_eq_true hreps, hpub h⟩
      · exact .inl ⟨decide_eq_false hreps, h1.1.trans h⟩
  · refine .seq (.attempt ((stages_abortWriter tmp t1).mono (fun _ t h => .pure ?_)
      fun _ t h => .pure ?_))
    all_goals exact .inl ⟨rfl, h1.trans h⟩

lemma writeValidatedServiceChunkIn_ends [Inhabited δ] {surroundings : Surroundings}
    {name src : Bytes} :
    (writeValidatedServiceChunkIn sha256 surroundings name src expectedSize).Ends w
      (fun res t => WroteChunk sha256 name expectedSize w.state res t.state) (fun _ _ => False) := by
  refine .seq (.attempt ((createExclusiveIn_ends _ _ _).mono (fun tmp t1 h1 => ?_) fun err t1 h1 => ?_))
  · obtain ⟨hstgs, n, hnew⟩ := h1
    refine (writeValidatedServiceChunkTo_ends hnew).imp fun res t h => ?_
    rcases h with ⟨hres, h⟩ | ⟨hres, content, hdig, hsz, h⟩
    · exact .inl ⟨hres, hstgs.trans h⟩
    · exact .inr ⟨hres, content, hdig, hsz, hstgs.logged h⟩
  · refine .seq (.attempt ((asks_closing.stages t1).mono (fun _ t h => .pure ?_) fun _ t h => .pure ?_))
    all_goals exact .inl ⟨rfl, h1.trans h⟩

lemma verifyRecorded_ends [DecidableEq δ] {recorded : δ} {chunk : StoredFile} :
    (verifyRecorded sha256 recorded chunk expectedSize).Ends w
      (fun found t => found ∧ StagingOnly w.state t.state)
      (fun _ t => StagingOnly w.state t.state) := by
  refine asks_inspect.stages.seq (.refl _) (fun _ t1 h1 => ?_) fun _ _ h => h
  refine .seq (.guard (fun _ => h1) fun _ => ?_)
  refine asks_inspect.stages.attempt.seq h1 (fun copyErr t2 h2 => ?_) fun _ _ h => h
  refine asks_closing.stages.attempt.seq h2 (fun closeErr t3 h3 => ?_) fun _ _ h => h
  split
  · exact .fail h3
  · exact .seq (.guard (fun _ => h3) fun _ => .pure ⟨rfl, h3⟩)

/-- What a statement of the section may do to a session that has not published. -/
structure Works (sha256 : Bytes → δ) (s t : Upload δ) : Prop where
  active : Active sha256 t.session
  metadata : t.session.info.metadata = s.session.info.metadata
  init : t.session.info.init = s.session.info.init
  stagingClean : t.session.info.stagingClean = s.session.info.stagingClean
  keeps : Keeps s t

lemma SameBooks.works {s t : Upload δ} (h : SameBooks s t) (hs : Active sha256 s.session) :
    Works sha256 s t :=
  ⟨h.active hs, h.metadata, h.init, h.stagingClean, h.keeps⟩

lemma StagingOnly.works {s t : Upload δ} (h : StagingOnly s t) (hs : Active sha256 s.session) :
    Works sha256 s t :=
  h.sameBooks.works hs

lemma Works.trans {s t u : Upload δ} (h : Works sha256 s t) (h' : Works sha256 t u) :
    Works sha256 s u :=
  ⟨h'.active, h'.metadata.trans h.metadata, h'.init.trans h.init, h'.stagingClean.trans h.stagingClean,
    fun path entry hs => h'.keeps path entry (h.keeps path entry hs)⟩

/-- Reconciliation leaves the flag set only if it has found the chunk; where it has not, the chunk is
off the books. -/
lemma reconcileRecordedServiceChunk_ends [DecidableEq δ] [Inhabited δ] {i : Nat} {name : Bytes}
    (hw : Active sha256 w.state.session)
    (hflag : w.state.session.info.uploaded[i]? = some true) :
    (reconcileRecordedServiceChunk sha256 i name expectedSize).Ends w
      (fun found t => Works sha256 w.state t.state ∧
        (found = false → t.state.session.info.uploaded[i]? = some false))
      (fun _ t => Works sha256 w.state t.state) := by
  have hi := (List.getElem?_eq_some_iff.mp hflag).1
  have hworks : ∀ {t : Upload δ}, StagingOnly w.state t → Works sha256 w.state t := fun h => h.works hw
  refine .seq (fileInfo_ends (.seq (.guard (fun _ => hworks (.refl _)) fun _ => ?_)))
  refine asks_inspect.stages.seq (.refl _) (fun _ t1 h1 => ?_) fun _ _ h => hworks h
  refine .seq (.attempt ((asks_openRegularIn name).ends (fun chunk t2 h2 => ?_) fun err t2 _ h2 => ?_))
  · have hstgs : StagingOnly w.state t2.state := h2 ▸ h1
    refine verifyRecorded_ends.mono (fun found t h => ⟨hworks (hstgs.trans h.2), fun hf => ?_⟩)
      fun _ t h => hworks (hstgs.trans h)
    rw [h.1] at hf
    cases hf
  · dsimp only
    split
    · refine .seq (updateInfo_ends (.pure ⟨?_, fun _ => ?_⟩))
      · rw [h2]
        obtain ⟨staging, hstg⟩ := h1
        rw [hstg]
        exact ⟨⟨hw.books.forget hflag staging, hw.requested.forget i staging, hw.completed,
          hw.published⟩, rfl, rfl, rfl, .refl _⟩
      · rw [h2]
        obtain ⟨staging, hstg⟩ := h1
        rw [hstg]
        simp only [Upload.setInfo, FileInfo.forget]
        exact getElem?_set_self hi
    · exact .fail (hworks (h2 ▸ h1))

lemma tried_ends {f : Errno → OpError} {P : Unit → Faulty (Upload δ) → Prop}
    {E : OpError → Faulty (Upload δ) → Prop} (hok : ∀ t, t.state = w.state → P () t)
    (herr : ∀ err t, t.state = w.state → E err t) :
    (((query fun _ => .ok ()).onError fun _ code => f code) : Action δ Unit).Ends w P E :=
  .onError (.query (fun _ _ => hok _ rfl) fun _ _ => herr _ _ rfl)

/-- A chunk that is not on the books is put there if it was published, and only then. -/
lemma storeChunk_ends [Inhabited δ] {request : UploadRequest}
    (hreq : request.validate = .ok ()) (hw : Active sha256 w.state.session)
    (hmeta : w.state.session.info.metadata = request.candidate)
    (hflag : w.state.session.info.uploaded[request.chunkIndex]? = some false) :
    (storeChunk sha256 request).Ends w (fun _ t => Works sha256 w.state t.state)
      (fun ending t => (∃ err, ending = .returned err) ∧ Works sha256 w.state t.state) := by
  have hworks : ∀ {t : Upload δ}, StagingOnly w.state t → Works sha256 w.state t := fun h => h.works hw
  refine .seq (.onError (asks_inspect.ends (fun _ t1 h1 => ?_) fun _ t _ h => ⟨⟨_, rfl⟩, ?_⟩))
  · refine .seq (.attempt (tried_ends (fun t2 h2 => ?_) fun err t2 h2 => ?_))
    · have hsm : t2.state = w.state := h2.trans h1
      refine .seq (.onError (writeValidatedServiceChunkIn_ends.mono (fun res t3 h3 => ?_)
        fun _ _ hf => hf.elim))
      rw [hsm] at h3
      rcases h3 with ⟨hres, h3⟩ | ⟨hres, content, hdig, hsz, h3⟩
      · rw [if_pos hres]
        exact .fail ⟨⟨_, rfl⟩, hworks h3⟩
      · rw [if_neg (by rw [hres]; decide)]
        refine .seq (.modify (.pure ?_))
        obtain ⟨staging, hstg⟩ := h3
        rw [hstg, hdig]
        exact ⟨⟨hw.books.accept hflag content staging,
          hw.requested.accept hreq hmeta hsz _ _ _, hw.completed, hw.published⟩, rfl, rfl, rfl,
          .refl _⟩
    · refine .seq (.attempt ((asks_closing.stages t2).mono (fun _ t h => .fail ?_) fun _ t h => .fail ?_))
      all_goals exact ⟨⟨_, rfl⟩, hworks (h1 ▸ h2 ▸ h)⟩
  · exact hworks (h ▸ .refl _)

lemma acceptChunk_ends [DecidableEq δ] [Inhabited δ] {request : UploadRequest}
    (hreq : request.validate = .ok ()) (hw : Active sha256 w.state.session)
    (hmeta : w.state.session.info.metadata = request.candidate)
    (hindex : request.chunkIndex < w.state.session.info.metadata.totalChunks.toNat) :
    (acceptChunk sha256 request).Ends w (fun _ t => Works sha256 w.state t.state)
      (fun ending t => (∃ err, ending = .returned err) ∧ Works sha256 w.state t.state) := by
  have hi : request.chunkIndex < w.state.session.info.uploaded.length := hw.books.uploaded ▸ hindex
  refine .bind (P := fun found t => Works sha256 w.state t.state ∧
    (found = false → t.state.session.info.uploaded[request.chunkIndex]? = some false)) ?_ ?_
  · refine .seq (fileInfo_ends ?_)
    split
    next hflag =>
      refine .onError ((reconcileRecordedServiceChunk_ends hw (getElem?_of_getD hi hflag)).impError
        fun _ _ h => ⟨⟨_, rfl⟩, h⟩)
    next hflag =>
      refine .pure ⟨(StagingOnly.refl _).works hw, fun _ => ?_⟩
      exact getElem?_of_getD hi (Bool.eq_false_of_not_eq_true hflag)
  · rintro found t1 ⟨h1, hflag⟩
    cases found with
    | true => exact .pure h1
    | false =>
      refine (storeChunk_ends hreq h1.active (h1.metadata.trans hmeta) (hflag rfl)).mono
        (fun _ _ h => h1.trans h) fun _ _ h => ?_
      exact ⟨h.1, h1.trans h.2⟩

end

/-! ## 7. Assembly and publication -/

section

variable {δ : Type} {w : Faulty (Upload δ)}
variable {sha256 : Bytes → δ}
variable {tmp : Bytes}

lemma assembleChunk_ends [DecidableEq δ] [Inhabited δ] {digests : List δ}
    {index : Nat} : (assembleChunk sha256 tmp digests index).Ends w
      (fun chunk t => sha256 chunk = digests.getD index default ∧ StagingOnly w.state t.state)
      (fun _ t => StagingOnly w.state t.state) := by
  refine (asks_statDirectoryEntry _).stages.seq (.refl _) (fun entry t1 h1 => ?_) fun _ _ h => h
  cases entry with
  | directory => exact .fail h1
  | special => exact .fail h1
  | regular file =>
    refine .seq (.guard (fun _ => h1) fun _ => ?_)
    refine (asks_openRegularIn _).stages.seq h1 (fun chunk t2 h2 => ?_) fun _ _ h => h
    refine (stages_write _ _).seq h2 (fun _ t3 h3 => ?_) fun _ _ h => h
    refine asks_closing.stages.seq h3 (fun _ t4 h4 => ?_) fun _ _ h => h
    refine .seq (.guard (fun _ => h4) fun _ => .seq (.guard (fun _ => h4) fun hdig => .pure ⟨?_, h4⟩))
    exact not_not.mp hdig

lemma assembleChunks_ends [DecidableEq δ] [Inhabited δ] {digests : List δ}
    (indices : List Nat) {w : Faulty (Upload δ)} :
    (assembleChunks sha256 tmp digests indices).Ends w
      (fun chunks t => List.Forall₂ (fun index chunk => sha256 chunk = digests.getD index default)
        indices chunks ∧ StagingOnly w.state t.state) (fun _ t => StagingOnly w.state t.state) := by
  induction indices generalizing w with
  | nil => exact .pure ⟨.nil, .refl _⟩
  | cons index rest ih =>
    refine .bind assembleChunk_ends fun chunk t1 h1 => ?_
    refine .seq (ih.mono (fun chunks t h => .pure ⟨.cons h1.1 h.1, h1.2.trans h.2⟩) fun _ t h => ?_)
    exact h1.2.trans h

/-- What the assembled content is, given the digests on the books. -/
def FromChunks (sha256 : Bytes → δ) [Inhabited δ] (info : FileInfo δ) (content : Bytes) : Prop :=
  (content.length : Int) = info.metadata.totalSize ∧ ∃ chunks : List Bytes,
    content = chunks.flatten ∧
      List.Forall₂ (fun index chunk => sha256 chunk = info.chunkDigests.getD index default)
        (List.range info.metadata.totalChunks.toNat) chunks

lemma assembleContent_ends [DecidableEq δ] [Inhabited δ]
    {info : FileInfo δ} : (assembleContent sha256 tmp info).Ends w
      (fun content t => FromChunks sha256 info content ∧ StagingOnly w.state t.state)
      (fun _ t => StagingOnly w.state t.state) := by
  refine .bind (assembleChunks_ends _) fun chunks t1 h1 => ?_
  refine .seq (.guard (fun _ => h1.2) fun hsz => ?_)
  refine asks_inspect.stages.seq h1.2 (fun _ t2 h2 => ?_) fun _ _ h => h
  refine asks_inspect.stages.seq h2 (fun _ t3 h3 => .pure ⟨⟨?_, chunks, rfl, h1.1⟩, h3⟩) fun _ _ h => h
  exact not_not.mp hsz

/-- If no two contents share a digest, the content is made of the chunks that were accepted. -/
lemma FromChunks.assembled [Inhabited δ] (hsha : Function.Injective sha256) {s : UploadSession δ}
    {content : Bytes} (h : FromChunks sha256 s.info content) (hbooks : Bookkeeping sha256 s)
    (hall : s.info.uploadedChunkNum = s.info.metadata.totalChunks) :
    Assembled sha256 s content := by
  obtain ⟨hsz, chunks, rfl, hchunks⟩ := h
  have hlen : chunks.length = s.info.metadata.totalChunks.toNat := by
    rw [← hchunks.length_eq, length_range]
  refine ⟨hsz, chunks, hlen, rfl, fun i chunk hchunk => ?_⟩
  have hi : i < s.info.metadata.totalChunks.toNat := hlen ▸ (List.getElem?_eq_some_iff.mp hchunk).1
  obtain ⟨old, hla, hdig, hrec⟩ := hbooks.accepted i (hbooks.all hall hi)
  have hrd : sha256 chunk = s.info.chunkDigests.getD i default := by
    have hget := (forall₂_iff_get.mp hchunks).2 i (by rwa [length_range])
      (List.getElem?_eq_some_iff.mp hchunk).1
    rw [get_eq_getElem, get_eq_getElem, getElem_range,
      (List.getElem?_eq_some_iff.mp hchunk).2] at hget
    exact hget
  rw [getD_eq_getElem?_getD, hdig] at hrd
  obtain rfl : chunk = old := hsha hrd
  exact ⟨hla, hrec⟩

lemma ensureStagingDirectory_ends : (ensureStagingDirectory : Action δ Unit).Ends w
    (fun _ t => SameBooks w.state t.state) (fun _ t => SameBooks w.state t.state) := by
  refine .seq (fileInfo_ends ?_)
  split
  · exact .pure (.refl _)
  · refine .seq (.onError (asks_inspect.ends (fun _ t1 h1 => ?_) fun _ _ _ h => h ▸ .refl _))
    refine .seq (.onError (asks_inspect.ends (fun _ t2 h2 => ?_) fun _ _ _ h => (h.trans h1) ▸ .refl _))
    refine updateInfo_ends ?_
    rw [h2.trans h1]
    exact ⟨rfl, rfl, rfl, rfl, rfl, rfl, rfl, rfl, rfl, fun _ => rfl, .refl _⟩

lemma stages_removeOldAssembly : Stages (removeOldAssembly : Action δ Bool) := by
  intro w
  refine .seq (.attempt ((stages_removeIn completeName w).mono (fun _ t h => .pure h) fun err t h => ?_))
  dsimp only
  split
  · exact .pure h
  · exact .fail h

/-- A file made of the chunks was published at the target, and nothing else has changed. -/
def Publishes [Inhabited δ] (sha256 : Bytes → δ) (s t : Upload δ) : Prop :=
  ∃ (u : Upload δ) (content : Bytes), SameBooks s u ∧ FromChunks sha256 s.session.info content ∧
    Committed sha256 s.session.info.metadata.targetPath (sha256 content) u t

/-- **`TargetPublished` is exact.** -/
theorem assembleServiceUpload_ends [DecidableEq δ] [Inhabited δ] {surroundings : Surroundings} :
    (assembleServiceUpload sha256 surroundings).Ends w
      (fun assembly t => assembly.targetPublished = false ∧ SameBooks w.state t.state ∨
        assembly.targetPublished ∧ Publishes sha256 w.state t.state)
      (fun _ t => SameBooks w.state t.state) := by
  refine .seq (fileInfo_ends (.seq (.guard (fun _ => .refl _) fun _ => ?_)))
  refine .bind ensureStagingDirectory_ends fun _ t1 h1 => ?_
  have hstgs : ∀ {t : Upload δ}, StagingOnly t1.state t → SameBooks w.state t :=
    fun h => h1.trans h.sameBooks
  refine stages_removeOldAssembly.seq (.refl _) (fun namespaceChanged t2 h2 => ?_) fun _ _ h => hstgs h
  refine .seq (.onError ((createExclusiveIn_ends _ _ _).mono (fun tmp t3 h3 => ?_) fun _ _ h =>
    hstgs (h2.trans h)))
  replace h3 := h2.trans h3.1
  refine .seq (.attempt (assembleContent_ends.mono (fun content t4 h4 => ?_) fun err t4 h4 => ?_))
  · obtain ⟨hctt, h4⟩ := h4
    replace h4 := h3.trans h4
    refine .seq (.attempt ((finishWriter_ends _ _).mono (fun identity t5 h5 => ?_) fun err t h => .fail ?_))
    · obtain ⟨entry, -, hlogged⟩ := h5
      have hbooks : SameBooks w.state t5.state := (hstgs h4).trans hlogged.sameBooks
      refine .seq ((commitNoReplace_ends _ _ _ _ _ _).mono (fun res t h => .pure ?_) fun _ _ h => h.elim)
      obtain ⟨identity, err⟩ := res
      rcases h with ⟨⟨err, rfl, herr⟩, h⟩ | ⟨herr, h⟩
      · refine .inl ⟨decide_eq_false herr, ?_⟩
        refine hbooks.trans ⟨?_, ?_, ?_, ?_, ?_, ?_, ?_, ?_, ?_, fun _ => ?_, h.2⟩
        all_goals rw [h.1]
      · refine .inr ⟨?_, t5.state, content, hbooks, hctt, h⟩
        cases err with
        | none => rfl
        | some err => exact decide_eq_true (herr err rfl)
    · rcases h with ⟨-, entry, -, h⟩ | ⟨-, h⟩
      · exact (hstgs h4).trans h.sameBooks
      · exact hstgs (h4.trans h)
  · replace h4 := h3.trans h4
    refine .seq (.attempt ((stages_abortWriter _ t4).mono (fun _ t h => .fail ?_) fun _ t h => .fail ?_))
    all_goals exact hstgs (h4.trans h)

end

/-! ## 8. What a lock section does -/

section

variable {δ : Type} {w : Faulty (Upload δ)}
variable {s t : Upload δ} {sha256 : Bytes → δ} {request : UploadRequest}

/-- The target was published, where there was no file. -/
def PublishedNow (s t : Upload δ) : Prop :=
  ∃ file : StoredFile, s.session.published = [] ∧ t.session.published = [file.content] ∧
    s.destination s.session.info.metadata.targetPath = none ∧
    t.destination s.session.info.metadata.targetPath = some (.regular file)

/-- What a section leaves: a good session, all files that were there, and at most one new target. -/
structure Outcome (sha256 : Bytes → δ) (s t : Upload δ) : Prop where
  good : t.session.Good sha256
  metadata : t.session.info.metadata = s.session.info.metadata
  keeps : Keeps s t
  published : t.session.published = s.session.published ∨ PublishedNow s t

/-- What becomes of the session: a terminal one stays as it is, and a live one dies exactly if the
request goes on to delete it. A completed session has a dirty staging directory. -/
structure Fate (s t : FileInfo δ) (deletes : Bool) : Prop where
  completed : s.completed → t.completed ∧ t.init = s.init ∧
    t.stagingClean = s.stagingClean ∧ t.completedAt = s.completedAt ∧ deletes = false
  terminal : s.completed = false → s.init = false → t = s ∧ deletes = false
  alive : s.completed = false → s.init →
    deletes = false ∧ t.init ∧ t.completed = false ∨
      deletes ∧ t.init = false ∧ (t.completed → t.stagingClean = false)

def Ending.deletes : Ending → Bool
  | .returned _ => false
  | .deleting _ _ => true

/-- What a section that ends this way has made of the session. -/
abbrev Concluded (sha256 : Bytes → δ) (s t : Upload δ) (deletes : Bool) : Prop :=
  Outcome sha256 s t ∧ Fate s.session.info t.session.info deletes

lemma Keeps.free (h : Keeps s t) {path : Bytes} (hfe : t.destination path = none) :
    s.destination path = none := by
  cases hfnd : s.destination path with
  | none => rfl
  | some entry =>
    have hk := h path entry hfnd
    rw [hfe] at hk
    cases hk

/-- The outcome of a section, from a state in front of which only the books have changed. -/
lemma Outcome.after {u : Upload δ} (h : Outcome sha256 u t)
    (hmeta : u.session.info.metadata = s.session.info.metadata) (hkeeps : Keeps s u)
    (hpub : u.session.published = s.session.published) : Outcome sha256 s t := by
  refine ⟨h.good, h.metadata.trans hmeta,
    fun path entry hs => h.keeps path entry (hkeeps path entry hs), ?_⟩
  rcases h.published with hsm | ⟨file, hno, hfi, hfe, htgt⟩
  · exact .inl (hsm.trans hpub)
  · rw [hmeta] at hfe htgt
    exact .inr ⟨file, hpub ▸ hno, hfi, hkeeps.free hfe, htgt⟩

lemma Works.outcome (h : Works sha256 s t) (hs : Active sha256 s.session) : Outcome sha256 s t :=
  ⟨.inl h.active, h.metadata, h.keeps, .inl (h.active.published.trans hs.published.symm)⟩

lemma fate_alive {s t : FileInfo δ} {deletes : Bool} (hcm : s.completed = false) (hin : s.init)
    (h : deletes = false ∧ t.init ∧ t.completed = false ∨
      deletes ∧ t.init = false ∧ (t.completed → t.stagingClean = false)) :
    Fate s t deletes := by
  refine ⟨fun h' => ?_, fun _ h' => ?_, fun _ _ => h⟩
  · rw [hcm] at h'
    cases h'
  · rw [hin] at h'
    cases h'

lemma Works.returned (h : Works sha256 s t) (hs : Active sha256 s.session)
    (hin : s.session.info.init) {err : Option OpError} :
    Concluded sha256 s t (Ending.returned err).deletes :=
  ⟨h.outcome hs, fate_alive hs.completed hin (.inl ⟨rfl, h.init.trans hin, h.active.completed⟩)⟩

/-- A section that gives the session up before anything was published. -/
lemma Works.deleting (h : Works sha256 s t) (hs : Active sha256 s.session)
    (hin : s.session.info.init) :
    Concluded sha256 s (t.setInfo fun info => { info with init := false }) true := by
  have hwaits : (t.setInfo fun info => { info with init := false }).session.info.completed = false :=
    h.active.completed
  refine ⟨⟨.inl ⟨⟨h.active.books.1, h.active.books.2, h.active.books.3, h.active.books.4⟩,
    h.active.requested, hwaits,
    h.active.published⟩, h.metadata, h.keeps, .inl (h.active.published.trans hs.published.symm)⟩, ?_⟩
  refine fate_alive hs.completed hin (.inr ⟨rfl, rfl, fun hcm => ?_⟩)
  rw [hwaits] at hcm
  cases hcm

lemma works_of_eq (hs : Active sha256 s.session) (h : t = s) : Works sha256 s t := by
  subst h
  exact (SameBooks.refl _).works hs

lemma orTerminal_ends {α : Type} {m : Action δ α} {ending : OpError → Ending}
    {P : α → Faulty (Upload δ) → Prop} {E : Ending → Faulty (Upload δ) → Prop}
    (h : m.Ends w P fun err t => E (ending err) ⟨t.state.setInfo fun info => { info with init := false },
      t.faults⟩) : (orTerminal m ending).Ends w P E :=
  .seq (.attempt (h.mono (fun _ _ ht => .pure ht) fun _ _ ht => .seq (updateInfo_ends (.fail ht))))

lemma prepareStaging_ends {hadPublishedChunks : Bool} (hw : Active sha256 w.state.session)
    (hin : w.state.session.info.init) :
    (prepareStaging request hadPublishedChunks).Ends w (fun _ t => Active sha256 t.state.session ∧
        t.state.session.info.metadata = w.state.session.info.metadata ∧
        t.state.session.info.init ∧ t.state.session.info.stagingClean = false ∧
        Keeps w.state t.state)
      (fun ending t => Concluded sha256 w.state t.state ending.deletes) := by
  have hsm : ∀ {t : Upload δ}, t = w.state → Works sha256 w.state t := works_of_eq hw
  refine .seq (orTerminal_ends (tried_ends (fun t1 h1 => ?_) fun _ _ h =>
    (hsm h).deleting hw hin))
  refine .seq (orTerminal_ends (asks_inspect.ends (fun _ t2 h2 => ?_) fun _ _ _ h =>
    (hsm (h.trans h1)).deleting hw hin))
  replace h2 := h2.trans h1
  refine .seq (orTerminal_ends (tried_ends (fun t3 h3 => ?_) fun _ _ h =>
    (hsm (h.trans h2)).deleting hw hin))
  replace h3 := h3.trans h2
  refine .seq (orTerminal_ends (ensureStagingDirectory_ends.mono (fun _ t4 h4 => ?_) fun _ _ h => ?_))
  · rw [h3] at h4
    have hworks := h4.works hw
    refine updateInfo_ends ⟨⟨⟨hworks.active.books.1, hworks.active.books.2, hworks.active.books.3,
      hworks.active.books.4⟩, hworks.active.requested, hworks.active.completed, hworks.active.published⟩,
      hworks.metadata, ?_, rfl,
      hworks.keeps⟩
    exact hworks.init.trans hin
  · rw [h3] at h
    exact (h.works hw).deleting hw hin

/-- What `FileInfo.complete` makes of a session whose target was published. -/
lemma Publishes.outcome [Inhabited δ] (h : Publishes sha256 s t) (hs : Active sha256 s.session)
    (hall : s.session.info.uploadedChunkNum = s.session.info.metadata.totalChunks) (now : Nat)
    (assembly : Assembly δ) :
    Outcome sha256 s (t.setInfo fun info => { info.complete now assembly with init := false }) := by
  obtain ⟨u, content, hbooks, hctt, file, hdig, hfe, htgt, hkeeps, hsess⟩ := h
  have hu := hbooks.active hs
  have hpub : t.session.published = [file.content] := by
    rw [hsess]
    simp only [hu.published, nil_append]
  have hfe' := hbooks.keeps.free hfe
  refine ⟨.inr ⟨⟨rfl, rfl, rfl⟩, rfl, file.content, hpub, fun hsha => ?_⟩, ?_, ?_, .inr ?_⟩
  · obtain rfl : file.content = content := hsha hdig
    obtain ⟨hsz, chunks, hlen, hflatten, hchunks⟩ := hctt.assembled hsha hs.books hall
    have hmeta : t.session.info.metadata = s.session.info.metadata := by
      rw [hsess]
      exact hbooks.metadata
    refine ⟨?_, chunks, ?_, hflatten, fun i chunk hchunk => ?_⟩
    · exact hsz.trans (congrArg UploadMetadata.totalSize hmeta.symm)
    · exact hlen.trans (congrArg (fun m => m.totalChunks.toNat) hmeta.symm)
    · obtain ⟨hla, hrecorded⟩ := hchunks i chunk hchunk
      have hlog : t.session.log = u.session.log := by rw [hsess]
      have hrec : t.session.recorded = u.session.recorded := by rw [hsess]
      refine ⟨?_, ?_⟩
      · exact (congrArg (lastPublished · (chunkName i)) hlog).trans ((hbooks.lastPublished i).trans hla)
      · rw [← hbooks.recorded, ← hrec] at hrecorded
        exact hrecorded
  · change t.session.info.metadata = _
    rw [hsess]
    exact hbooks.metadata
  · exact fun path entry hfnd => hkeeps path entry (hbooks.keeps path entry hfnd)
  · exact ⟨file, hs.published, hpub, hfe', htgt⟩

lemma publishUpload_ends [DecidableEq δ] [Inhabited δ] {writeErr : Option OpError}
    (hw : Active sha256 w.state.session) (hin : w.state.session.info.init)
    (hcln : w.state.session.info.stagingClean = false)
    (hall : w.state.session.info.uploadedChunkNum = w.state.session.info.metadata.totalChunks) :
    (publishUpload sha256 request writeErr).Ends w
      (fun _ t => Concluded sha256 w.state t.state true)
      (fun ending t => Concluded sha256 w.state t.state ending.deletes) := by
  refine .seq (.onError (tried_ends (fun t1 h1 => ?_) fun _ _ h =>
    (works_of_eq hw h).returned hw hin))
  refine .seq (.attempt (assembleServiceUpload_ends.mono (fun assembly t2 h2 => ?_) fun err t2 h2 => ?_))
  · rw [h1] at h2
    have hdn : Concluded sha256 w.state (t2.state.setInfo fun info =>
        { (if assembly.targetPublished then info.complete request.now assembly else info) with
          init := false }) true := by
      rcases h2 with ⟨hnot, h2⟩ | ⟨hpub, h2⟩
      · rw [hnot]
        exact (h2.works hw).deleting hw hin
      · rw [hpub]
        refine ⟨h2.outcome hw hall request.now assembly, fate_alive hw.completed hin (Or.inr
          ⟨rfl, rfl, fun _ => ?_⟩)⟩
        obtain ⟨u, content, hbooks, -, file, -, -, -, -, hsess⟩ := h2
        change t2.state.session.info.stagingClean = false
        rw [hsess]
        exact hbooks.stagingClean.trans hcln
    refine .seq (updateInfo_ends ?_)
    split
    · exact .fail hdn
    · exact .guard (fun _ => hdn) fun _ => hdn
  · rw [h1] at h2
    exact .seq (updateInfo_ends (.fail ((h2.works hw).deleting hw hin)))

/-- A request that passed the checks has its chunk among those of a session with its metadata. -/
lemma UploadRequest.chunkIndex_lt (h : request.validate = .ok ()) :
    request.chunkIndex < request.candidate.totalChunks.toNat := by
  simp only [UploadRequest.validate, bind_eq_ok, validateChunk, check_eq_ok] at h
  unfold UploadRequest.chunkIndex
  omega

lemma uploadActive_ends [DecidableEq δ] [Inhabited δ] (hreq : request.validate = .ok ())
    (hw : Active sha256 w.state.session) (hin : w.state.session.info.init) :
    (uploadActive sha256 request).Ends w (fun _ t => Concluded sha256 w.state t.state true)
      (fun ending t => Concluded sha256 w.state t.state ending.deletes) := by
  have hsm : ∀ {t : Upload δ}, t = w.state → Works sha256 w.state t := works_of_eq hw
  refine .seq (fileInfo_ends (.seq (.guard (fun _ => (hsm rfl).returned hw hin) fun hmeta => ?_)))
  have hmeta : w.state.session.info.metadata = request.candidate :=
    beq_iff_eq.mp (Bool.eq_true_of_not_eq_false hmeta)
  refine .seq (.guard (fun _ => (hsm rfl).returned hw hin) fun _ => ?_)
  refine .seq (.onError (asks_inspect.ends (fun _ t1 h1 => ?_) fun _ _ _ h =>
    (hsm h).returned hw hin))
  -- from here on the session at hand is the one that the directories were prepared for
  refine .bind ((prepareStaging_ends (w := t1) (h1 ▸ hw) (h1 ▸ hin)).impError
    fun _ _ h => h1 ▸ h) fun _ t2 h2 => ?_
  rw [h1] at h2
  obtain ⟨hact, hmeta2, hin2, hcln, hkeeps⟩ := h2
  have hlater : ∀ {t : Upload δ} {deletes : Bool}, Outcome sha256 t2.state t →
      (deletes = false ∧ t.session.info.init ∧ t.session.info.completed = false ∨
        deletes ∧ t.session.info.init = false ∧
          (t.session.info.completed → t.session.info.stagingClean = false)) →
      Concluded sha256 w.state t deletes := by
    intro t deletes h hfate
    exact ⟨h.after hmeta2 hkeeps (hact.published.trans hw.published.symm),
      fate_alive hw.completed hin hfate⟩
  have hindex : request.chunkIndex < t2.state.session.info.metadata.totalChunks.toNat := by
    rw [hmeta2, hmeta]
    exact request.chunkIndex_lt hreq
  refine .bind ((acceptChunk_ends hreq hact (hmeta2.trans hmeta) hindex).impError
    fun ending t h => ?_)
    fun writeErr t3 h3 => ?_
  · obtain ⟨⟨err, rfl⟩, h⟩ := h
    exact hlater (h.outcome hact) (.inl ⟨rfl, h.init.trans hin2, h.active.completed⟩)
  · refine .seq (fileInfo_ends (.seq (.guard (fun _ => ?_) fun hall => ?_)))
    · exact hlater (h3.outcome hact) (.inl ⟨rfl, h3.init.trans hin2, h3.active.completed⟩)
    · have hall3 : t3.state.session.info.uploadedChunkNum = t3.state.session.info.metadata.totalChunks := by
        rw [h3.metadata, hmeta2, hmeta]
        exact not_not.mp hall
      have hin3 := h3.init.trans hin2
      have hpub3 := h3.active.published.trans hact.published.symm
      refine (publishUpload_ends h3.active hin3 (h3.stagingClean.trans hcln) hall3).mono
        (fun _ t h => ?_) fun ending t h => ?_
      all_goals
        exact hlater (h.1.after h3.metadata h3.keeps hpub3) (h.2.alive h3.active.completed hin3)

/-- A section that leaves the books, the files and the session as they are. -/
lemma Outcome.refl (h : s.session.Good sha256) : Outcome sha256 s s :=
  ⟨h, rfl, .refl s, .inl rfl⟩

lemma UploadSession.Good.active {s : UploadSession δ} (h : s.Good sha256)
    (hcm : s.info.completed = false) : Active sha256 s := by
  rcases h with h | h
  · exact h
  · rw [h.completed] at hcm
    cases hcm

/-- Only the time of the last activity has changed. -/
def Stamped (s t : Upload δ) : Prop :=
  ∃ now, t = s.setInfo fun info => { info with lastActivity := now }

lemma Stamped.outcome (h : Stamped s t) (hs : s.session.Good sha256) : Outcome sha256 s t := by
  obtain ⟨now, rfl⟩ := h
  exact ⟨hs.aside .., rfl, .refl _, .inl rfl⟩

lemma asks_verifyCompletedServiceUpload : Asks (verifyCompletedServiceUpload : Action δ Unit) := by
  refine .bind (fun _ => fileInfo_ends rfl) fun info => .bind (.guard (silent_leaf _)) fun _ => ?_
  refine .bind (asks_openAt _) fun entry => .bind asks_inspect fun _ => ?_
  cases entry with
  | regular file =>
    refine .bind (.guard (silent_unsafeError _)) fun _ => ?_
    exact .bind (.guard (silent_unsafeError _)) fun _ => asks_inspect
  | directory => exact .fail (silent_unsafeError _)
  | special => exact .fail (silent_unsafeError _)

lemma replyCompleted_ends : (replyCompleted request).Ends w
    (fun _ _ => False) (fun ending t => Stamped w.state t.state ∧ ending.deletes = false) := by
  have hsm : ∀ {t : Upload δ}, t = w.state → Stamped w.state t :=
    fun h => ⟨w.state.session.info.lastActivity, h⟩
  refine .seq (fileInfo_ends (.seq (.guard (fun _ => ⟨hsm rfl, rfl⟩) fun _ => ?_)))
  refine .seq (.onError (asks_verifyCompletedServiceUpload.ends (fun _ t h => ?_) fun _ _ _ h =>
    ⟨hsm h, rfl⟩))
  refine .seq (updateInfo_ends (.fail ⟨⟨some request.now, ?_⟩, rfl⟩))
  rw [h]

/-- **A lock section of `UploadFile`**: whatever fails, the books stay in order, no file is lost, at
most the target is published, and only from chunks that were accepted. -/
theorem uploadLocked_ends [DecidableEq δ] [Inhabited δ] (hreq : request.validate = .ok ())
    (hw : w.state.session.Good sha256) :
    (uploadLocked sha256 request).Ends w (fun _ t => Concluded sha256 w.state t.state true)
      (fun ending t => Concluded sha256 w.state t.state ending.deletes) := by
  refine .seq (fileInfo_ends ?_)
  split
  next hcm =>
    refine replyCompleted_ends.mono (fun _ _ hf => hf.elim) fun ending t h => ⟨h.1.outcome hw, ?_⟩
    obtain ⟨⟨now, hnow⟩, hreturns⟩ := h
    rw [hnow, hreturns]
    refine ⟨fun _ => ⟨hcm, rfl, rfl, rfl, rfl⟩, fun hwaits => ?_, fun hwaits => ?_⟩
    all_goals
      rw [hcm] at hwaits
      cases hwaits
  next hcm =>
    have hcm : w.state.session.info.completed = false := Bool.eq_false_of_not_eq_true hcm
    split
    next hin =>
      refine .fail ⟨.refl hw, fun hdn => ?_, fun _ _ => ⟨rfl, rfl⟩, fun _ halive => ?_⟩
      · rw [hcm] at hdn
        cases hdn
      · rw [hin] at halive
        cases halive
    next hin =>
      exact uploadActive_ends hreq (hw.active hcm) (Bool.eq_true_of_not_eq_false hin)

/-- **A lock section of `TestChunk`** changes nothing but the time of the last activity. -/
theorem testChunkLocked_ends {request : TestRequest} : (testChunkLocked request).Ends w
    (fun _ t => Stamped w.state t.state) (fun _ t => Stamped w.state t.state) := by
  refine .seq (fileInfo_ends (.seq (.guard (fun _ => ⟨w.state.session.info.lastActivity,
    rfl⟩) fun _ => ?_)))
  refine .seq (updateInfo_ends ?_)
  have hstmp : ∀ {t : Upload δ}, t = (w.state.setInfo fun info =>
      { info with lastActivity := some request.now }) → Stamped w.state t :=
    fun h => ⟨some request.now, h⟩
  refine .seq (.ofExcept (fun _ _ => ?_) fun _ _ => hstmp rfl)
  split
  · refine .seq (asks_verifyCompletedServiceUpload.ends (fun _ t h => .pure (hstmp h)) fun _ _ _ h => ?_)
    exact hstmp h
  · refine .seq (.guard (fun _ => hstmp rfl) fun _ => .seq (.guard (fun _ => hstmp rfl) fun _ => ?_))
    exact .pure (hstmp rfl)

end

end ReCasaOS.Uploads
