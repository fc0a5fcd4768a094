/-
# The files of an upload

A v2 upload (`service/file_upload.go`) keeps its chunks in a staging directory that the session
holds open. A chunk is written to a temporary file there, synced, and renamed to its number; the
assembled file is written the same way as `.complete`, copied to a temporary file next to the
target, checked against its digest, and renamed to the target. Both renames are
`RENAME_NOREPLACE`.

This file models the operations of `ManagedRoots` that an upload uses on these two directories, call
by call. The question about each of them is whether its error tells the caller what happened:
`ManagedMutationChanged(err)` has to say whether the rename took place. `finishWriter_ends` and
`commitNoReplace_ends` say that it does, for every placement of faults.

Checks that only ask (`Fstat` of a held descriptor, mounts, path resolution, `Dup`) are one call
each that passes or fails. Two lists are kept that the program has no use for: the chunks that were
ever published in the staging directory, and the contents ever published at the target.
-/
import ReCasaOS.FileSecurity.ManagedTree
import ReCasaOS.Lib.Json

namespace ReCasaOS.Uploads

open Lib FileSecurity List Option Fallible Function

/-! ## 1. Files -/

/-- A regular file; `number` is what a `ManagedFileIdentity` has besides the links and the size. -/
structure StoredFile where
  number : Nat
  links : Nat
  content : Bytes
  deriving DecidableEq

/-- `ManagedFileIdentity`. -/
structure FileIdentity where
  number : Nat
  links : Nat
  size : Nat
  deriving DecidableEq

def StoredFile.identity (file : StoredFile) : FileIdentity :=
  ⟨file.number, file.links, file.content.length⟩

inductive Entry
  | regular (file : StoredFile)
  | directory
  | special
  deriving DecidableEq

def Entry.content : Entry → Bytes
  | .regular file => file.content
  | _ => []

abbrev Directory := Bytes → Option Entry

/-- The immutable part of a session, which a request has to repeat exactly. `roots` tells one
`*ManagedRoots` from another. -/
structure UploadMetadata where
  principalID : Int
  roots : Nat
  base : Bytes
  targetPath : Bytes
  targetRelative : Bytes
  tempRelative : Bytes
  tempDir : Bytes
  assemblyPath : Bytes
  totalChunks : Int
  totalSize : Int
  chunkSize : Int
  deriving DecidableEq

/-- A session, with digests in `δ`. A zero `time.Time` is `none`, and `pinned` says that the staging
descriptors are held. -/
structure FileInfo (δ : Type) where
  init : Bool
  metadata : UploadMetadata
  uploaded : List Bool
  chunkDigests : List δ
  uploadedChunkNum : Int
  lastActivity : Option Nat
  pinned : Bool
  cleanupErr : Option OpError
  completed : Bool
  completedAt : Option Nat
  completionDigest : δ
  completionSize : Int
  completionIdentity : FileIdentity
  completionErr : Option OpError
  stagingClean : Bool

/-- A session with its staging directory. The rest is history: what was published under which name
of the staging directory, which digests were recorded for which chunk, and what was published at the
target. -/
structure UploadSession (δ : Type) where
  info : FileInfo δ
  staging : Directory
  log : List (Bytes × Bytes)
  recorded : List (Nat × δ)
  published : List Bytes

/-- What a request works on: its session, and the files outside the staging directory by path. -/
structure Upload (δ : Type) where
  session : UploadSession δ
  destination : Directory

/-- The two directories in which an upload writes. -/
inductive Place
  | staging
  | destination
  deriving DecidableEq

namespace Upload

variable {δ : Type} (u : Upload δ)

def directory : Place → Directory
  | .staging => u.session.staging
  | .destination => u.destination

def put (place : Place) (name : Bytes) (entry : Option Entry) : Upload δ :=
  match place with
  | .staging =>
    { u with session := { u.session with staging := Function.update u.session.staging name entry } }
  | .destination => { u with destination := Function.update u.destination name entry }

/-- The history of a rename. -/
def record (place : Place) (name : Bytes) (entry : Entry) : Upload δ :=
  match place with
  | .staging =>
    { u with session := { u.session with log := u.session.log ++ [(name, entry.content)] } }
  | .destination =>
    { u with session := { u.session with published := u.session.published ++ [entry.content] } }

def setInfo (f : FileInfo δ → FileInfo δ) : Upload δ :=
  { u with session := { u.session with info := f u.session.info } }

/-- `unix.Openat2` with `O_CREAT|O_EXCL`. -/
def create (place : Place) (name : Bytes) (number : Nat) : Except Errno Unit × Upload δ :=
  if (u.directory place name).isSome then (.error .eexist, u)
  else (.ok (), u.put place name (some (.regular ⟨number, 1, []⟩)))

/-- `unix.Unlinkat`. -/
def unlink (place : Place) (name : Bytes) : Except Errno Unit × Upload δ :=
  match u.directory place name with
  | none => (.error .enoent, u)
  | some .directory => (.error .eisdir, u)
  | some _ => (.ok (), u.put place name none)

/-- `unix.Renameat2` with `RENAME_NOREPLACE`. -/
def renameNoReplace (place : Place) (old new : Bytes) : Except Errno Unit × Upload δ :=
  match u.directory place old with
  | none => (.error .enoent, u)
  | some entry =>
    if (u.directory place new).isSome then (.error .eexist, u)
    else (.ok (), ((u.put place old none).put place new (some entry)).record place new entry)

/-- Bytes added to an open file. -/
def append (place : Place) (name : Bytes) (data : Bytes) : Upload δ :=
  match u.directory place name with
  | some (.regular file) =>
    u.put place name (some (.regular { file with content := file.content ++ data }))
  | _ => u

end Upload

abbrev Action (δ α : Type) := Fallible (Faulty (Upload δ)) OpError α

/-! ## 2. The operations of the managed roots -/

section

variable {δ : Type}

/-- A check that only asks. -/
def inspect : Action δ Unit := ask fun _ => .ok ()

/-- What a request meets besides faults: random bytes, the numbers of new files, and the errors of
`MkdirAll` and of the space reservation. -/
structure Surroundings where
  chunkRandom : Arr 16
  assemblyRandom : Arr 16
  commitRandom : Arr 16
  number : Bytes → Nat
  mkdirError : Errno → OpError
  spaceError : Errno → OpError

/-- `io.Copy` to an open file: a fault leaves what was written by then. -/
def write (place : Place) (name : Bytes) (data : Bytes) : Action δ Unit := fun w =>
  match w.next with
  | some failure =>
    (.error (errnoError failure.code),
      ⟨w.state.append place name (data.take failure.read), w.faults.tail⟩)
  | none => (.ok (), ⟨w.state.append place name data, w.faults.tail⟩)

/-- `OpenRegularIn`, with what is behind the descriptor. -/
def openRegularIn (name : Bytes) : Action δ StoredFile := do
  inspect
  guard (validatePathComponent name = false) (.leaf .unsafePath)
  let entry ← openAt fun u : Upload δ =>
    match u.session.staging name with
    | none => .error .enoent
    | some entry => .ok entry
  inspect
  match entry with
  | .regular file =>
    guard (file.links ≠ 1) (unsafeError "managed regular file has multiple hard links")
    pure file
  | _ => fail (unsafeError "managed path is not an allowed file type")

def statDirectoryEntry (name : Bytes) : Action δ Entry := do
  guard (validatePathComponent name = false) (.leaf .unsafePath)
  let entry ← openAt fun u : Upload δ =>
    match u.session.staging name with
    | none => .error .enoent
    | some entry => .ok entry
  inspect
  closing
  pure entry

def unlinkManagedNameAndSync (place : Place) (name : Bytes) (operation : String) (changed : Bool) :
    Action δ Unit := do
  (call fun u : Upload δ => u.unlink place name).onError fun _ code => errnoError code
  syncManagedDirectory operation changed

/-- `RemoveIn`; its two mount lookups are the `inspect` and the first question about the name. -/
def removeIn (name : Bytes) : Action δ Unit := do
  inspect
  guard (validatePathComponent name = false) (.leaf .unsafePath)
  inspect
  ask fun u : Upload δ => if (u.session.staging name).isSome then .ok () else .error .enoent
  let entry ← openAt fun u : Upload δ =>
    match u.session.staging name with
    | none => .error .enoent
    | some entry => .ok entry
  guard (entry = .directory) (unsafeError "refusing to remove a directory by name")
  unlinkManagedNameAndSync .staging name "sync removed managed directory entry" true

/-- The text `.recasaos-create-`. -/
def createStart : Bytes :=
  [46, 114, 101, 99, 97, 115, 97, 111, 115, 45, 99, 114, 101, 97, 116, 101, 45]

/-- The text `.recasaos-upload-`. -/
def uploadStart : Bytes :=
  [46, 114, 101, 99, 97, 115, 97, 111, 115, 45, 117, 112, 108, 111, 97, 100, 45]

/-- The text `.complete`. -/
def completeName : Bytes := [46, 99, 111, 109, 112, 108, 101, 116, 101]

/-- `createManagedTemporary`, given the name. -/
def createManagedTemporary (place : Place) (temporaryName : Bytes) (number : Nat) : Action δ Unit :=
  (call fun u : Upload δ => u.create place temporaryName number).onError
    fun _ code => classifyManagedResolutionError code

/-- `CreateExclusiveIn`; the name of the temporary file is returned. -/
def createExclusiveIn (name : Bytes) (random : Arr 16) (number : Bytes → Nat) : Action δ Bytes := do
  inspect
  guard (validatePathComponent name = false) (.leaf .unsafePath)
  inspect
  ask fun u : Upload δ => if (u.session.staging name).isSome then .error .eexist else .ok ()
  let temporaryName := createStart ++ hexEncode random.1
  createManagedTemporary .staging temporaryName (number temporaryName)
  match ← attempt inspect with
  | .ok _ => pure temporaryName
  | .error err =>
    -- the permissions could not be set
    let closeErr ← attempt closing
    let cleanupErr ← attempt
      (unlinkManagedNameAndSync .staging temporaryName "sync failed exclusive create cleanup" false)
    let parentCloseErr ← attempt closing
    fail (.joined ((err :: [failureOf closeErr, failureOf cleanupErr,
      failureOf parentCloseErr].reduceOption)))

def captureManagedPublishedIdentity (place : Place) (name : Bytes) : Action δ FileIdentity := do
  let entry ← ask fun u : Upload δ =>
    match u.directory place name with
    | none => .error .enoent
    | some entry => .ok entry
  inspect
  match entry with
  | .regular file =>
    guard (file.links ≠ 1)
      (unsafeError "committed upload target is not a single-link regular file")
    inspect
    pure file.identity
  | _ => fail (unsafeError "committed upload target is not a single-link regular file")

def removeTemporary (temporaryName : Bytes) : Action δ Unit := do
  match ← attempt (call fun u : Upload δ => u.unlink .staging temporaryName) with
  | .error code => if code = .enoent then pure () else fail (errnoError code)
  | .ok _ => syncManagedDirectory "sync aborted managed file parent" false

/-- `errors.Join(err, others...)` as the error of a call that failed with `err`. -/
def failJoined {α : Type} (err : OpError) (others : List (Option OpError)) : Action δ α :=
  fail (.joined (err :: others.reduceOption))

/-- `finish(true)` up to the rename. -/
def publishTemporary (temporaryName destinationName : Bytes) : Action δ Unit := do
  match ← attempt inspect with
  | .error err =>
    let closeErr ← attempt closing
    let removeErr ← attempt (removeTemporary temporaryName)
    failJoined err [failureOf closeErr, failureOf removeErr]
  | .ok _ =>
    match ← attempt closing with
    | .error err =>
      let removeErr ← attempt (removeTemporary temporaryName)
      failJoined err [failureOf removeErr]
    | .ok _ =>
      match ← attempt
          (call fun u : Upload δ => u.renameNoReplace .staging temporaryName destinationName) with
      | .error code =>
        let removeErr ← attempt (removeTemporary temporaryName)
        failJoined (classifyManagedResolutionError code) [failureOf removeErr]
      | .ok _ => pure ()

/-- `finish(true)` behind the rename, up to the deferred close. -/
def bindPublished (destinationName : Bytes) : Action δ FileIdentity := do
  let identity ← (captureManagedPublishedIdentity .staging destinationName).onError fun _ err =>
    changedMutationError "bind exclusively created file identity" true err
  syncManagedDirectory "sync exclusively created file parent" true
  pure identity

/-- `Close` of a `ManagedWritableFile`, with the identity that `PublishedIdentity` returns. -/
def finishWriter (temporaryName destinationName : Bytes) : Action δ FileIdentity := do
  match ← attempt (publishTemporary temporaryName destinationName) with
  | .error err =>
    let closeErr ← attempt closing
    failJoined err [failureOf closeErr]
  | .ok _ =>
    let bound ← attempt (bindPublished destinationName)
    let closed ← attempt closing
    let closeErr := (failureOf closed).map
      (changedMutationError "close published managed file parent" false)
    match bound, closeErr with
    | .ok identity, none => pure identity
    | .ok _, some closeErr => failJoined closeErr []
    | .error err, closeErr => failJoined err [closeErr]

/-- `Abort`. -/
def abortWriter (temporaryName : Bytes) : Action δ Unit := do
  let closeErr ← attempt closing
  let removeErr ← attempt (removeTemporary temporaryName)
  let parentCloseErr ← attempt closing
  match joinErrors [joinErrors [failureOf closeErr, failureOf removeErr], failureOf parentCloseErr] with
  | none => pure ()
  | some err => fail err

/-- The path of another name in the directory of `path`. -/
def sibling (path name : Bytes) : Bytes := (path.reverse.dropWhile (· != 47)).reverse ++ name

def maxUploadChunkSize : Nat := 268435456

def maxUploadChunks : Nat := 256

def maxUploadTotalSize : Nat := maxUploadChunkSize * maxUploadChunks

/-- `commitNoReplaceFromPinnedStaging` while the temporary file is open. -/
def copyToTarget [DecidableEq δ] (sha256 : Bytes → δ) (temporary : Bytes) (source : StoredFile)
    (expectedDigest : δ) : Action δ Unit := do
  (write .destination temporary source.content).onError fun _ err =>
    .wrapped "copy upload to target filesystem" err
  guard (sha256 source.content ≠ expectedDigest)
    (unsafeError "upload staging digest changed before commit")
  -- `sameManagedTransferStat` and the name, then `Chmod` and `Sync`
  inspect
  inspect
  inspect.onError fun _ err => .wrapped "set target-local upload permissions" err
  inspect.onError fun _ err => .wrapped "sync target-local upload staging file" err

/-- The same from the close of the temporary file to the rename. -/
def renameToTarget (temporary target : Bytes) : Action δ Unit := do
  closing.onError fun _ err => .wrapped "close target-local upload staging file" err
  inspect
  inspect
  (call fun u : Upload δ => u.renameNoReplace .destination temporary target).onError
    fun _ code => .wrapped "publish upload without replacing destination" (errnoError code)

/-- `if temporaryOpen { temporary.Close() }`, with the error left to the caller. -/
def closeIfOpen (stillOpen : Bool) : Action δ (Except OpError Unit) :=
  if stillOpen then attempt closing else pure (.ok ())

/-- The deferred `temporary.Close` and `unlinkManagedNameAndSync`. -/
def discardTemporary (temporary : Bytes) (stillOpen : Bool) (err : OpError) : Action δ Unit := do
  let closeErr ← closeIfOpen stillOpen
  let unlinkErr ← attempt
    (unlinkManagedNameAndSync .destination temporary "sync upload staging cleanup" false)
  failJoined err [failureOf closeErr, failureOf unlinkErr]

/-- The same from the creation of the temporary file on. -/
def copyAndRename [DecidableEq δ] (sha256 : Bytes → δ) (temporary target : Bytes)
    (source : StoredFile) (expectedDigest : δ) : Action δ Unit := do
  match ← attempt (copyToTarget sha256 temporary source expectedDigest) with
  | .error err => discardTemporary temporary true err
  | .ok _ =>
    match ← attempt (renameToTarget temporary target) with
    | .error err => discardTemporary temporary false err
    | .ok _ => pure ()

/-- `CommitNoReplaceWithExpectedIdentityAndDigestIn` up to the rename. -/
def publishAtTarget [DecidableEq δ] (sha256 : Bytes → δ) (surroundings : Surroundings)
    (stagingName target : Bytes) (expected : FileIdentity) (expectedDigest : δ) : Action δ Unit := do
  inspect
  guard (validatePathComponent stagingName = false) (.leaf .unsafePath)
  inspect
  let source ← openRegularIn stagingName
  inspect
  guard (source.identity ≠ expected)
    (unsafeError "upload staging identity changed before commit")
  guard (source.links ≠ 1) (unsafeError "upload staging file has multiple hard links")
  guard (maxUploadTotalSize < source.content.length)
    (textError "upload staging file exceeds 68719476736 bytes")
  -- the staging name, then the parent of the target
  inspect
  inspect
  let temporary := sibling target (uploadStart ++ hexEncode surroundings.commitRandom.1)
  createManagedTemporary .destination temporary (surroundings.number temporary)
  copyAndRename sha256 temporary target source expectedDigest

/-- `CommitNoReplaceWithExpectedIdentityAndDigestIn`, with the identity and the error it returns. -/
def commitNoReplace [DecidableEq δ] (sha256 : Bytes → δ) (surroundings : Surroundings)
    (stagingName target : Bytes) (expected : FileIdentity) (expectedDigest : δ) :
    Action δ (FileIdentity × Option OpError) := do
  match ← attempt
      (publishAtTarget sha256 surroundings stagingName target expected expectedDigest) with
  | .error err => pure (⟨0, 0, 0⟩, some err)
  | .ok _ =>
    match ← attempt (captureManagedPublishedIdentity .destination target) with
    | .error err =>
      pure (⟨0, 0, 0⟩, some (changedMutationError "bind committed upload identity" true err))
    | .ok identity =>
      let synced ← attempt (syncManagedDirectory "sync committed upload parent" true)
      pure (identity, failureOf synced)

end

/-! ## 3. What an operation leaves alone -/

section

variable {δ : Type}

/-- Only the staging directory may have changed. -/
def StagingOnly (s t : Upload δ) : Prop :=
  ∃ staging, t = { s with session := { s.session with staging := staging } }

/-- The staging directory has changed, and `content` was published in it as `name`. -/
def Logged (name content : Bytes) (s t : Upload δ) : Prop :=
  ∃ staging, t = { s with session := { s.session with
    staging := staging, log := s.session.log ++ [(name, content)] } }

/-- The temporary file was published as `name`. -/
def PublishedAs (temporaryName name : Bytes) (s t : Upload δ) : Prop :=
  ∃ entry, s.session.staging temporaryName = some entry ∧ Logged name entry.content s t

lemma StagingOnly.refl (s : Upload δ) : StagingOnly s s := ⟨s.session.staging, rfl⟩

lemma StagingOnly.trans {s t u : Upload δ} (h : StagingOnly s t) (h' : StagingOnly t u) :
    StagingOnly s u := by
  obtain ⟨_, rfl⟩ := h
  obtain ⟨staging, rfl⟩ := h'
  exact ⟨staging, rfl⟩

lemma StagingOnly.logged {name content : Bytes} {s t u : Upload δ} (h : StagingOnly s t)
    (h' : Logged name content t u) : Logged name content s u := by
  obtain ⟨_, rfl⟩ := h
  obtain ⟨staging, rfl⟩ := h'
  exact ⟨staging, rfl⟩

lemma stagingOnly_put (s : Upload δ) (name : Bytes) (entry : Option Entry) :
    StagingOnly s (s.put .staging name entry) :=
  ⟨update s.session.staging name entry, rfl⟩

lemma stagingOnly_append (s : Upload δ) (name data : Bytes) :
    StagingOnly s (s.append .staging name data) := by
  unfold Upload.append
  split
  · exact stagingOnly_put s _ _
  · exact .refl s

lemma stagingOnly_unlink (s : Upload δ) (name : Bytes) :
    StagingOnly s (s.unlink .staging name).2 := by
  unfold Upload.unlink
  split
  · exact .refl s
  · exact .refl s
  · exact stagingOnly_put s _ _

/-- No file outside the staging directory is lost or changed. -/
def Keeps (s t : Upload δ) : Prop :=
  ∀ path entry, s.destination path = some entry → t.destination path = some entry

end

/-! ## 4. Questions -/

section

variable {δ α β : Type}

/-- An operation that changes nothing and fails silently. -/
def Asks (m : Action δ α) : Prop :=
  ∀ w, m.Ends w (fun _ t => t.state = w.state) fun err t => Silent 1 2 err ∧ t.state = w.state

lemma Asks.ends {m : Action δ α} (h : Asks m) {w : Faulty (Upload δ)}
    {P : α → Faulty (Upload δ) → Prop} {E : OpError → Faulty (Upload δ) → Prop}
    (hok : ∀ a t, t.state = w.state → P a t)
    (herr : ∀ err t, Silent 1 2 err → t.state = w.state → E err t) : m.Ends w P E :=
  (h w).mono hok fun err t ht => herr err t ht.1 ht.2

lemma Asks.pure (a : α) : Asks (pure a : Action δ α) := fun _ => .pure rfl

lemma Asks.fail {err : OpError} (h : Silent 1 2 err) : Asks (fail err : Action δ α) :=
  fun _ => .fail ⟨h, rfl⟩

lemma Asks.guard {bad : Prop} [Decidable bad] {err : OpError} (h : Silent 1 2 err) :
    Asks (guard bad err : Action δ Unit) :=
  fun _ => .guard (fun _ => ⟨h, rfl⟩) fun _ => rfl

lemma Asks.bind {m : Action δ α} {f : α → Action δ β} (hm : Asks m) (hf : ∀ a, Asks (f a)) :
    Asks (m >>= f) := by
  intro w
  refine .bind (hm w) fun a t ht => ?_
  refine (hf a).ends (fun _ t' ht' => ht'.trans ht) fun _ t' herr ht' => ⟨herr, ht'.trans ht⟩

variable (ans : Upload δ → Except Errno α)

lemma asks_ask : Asks (ask ans) :=
  fun _ => ask_ends (fun _ _ => rfl) fun _ herr _ => ⟨herr.silent, rfl⟩

lemma asks_openAt : Asks (openAt ans) :=
  fun _ => openAt_ends (fun _ _ => rfl) fun _ herr => ⟨herr.silent, rfl⟩

lemma asks_inspect : Asks (inspect : Action δ Unit) := asks_ask _

lemma asks_closing : Asks (closing : Action δ Unit) := asks_ask _

lemma silent_leaf (cause : Cause) : Silent 1 2 (.leaf cause) := (simple_leaf cause).silent

lemma silent_unsafeError (message : String) : Silent 1 2 (unsafeError message) :=
  (simple_wrapped message .unsafePath).silent

lemma asks_openRegularIn (name : Bytes) : Asks (openRegularIn name : Action δ StoredFile) := by
  refine .bind asks_inspect fun _ => .bind (.guard (silent_leaf _)) fun _ => ?_
  refine .bind (asks_openAt _) fun entry => .bind asks_inspect fun _ => ?_
  cases entry with
  | regular file => exact .bind (.guard (silent_unsafeError _)) fun _ => .pure file
  | directory => exact .fail (silent_unsafeError _)
  | special => exact .fail (silent_unsafeError _)

lemma asks_statDirectoryEntry (name : Bytes) : Asks (statDirectoryEntry name : Action δ Entry) := by
  refine .bind (.guard (silent_leaf _)) fun _ => .bind (asks_openAt _) fun entry => ?_
  exact .bind asks_inspect fun _ => .bind asks_closing fun _ => .pure entry

lemma asks_captureIdentity (place : Place) (name : Bytes) :
    Asks (captureManagedPublishedIdentity place name : Action δ FileIdentity) := by
  refine .bind (asks_ask _) fun entry => .bind asks_inspect fun _ => ?_
  cases entry with
  | regular file =>
    exact .bind (.guard (silent_unsafeError _)) fun _ => .bind asks_inspect fun _ => .pure _
  | directory => exact .fail (silent_unsafeError _)
  | special => exact .fail (silent_unsafeError _)

end

/-! ## 5. The writer of the staging directory -/

section

variable {δ α : Type} {w : Faulty (Upload δ)}
variable {m : Action δ α}

lemma silent_errno (code : Errno) : Silent 1 2 (errnoError code) := silent_leaf _

lemma stagingCall_ends {eff : Upload δ → Except Errno α × Upload δ}
    (heff : ∀ s, StagingOnly s (eff s).2) :
    (call eff).Ends w (fun _ t => StagingOnly w.state t.state)
      fun _ t => StagingOnly w.state t.state :=
  .call (fun _ _ => .refl _) (fun _ _ => heff _) fun _ _ => heff _

lemma removeTemporary_ends (tmp : Bytes) : (removeTemporary tmp).Ends w
    (fun _ t => StagingOnly w.state t.state)
    (fun err t => Silent 1 2 err ∧ StagingOnly w.state t.state) := by
  refine .seq (.attempt ((stagingCall_ends (stagingOnly_unlink · tmp)).mono ?_ ?_))
  · intro _ t ht
    exact .onError (.query (fun _ _ => ht) fun _ _ => ⟨silent_mutation _ _ _, ht⟩)
  · intro code t ht
    dsimp only
    split
    · exact .pure ht
    · exact .fail ⟨silent_errno _, ht⟩

variable {s : Upload δ}

/-- An attempt at something that keeps to the staging directory. -/
lemma attempt_ends {P : Except OpError α → Faulty (Upload δ) → Prop}
    {E : OpError → Faulty (Upload δ) → Prop}
    (hm : m.Ends w (fun _ t => StagingOnly s t.state) fun err t => Silent 1 2 err ∧ StagingOnly s t.state)
    (h : ∀ res t, StagingOnly s t.state → (∀ e ∈ failureOf res, Silent 1 2 e) → P res t) :
    (attempt m : Action δ (Except OpError α)).Ends w P E := by
  refine .attempt (hm.mono (fun a t ht => h _ t ht fun e he => ?_) fun err t ht => ?_)
  · cases he
  · refine h _ t ht.2 fun e he => ?_
    cases he
    exact ht.1

variable (place : Place)

lemma renameNoReplace_ends (old new : Bytes) :
    (call fun u : Upload δ => u.renameNoReplace place old new).Ends w
      (fun _ t => ∃ entry, w.state.directory place old = some entry ∧
        w.state.directory place new = none ∧
        t.state = ((w.state.put place old none).put place new (some entry)).record place new entry)
      (fun _ t => t.state = w.state) := by
  refine .call (fun _ _ => rfl) (fun _ hok => ?_) fun code hco => ?_
  all_goals unfold Upload.renameNoReplace at *
  · cases hold : w.state.directory place old with
    | none =>
      rw [hold] at hok
      cases hok
    | some entry =>
      simp only [hold] at hok ⊢
      split at hok
      · cases hok
      next hnew =>
        exact ⟨entry, rfl, not_isSome_iff_eq_none.mp hnew, by rw [if_neg hnew]⟩
  · cases hold : w.state.directory place old with
    | none => rfl
    | some entry =>
      simp only [hold] at hco ⊢
      split at hco
      next hnew =>
        rw [if_pos hnew]
      · cases hco

lemma silent_failJoined {levels count : Nat} {err : OpError} {others : List (Option OpError)}
    (herr : Silent levels count err) (hoth : ∀ o ∈ others, ∀ e ∈ o, Silent levels count e) :
    Silent (levels + 1) (1 + (others.length + 1) * count) (.joined (err :: others.reduceOption)) := by
  have hlen := reduceOption_length_le others
  refine (Silent.joined fun e he => ?_).le (le_refl _)
    (Nat.add_le_add_left (Nat.mul_le_mul_right count (Nat.succ_le_succ hlen)) 1)
  rcases mem_cons.mp he with rfl | he
  · exact herr
  · exact hoth _ (reduceOption_mem_iff.mp he) e rfl

/-- Behind a failure in front of the rename only the temporary file can be gone. -/
lemma removeAndFail_ends (others : List (Option OpError)) {tmp : Bytes}
    {err : OpError} {P : α → Faulty (Upload δ) → Prop}
    (hw : StagingOnly s w.state) (herr : Silent 1 2 err) (hlen : others.length ≤ 1)
    (hoth : ∀ o ∈ others, ∀ e ∈ o, Silent 1 2 e) :
    (attempt (removeTemporary tmp) >>= fun removeErr =>
      failJoined err (others ++ [failureOf removeErr]) : Action δ α).Ends w P
      (fun err t => Silent 2 7 err ∧ StagingOnly s t.state) := by
  refine .seq (attempt_ends (s := w.state) (removeTemporary_ends _) fun removeErr t ht hremove => ?_)
  refine .fail ⟨(silent_failJoined herr ?_).le (le_refl _) ?_, hw.trans ht⟩
  · intro o ho e he
    rcases mem_append.mp ho with ho | ho
    · exact hoth o ho e he
    · rw [mem_singleton.mp ho] at he
      exact hremove e he
  · simp only [length_append, length_singleton]
    omega

lemma publishTemporary_ends (tmp name : Bytes) : (publishTemporary tmp name).Ends w
      (fun _ t => PublishedAs tmp name w.state t.state)
      (fun err t => Silent 2 7 err ∧ StagingOnly w.state t.state) := by
  have hstg : ∀ {t : Faulty (Upload δ)}, t.state = w.state → StagingOnly w.state t.state :=
    fun ht => ht ▸ .refl _
  refine .seq (.attempt (asks_inspect.ends (fun _ t1 h1 => ?_) fun err t1 herr h1 => ?_))
  · refine .seq (.attempt (asks_closing.ends (fun _ t2 h2 => ?_) fun err t2 herr h2 => ?_))
    · have hsm : t2.state = w.state := h2.trans h1
      refine .seq (.attempt ((renameNoReplace_ends .staging tmp name).mono
        (fun _ t ht => .pure ?_) fun code t ht => ?_))
      · obtain ⟨entry, hold, -, hmvd⟩ := ht
        rw [hsm] at hold hmvd
        exact ⟨entry, hold, _, hmvd⟩
      · exact removeAndFail_ends [] (hstg (ht.trans hsm))
          (simple_classify code).silent (Nat.zero_le 1) fun o ho => nomatch ho
    · exact removeAndFail_ends [] (hstg (h2.trans h1)) herr (Nat.zero_le 1) fun o ho => nomatch ho
  · refine .seq (.attempt (asks_closing.ends (fun _ t2 h2 => ?_) fun closeErr t2 hclose h2 => ?_))
    · refine removeAndFail_ends [none] (hstg (h2.trans h1)) herr (Nat.le_refl 1) ?_
      intro o ho e he
      rw [mem_singleton.mp ho] at he
      cases he
    · refine removeAndFail_ends [some closeErr] (hstg (h2.trans h1)) herr (Nat.le_refl 1) ?_
      intro o ho e he
      rw [mem_singleton.mp ho] at he
      exact some.inj he ▸ hclose

variable (name : Bytes)

lemma bindPublished_ends : (bindPublished name).Ends w
    (fun _ t => t.state = w.state) (fun err t => Reports err ∧ t.state = w.state) := by
  refine .seq (.onError ((asks_captureIdentity .staging name).ends (fun identity t ht => ?_) ?_))
  · exact .seq (syncManagedDirectory_ends _ (.pure ht) fun _ herr => ⟨herr, ht⟩)
  · intro err t _ ht
    exact ⟨reports_changedMutationError _ _ _, ht⟩

/-- **The error of a writer tells whether the file was published.** -/
theorem finishWriter_ends (tmp name : Bytes) : (finishWriter tmp name).Ends w
      (fun _ t => PublishedAs tmp name w.state t.state)
      (fun err t => Reports err ∧ PublishedAs tmp name w.state t.state ∨
        ¬ Reports err ∧ StagingOnly w.state t.state) := by
  refine .seq (.attempt ((publishTemporary_ends tmp name).mono ?_ ?_))
  · intro _ t1 hpub
    refine .seq (.attempt ((bindPublished_ends name).mono (fun identity t2 h2 => ?_) ?_))
    · refine .seq (.attempt (asks_closing.ends (fun _ t h => .pure ?_) fun closeErr t _ h => .fail ?_))
      · rw [h, h2]
        exact hpub
      · rw [h, h2]
        exact .inl ⟨reports_joined (.head _) (reports_changedMutationError _ _ _), hpub⟩
    · intro err t2 h2
      refine .seq (.attempt (asks_closing.ends (fun _ t h => .fail ?_) fun closeErr t _ h => .fail ?_))
      all_goals
        rw [h, h2.2]
        exact .inl ⟨reports_joined (.head _) h2.1, hpub⟩
  · intro err t1 h1
    have hfls : ∀ (closed : Except OpError Unit) (t : Faulty (Upload δ)),
        (∀ e ∈ failureOf closed, Silent 1 2 e) → t.state = t1.state →
        (failJoined err [failureOf closed] : Action δ FileIdentity).Ends t
          (fun _ t => PublishedAs tmp name w.state t.state)
          (fun err t => Reports err ∧ PublishedAs tmp name w.state t.state ∨
            ¬ Reports err ∧ StagingOnly w.state t.state) := by
      intro closed t hclo ht
      have hcnt : 1 + ([failureOf closed].length + 1) * 7 < maxMutationErrorNodes := by
        change (15 : Nat) < 256
        decide
      refine .fail (.inr ⟨(silent_failJoined h1.1 ?_).not_reports (by decide) hcnt, ?_⟩)
      · intro o ho e he
        rw [mem_singleton.mp ho] at he
        exact (hclo e he).le (by decide) (by decide)
      · rw [ht]
        exact h1.2
    refine .seq (.attempt (asks_closing.ends (fun _ t h => ?_) fun closeErr t hclose h => ?_))
    · exact hfls (.ok ()) t (fun e he => nomatch he) h
    · exact hfls (.error closeErr) t (fun e he => some.inj he ▸ hclose) h

/-- An operation that stays in the staging directory, however it ends. -/
def Stages (m : Action δ α) : Prop :=
  ∀ w, m.Ends w (fun _ t => StagingOnly w.state t.state) fun _ t => StagingOnly w.state t.state

lemma Asks.stages (h : Asks m) : Stages m :=
  fun _ => h.ends (fun _ _ ht => ht ▸ .refl _) fun _ _ _ ht => ht ▸ .refl _

lemma Stages.bind {β : Type} {f : α → Action δ β} (hm : Stages m) (hf : ∀ a, Stages (f a)) :
    Stages (m >>= f) := by
  intro w
  refine .bind (hm w) fun a t ht => ?_
  exact (hf a t).mono (fun _ _ h => ht.trans h) fun _ _ h => ht.trans h

/-- A statement that stays in the staging directory, and what comes behind it. -/
lemma Stages.seq {β : Type} {f : α → Action δ β} {P : β → Faulty (Upload δ) → Prop}
    {E : OpError → Faulty (Upload δ) → Prop} (hm : Stages m) (hw : StagingOnly s w.state)
    (hf : ∀ a t, StagingOnly s t.state → (f a).Ends t P E)
    (hE : ∀ err t, StagingOnly s t.state → E err t) : (m >>= f).Ends w P E :=
  Ends.seq ((hm w).mono (fun a t ht => hf a t (hw.trans ht)) fun err t ht => hE err t (hw.trans ht))

lemma Stages.attempt (h : Stages m) : Stages (attempt m : Action δ (Except OpError α)) :=
  fun w => .attempt (h w)

lemma Stages.fail (err : OpError) : Stages (fail err : Action δ α) :=
  fun _ => .fail (.refl _)

lemma Stages.pure (a : α) : Stages (pure a : Action δ α) := fun _ => .pure (.refl _)

lemma stages_call {eff : Upload δ → Except Errno α × Upload δ}
    {f : Faulty (Upload δ) → Errno → OpError} (heff : ∀ s, StagingOnly s (eff s).2) :
    Stages ((call eff).onError f) :=
  fun _ => .onError (stagingCall_ends heff)

lemma stages_syncManagedDirectory (op : String) (changed : Bool) :
    Stages (syncManagedDirectory op changed : Action δ Unit) :=
  fun _ => .onError (.query (fun _ _ => .refl _) fun _ _ => .refl _)

lemma stages_removeTemporary (tmp : Bytes) : Stages (removeTemporary tmp : Action δ Unit) :=
  fun _ => (removeTemporary_ends tmp).impError fun _ _ h => h.2

lemma stages_abortWriter (tmp : Bytes) : Stages (abortWriter tmp : Action δ Unit) := by
  refine .bind asks_closing.stages.attempt fun closeErr => ?_
  refine .bind (stages_removeTemporary _).attempt fun removeErr => ?_
  refine .bind asks_closing.stages.attempt fun parentCloseErr => ?_
  split
  · exact .pure ()
  · exact .fail _

lemma stages_unlinkManagedNameAndSync (op : String) (changed : Bool) :
    Stages (unlinkManagedNameAndSync .staging name op changed : Action δ Unit) :=
  .bind (stages_call (stagingOnly_unlink · name)) fun _ => stages_syncManagedDirectory _ _

lemma stages_removeIn : Stages (removeIn name : Action δ Unit) := by
  refine .bind asks_inspect.stages fun _ => .bind (Asks.guard (silent_leaf _)).stages fun _ => ?_
  refine .bind asks_inspect.stages fun _ => .bind (asks_ask _).stages fun _ => ?_
  refine .bind (asks_openAt _).stages fun entry => ?_
  refine .bind (Asks.guard (silent_unsafeError _)).stages fun _ => ?_
  exact stages_unlinkManagedNameAndSync _ _ _

lemma write_ends (name data : Bytes) : (write place name data).Ends w
    (fun _ t => t.state = w.state.append place name data)
    (fun err t => Silent 1 2 err ∧ ∃ k, t.state = w.state.append place name (data.take k)) := by
  cases hnx : w.next with
  | none => exact .of_ok (by rw [write, hnx]) rfl
  | some failure =>
    exact .of_error (by rw [write, hnx]) ⟨silent_errno _, failure.read, rfl⟩

lemma stages_write (name data : Bytes) : Stages (write .staging name data : Action δ Unit) := by
  intro w
  refine (write_ends .staging name data).mono (fun _ _ h => ?_) fun _ _ h => ?_
  · exact h ▸ stagingOnly_append _ _ _
  · obtain ⟨-, k, hk⟩ := h
    exact hk ▸ stagingOnly_append _ _ _

lemma createManagedTemporary_ends (name : Bytes) (number : Nat) :
    (createManagedTemporary place name number).Ends w
      (fun _ t => w.state.directory place name = none ∧
        t.state = w.state.put place name (some (.regular ⟨number, 1, []⟩)))
      (fun err t => Silent 1 2 err ∧ t.state = w.state) := by
  refine .onError (.call (fun _ _ => ?_) (fun _ hok => ?_) fun code hco => ?_)
  · exact ⟨(simple_classify _).silent, rfl⟩
  · unfold Upload.create at hok ⊢
    split at hok
    · cases hok
    next hfe =>
      exact ⟨not_isSome_iff_eq_none.mp hfe, by rw [if_neg hfe]⟩
  · unfold Upload.create at hco ⊢
    split at hco
    next htaken =>
      exact ⟨(simple_classify _).silent, by rw [if_pos htaken]⟩
    · cases hco

/-- What `CreateExclusiveIn` returns is a new empty file. -/
lemma createExclusiveIn_ends (rnd : Arr 16) (number : Bytes → Nat) :
    (createExclusiveIn name rnd number).Ends w (fun tmp t => StagingOnly w.state t.state ∧
        ∃ n, t.state.session.staging tmp = some (.regular ⟨n, 1, []⟩))
      (fun _ t => StagingOnly w.state t.state) := by
  refine .seq (asks_inspect.ends (fun _ t1 h1 => ?_) fun _ _ _ h => h ▸ .refl _)
  refine .seq (.guard (fun _ => h1 ▸ .refl _) fun _ => ?_)
  refine .seq (asks_inspect.ends (fun _ t2 h2 => ?_) fun _ _ _ h => (h.trans h1) ▸ .refl _)
  refine .seq ((asks_ask _).ends (fun _ t3 h3 => ?_) fun _ _ _ h => (h.trans (h2.trans h1)) ▸ .refl _)
  have hsm : t3.state = w.state := h3.trans (h2.trans h1)
  refine .seq ((createManagedTemporary_ends _ _ _).mono (fun _ t4 h4 => ?_) fun _ t h => ?_)
  · have hstgs : StagingOnly w.state t4.state := by
      rw [h4.2, hsm]
      exact stagingOnly_put _ _ _
    refine .seq (.attempt (asks_inspect.ends (fun _ t h => .pure ⟨?_, ?_⟩) fun err t herr h => ?_))
    · exact h ▸ hstgs
    · refine ⟨number (createStart ++ hexEncode rnd.1), ?_⟩
      rw [h, h4.2]
      exact update_self _ _ _
    · have hstgs' : StagingOnly w.state t.state := h ▸ hstgs
      refine asks_closing.stages.attempt.seq hstgs' (fun _ _ h => ?_) fun _ _ h => h
      refine (stages_unlinkManagedNameAndSync _ _ _).attempt.seq h (fun _ _ h => ?_) fun _ _ h => h
      exact asks_closing.stages.attempt.seq h (fun _ _ h => .fail h) fun _ _ h => h
  · rw [h.2, hsm]
    exact .refl _

end

/-! ## 6. The commit -/

section

variable {δ : Type} {w : Faulty (Upload δ)} {s : Upload δ}

/-- A file with the expected digest was published at the target, where there was none, and no other
file was touched. -/
def Committed (sha256 : Bytes → δ) (target : Bytes) (digest : δ) (s t : Upload δ) : Prop :=
  ∃ file : StoredFile, sha256 file.content = digest ∧ s.destination target = none ∧
    t.destination target = some (.regular file) ∧ Keeps s t ∧
    t.session = { s.session with published := s.session.published ++ [file.content] }

/-- Nothing was published, and no file was touched. -/
def Uncommitted (s t : Upload δ) : Prop := t.session = s.session ∧ Keeps s t

/-- The temporary file, or what became of it. -/
def TemporaryOnly (temporary : Bytes) (s t : Upload δ) : Prop :=
  ∃ entry, t = s.put .destination temporary entry

lemma Keeps.refl (s : Upload δ) : Keeps s s := fun _ _ h => h

lemma destination_put_self (s : Upload δ) (path : Bytes) (entry : Option Entry) :
    (s.put .destination path entry).destination path = entry :=
  update_self _ _ _

lemma destination_put_ne (s : Upload δ) {path other : Bytes} (h : other ≠ path)
    (entry : Option Entry) : (s.put .destination path entry).destination other = s.destination other :=
  update_of_ne h _ _

lemma put_put (s : Upload δ) (path : Bytes) (entry entry' : Option Entry) :
    (s.put .destination path entry).put .destination path entry' = s.put .destination path entry' := by
  simp only [Upload.put, update_idem]

lemma append_put (s : Upload δ) (place : Place) (path : Bytes) (file : StoredFile) (data : Bytes) :
    (s.put place path (some (.regular file))).append place path data
      = s.put place path (some (.regular { file with content := file.content ++ data })) := by
  cases place <;> simp [Upload.append, Upload.put, Upload.directory]

lemma keeps_put {path : Bytes} (hfe : s.destination path = none) (entry : Option Entry) :
    Keeps s (s.put .destination path entry) := by
  intro other found hfnd
  have hne : other ≠ path := by
    rintro rfl
    rw [hfe] at hfnd
    cases hfnd
  rw [destination_put_ne s hne]
  exact hfnd

variable {temp : Bytes}

lemma TemporaryOnly.uncommitted {t : Upload δ}
    (hfe : s.destination temp = none) (h : TemporaryOnly temp s t) : Uncommitted s t := by
  obtain ⟨entry, rfl⟩ := h
  exact ⟨rfl, keeps_put hfe entry⟩

lemma copyToTarget_ends [DecidableEq δ] {sha256 : Bytes → δ} {number : Nat}
    {src : StoredFile} {digest : δ}
    (hw : w.state = s.put .destination temp (some (.regular ⟨number, 1, []⟩))) :
    (copyToTarget sha256 temp src digest).Ends w (fun _ t => sha256 src.content = digest ∧
        t.state = s.put .destination temp (some (.regular ⟨number, 1, src.content⟩)))
      (fun err t => Silent 2 3 err ∧ TemporaryOnly temp s t.state) := by
  refine .seq (.onError ((write_ends _ _ _).mono (fun _ t1 h1 => ?_) fun err t h => ?_))
  · rw [hw, append_put, nil_append] at h1
    have hsts : ∀ t : Faulty (Upload δ), t.state = t1.state → TemporaryOnly temp s t.state :=
      fun t h => ⟨_, h.trans h1⟩
    refine .seq (.guard (fun _ => ⟨?_, hsts t1 rfl⟩) fun hdig => ?_)
    · exact (silent_unsafeError _).le (by decide) (by decide)
    refine .seq (asks_inspect.ends (fun _ t2 h2 => ?_) fun _ t herr h => ⟨?_, hsts t h⟩)
    · refine .seq (asks_inspect.ends (fun _ t3 h3 => ?_) fun _ t herr h => ⟨?_, hsts t (h.trans h2)⟩)
      · have hsm : t3.state = t1.state := h3.trans h2
        refine .seq (.onError (asks_inspect.ends (fun _ t4 h4 => ?_) fun _ t herr h =>
          ⟨herr.wrapped _, hsts t (h.trans hsm)⟩))
        refine .onError (asks_inspect.ends (fun _ t h => ⟨not_not.mp hdig, ?_⟩) fun _ t herr h =>
          ⟨herr.wrapped _, hsts t (h.trans (h4.trans hsm))⟩)
        rw [h, h4, hsm, h1]
      · exact herr.le (by decide) (by decide)
    · exact herr.le (by decide) (by decide)
  · obtain ⟨herr, k, hk⟩ := h
    rw [hw, append_put] at hk
    exact ⟨herr.wrapped _, _, hk⟩

lemma renameToTarget_ends {temporary target : Bytes} {file : StoredFile}
    (hfe : s.destination temporary = none)
    (hw : w.state = s.put .destination temporary (some (.regular file))) :
    (renameToTarget temporary target).Ends w
      (fun _ t => s.destination target = none ∧ t.state.destination target = some (.regular file) ∧
        Keeps s t.state ∧
        t.state.session = { s.session with published := s.session.published ++ [file.content] })
      (fun err t => Silent 2 3 err ∧ TemporaryOnly temporary s t.state) := by
  have hsts : ∀ t : Faulty (Upload δ), t.state = w.state → TemporaryOnly temporary s t.state :=
    fun t h => ⟨_, h.trans hw⟩
  refine .seq (.onError (asks_closing.ends (fun _ t1 h1 => ?_) fun _ t herr h =>
    ⟨herr.wrapped _, hsts t h⟩))
  refine .seq (asks_inspect.ends (fun _ t2 h2 => ?_) fun _ t herr h =>
    ⟨herr.le (by decide) (by decide), hsts t (h.trans h1)⟩)
  refine .seq (asks_inspect.ends (fun _ t3 h3 => ?_) fun _ t herr h =>
    ⟨herr.le (by decide) (by decide), hsts t (h.trans (h2.trans h1))⟩)
  have hsm : t3.state = w.state := h3.trans (h2.trans h1)
  refine .onError ((renameNoReplace_ends .destination temporary target).mono (fun _ t h => ?_)
    fun code t h => ⟨(silent_errno code).wrapped _, hsts t (h.trans hsm)⟩)
  obtain ⟨entry, hold, hnew, hmvd⟩ := h
  rw [hsm, hw] at hold hnew hmvd
  have hent : some (.regular file) = some entry := (destination_put_self s temporary _).symm.trans hold
  cases hent
  have hne : target ≠ temporary := by
    rintro rfl
    rw [show (s.put .destination target (some (.regular file))).directory .destination target
      = some (.regular file) from destination_put_self s target _] at hnew
    cases hnew
  have htgt : s.destination target = none := (destination_put_ne s hne _).symm.trans hnew
  have hdst : t.state.destination
      = update (update s.destination temporary none) target (some (.regular file)) := by
    rw [hmvd]
    simp only [Upload.record, Upload.put, update_idem]
  refine ⟨htgt, ?_, fun path found hfnd => ?_, by rw [hmvd]; rfl⟩
  · rw [hdst, update_self]
  · have hne1 : path ≠ target := by
      rintro rfl
      rw [htgt] at hfnd
      cases hfnd
    have hne2 : path ≠ temporary := by
      rintro rfl
      rw [hfe] at hfnd
      cases hfnd
    rw [hdst, update_of_ne hne1, update_of_ne hne2]
    exact hfnd

/-- The cleanup touches nothing but the temporary file, and always fails. -/
lemma discardTemporary_ends {stillOpen : Bool} {err : OpError}
    (hw : TemporaryOnly temp s w.state) (herr : Silent 2 3 err) :
    (discardTemporary temp stillOpen err).Ends w (fun _ _ => False)
      (fun err t => ¬ Reports err ∧ TemporaryOnly temp s t.state) := by
  refine .bind (P := fun closeErr t => (∀ e ∈ failureOf closeErr, Silent 1 2 e) ∧ t.state = w.state)
    ?_ ?_
  · cases stillOpen with
    | false => exact .pure ⟨fun e he => (nomatch he), rfl⟩
    | true =>
      refine .attempt (asks_closing.ends (fun _ t h => ⟨fun e he => (nomatch he), h⟩)
        fun closeErr t hclose h => ⟨fun e he => ?_, h⟩)
      exact some.inj he ▸ hclose
  · rintro closeErr t1 ⟨hclose, h1⟩
    have hfls : ∀ (res : Except OpError Unit) (t : Faulty (Upload δ)),
        TemporaryOnly temp s t.state → (∀ e ∈ failureOf res, Silent 1 2 e) →
        (failJoined err [failureOf closeErr, failureOf res] : Action δ Unit).Ends t (fun _ _ => False)
          (fun err t => ¬ Reports err ∧ TemporaryOnly temp s t.state) := by
      intro res t ht hres
      have hcnt : 1 + ([failureOf closeErr, failureOf res].length + 1) * 3
          < maxMutationErrorNodes := by
        change (10 : Nat) < 256
        decide
      refine .fail ⟨(silent_failJoined herr fun o ho e he => ?_).not_reports (by decide) hcnt, ht⟩
      simp only [mem_cons, not_mem_nil, or_false] at ho
      rcases ho with rfl | rfl
      · exact (hclose e he).le (by decide) (by decide)
      · exact (hres e he).le (by decide) (by decide)
    have hunlink : TemporaryOnly temp s (t1.state.unlink .destination temp).2 := by
      rw [h1]
      obtain ⟨entry, hent⟩ := hw
      unfold Upload.unlink
      split
      · exact ⟨entry, hent⟩
      · exact ⟨entry, hent⟩
      · exact ⟨none, by rw [hent, put_put]⟩
    refine .seq (.attempt (.seq (.onError (.call (fun _ _ => ?_) (fun _ _ => ?_) fun code _ => ?_))))
    · exact hfls (.error _) _ (h1 ▸ hw) fun e he => some.inj he ▸ silent_errno _
    · refine .onError (.query (fun _ _ => ?_) fun code _ => ?_)
      · exact hfls (.ok ()) _ hunlink fun e he => nomatch he
      · exact hfls (.error _) _ hunlink fun e he => some.inj he ▸ silent_mutation _ _ _
    · exact hfls (.error _) _ hunlink fun e he => some.inj he ▸ silent_errno _

lemma copyAndRename_ends [DecidableEq δ] {sha256 : Bytes → δ} {target : Bytes}
    {number : Nat} {src : StoredFile} {digest : δ} (hfe : s.destination temp = none)
    (hw : w.state = s.put .destination temp (some (.regular ⟨number, 1, []⟩))) :
    (copyAndRename sha256 temp target src digest).Ends w
      (fun _ t => Committed sha256 target digest s t.state)
      (fun err t => ¬ Reports err ∧ Uncommitted s t.state) := by
  have hdisc : ∀ (stillOpen : Bool) (err : OpError) (t : Faulty (Upload δ)), Silent 2 3 err →
      TemporaryOnly temp s t.state → (discardTemporary temp stillOpen err).Ends t
        (fun _ t => Committed sha256 target digest s t.state)
        (fun err t => ¬ Reports err ∧ Uncommitted s t.state) :=
    fun stillOpen err t herr ht => (discardTemporary_ends ht herr).mono
      (fun _ _ hf => hf.elim) fun _ _ h => ⟨h.1, h.2.uncommitted hfe⟩
  refine .seq (.attempt ((copyToTarget_ends hw).mono (fun _ t1 h1 => ?_) fun err t h => ?_))
  · refine .seq (.attempt ((renameToTarget_ends hfe h1.2).mono (fun _ t h => .pure ?_) fun err t h => ?_))
    · exact ⟨⟨number, 1, src.content⟩, h1.1, h⟩
    · exact hdisc false err t h.1 h.2
  · exact hdisc true err t h.1 h.2

lemma publishAtTarget_ends [DecidableEq δ] (sha256 : Bytes → δ) (surroundings : Surroundings)
    (stg target : Bytes) (exp : FileIdentity) (digest : δ) :
    (publishAtTarget sha256 surroundings stg target exp digest).Ends w
      (fun _ t => Committed sha256 target digest w.state t.state)
      (fun err t => ¬ Reports err ∧ Uncommitted w.state t.state) := by
  have hqt : ∀ {err : OpError} {t : Faulty (Upload δ)}, Silent 1 2 err → t.state = w.state →
      ¬ Reports err ∧ Uncommitted w.state t.state :=
    fun herr h => ⟨herr.not_reports (by decide) (by decide), by rw [h], by rw [h]; exact .refl _⟩
  refine .seq (asks_inspect.ends (fun _ t1 h1 => ?_) fun _ _ herr h => hqt herr h)
  refine .seq (.guard (fun _ => hqt (silent_leaf _) h1) fun _ => ?_)
  refine .seq (asks_inspect.ends (fun _ t2 h2 => ?_) fun _ _ herr h => hqt herr (h.trans h1))
  replace h2 := h2.trans h1
  refine .seq ((asks_openRegularIn _).ends (fun src t3 h3 => ?_) fun _ _ herr h => hqt herr (h.trans h2))
  replace h3 := h3.trans h2
  refine .seq (asks_inspect.ends (fun _ t4 h4 => ?_) fun _ _ herr h => hqt herr (h.trans h3))
  replace h4 := h4.trans h3
  refine .seq (.guard (fun _ => hqt (silent_unsafeError _) h4) fun _ => ?_)
  refine .seq (.guard (fun _ => hqt (silent_unsafeError _) h4) fun _ => ?_)
  refine .seq (.guard (fun _ => hqt (silent_leaf _) h4) fun _ => ?_)
  refine .seq (asks_inspect.ends (fun _ t5 h5 => ?_) fun _ _ herr h => hqt herr (h.trans h4))
  replace h5 := h5.trans h4
  refine .seq (asks_inspect.ends (fun _ t6 h6 => ?_) fun _ _ herr h => hqt herr (h.trans h5))
  replace h6 := h6.trans h5
  refine .seq ((createManagedTemporary_ends _ _ _).mono (fun _ t7 h7 => ?_) fun _ _ h =>
    hqt h.1 (h.2.trans h6))
  rw [h6] at h7
  exact copyAndRename_ends h7.1 h7.2

/-- **The error of a commit tells whether the target was published.** -/
theorem commitNoReplace_ends [DecidableEq δ] (sha256 : Bytes → δ) (surroundings : Surroundings)
    (stg target : Bytes) (exp : FileIdentity) (digest : δ) :
    (commitNoReplace sha256 surroundings stg target exp digest).Ends w
      (fun res t => (∃ err, res.2 = some err ∧ ¬ Reports err) ∧ Uncommitted w.state t.state ∨
        (∀ err, res.2 = some err → Reports err) ∧ Committed sha256 target digest w.state t.state)
      (fun _ _ => False) := by
  refine .seq (.attempt ((publishAtTarget_ends _ _ _ _ _ _).mono (fun _ t1 h1 => ?_) fun err t h => ?_))
  · refine .seq (.attempt ((asks_captureIdentity .destination target).ends (fun identity t h => ?_) ?_))
    · refine .seq (.attempt (syncManagedDirectory_ends _ (.pure (.inr ⟨?_, ?_⟩)) fun err herr =>
        .pure (.inr ⟨?_, ?_⟩)))
      · exact fun e he => nomatch he
      · exact h ▸ h1
      · exact fun e he => some.inj he ▸ herr
      · exact h ▸ h1
    · intro err t _ h
      exact .pure (.inr ⟨fun e he => some.inj he ▸ reports_changedMutationError _ _ _, h ▸ h1⟩)
  · exact .pure (.inl ⟨⟨err, rfl, h.1⟩, h.2⟩)

end

end ReCasaOS.Uploads
