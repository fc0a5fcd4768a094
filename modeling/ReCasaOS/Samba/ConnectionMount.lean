/-
# Creating and restoring a connection

`PostSambaConnectionsCreate` (`route/v1/samba.go`) mounts the shares that a server offers and stores a
row; `restoreSambaConnectionMounts` (`route/init.go`) mounts the shares of a stored row again and writes
the new mount ids to it. Both prepare the directories, then mount one share after the other, verify
each mount, and undo what they have mounted when anything fails (`mountConnection`).

The two rollbacks differ in their texts (`RollbackTexts`). The sets of protected paths that they return
are not used by anybody and are left out, as are the results that say whether a directory was created.
-/
import ReCasaOS.Lib.Invariant
import ReCasaOS.Samba.ConnectionDelete

namespace ReCasaOS.Samba

open Lib FileSecurity List AList Fallible

variable {db : ConnectionTable} {row : ConnectionRow}

/-! ## 1. Directories -/

section

variable (machine : Machine) (roots : ManagedRoots)

section

variable (path : Bytes)

def openEmptySambaMountDirectory : Program OpError Descriptor := do
  let directory ← openDirectory machine roots path
  let entries ← orClose 1 (readDir directory 1)
  orClose 1 (guard (entries ≠ []) (textError "refusing to mount over a non-empty directory"))
  pure directory

def ensureSambaMountDirectory : Program OpError Unit := do
  match ← attempt (openEmptySambaMountDirectory machine roots path) with
  | .ok _ => closeFile
  | .error err =>
    if notExist err then do
      mkdirAll machine roots path
      let _ ← openEmptySambaMountDirectory machine roots path
      closeFile
    else fail err

/-- `ensureSambaHostDirectory`, and `ensureSambaRestoreDirectory`, which has the same body. -/
def ensureSambaHostDirectory : Program OpError Unit := do
  match ← attempt (openDirectory machine roots path) with
  | .ok _ => closeFile
  | .error err => if notExist err then mkdirAll machine roots path else fail err

/-- Nothing may be mounted at a path. -/
def refuseMounted (refusal : String) : Program OpError Unit := do
  let mounted ← isMountPoint machine roots path
  guard (mounted) (textError refusal)

def unexpectedEntry : OpError := textError "Samba host directory contains an unexpected entry"

/-- An entry of the host's directory: a share that is expected, or an empty directory of an
administrative share of old. -/
def checkBaseEntry (expected : List Bytes) (entry : DirEntry) : Program OpError Unit :=
  if entry.name ∈ expected then guard (entry.isDir = false) unexpectedEntry
  else do
    guard (isHidden entry.name = false ∨ (validateLegacySambaDirectory entry.name).isOk = false
      ∨ entry.isDir = false) unexpectedEntry
    let location ← ofExcept (roots.matchChild path entry.name)
    refuseMounted machine roots location.canonical "legacy Samba administrative directory is a mount point"
    let _ ← openEmptySambaMountDirectory machine roots location.canonical
    closeFile

/-- What is left of the expected entries. -/
def checkBaseEntries : List DirEntry → (expected : List Bytes) → Program OpError (List Bytes)
  | [], expected => pure expected
  | entry :: entries, expected => do
    checkBaseEntry machine roots path expected entry
    checkBaseEntries entries (expected.filter fun name => decide (name ≠ entry.name))

def validateSambaBaseMountDirectory (expectedChildren : List Bytes) : Program OpError Unit := do
  let directory ← openDirectory machine roots path
  let entries ← orClose 1 (readDir directory 129)
  closeFile
  guard (128 < entries.length ∨ entries.length < expectedChildren.length)
    (textError "Samba host directory contains unexpected entries")
  let expected ← checkBaseEntries machine roots path entries expectedChildren
  guard (expected ≠ []) (textError "Samba host directory is missing an expected entry")

end

structure SambaMountPlan where
  directory : Bytes
  path : Bytes

/-- The directory of every share, which `ensure` creates if need be. -/
def planShares (ensure : Bytes → Program OpError Unit) (baseHostPath : Bytes) :
    List Bytes → Program OpError (List SambaMountPlan)
  | [] => pure []
  | directory :: directories => do
    let location ← ofExcept (roots.matchChild baseHostPath directory)
    ensure location.canonical
    let plans ← planShares ensure baseHostPath directories
    pure (⟨directory, location.canonical⟩ :: plans)

end

/-! ## 2. Rollback -/

/-- The texts in which the two rollbacks differ. -/
structure RollbackTexts where
  uncaptured : String
  /-- What is made of a failed check of the mount's identity. -/
  refused : Option OpError → List (Option OpError)
  changed : String
  remained : String

def createTexts : RollbackTexts :=
  let refused := fun err : Option OpError =>
    [some (.wrapped "refusing to unmount during rollback"
      (err.getD (textError "Samba mount identity is absent or mismatched")))]
  ⟨"refusing to unmount without a captured mount ID", refused,
    "Samba mount identity changed before rollback unmount", "Samba mount remained after rollback"⟩

def restoreTexts : RollbackTexts :=
  let refused := fun err : Option OpError =>
    [some (textError "cannot validate restored Samba mount ownership"), err]
  ⟨"refusing to rollback a Samba mount without a captured mount ID", refused,
    "restored Samba mount identity changed before rollback", "restored Samba mount remained after rollback"⟩

/-- `if err := errors.Join(..); err != nil { return err }`. -/
def returnJoined (errs : List (Option OpError)) : Program OpError Unit :=
  match joinErrors errs with
  | none => pure ()
  | some err => fail err

section

variable (texts : RollbackTexts)

/-- The first look of a rollback at a mount. -/
def confirmOwnership (mounted : SambaMountedPath) : Program OpError Unit := do
  match ← attempt
    (validateSambaMount mounted.path mounted.host mounted.directory mounted.mountID) with
  | .ok true => pure ()
  | .ok false => returnJoined (texts.refused none)
  | .error err => returnJoined (texts.refused (some err))

/-- The last one, after which the parent is closed. -/
def confirmUndone (mounted : SambaMountedPath) : Program OpError Unit := do
  let gone ← attempt do
    let stillMounted ← validateSambaMount mounted.path mounted.host mounted.directory mounted.mountID
    guard (stillMounted) (textError texts.remained)
  let closed ← attempt closeFile
  returnJoined [failureOf gone, failureOf closed]

variable (machine : Machine) (roots : ManagedRoots)

def rollbackMount (mounted : SambaMountedPath) : Program OpError Unit := do
  guard (mounted.mountID = 0) (textError texts.uncaptured)
  let parentDirectory ← openDirectory machine roots (dirPath mounted.path)
  let mountDirectory ← orClose 1 (openDirectory machine roots mounted.path)
  orClose 2 (checkDescriptor roots mountDirectory mounted.mountID
    "descriptor mount ID does not match captured mount ID")
  orClose 2 (confirmOwnership texts mounted)
  orClose 1 closeFile
  orClose 1 (confirmMount mounted texts.changed)
  orClose 1 (unmountSmaba parentDirectory (basePath mounted.path))
  confirmUndone texts mounted

/-- `rollbackSambaMounts`, `rollbackRestoredSambaMounts`, of the mounts from the last to the first. -/
def rollbackSambaMounts {ε : Type} :
    List SambaMountedPath → (result : Option OpError) → Program ε (Option OpError)
  | [], result => pure result
  | mounted :: rest, result => do
    let undone ← attempt (rollbackMount texts machine roots mounted)
    rollbackSambaMounts rest (joinErrors [result, failureOf undone])

end

/-! ## 3. Mounting -/

/-- A failure, and the mounts that are to be undone. -/
structure MountFailure where
  cause : OpError
  mounted : List SambaMountedPath

/-- A failure after the rollback. -/
structure Undone where
  cause : OpError
  rollback : Option OpError

structure MountedShare where
  mountID : Nat
  /-- What is new. -/
  mounted : List SambaMountedPath

/-- A step that has mounted nothing when it fails. -/
def orUndo {α : Type} (mounted : List SambaMountedPath) (m : Program OpError α) : Program MountFailure α :=
  m.onError fun _ cause => ⟨cause, mounted⟩

section

variable (machine : Machine) (roots : ManagedRoots)

/-- A descriptor of a mounted share has to show the same mount as the table. -/
def checkView (path : Bytes) (mountID : Nat) (mismatch : String) : Program OpError Unit := do
  let mountedView ← openDirectory machine roots path
  let checked ← attempt (checkDescriptor roots mountedView mountID mismatch)
  let closed ← attempt closeFile
  returnJoined [failureOf checked, failureOf closed]

/-- The id of a mount that has to be there. -/
def captureMount (host : Bytes) (plan : SambaMountPlan) : Program OpError Nat := do
  match ← inspectSambaMount plan.path host plan.directory with
  | some identity => pure identity.mountID
  | none => fail (textError "mounted Samba identity did not appear")

/-- The descriptor is looked at only if the id is known. -/
def viewCaptured (plan : SambaMountPlan) : Except OpError Nat → Program MountFailure (Except OpError Unit)
  | .ok mountID => attempt (checkView machine roots plan.path mountID
      "mounted descriptor ID does not match mountinfo ID")
  | .error _ => pure (.ok ())

/-- What follows a successful `MountSmaba`. -/
def verifyMounted (host : Bytes) (plan : SambaMountPlan) : Program MountFailure MountedShare := do
  let captured ← attempt (captureMount host plan)
  let viewed ← viewCaptured machine roots plan captured
  let closed ← attempt closeFile
  let mountID := captured.toOption.getD 0
  let mounted := [⟨plan.path, host, plan.directory, mountID⟩]
  match joinErrors [failureOf captured, failureOf viewed, failureOf closed] with
  | none => pure ⟨mountID, mounted⟩
  | some err => fail ⟨err, mounted⟩

/-- The credentials that a share is mounted with. -/
structure Connection where
  username : Bytes
  password : Bytes
  host : Bytes
  port : Bytes

def mountAndVerify (connection : Connection) (plan : SambaMountPlan) (mountDirectory : Descriptor) :
    Program MountFailure MountedShare := do
  orUndo [] (orClose 1 (mountSmaba machine connection.username connection.host plan.directory connection.port
    mountDirectory connection.password))
  verifyMounted machine roots connection.host plan

/-- Nothing may be mounted on the directory of a share. -/
def refuseMountedShare (host : Bytes) (plan : SambaMountPlan) (refusal : String) : Program OpError Unit := do
  let identity ← inspectSambaMount plan.path host plan.directory
  guard (identity ≠ none) (textError refusal)

/-- The loop body of `PostSambaConnectionsCreate`. -/
def createMount (connection : Connection) (plan : SambaMountPlan) : Program MountFailure MountedShare := do
  let mountDirectory ← orUndo [] (openEmptySambaMountDirectory machine roots plan.path)
  orUndo [] (orClose 1
    (refuseMountedShare connection.host plan "Samba mount point already has an unowned mount"))
  mountAndVerify machine roots connection plan mountDirectory

/-- The mount that a row has recorded in this boot, if it is still there; otherwise nothing may be
mounted. -/
def keptMount (row : ConnectionRow) (currentBootID : Bytes) (persistedMountIDs : NameTable Bytes Nat)
    (plan : SambaMountPlan) : Program OpError (Option Nat) :=
  let expectedMountID := (persistedMountIDs.lookup plan.directory).getD 0
  if row.bootID = currentBootID ∧ expectedMountID ≠ 0 then do
    let matched ← validateSambaMount plan.path row.host plan.directory expectedMountID
    if matched then do
      checkView machine roots plan.path expectedMountID "descriptor mount ID does not match persisted mount ID"
      pure (some expectedMountID)
    else pure none
  else do
    refuseMountedShare row.host plan "refusing to adopt an unowned Samba mount after reboot"
    pure none

/-- The loop body of `restoreSambaConnectionMounts`. -/
def restoreMount (row : ConnectionRow) (port currentBootID : Bytes)
    (persistedMountIDs : NameTable Bytes Nat) (plan : SambaMountPlan) :
    Program MountFailure MountedShare := do
  match ← orUndo [] (keptMount machine roots row currentBootID persistedMountIDs plan) with
  | some mountID => pure ⟨mountID, []⟩
  | none => do
    let mountDirectory ← orUndo [] (openEmptySambaMountDirectory machine roots plan.path)
    mountAndVerify machine roots ⟨row.username, row.password, row.host, port⟩ plan mountDirectory

/-- The loop over the plans. -/
def mountPlans (mountOne : SambaMountPlan → Program MountFailure MountedShare) :
    List SambaMountPlan → (mounted : List SambaMountedPath) → (mountIDs : NameTable Bytes Nat) →
      Program MountFailure (NameTable Bytes Nat × List SambaMountedPath)
  | [], mounted, mountIDs => pure (mountIDs, mounted)
  | plan :: plans, mounted, mountIDs => do
    let share ← (mountOne plan).onError fun _ failure => ⟨failure.cause, mounted ++ failure.mounted⟩
    mountPlans mountOne plans (mounted ++ share.mounted) (mountIDs.insert plan.directory share.mountID)

/-- The part of both requests that is undone when it fails: `prepare` looks at the host's directory
again, and `store` writes the row. -/
def mountAndStore {α : Type} (prepare : Program OpError Unit)
    (mountOne : SambaMountPlan → Program MountFailure MountedShare) (plans : List SambaMountPlan)
    (store : Bytes → Program OpError α) : Program MountFailure α := do
  orUndo [] prepare
  let (mountIDs, mounted) ← mountPlans mountOne plans [] ∅
  let encoded ← orUndo mounted (ofExcept (encodeSambaMountIDs machine.text mountIDs 64))
  orUndo mounted (store encoded)

/-- `failWithRollback`, `fail`. -/
def mountConnection {α : Type} (texts : RollbackTexts) (prepare : Program OpError Unit)
    (mountOne : SambaMountPlan → Program MountFailure MountedShare) (plans : List SambaMountPlan)
    (store : Bytes → Program OpError α) : Program Undone α := do
  match ← attempt (mountAndStore machine prepare mountOne plans store) with
  | .ok a => pure a
  | .error failure => do
    let rollbackErr ← rollbackSambaMounts texts machine roots failure.mounted.reverse none
    fail ⟨failure.cause, rollbackErr⟩

end

/-! ## 4. The two requests -/

def getConnectionByHost (host : Bytes) : Program OpError (List ConnectionRow) :=
  consult fun world =>
    .ok ((world.db.rows.entries.map (·.2)).filter fun row => decide (row.host = host))

section

variable (machine : Machine) (roots : ManagedRoots)

def createPrepare (baseHostPath : Bytes) (directories : List Bytes) : Program OpError Unit := do
  validateSambaBaseMountDirectory machine roots baseHostPath directories
  refuseMounted machine roots baseHostPath "Samba host directory became a mount point"

/-- The row of a new connection. -/
def newRow (connection : Connection) (baseHostPath bootID : Bytes) (directories : List Bytes)
    (mountIDs : Bytes) : ConnectionRow :=
  ⟨connection.username, connection.password, connection.host, connection.port,
    List.intercalate [44] directories, baseHostPath, bootID, mountIDs, ⟨none, none, .null, 0⟩⟩

def createMounts (connection : Connection) (baseHostPath bootID : Bytes) (directories : List Bytes) :
    Program Refusal Nat := do
  orRefuse (ensureSambaHostDirectory machine roots baseHostPath) serviceError
  orRefuse (refuseMounted machine roots baseHostPath "Samba host directory is already a mount point")
    serviceError
  let plans ← orRefuse
    (planShares roots (ensureSambaMountDirectory machine roots) baseHostPath directories) serviceError
  orRefuse (acquireMutation roots.closed) serviceError
  (mountConnection machine roots createTexts (createPrepare machine roots baseHostPath directories)
    (createMount machine roots connection) plans fun mountIDs =>
      mutate fun db => db.createConnection (newRow connection baseHostPath bootID directories mountIDs)).onError
    fun _ undone => ⟨500, 500, some undone.cause, undone.rollback⟩

/-- An empty port stands for the usual one. -/
def Connection.withPort (connection : Connection) : Connection :=
  { connection with port := if connection.port = [] then utf8 "445" else connection.port }

/-- `shares` is what the server answers to `GetSambaSharesList`. -/
def postSambaConnectionsCreate (request : Connection) (shares : Except OpError (List Bytes)) :
    Program Refusal Nat := do
  let connection := request.withPort
  orRefuse (ofExcept (validateSambaConnectionFields connection.username connection.password
    connection.host connection.port)) fun _ => invalidParams 400
  let connections ← orRefuse (getConnectionByHost connection.host) serviceError
  guard (connections ≠ []) recordAlreadyExist
  let offered ← orRefuse (ofExcept shares) serviceError
  let directories ← orRefuse (ofExcept (filterSambaMountableShares offered 64))
    fun _ => invalidParams 500
  let roots ← managementFileRoots machine
  let bootID ← orRefuse currentBootID serviceError
  let base ← orRefuse (ofExcept (roots.matchPath (hostPath connection.host)))
    fun _ => invalidParams 500
  createMounts machine roots connection base.canonical bootID directories

end

section

variable (machine : Machine) (roots : ManagedRoots)

/-- The directory of an administrative share is empty or not there. -/
def checkHiddenDirectory (path : Bytes) : Program OpError Unit := do
  match ← attempt (openEmptySambaMountDirectory machine roots path) with
  | .ok _ => closeFile
  | .error err =>
    if notExist err then pure ()
    else fail (.wrapped "legacy administrative share directory requires administrator cleanup" err)

def checkHiddenShare (directory path : Bytes) : Program OpError Unit :=
  if isHidden directory then checkHiddenDirectory machine roots path else pure ()

def checkHiddenShares : List (Bytes × Bytes) → Program OpError Unit
  | [] => pure ()
  | (directory, path) :: rest => do
    checkHiddenShare machine roots directory path
    checkHiddenShares rest

def prepareLegacySambaConnectionMigration (baseHostPath : Bytes) (persistedDirectories : List Bytes) :
    Program OpError Unit := do
  acquireMutation roots.closed
  let legacyPaths ← preflightLegacySambaMountBoundaries machine roots baseHostPath persistedDirectories
  checkHiddenShares machine roots (persistedDirectories.zip legacyPaths)

section

variable (parsed : PersistedConnection)

/-- What is asked of a legacy row before anything is created. -/
def prepareLegacy (baseHostPath : Bytes) : Program OpError Unit :=
  if parsed.legacy then do
    guard (parsed.directories = []) (textError
      "legacy Samba connection has no mountable shares; delete it after confirming no old mounts remain")
    prepareLegacySambaConnectionMigration machine roots baseHostPath parsed.allDirectories
  else pure ()

/-- The same question again, before anything is mounted. -/
def preflightLegacy (baseHostPath : Bytes) : Program OpError Unit :=
  if parsed.legacy then do
    let _ ← preflightLegacySambaMountBoundaries machine roots baseHostPath parsed.allDirectories
    pure ()
  else pure ()

def restorePrepare (baseHostPath : Bytes) : Program OpError Unit := do
  preflightLegacy machine roots parsed baseHostPath
  validateSambaBaseMountDirectory machine roots baseHostPath parsed.directories
  refuseMounted machine roots baseHostPath "unexpected Samba base mount boundary"

/-- The ids of a row; a legacy row has none. -/
def persistedIDs (row : ConnectionRow) : Except OpError (NameTable Bytes Nat) :=
  if parsed.legacy then .ok ∅ else parseSambaMountIDs machine.text row.mountIDs 64

end

/-- An error before anything is mounted. -/
def orReturn {α : Type} (m : Program OpError α) : Program Undone α := m.onError fun _ err => ⟨err, none⟩

/-- `row` is stored under `key`, and `currentBootID` is the result of `CurrentBootID`. -/
def restoreSambaConnectionMounts (key : Nat) (row : ConnectionRow) (currentBootID : Bytes) :
    Program Undone Unit := do
  let parsed ← orReturn (ofExcept row.parse)
  orReturn (ofExcept (validateSambaConnectionFields row.username row.password row.host parsed.port))
  let persistedMountIDs ← orReturn (ofExcept (persistedIDs machine parsed row))
  let base ← orReturn (ofExcept (roots.matchPath (hostPath row.host)))
  guard (row.mountPoint ≠ base.canonical)
    ⟨textError "persisted Samba mount point mismatch", none⟩
  orReturn (prepareLegacy machine roots parsed base.canonical)
  orReturn (ensureSambaHostDirectory machine roots base.canonical)
  let plans ← orReturn
    (planShares roots (ensureSambaHostDirectory machine roots) base.canonical parsed.directories)
  orReturn (acquireMutation roots.closed)
  mountConnection machine roots restoreTexts (restorePrepare machine roots parsed base.canonical)
    (restoreMount machine roots row parsed.port currentBootID persistedMountIDs) plans fun mountIDs =>
      mutate fun db => db.updateConnectionMountState key parsed.port
        (List.intercalate [44] parsed.directories) currentBootID mountIDs

end

/-! ## 5. What keeps the mounts -/

/-- Only directories have changed. -/
structure SameMounts (s t : ConnectionWorld) : Prop where
  table : t.fs.table = s.fs.table
  contents : t.fs.contents = s.fs.contents
  db : t.db = s.db
  bootFile : t.bootFile = s.bootFile
  requests : t.requests = s.requests

lemma SameMounts.trans {s t u : ConnectionWorld} (h : SameMounts s t) (h' : SameMounts t u) : SameMounts s u :=
  ⟨h'.table.trans h.table, h'.contents.trans h.contents, h'.db.trans h.db, h'.bootFile.trans h.bootFile,
    h'.requests.trans h.requests⟩

instance instIsPreorderSameMounts : IsPreorder ConnectionWorld SameMounts where
  refl _ := ⟨rfl, rfl, rfl, rfl, rfl⟩
  trans _ _ _ := SameMounts.trans

/-- The programs that only look keep every relation. -/
def Preserves {ε α : Type} (R : ConnectionWorld → ConnectionWorld → Prop) (m : Program ε α) : Prop :=
  m.Keeps (fun _ => True) R

section

variable {α ε : Type} {R : ConnectionWorld → ConnectionWorld → Prop} [IsPreorder ConnectionWorld R]
variable {M : Machine} {roots : ManagedRoots}

lemma consult_preserves (ans : ConnectionWorld → Except OpError α) : Preserves R (consult ans) :=
  fun _ _ => consult_ends False.elim (fun _ _ _ => ⟨trivial, refl _⟩)
    fun _ _ => ⟨trivial, refl _⟩

lemma closeFile_preserves : Preserves R closeFile := consult_preserves _

lemma closeAll_preserves (count : Nat) : Preserves R (closeAll count : Program ε _) := by
  induction count with
  | zero => exact .pure _
  | succ count ih => exact closeFile_preserves.attempt.bind fun _ => ih.bind fun _ => .pure _

lemma orClose_preserves (count : Nat) {m : Program OpError α} (h : Preserves R m) :
    Preserves R (orClose count m) := by
  refine h.attempt.bind fun res => ?_
  cases res with
  | ok a => exact .pure a
  | error err => exact (closeAll_preserves count).bind fun _ => .fail _

lemma openEmptySambaMountDirectory_preserves (path : Bytes) :
    Preserves R (openEmptySambaMountDirectory M roots path) :=
  (consult_preserves _).bind fun _ => (orClose_preserves 1 (consult_preserves _)).bind fun _ =>
    (orClose_preserves 1 .guard).bind fun _ => .pure _

lemma refuseMounted_preserves (path : Bytes) (refusal : String) :
    Preserves R (refuseMounted M roots path refusal) :=
  (consult_preserves _).bind fun _ => .guard

lemma checkBaseEntry_preserves (path : Bytes) (exp : List Bytes) (entry : DirEntry) :
    Preserves R (checkBaseEntry M roots path exp entry) := by
  unfold checkBaseEntry
  split
  · exact .guard
  · exact Keeps.guard.bind fun _ => (Keeps.ofExcept _).bind fun _ =>
      (refuseMounted_preserves _ _).bind fun _ =>
        (openEmptySambaMountDirectory_preserves _).bind fun _ => closeFile_preserves

lemma checkBaseEntries_preserves (path : Bytes) : ∀ (entries : List DirEntry) (exp : List Bytes),
    Preserves R (checkBaseEntries M roots path entries exp)
  | [], _ => .pure _
  | entry :: entries, exp =>
    (checkBaseEntry_preserves path exp entry).bind fun _ => checkBaseEntries_preserves path entries _

lemma validateSambaBaseMountDirectory_preserves (path : Bytes) (expectedChildren : List Bytes) :
    Preserves R (validateSambaBaseMountDirectory M roots path expectedChildren) :=
  (consult_preserves _).bind fun _ => (orClose_preserves 1 (consult_preserves _)).bind fun _ =>
    closeFile_preserves.bind fun _ => Keeps.guard.bind fun _ =>
      (checkBaseEntries_preserves _ _ _).bind fun _ => .guard

lemma boundaryAt_preserves (path : Bytes) : Preserves R (boundaryAt M roots path) := by
  refine (consult_preserves _).attempt.bind fun res => ?_
  cases res with
  | ok mounted => exact .pure _
  | error err =>
    simp only
    split
    · exact .pure _
    · exact .fail _

lemma preflightShares_preserves (hp : Bytes) : ∀ directories : List Bytes,
    Preserves R (preflightShares M roots hp directories)
  | [] => .pure _
  | _ :: directories => (Keeps.ofExcept _).bind fun _ => (boundaryAt_preserves _).bind fun _ =>
      Keeps.guard.bind fun _ =>
        (preflightShares_preserves hp directories).bind fun _ => .pure _

lemma preflightLegacySambaMountBoundaries_preserves (hp : Bytes) (directories : List Bytes) :
    Preserves R (preflightLegacySambaMountBoundaries M roots hp directories) :=
  (boundaryAt_preserves _).bind fun _ => Keeps.guard.bind fun _ => preflightShares_preserves _ _

lemma checkHiddenShares_preserves : ∀ shares : List (Bytes × Bytes),
    Preserves R (checkHiddenShares M roots shares)
  | [] => .pure _
  | (directory, path) :: rest => by
    have hdir : Preserves R (checkHiddenDirectory M roots path) := by
      refine (openEmptySambaMountDirectory_preserves path).attempt.bind fun res => ?_
      cases res with
      | ok opened => exact closeFile_preserves
      | error err =>
        simp only
        split
        · exact .pure _
        · exact .fail _
    have hshare : Preserves R (checkHiddenShare M roots directory path) := by
      unfold checkHiddenShare
      split
      · exact hdir
      · exact .pure _
    exact hshare.bind fun _ => checkHiddenShares_preserves rest

lemma prepareLegacy_preserves (parsed : PersistedConnection) (hp : Bytes) :
    Preserves R (prepareLegacy M roots parsed hp) := by
  unfold prepareLegacy
  split
  · exact Keeps.guard.bind fun _ => Keeps.guard.bind fun _ =>
      (preflightLegacySambaMountBoundaries_preserves _ _).bind fun _ => checkHiddenShares_preserves _
  · exact .pure _

lemma createPrepare_preserves (hp : Bytes) (directories : List Bytes) :
    Preserves R (createPrepare M roots hp directories) :=
  (validateSambaBaseMountDirectory_preserves _ _).bind fun _ => refuseMounted_preserves _ _

lemma restorePrepare_preserves (parsed : PersistedConnection) (hp : Bytes) :
    Preserves R (restorePrepare M roots parsed hp) := by
  have hleg : Preserves R (preflightLegacy M roots parsed hp) := by
    unfold preflightLegacy
    split
    · exact (preflightLegacySambaMountBoundaries_preserves _ _).bind fun _ => .pure _
    · exact .pure _
  exact hleg.bind fun _ => (validateSambaBaseMountDirectory_preserves _ _).bind fun _ =>
    refuseMounted_preserves _ _

end

/-! ### Directories are created -/

section

variable {M : Machine} {roots : ManagedRoots}

lemma makeDirectory_preserves (mount : Int) (dir : List Bytes) (name : Bytes) :
    Preserves SameMounts (makeDirectory mount dir name) := by
  have hmkdir : Preserves SameMounts (changeTree fun fs => fs.mkdirAt mount dir name) := by
    have hsm : ∀ fs : MountedTree, (fs.mkdirAt mount dir name).2.table = fs.table ∧
        (fs.mkdirAt mount dir name).2.contents = fs.contents := by
      intro fs
      unfold MountedTree.mkdirAt
      split <;> exact ⟨rfl, rfl⟩
    refine fun w _ => Ends.act (fun failure _ => ⟨trivial, refl _⟩) ?_ ?_
    · exact fun _ _ => ⟨trivial, (hsm _).1, (hsm _).2, rfl, rfl, rfl⟩
    · exact fun _ _ => ⟨trivial, (hsm _).1, (hsm _).2, rfl, rfl, rfl⟩
  refine (consult_preserves _).attempt.bind fun res => ?_
  cases res with
  | ok next => exact .pure _
  | error err =>
    simp only
    split
    · exact hmkdir.bind fun _ => closeFile_preserves.bind fun _ => consult_preserves _
    · exact .fail _

lemma mkdirNames_preserves : ∀ (dir rest : List Bytes) (mount : Int),
    Preserves SameMounts (mkdirNames dir rest mount)
  | _, [], _ => .pure _
  | dir, name :: rest, mount =>
    closeFile_preserves.bind fun _ => (makeDirectory_preserves mount dir name).bind fun next =>
      closeFile_preserves.bind fun _ => mkdirNames_preserves (dir ++ [name]) rest next

lemma mkdirAll_preserves (path : Bytes) : Preserves SameMounts (mkdirAll M roots path) :=
  Keeps.guard.bind fun _ => (Keeps.ofExcept _).bind fun _ => mkdirNames_preserves _ _ _

lemma ensureSambaMountDirectory_preserves (path : Bytes) :
    Preserves SameMounts (ensureSambaMountDirectory M roots path) := by
  refine (openEmptySambaMountDirectory_preserves path).attempt.bind fun res => ?_
  cases res with
  | ok opened => exact closeFile_preserves
  | error err =>
    simp only
    split
    · exact (mkdirAll_preserves path).bind fun _ =>
        (openEmptySambaMountDirectory_preserves path).bind fun _ => closeFile_preserves
    · exact .fail _

lemma ensureSambaHostDirectory_preserves (path : Bytes) :
    Preserves SameMounts (ensureSambaHostDirectory M roots path) := by
  refine (consult_preserves _).attempt.bind fun res => ?_
  cases res with
  | ok opened => exact closeFile_preserves
  | error err =>
    simp only
    split
    · exact mkdirAll_preserves path
    · exact .fail _

/-- The plan of a share. -/
def planOf (host directory : Bytes) : SambaMountPlan := ⟨directory, sambaMountPoint host directory⟩

lemma planShares_ends {host : Bytes} {base : ManagedLocation} {ensure : Bytes → Program OpError Unit}
    (hensure : ∀ path, Preserves SameMounts (ensure path)) (hho : validatePathComponent host)
    (hba : roots.matchPath (hostPath host) = .ok base) :
    ∀ {directories : List Bytes} {w : Faulty ConnectionWorld},
      (∀ d ∈ directories, validatePathComponent d) →
      (planShares roots ensure base.canonical directories).Ends w
        (fun plans t => SameMounts w.state t.state ∧ plans = directories.map (planOf host))
        (fun _ t => SameMounts w.state t.state)
  | [], _, _ => .pure ⟨refl _, rfl⟩
  | directory :: directories, w, hv => by
    have hdir := hv directory (.head _)
    refine .seq (.ofExcept (fun loc hloc => ?_) fun _ _ => refl _)
    have hpa := matchChild_share hho hba hdir hloc
    refine .seq ((hensure _).ends trivial (fun _ t _ hsm => ?_) fun _ _ _ hsm => hsm)
    refine .bind ((planShares_ends hensure hho hba fun d hd =>
      hv d (.tail _ hd)).impError fun _ _ h => hsm.trans h) ?_
    rintro plans u ⟨hlater, rfl⟩
    refine .pure ⟨hsm.trans hlater, ?_⟩
    rw [map_cons, planOf, hpa]

end

/-! ## 6. What a request may have done -/

/-- An empty directory, open. -/
def EmptyDirectory (machine : Machine) (roots : ManagedRoots) (fs : MountedTree) (path : Bytes)
    (opened : Descriptor) : Prop :=
  openedDirectory machine roots path fs = .ok opened ∧ fs.listing opened.mount opened.path = some []

/-- A request at a path where nothing was mounted at the start; a mount goes on an empty directory. -/
def Harmless (machine : Machine) (roots : ManagedRoots) (s : ConnectionWorld) (request : MountRequest) :
    Prop :=
  entriesAt s.fs.table request.path = [] ∧
    (request.kind = .mount → entriesAt request.before.table request.path = [] ∧
      ∃ opened, EmptyDirectory machine roots request.before request.path opened)

/-- **What a request may have done** between `s` and `t`: apart from the paths of `mounted`, where
nothing was mounted, the table is the same. -/
structure Mounting (machine : Machine) (roots : ManagedRoots) (host : Bytes) (s t : ConnectionWorld)
    (mounted : List SambaMountedPath) : Prop where
  db : t.db = s.db
  bootFile : t.bootFile = s.bootFile
  nodes : t.fs.nodes = s.fs.nodes
  contents : t.fs.contents = s.fs.contents
  placed : ∀ m ∈ mounted, Placed host m
  away : awayFrom (mounted.map (·.path)) t.fs.table = s.fs.table
  fresh : ∀ entry ∈ t.fs.table, entry ∈ s.fs.table ∨ ∀ old ∈ s.fs.table, old.id ≠ entry.id
  requests : ∃ more, t.requests = s.requests ++ more ∧
    ∀ request ∈ more, Harmless machine roots s request

namespace Mounting

variable {M : Machine} {roots : ManagedRoots} {host : Bytes} {s t u : ConnectionWorld}
variable {mounted rest : List SambaMountedPath}

lemma refl (M : Machine) (roots : ManagedRoots) (host : Bytes) (s : ConnectionWorld) :
    Mounting M roots host s s [] :=
  ⟨rfl, rfl, rfl, rfl, fun _ h => absurd h not_mem_nil,
    awayFrom_eq_self fun _ h => absurd h not_mem_nil, fun _ h => .inl h, [],
    (append_nil _).symm, fun _ h => absurd h not_mem_nil⟩

section

variable (h : Mounting M roots host s t mounted)
include h

lemma kept : s.fs.table.Sublist t.fs.table := by
  rw [← h.away]
  exact filter_sublist

lemma clear_of_mem {m : SambaMountedPath} (hm : m ∈ mounted) :
    entriesAt s.fs.table m.path = [] := by
  refine entriesAt_eq_nil.mpr fun entry hent hpa => ?_
  rw [← h.away] at hent
  exact (mem_awayFrom.mp hent).2 (List.mem_map.mpr ⟨m, hm, hpa.symm⟩)

lemma clear_of_clear {path : Bytes} (hpa : entriesAt t.fs.table path = []) :
    entriesAt s.fs.table path = [] :=
  entriesAt_eq_nil.mpr fun entry hent => entriesAt_eq_nil.mp hpa entry (h.kept.subset hent)

/-- When nothing is left at the paths of `mounted`, the table is the old one. -/
lemma table_eq (hcl : ∀ m ∈ mounted, entriesAt t.fs.table m.path = []) :
    t.fs.table = s.fs.table := by
  rw [← h.away]
  refine (awayFrom_eq_self fun path hpa => ?_).symm
  obtain ⟨m, hm, rfl⟩ := mem_map.mp hpa
  exact hcl m hm

lemma fresh_at {entry : MountEntry} (hent : entry ∈ t.fs.table)
    (hcl : entriesAt s.fs.table entry.mountpoint = []) : ∀ old ∈ s.fs.table, old.id ≠ entry.id :=
  (h.fresh entry hent).resolve_left fun hold => entriesAt_eq_nil.mp hcl entry hold rfl

lemma request {request : MountRequest} (hharm : Harmless M roots s request) :
    Mounting M roots host s { t with requests := t.requests ++ [request] } mounted := by
  obtain ⟨more, hmore, hall⟩ := h.requests
  refine ⟨h.db, h.bootFile, h.nodes, h.contents, h.placed, h.away, h.fresh, more ++ [request], ?_, ?_⟩
  · rw [hmore, append_assoc]
  · intro r hr
    rcases mem_append.mp hr with hr | hr
    · exact hall r hr
    · exact mem_singleton.mp hr ▸ hharm

lemma mount {m : SambaMountedPath} (hplc : Placed host m)
    (hcl : entriesAt t.fs.table m.path = []) (mount : Int) (fsType src : Bytes) :
    Mounting M roots host s { t with fs := t.fs.mountOn M.ids mount m.path fsType src }
      (mounted ++ [m]) := by
  refine ⟨h.db, h.bootFile, h.nodes, h.contents, fun m' hm' => ?_, ?_, fun entry hent => ?_, h.requests⟩
  · rcases mem_append.mp hm' with hm' | hm'
    · exact h.placed m' hm'
    · exact mem_singleton.mp hm' ▸ hplc
  · rw [map_append, map_singleton, awayFrom_mountOn hcl, h.away]
  · rcases mem_append.mp hent with hent | hent
    · exact h.fresh entry hent
    · obtain rfl := mem_singleton.mp hent
      exact .inr fun old hold => M.ids.fresh _ old (h.kept.subset hold)

lemma undo (hpg : Progress M roots rest t u) (hsub : ∀ m ∈ rest, m ∈ mounted) :
    Mounting M roots host s u mounted := by
  obtain ⟨more, hmore, hall⟩ := h.requests
  obtain ⟨later, hlater, hundo⟩ := hpg.requests
  refine ⟨hpg.db.trans h.db, hpg.bootFile.trans h.bootFile, hpg.nodes.trans h.nodes,
    hpg.contents.trans h.contents, h.placed, ?_, fun entry hent => ?_, more ++ later, ?_, ?_⟩
  · rw [← h.away]
    exact awayFrom_congr (map_subset _ hsub) hpg.away
  · exact h.fresh entry (hpg.fewer.subset hent)
  · rw [hlater, hmore, append_assoc]
  · intro r hr
    rcases mem_append.mp hr with hr | hr
    · exact hall r hr
    · obtain ⟨hkind, m, hm, hpa, -⟩ := hundo r hr
      refine ⟨hpa ▸ h.clear_of_mem (hsub m hm), fun hmnt => ?_⟩
      cases hkind.symm.trans hmnt

end

end Mounting

/-! ## 7. The calls -/

section

variable {α : Type} {M : Machine} {roots : ManagedRoots} {s : ConnectionWorld}

lemma joinErrors_eq_none {errs : List (Option OpError)} :
    joinErrors errs = none ↔ ∀ err ∈ errs, err = none := by
  have hno : errs.reduceOption = [] ↔ ∀ err ∈ errs, err = none := by
    simp [reduceOption, filterMap_eq_nil_iff]
  rw [← hno]
  unfold joinErrors
  cases errs.reduceOption with
  | nil => simp
  | cons err rest => simp

lemma returnJoined_looks {errs : List (Option OpError)} :
    (returnJoined errs).Looks s fun _ => ∀ err ∈ errs, err = none := by
  unfold returnJoined
  cases h : joinErrors errs with
  | none => exact .pure (joinErrors_eq_none.mp h)
  | some err => exact .fail err

lemma consult_looks (ans : ConnectionWorld → Except OpError α) :
    (consult ans).Looks s fun a => ans s = .ok a :=
  fun _ => consult_ends False.elim (fun _ _ ha => ⟨rfl, ha⟩) fun _ _ => rfl

lemma closeFile_looks : closeFile.Looks s fun _ => True := closeFile_preserves.looks

lemma orClose_looks (count : Nat) {m : Program OpError α} {P : α → Prop} (h : m.Looks s P) :
    (orClose count m).Looks s P :=
  fun faults => orClose_ends count ((h faults).impError fun _ _ h _ _ => h)

lemma readDir_looks (opened : Descriptor) (limit : Nat) :
    (readDir opened limit).Looks s fun entries =>
      ∃ all, s.fs.listing opened.mount opened.path = some all ∧ entries = all.take limit := by
  refine (consult_looks _).mono fun entries hes => ?_
  cases hlstg : s.fs.listing opened.mount opened.path with
  | none =>
    simp only [hlstg] at hes
    cases hes
  | some all =>
    simp only [hlstg] at hes
    exact ⟨all, rfl, (Except.ok.inj hes).symm⟩

/-- **Opening an empty directory.** -/
theorem openEmptySambaMountDirectory_looks (path : Bytes) :
    (openEmptySambaMountDirectory M roots path).Looks s (EmptyDirectory M roots s.fs path) := by
  refine .bind (consult_looks _) fun opened hopd => ?_
  refine .bind (orClose_looks 1 (readDir_looks opened 1)) ?_
  rintro entries ⟨all, hall, rfl⟩
  refine .bind (orClose_looks 1 (.guard (P := fun _ => ¬all.take 1 ≠ []) id)) fun _ hem => ?_
  have hnil : all = [] := by
    cases all with
    | nil => rfl
    | cons entry rest => exact absurd (cons_ne_nil _ _) hem
  exact .pure ⟨hopd, hnil ▸ hall⟩

lemma closeJoined_looks (res : Except OpError α) : (do
      let closed ← attempt closeFile
      returnJoined [failureOf res, failureOf closed] : Program OpError Unit).Looks s
      fun _ => ∃ a, res = .ok a := by
  refine closeFile_looks.attempt.bind fun closed _ => returnJoined_looks.mono fun _ hno => ?_
  cases res with
  | ok a => exact ⟨a, rfl⟩
  | error err => cases hno _ (.head _)

lemma checkDescriptor_looks (opened : Descriptor) (mountID : Nat) (mismatch : String) :
    (checkDescriptor roots opened mountID mismatch).Looks s fun _ => opened.mount.toNat = mountID :=
  fun _ => (checkDescriptor_ends False.elim opened mountID mismatch).mono
    (fun _ _ h => ⟨h.1, h.2.2⟩) fun _ _ h => h.1

lemma checkView_looks (path : Bytes) (mid : Nat) (mismatch : String) :
    (checkView M roots path mid mismatch).Looks s fun _ => True := by
  refine .bind (consult_looks _) fun view _ => ?_
  refine .bind (checkDescriptor_looks view mid mismatch).attempt fun checked _ => ?_
  exact (closeJoined_looks checked).mono fun _ _ => trivial

variable {host directory path : Bytes}

lemma refuseMountedShare_looks (refusal : String) :
    (refuseMountedShare host ⟨directory, path⟩ refusal).Looks s
      fun _ => entriesAt s.fs.table path = [] := by
  refine .bind (consult_looks _) fun identity hidn => .guard fun hno => ?_
  have hes := (inspectedMount_ok.mp hidn).2.2
  exact inspectSambaMountEntries_none.mp (not_not.mp hno ▸ hes)

lemma captureMount_looks : (captureMount host ⟨directory, path⟩).Looks s fun mountID =>
      ∃ entry, entriesAt s.fs.table path = [entry] ∧ IsShareMount entry host directory ∧
        mountID = entry.id.toNat := by
  refine .bind (consult_looks _) fun identity hidn => ?_
  cases identity with
  | none => exact .fail _
  | some identity =>
    obtain ⟨entry, hent, hmnt, rfl⟩ :=
      inspectSambaMountEntries_some.mp (inspectedMount_ok.mp hidn).2.2
    exact .pure ⟨entry, hent, hmnt, rfl⟩

/-- **What is verified of a new mount.** -/
theorem verifyMounted_ends {w : Faulty ConnectionWorld} :
    (verifyMounted M roots host ⟨directory, path⟩).Ends w (fun share t => t.state = w.state ∧
        ∃ entry, entriesAt w.state.fs.table path = [entry] ∧ IsShareMount entry host directory ∧
          share = ⟨entry.id.toNat, [⟨path, host, directory, entry.id.toNat⟩]⟩)
      (fun failure t => t.state = w.state ∧ ∃ mid, failure.mounted = [⟨path, host, directory, mid⟩]) := by
  refine .seq (.attempt ((captureMount_looks w.faults).mono ?_ ?_))
  · rintro mid ⟨state, faults⟩ ⟨rfl, entry, hent, hmnt, rfl⟩
    refine (checkView_looks path _ _).seq_attempt fun viewed faults _ => ?_
    refine closeFile_looks.seq_attempt fun closed faults _ => ?_
    split
    · exact .pure ⟨rfl, entry, hent, hmnt, rfl⟩
    · exact .fail ⟨rfl, _, rfl⟩
  · rintro err ⟨state, faults⟩ rfl
    exact .seq (.pure (closeFile_looks.seq_attempt fun closed faults _ => .fail ⟨rfl, _, rfl⟩))

end

/-! ## 8. One share -/

/-- The world after a mount. -/
def mountedWorld (machine : Machine) (host directory : Bytes) (opened : Descriptor) (s : ConnectionWorld) :
    ConnectionWorld :=
  { s with
    fs := s.fs.mountOn machine.ids opened.mount opened.path (utf8 "cifs") (sambaSource host directory)
    requests := s.requests ++ [⟨.mount, opened.path, s.fs⟩] }

/-- The share has its single mount, with the id of a mount that is new since `s` or was `recorded`, and
nothing else has changed between `t` and `u`. -/
def HasMount (host directory : Bytes) (recorded : Nat → Prop) (s t u : ConnectionWorld) (mountID : Nat) :
    Prop :=
  (∀ path, path ≠ sambaMountPoint host directory →
    entriesAt u.fs.table path = entriesAt t.fs.table path) ∧
  ∃ entry, entriesAt u.fs.table (sambaMountPoint host directory) = [entry] ∧
    IsShareMount entry host directory ∧ mountID = entry.id.toNat ∧
    ((∀ old ∈ s.fs.table, old.id ≠ entry.id) ∨ recorded mountID)

/-- **What the loop body of a request does**, from any state between `s` and the end of the request: it
mounts the share, or finds the mount that is `recorded`. -/
def MountsShare (machine : Machine) (roots : ManagedRoots) (host : Bytes)
    (recorded : Bytes → Nat → Prop) (mountOne : SambaMountPlan → Program MountFailure MountedShare)
    (directory : Bytes) : Prop :=
  ∀ (s : ConnectionWorld) (w : Faulty ConnectionWorld) (mounted : List SambaMountedPath),
    Mounting machine roots host s w.state mounted →
    (mountOne (planOf host directory)).Ends w
      (fun share t => Mounting machine roots host s t.state (mounted ++ share.mounted) ∧
        HasMount host directory (recorded directory) s w.state t.state share.mountID)
      (fun failure t => Mounting machine roots host s t.state (mounted ++ failure.mounted))

section

variable {M : Machine} {roots : ManagedRoots} {host directory : Bytes} {w : Faulty ConnectionWorld}
variable {s : ConnectionWorld}

lemma mountSmaba_ends (conn : Connection) (opened : Descriptor) :
    (mountSmaba M conn.username conn.host directory conn.port opened conn.password).Ends w
      (fun _ t => t.state = mountedWorld M conn.host directory opened w.state)
      (fun _ t => t.state = w.state ∨ t.state = { w.state with
        requests := w.state.requests ++ [⟨.mount, opened.path, w.state.fs⟩] }) := by
  refine .seq (.ofExcept (fun _ _ => ?_) fun err herr => .inl rfl)
  refine .seq (.ofExcept (fun _ _ => ?_) fun err herr => .inl rfl)
  refine closeFile_looks.seq (fun _ faults _ => ?_) fun _ _ => .inl rfl
  refine .seq (record_ends ?_)
  exact changeTree_ends False.elim (fun _ _ _ => rfl) nofun fun _ _ => .inr rfl

/-- **A share that is free gets mounted.** -/
theorem mountAndVerify_ends {mounted : List SambaMountedPath} {recorded : Nat → Prop}
    (conn : Connection) (hho : validatePathComponent conn.host)
    (hdir : validateSambaDirectory directory = .ok ())
    (hmnt : Mounting M roots conn.host s w.state mounted) {opened : Descriptor}
    (hem : EmptyDirectory M roots w.state.fs (sambaMountPoint conn.host directory) opened)
    (hcl : entriesAt w.state.fs.table (sambaMountPoint conn.host directory) = []) :
    (mountAndVerify M roots conn (planOf conn.host directory) opened).Ends w
      (fun share t => Mounting M roots conn.host s t.state (mounted ++ share.mounted) ∧
        HasMount conn.host directory recorded s w.state t.state share.mountID)
      (fun failure t => Mounting M roots conn.host s t.state (mounted ++ failure.mounted)) := by
  have hcp := (validateSambaDirectoryName_ok hdir).1
  have hpa : opened.path = sambaMountPoint conn.host directory :=
    openedDirectory_path (cons_ne_nil _ _) (share_names hho hcp) hem.1
  have hharm : Harmless M roots s ⟨.mount, sambaMountPoint conn.host directory, w.state.fs⟩ :=
    ⟨hmnt.clear_of_clear hcl, fun _ => ⟨hcl, opened, hem⟩⟩
  have hreqd := hmnt.request hharm
  refine .bind (.onError (orClose_ends 1 ((mountSmaba_ends conn opened).impError ?_))) ?_
  · rintro err ⟨state, faults⟩ hsta _ _
    rw [hpa] at hsta
    rw [append_nil]
    rcases hsta with rfl | rfl
    · exact hmnt
    · exact hreqd
  rintro _ ⟨state, faults⟩ hsta
  rw [mountedWorld, hpa] at hsta
  subst hsta
  have hmtd : ∀ mid, Mounting M roots conn.host s _ (mounted ++
      [⟨sambaMountPoint conn.host directory, conn.host, directory, mid⟩]) := fun mid =>
    hreqd.mount ⟨hho, rfl, rfl, hdir⟩ hcl opened.mount (utf8 "cifs")
      (sambaSource conn.host directory)
  refine verifyMounted_ends.mono ?_ ?_
  · rintro share ⟨state, faults⟩ ⟨rfl, entry, hent, hmount, rfl⟩
    refine ⟨hmtd _, fun path hne => entriesAt_mountOn_ne hne, entry, hent, hmount, rfl, .inl ?_⟩
    obtain ⟨hmem, hat⟩ := mem_entriesAt.mp (hent ▸ mem_singleton_self entry)
    refine (hmtd 0).fresh_at hmem ?_
    rw [hat]
    exact hmnt.clear_of_clear hcl
  · rintro failure ⟨state, faults⟩ ⟨rfl, mid, hfailure⟩
    exact hfailure ▸ hmtd mid

lemma seq_undo {α : Type} {m : Program OpError α} {f : α → Program MountFailure MountedShare}
    {P : α → Prop} {mounted : List SambaMountedPath}
    {Q : MountedShare → Faulty ConnectionWorld → Prop} (hm : m.Looks w.state P)
    (hf : ∀ a faults, P a → (f a).Ends ⟨w.state, faults⟩ Q fun failure t =>
      Mounting M roots host s t.state (mounted ++ failure.mounted))
    (hmnt : Mounting M roots host s w.state mounted) :
    (orUndo [] m >>= f).Ends w Q fun failure t =>
      Mounting M roots host s t.state (mounted ++ failure.mounted) := by
  refine .seq (.onError ((hm w.faults).mono ?_ ?_))
  · rintro a ⟨state, faults⟩ ⟨rfl, ha⟩
    exact hf a faults ha
  · rintro err ⟨state, faults⟩ rfl
    rw [append_nil]
    exact hmnt

lemma createMount_mountsShare {conn : Connection} (hho : validatePathComponent conn.host)
    (hdir : validateSambaDirectory directory = .ok ()) {recorded : Bytes → Nat → Prop} :
    MountsShare M roots conn.host recorded (createMount M roots conn) directory := by
  intro s w mounted hmnt
  refine seq_undo (openEmptySambaMountDirectory_looks _) (fun opened faults hem => ?_) hmnt
  refine seq_undo (orClose_looks 1 (refuseMountedShare_looks _)) (fun _ faults hcl => ?_) hmnt
  exact mountAndVerify_ends (w := ⟨w.state, faults⟩) conn hho hdir hmnt hem hcl

/-- What a row has recorded in this boot. -/
def RecordedBy (row : ConnectionRow) (currentBootID : Bytes) (mountIDs : NameTable Bytes Nat)
    (directory : Bytes) (mountID : Nat) : Prop :=
  row.bootID = currentBootID ∧ mountIDs.lookup directory = some mountID

/-- A mount that is kept is the one that the row has recorded. -/
lemma keptMount_looks {row : ConnectionRow} (currentBootID : Bytes)
    (ids : NameTable Bytes Nat) (path : Bytes) :
    (keptMount M roots row currentBootID ids ⟨directory, path⟩).Looks s fun kept =>
      kept = none ∧ entriesAt s.fs.table path = [] ∨
        ∃ entry, entriesAt s.fs.table path = [entry] ∧ IsShareMount entry row.host directory ∧
          kept = some entry.id.toNat ∧ RecordedBy row currentBootID ids directory entry.id.toNat := by
  unfold keptMount
  simp only
  split
  next hrec =>
    have hlk : ids.lookup directory = some ((ids.lookup directory).getD 0) := by
      cases h : ids.lookup directory with
      | none =>
        rw [h] at hrec
        exact absurd rfl hrec.2
      | some mountID => rfl
    refine .bind (consult_looks _) fun matched hmatd => ?_
    have hes := (validatedMount_ok.mp hmatd).2.2
    cases matched with
    | false => exact .pure (.inl ⟨rfl, validateSambaMountEntries_false.mp hes⟩)
    | true =>
      obtain ⟨entry, hent, hmnt, hid⟩ := validateSambaMountEntries_true.mp hes
      refine .bind (checkView_looks path _ _) fun _ _ => .pure (.inr ?_)
      refine ⟨entry, hent, hmnt, congrArg some hid.symm, hrec.1, ?_⟩
      rw [hlk, hid]
  · exact .bind (refuseMountedShare_looks _) fun _ hcl => .pure (.inl ⟨rfl, hcl⟩)

lemma restoreMount_mountsShare {row : ConnectionRow} (hho : validatePathComponent row.host)
    (hdir : validateSambaDirectory directory = .ok ()) (port currentBootID : Bytes)
    (ids : NameTable Bytes Nat) :
    MountsShare M roots row.host (RecordedBy row currentBootID ids)
      (restoreMount M roots row port currentBootID ids) directory := by
  intro s w mounted hmnt
  refine seq_undo (keptMount_looks currentBootID ids _) (fun kept faults hk => ?_) hmnt
  rcases hk with ⟨rfl, hcl⟩ | ⟨entry, hent, hmount, rfl, hrec⟩
  · refine seq_undo (openEmptySambaMountDirectory_looks _) (fun opened faults hem => ?_) hmnt
    exact mountAndVerify_ends (w := ⟨w.state, faults⟩) ⟨row.username, row.password, row.host, port⟩ hho
      hdir hmnt hem hcl
  · refine .pure ⟨?_, fun _ _ => rfl, entry, hent, hmount, rfl, .inr hrec⟩
    rw [append_nil]
    exact hmnt

end

/-! ## 9. All shares -/

/-- **What has been recorded**: every share that is `done` has its single mount, and an id is that of
a new mount or was `recorded` before. -/
structure Recorded (host : Bytes) (recorded : Bytes → Nat → Prop) (s t : ConnectionWorld)
    (done : List Bytes) (mountIDs : NameTable Bytes Nat) : Prop where
  mounts : ∀ d ∈ done, ∃ entry, entriesAt t.fs.table (sambaMountPoint host d) = [entry] ∧
    IsShareMount entry host d ∧ mountIDs.lookup d = some entry.id.toNat
  ids : ∀ d mountID, mountIDs.lookup d = some mountID →
    d ∈ done ∧ ((∀ old ∈ s.fs.table, old.id ≠ mountID) ∨ recorded d mountID)

section

variable {M : Machine} {roots : ManagedRoots} {host : Bytes}
variable {recorded : Bytes → Nat → Prop} {s : ConnectionWorld}

lemma Recorded.step {t u : ConnectionWorld} {done : List Bytes} {mountIDs : NameTable Bytes Nat}
    {directory : Bytes} {mid : Nat} (h : Recorded host recorded s t done mountIDs)
    (hho : validatePathComponent host) (hd : validatePathComponent directory)
    (hdn : ∀ d ∈ done, validatePathComponent d) (hnew : directory ∉ done)
    (hmtd : HasMount host directory (recorded directory) s t u mid) :
    Recorded host recorded s u (done ++ [directory]) (mountIDs.insert directory mid) := by
  obtain ⟨helse, entry, hent, hmnt, hid, horig⟩ := hmtd
  have hpos := hmnt.positive
  constructor
  · intro d hdmem
    rcases mem_append.mp hdmem with hdmem | hdmem
    · have hne : d ≠ directory := fun heq => hnew (heq ▸ hdmem)
      obtain ⟨other, hoth, hshare, hlk⟩ := h.mounts d hdmem
      refine ⟨other, ?_, hshare, ?_⟩
      · rw [helse _ fun heq => hne (sambaMountPoint_inj hho (hdn d hdmem) hd heq), hoth]
      · rw [lookup_insert_ne hne, hlk]
    · obtain rfl := mem_singleton.mp hdmem
      exact ⟨entry, hent, hmnt, by rw [lookup_insert, hid]⟩
  · intro d other hlk
    by_cases heq : d = directory
    · subst heq
      rw [lookup_insert] at hlk
      cases hlk
      refine ⟨mem_append_right _ (mem_singleton_self _), horig.imp_left fun hfh old hold => ?_⟩
      have := hfh old hold
      omega
    · rw [lookup_insert_ne heq] at hlk
      obtain ⟨hmem, horig⟩ := h.ids d other hlk
      exact ⟨mem_append_left _ hmem, horig⟩

/-- **The loop over the shares.** -/
theorem mountPlans_ends {mountOne : SambaMountPlan → Program MountFailure MountedShare}
    (hho : validatePathComponent host) :
    ∀ {directories done : List Bytes} {mounted : List SambaMountedPath} {ids : NameTable Bytes Nat}
      {w : Faulty ConnectionWorld},
      (∀ d ∈ directories, MountsShare M roots host recorded mountOne d) →
      (∀ d ∈ directories, validatePathComponent d) → directories.Nodup →
      (∀ d ∈ directories, d ∉ done) → (∀ d ∈ done, validatePathComponent d) →
      Mounting M roots host s w.state mounted → Recorded host recorded s w.state done ids →
      (mountPlans mountOne (directories.map (planOf host)) mounted ids).Ends w
        (fun res t => Mounting M roots host s t.state res.2 ∧
          Recorded host recorded s t.state (done ++ directories) res.1)
        (fun failure t => Mounting M roots host s t.state failure.mounted)
  | [], done, mounted, ids, w, _, _, _, _, _, hmnt, hrec =>
    .pure ⟨hmnt, by rw [append_nil]; exact hrec⟩
  | directory :: directories, done, mounted, ids, w, hone, hv, hnd, hnew, hdn,
      hmnt, hrec => by
    obtain ⟨hfh, hnd⟩ := nodup_cons.mp hnd
    have hd := hv directory (.head _)
    refine .bind (.onError (hone directory (.head _) s w mounted hmnt)) ?_
    rintro share t ⟨hlater, hmtd⟩
    have hst := hrec.step hho hd hdn (hnew directory (.head _)) hmtd
    have hnew' : ∀ d ∈ directories, d ∉ done ++ [directory] := by
      intro d hdmem hmem
      rcases mem_append.mp hmem with hmem | hmem
      · exact hnew d (.tail _ hdmem) hmem
      · exact hfh (mem_singleton.mp hmem ▸ hdmem)
    have hdn' : ∀ d ∈ done ++ [directory], validatePathComponent d := by
      intro d hmem
      rcases mem_append.mp hmem with hmem | hmem
      · exact hdn d hmem
      · exact mem_singleton.mp hmem ▸ hd
    refine (mountPlans_ends hho (fun d hdmem => hone d (.tail _ hdmem))
      (fun d hdmem => hv d (.tail _ hdmem)) hnd hnew' hdn' hlater hst).imp ?_
    rintro res u ⟨hmnt, hrec⟩
    rw [append_assoc] at hrec
    exact ⟨hmnt, hrec⟩

end

/-! ### Undoing -/

section

variable {texts : RollbackTexts} {M : Machine} {roots : ManagedRoots} {host : Bytes}
variable {w : Faulty ConnectionWorld}

lemma confirmOwnership_looks {s : ConnectionWorld} (mounted : SambaMountedPath) :
    (confirmOwnership texts mounted).Looks s fun _ => True := by
  have hjoined : ∀ errs, (returnJoined errs).Looks s fun _ => True :=
    fun errs => returnJoined_looks.mono fun _ _ => trivial
  refine .bind (consult_looks _).attempt fun matched _ => ?_
  match matched with
  | .ok true => exact .pure trivial
  | .ok false => exact hjoined _
  | .error err => exact hjoined _

lemma confirmUndone_looks {s : ConnectionWorld} (mounted : SambaMountedPath) :
    (confirmUndone texts mounted).Looks s fun _ =>
      mounted.validated s = .ok false := by
  refine .bind (Fallible.Looks.attempt (P := fun _ =>
    mounted.validated s = .ok false) ?_) fun gone hgn => ?_
  · refine .bind (consult_looks _) fun still hstl => .guard fun hf => ?_
    rw [Bool.not_eq_true] at hf
    exact hf ▸ hstl
  · exact (closeJoined_looks gone).mono fun _ ⟨a, ha⟩ => hgn a ha

lemma rollbackMount_ends {mounted : SambaMountedPath} (hplc : Placed host mounted) :
    (rollbackMount texts M roots mounted).Ends w
      (fun _ t => Progress M roots [mounted] w.state t.state ∧
        entriesAt t.state.fs.table mounted.path = [])
      (fun _ t => Progress M roots [mounted] w.state t.state) := by
  have hstl : Progress M roots [mounted] w.state w.state := .refl ..
  refine .seq (.guard (fun _ => hstl) fun _ => ?_)
  refine (consult_looks _).seq (fun parent faults hpar => ?_) fun _ _ => hstl
  refine (orClose_looks 1 (consult_looks _)).seq (fun opened faults hopd => ?_) fun _ _ => hstl
  refine (orClose_looks 2 (checkDescriptor_looks opened _ _)).seq (fun _ faults hid => ?_) fun _ _ => hstl
  refine (orClose_looks 2 (confirmOwnership_looks mounted)).seq (fun _ faults _ => ?_) fun _ _ => hstl
  refine (unmountChecked_ends (w := ⟨w.state, faults⟩) False.elim hplc hpar hopd hid
    fun {t} _ => (confirmUndone_looks mounted t.faults).mono ?_ ?_).mono ?_ ?_
  · exact fun _ _ h => ⟨h.1, fun h => h.elim, h.2⟩
  · exact fun _ _ h => ⟨h, fun h => h.elim⟩
  · exact fun _ t ht => ⟨ht.1, ht.2.2⟩
  · exact fun _ t ht => ht.1

/-- **A rollback without an error leaves none of the mounts.** -/
theorem rollbackSambaMounts_ends {ε : Type} :
    ∀ {mounts : List SambaMountedPath} {res : Option OpError} {w : Faulty ConnectionWorld},
      (∀ mounted ∈ mounts, Placed host mounted) →
      (rollbackSambaMounts texts M roots mounts res : Program ε _).Ends w
        (fun err t => Progress M roots mounts w.state t.state ∧
          (err = none → res = none ∧ ∀ mounted ∈ mounts, entriesAt t.state.fs.table mounted.path = []))
        (fun _ _ => False)
  | [], res, w, _ => .pure ⟨.refl .., fun h => ⟨h, fun _ h => absurd h not_mem_nil⟩⟩
  | mounted :: mounts, res, w, hplc => by
    have hone : (attempt (rollbackMount texts M roots mounted) : Program ε _).Ends w
        (fun undone t => Progress M roots [mounted] w.state t.state ∧
          (failureOf undone = none → entriesAt t.state.fs.table mounted.path = [])) (fun _ _ => False) :=
      .attempt ((rollbackMount_ends (hplc mounted (.head _))).mono
        (fun _ _ h => ⟨h.1, fun _ => h.2⟩) fun _ _ h => ⟨h, nofun⟩)
    refine .seq (hone.imp fun undone t ⟨hpg, hgn⟩ => ?_)
    refine (rollbackSambaMounts_ends fun other hoth => hplc other (.tail _ hoth)).imp
      fun err u ⟨hlater, hcl⟩ => ?_
    refine ⟨.trans (hpg.mono fun m hm => mem_singleton.mp hm ▸ (.head _))
      (hlater.mono fun m hm => .tail _ hm), fun hno => ?_⟩
    obtain ⟨hjoined, hcl⟩ := hcl hno
    have hall := joinErrors_eq_none.mp hjoined
    refine ⟨hall _ (.head _), fun m hm => ?_⟩
    rcases mem_cons.mp hm with rfl | hm
    · exact hlater.clear (hgn (hall _ (.tail _ (.head _))))
    · exact hcl m hm

end

/-! ### Storing -/

lemma createConnection_ok {key : Nat} (h : (db.createConnection row).1 = .ok key) :
    (db.createConnection row).2.rows.lookup key = some { row with credential := ⟨none, none,
      .null, 0⟩ } := by
  unfold ConnectionTable.createConnection at h ⊢
  split at h
  · cases h
  · cases h
    exact lookup_insert _

lemma createConnection_error {err : OpError} (h : (db.createConnection row).1 = .error err) :
    (db.createConnection row).2 = db := by
  unfold ConnectionTable.createConnection at h ⊢
  split at h
  · rfl
  · cases h

lemma updateConnectionMountState_ok {key : Nat} {port directories bootID ids : Bytes}
    {u : Unit} (hrow : db.rows.lookup key = some row)
    (h : (db.updateConnectionMountState key port directories bootID ids).1 = .ok u) :
    (db.updateConnectionMountState key port directories bootID ids).2.rows.lookup key
      = some (row.withMountState port directories bootID ids) := by
  unfold ConnectionTable.updateConnectionMountState at h ⊢
  rw [hrow] at h ⊢
  by_cases hz : key = 0
  · rw [if_pos hz] at h
    cases h
  · rw [if_neg hz] at h ⊢
    cases hverify : db.verifyLegacyConnectionMutationState with
    | error err =>
      rw [hverify] at h
      cases h
    | ok u => exact lookup_insert _

lemma updateConnectionMountState_error {key : Nat} {port directories bootID ids : Bytes}
    {err : OpError}
    (h : (db.updateConnectionMountState key port directories bootID ids).1 = .error err) :
    (db.updateConnectionMountState key port directories bootID ids).2 = db := by
  unfold ConnectionTable.updateConnectionMountState at h ⊢
  by_cases hz : key = 0
  · rw [if_pos hz]
  · rw [if_neg hz] at h ⊢
    split
    · split at h <;> simp_all
    · rfl

/-! ## 10. A request as a whole -/

section

variable {machine : Machine} {roots : ManagedRoots} {host : Bytes}
variable {recorded : Bytes → Nat → Prop} {directories : List Bytes} {w : Faulty ConnectionWorld}

/-- What a request that has mounted all shares hands to the table of connections. -/
structure Stored (machine : Machine) (roots : ManagedRoots) (host : Bytes) (recorded : Bytes → Nat → Prop)
    (directories : List Bytes) (s t : ConnectionWorld) (encoded : Bytes) : Prop where
  mounting : ∃ mounted, Mounting machine roots host s t mounted
  ids : ∃ mountIDs, Recorded host recorded s t directories mountIDs ∧
    encodeSambaMountIDs machine.text mountIDs 64 = .ok encoded

section

variable {α : Type} {texts : RollbackTexts} {prepare : Program OpError Unit}
variable {mountOne : SambaMountPlan → Program MountFailure MountedShare}
variable {eff : Bytes → ConnectionTable → Except OpError α × ConnectionTable}
variable (hprepare : Preserves (fun s t => t = s) prepare) (hho : validatePathComponent host = true)
  (hone : ∀ d ∈ directories, MountsShare machine roots host recorded mountOne d)
  (hv : ∀ d ∈ directories, validatePathComponent d = true) (hnd : directories.Nodup)
  (hsm : ∀ encoded err, (eff encoded w.state.db).1 = .error err →
    (eff encoded w.state.db).2 = w.state.db)
include hprepare hho hone hv hnd hsm

lemma mountAndStore_ends : (mountAndStore machine prepare mountOne (directories.map (planOf host))
      fun encoded => mutate (eff encoded)).Ends w
      (fun a t => ∃ u encoded, Stored machine roots host recorded directories w.state u encoded ∧
        (eff encoded w.state.db).1 = .ok a ∧ t.state = { u with db := (eff encoded w.state.db).2 })
      (fun failure t => Mounting machine roots host w.state t.state failure.mounted) := by
  have hsrt : Recorded host recorded w.state w.state [] ∅ :=
    ⟨fun _ h => absurd h not_mem_nil, fun d mid h => by
      cases h⟩
  refine .bind (.onError ((hprepare.looks w.faults).mono (fun _ _ h => h.1) fun _ _ h => h ▸ .refl ..)) ?_
  rintro _ ⟨state, faults⟩ rfl
  refine .bind (mountPlans_ends (w := ⟨w.state, faults⟩) hho hone hv hnd
    (fun _ _ => not_mem_nil) (fun _ h => absurd h not_mem_nil) (.refl ..) hsrt) ?_
  rintro ⟨ids, mounted⟩ u ⟨hmnt, hrec⟩
  refine .seq (.onError (.ofExcept (fun encoded henc => ?_) fun err herr => hmnt))
  have hdb := hmnt.db
  refine .onError (mutate_ends False.elim (fun a _ ha => ?_) (fun err herr => ?_)
    fun err herr => hmnt)
  · rw [hdb] at ha
    exact ⟨u.state, encoded, ⟨⟨mounted, hmnt⟩, ids, hrec, henc⟩, ha, by rw [hdb]⟩
  · rw [hdb] at herr ⊢
    exact hsm encoded err herr

/-- **The part that is undone when it fails.** -/
theorem mountConnection_ends :
    (mountConnection machine roots texts prepare mountOne (directories.map (planOf host))
        fun encoded => mutate (eff encoded)).Ends w
      (fun a t => ∃ u encoded, Stored machine roots host recorded directories w.state u encoded ∧
        (eff encoded w.state.db).1 = .ok a ∧ t.state = { u with db := (eff encoded w.state.db).2 })
      (fun undone t => (∃ mounted, Mounting machine roots host w.state t.state mounted) ∧
        (undone.rollback = none → t.state.fs.table = w.state.fs.table)) := by
  refine .seq (.attempt ((mountAndStore_ends hprepare hho hone hv hnd hsm).mono
    (fun a t ht => .pure ht) fun failure t hmnt => ?_))
  refine .bind ((rollbackSambaMounts_ends fun m hm => hmnt.placed m (mem_reverse.mp hm)).impError
    fun _ _ h => h.elim) ?_
  rintro rollbackErr u ⟨hpg, hcl⟩
  have hundone := hmnt.undo hpg fun m hm => mem_reverse.mp hm
  refine .fail ⟨⟨_, hundone⟩, fun hno => hundone.table_eq fun m hm => ?_⟩
  exact (hcl hno).2 m (mem_reverse.mpr hm)

end

end

/-! ## 11. The main theorem -/

/-- **The mounts of before are left alone**: all of them are still there, and no request was made at
their paths. A new mount goes on an empty directory on which nothing is mounted. -/
structure LeavesOthers (machine : Machine) (s t : ConnectionWorld) : Prop where
  kept : s.fs.table.Sublist t.fs.table
  requests : ∃ more, t.requests = s.requests ++ more ∧ ∀ request ∈ more,
    entriesAt s.fs.table request.path = [] ∧
    (request.kind = .mount → entriesAt request.before.table request.path = [] ∧
      ∃ roots opened, EmptyDirectory machine roots request.before request.path opened)

/-- **The row and the mounts agree.** An id in the row is that of a new mount, or was `recorded`. -/
structure MountedAndStored (machine : Machine) (recorded : Bytes → Nat → Prop) (s : ConnectionWorld)
    (key : Nat) (t : ConnectionWorld) : Prop where
  row : ∃ row directories mountIDs, t.db.rows.lookup key = some row ∧
    parseSambaDirectories row.directories 64 = .ok directories ∧
    parseSambaMountIDs machine.text row.mountIDs 64 = .ok mountIDs ∧
    bootIDOf t.bootFile = .ok row.bootID ∧
    (∀ directory ∈ directories, ∃ entry mountID,
      entriesAt t.fs.table (sambaMountPoint row.host directory) = [entry] ∧
      entry.fsType = utf8 "cifs" ∧ entry.source = sambaSource row.host directory ∧
      mountIDs.lookup directory = some mountID ∧ entry.id = ((mountID : Nat) : Int)) ∧
    ∀ directory mountID, mountIDs.lookup directory = some mountID →
      (∀ entry ∈ s.fs.table, entry.id ≠ ((mountID : Nat) : Int)) ∨ recorded directory mountID
  others : LeavesOthers machine s t

/-- **A failure**: the table of connections is as before, and without an error of the rollback so is
the mount table. -/
structure RolledBack (machine : Machine) (s : ConnectionWorld) (rollback : Option OpError)
    (t : ConnectionWorld) : Prop where
  db : t.db = s.db
  table : rollback = none → t.fs.table = s.fs.table
  others : LeavesOthers machine s t

section

variable {machine : Machine} {roots : ManagedRoots} {host : Bytes} {s t u : ConnectionWorld}
variable {w : Faulty ConnectionWorld}

lemma LeavesOthers.of_mounting {mounted : List SambaMountedPath} (hsm : SameMounts s t)
    (h : Mounting machine roots host t u mounted) : LeavesOthers machine s u := by
  obtain ⟨more, hmore, hall⟩ := h.requests
  refine ⟨hsm.table ▸ h.kept, more, hsm.requests ▸ hmore, fun request hreq => ?_⟩
  obtain ⟨hcl, hmnt⟩ := hall request hreq
  refine ⟨hsm.table ▸ hcl, fun hkind => ?_⟩
  obtain ⟨hfe, opened, hem⟩ := hmnt hkind
  exact ⟨hfe, roots, opened, hem⟩

lemma RolledBack.of_sameMounts (h : SameMounts s t) (rollback : Option OpError) :
    RolledBack machine s rollback t :=
  ⟨h.db, fun _ => h.table, h.table ▸ List.Sublist.refl _, [], by rw [h.requests, append_nil],
    fun _ hmem => absurd hmem not_mem_nil⟩

/-- What the failure of the last part means for the whole. -/
lemma RolledBack.of_mounting {mounted : List SambaMountedPath} {rollback : Option OpError}
    (hsm : SameMounts s t) (h : Mounting machine roots host t u mounted)
    (htable : rollback = none → u.fs.table = t.fs.table) : RolledBack machine s rollback u :=
  ⟨h.db.trans hsm.db, fun hno => (htable hno).trans hsm.table, .of_mounting hsm h⟩

/-- What its success means, when the row is stored under `key`. -/
lemma MountedAndStored.of_stored {recorded : Bytes → Nat → Prop} {directories : List Bytes}
    {encoded : Bytes} {row : ConnectionRow} {db : ConnectionTable} {key : Nat} (hsm : SameMounts s t)
    (h : Stored machine roots row.host recorded directories t u encoded)
    (hmtb : directories ≠ [] → Mountable directories 64)
    (hrow : db.rows.lookup key = some row) (hlist : row.directories = intercalate [44] directories)
    (hids : row.mountIDs = encoded) (hbt : bootIDOf s.bootFile = .ok row.bootID) :
    MountedAndStored machine recorded s key { u with db := db } := by
  obtain ⟨mounted, hmnt⟩ := h.mounting
  obtain ⟨mountIDs, hrec, henc⟩ := h.ids
  obtain ⟨read, hrd, hlk⟩ := parse_encode henc
  have hne : directories ≠ [] := by
    rintro rfl
    simp only [encodeSambaMountIDs, bind_eq_ok, check_eq_ok] at henc
    obtain ⟨_, hsz, -⟩ := henc
    refine (not_or.mp hsz).1 (length_eq_zero_iff.mpr (eq_nil_iff_forall_not_mem.mpr ?_))
    intro entry hent
    exact not_mem_nil (hrec.ids _ _ (NameTable.mem_entries_iff.mp hent)).1
  have hoth : LeavesOthers machine s { u with db := db } :=
    ⟨(LeavesOthers.of_mounting hsm hmnt).kept, (LeavesOthers.of_mounting hsm hmnt).requests⟩
  refine ⟨⟨row, directories, read, hrow, hlist ▸ (hmtb hne).parse, hids ▸ hrd, ?_, ?_, ?_⟩, hoth⟩
  · rw [← hbt, ← hsm.bootFile, ← hmnt.bootFile]
  · intro directory hmem
    obtain ⟨entry, hent, hmount, hid⟩ := hrec.mounts directory hmem
    have := hmount.positive
    exact ⟨entry, _, hent, hmount.fsType, hmount.source, (hlk directory).trans hid, by omega⟩
  · intro directory mid hfnd
    rw [← hsm.table]
    exact (hrec.ids directory mid ((hlk directory).symm.trans hfnd)).2

lemma MountedAndStored.imp {recorded recorded' : Bytes → Nat → Prop} {key : Nat}
    (h : MountedAndStored machine recorded s key t)
    (himp : ∀ directory mid, recorded directory mid → recorded' directory mid) :
    MountedAndStored machine recorded' s key t := by
  obtain ⟨row, directories, ids, hrow, hlist, hids, hbt, hmounts, horig⟩ := h.row
  refine ⟨⟨row, directories, ids, hrow, hlist, hids, hbt, hmounts, fun d mid hd => ?_⟩, h.others⟩
  exact (horig d mid hd).imp_right (himp d mid)

lemma createMounts_ends {conn : Connection} {base : ManagedLocation} {bootID : Bytes}
    {directories : List Bytes} (hho : validatePathComponent conn.host)
    (hba : roots.matchPath (hostPath conn.host) = .ok base)
    (hmtb : Mountable directories 64) (hbt : bootIDOf w.state.bootFile = .ok bootID) :
    (createMounts machine roots conn base.canonical bootID directories).Ends w
      (fun key t => MountedAndStored machine (fun _ _ => False) w.state key t.state)
      (fun refusal t => RolledBack machine w.state refusal.rollback t.state) := by
  have hv : ∀ d ∈ directories, validatePathComponent d := fun d hd => hmtb.component hd
  refine .seq (.onError ((ensureSambaHostDirectory_preserves _).ends trivial (fun _ t _ hsm => ?_)
    fun _ t _ hsm => .of_sameMounts hsm _))
  refine .seq (.onError ((refuseMounted_preserves _ _).ends trivial (fun _ u _ hsm' => ?_)
    fun _ u _ hsm' => .of_sameMounts (hsm.trans hsm') _))
  have hsm := hsm.trans hsm'
  refine .bind (.onError ((planShares_ends ensureSambaMountDirectory_preserves hho hba hv).impError
    fun _ v hsm' => .of_sameMounts (hsm.trans hsm') _)) ?_
  rintro plans v ⟨hsm', rfl⟩
  have hsm := hsm.trans hsm'
  refine .seq (.onError (.guard (fun _ => .of_sameMounts hsm _) fun _ => ?_))
  have hone : ∀ d ∈ directories, MountsShare machine roots conn.host (fun _ _ => False)
      (createMount machine roots conn) d := fun d hd =>
    createMount_mountsShare hho (hmtb.valid d hd)
  refine .onError ((mountConnection_ends (createPrepare_preserves _ _) hho hone hv hmtb.nodup
    fun _ _ => createConnection_error).mono ?_ ?_)
  · rintro key x ⟨y, encoded, hstd, hkey, hsta⟩
    rw [hsta]
    exact .of_stored hsm hstd (fun _ => hmtb) (createConnection_ok hkey) rfl rfl hbt
  · rintro undone x ⟨⟨mounted, hmnt⟩, htable⟩
    exact .of_mounting hsm hmnt htable

lemma postSambaConnectionsCreate_ends (request : Connection)
    (shares : Except OpError (List Bytes)) :
    (postSambaConnectionsCreate machine request shares).Ends w
      (fun key t => MountedAndStored machine (fun _ _ => False) w.state key t.state)
      (fun refusal t => RolledBack machine w.state refusal.rollback t.state) := by
  have hstl : ∀ rollback, RolledBack machine w.state rollback w.state :=
    RolledBack.of_sameMounts (refl _)
  have hcm : ∀ {t : Faulty ConnectionWorld}, False → t.Quiet := fun h => h.elim
  refine .seq (.onError (.ofExcept (fun _ hflds => ?_) fun _ _ => hstl _))
  refine .seq (.onError (consult_ends hcm (fun connections _ _ => ?_) fun _ _ => hstl _))
  refine .seq (.guard (fun _ => hstl _) fun _ => ?_)
  refine .seq (.onError (.ofExcept (fun offered _ => ?_) fun _ _ => hstl _))
  refine .seq (.onError (.ofExcept (fun directories hdirs => ?_) fun _ _ => hstl _))
  unfold managementFileRoots
  cases machine.roots with
  | none => exact .seq (.fail (hstl _))
  | some roots =>
    refine .seq (.pure ?_)
    refine .seq (.onError (consult_ends hcm (fun bootID _ hbt => ?_) fun _ _ => hstl _))
    refine .seq (.onError (.ofExcept (fun base hba => ?_) fun _ _ => hstl _))
    exact createMounts_ends (validateSambaConnectionFields_host hflds) hba
      (filterSambaMountableShares_ok hdirs).1 hbt

/-- What a row has recorded in this boot, as it is stored. -/
def RecordedInBoot (machine : Machine) (row : ConnectionRow) (currentBootID directory : Bytes)
    (mountID : Nat) : Prop :=
  row.bootID = currentBootID ∧ ∃ mountIDs, parseSambaMountIDs machine.text row.mountIDs 64 = .ok mountIDs ∧
    mountIDs.lookup directory = some mountID

lemma restoreSambaConnectionMounts_ends {key : Nat} {row : ConnectionRow} {currentBootID : Bytes}
    (hstd : w.state.db.rows.lookup key = some row)
    (hbt : bootIDOf w.state.bootFile = .ok currentBootID) :
    (restoreSambaConnectionMounts machine roots key row currentBootID).Ends w
      (fun _ t => MountedAndStored machine (RecordedInBoot machine row currentBootID) w.state key t.state)
      (fun undone t => RolledBack machine w.state undone.rollback t.state) := by
  have hstl : ∀ rollback, RolledBack machine w.state rollback w.state :=
    RolledBack.of_sameMounts (refl _)
  refine .seq (.onError (.ofExcept (fun parsed hprsd => ?_) fun _ _ => hstl _))
  obtain ⟨-, hcnt, hsub, hnd, hv, -, -⟩ := parsePersistedSambaConnection_ok hprsd
  refine .seq (.onError (.ofExcept (fun _ hflds => ?_) fun _ _ => hstl _))
  refine .seq (.onError (.ofExcept (fun ids hids => ?_) fun _ _ => hstl _))
  refine .seq (.onError (.ofExcept (fun base hba => ?_) fun _ _ => hstl _))
  refine .seq (.guard (fun _ => hstl _) fun _ => ?_)
  have hho := validateSambaConnectionFields_host hflds
  have hcp : ∀ d ∈ parsed.directories, validatePathComponent d := fun d hd =>
    (validateSambaDirectoryName_ok (hv d hd)).1
  refine .seq (.onError ((prepareLegacy_preserves _ _).ends trivial (fun _ t _ hsm => ?_)
    fun _ t _ hsm => .of_sameMounts hsm _))
  refine .seq (.onError ((ensureSambaHostDirectory_preserves _).ends trivial (fun _ u _ hsm' => ?_)
    fun _ u _ hsm' => .of_sameMounts (hsm.trans hsm') _))
  have hsm := hsm.trans hsm'
  refine .bind (.onError ((planShares_ends ensureSambaHostDirectory_preserves hho hba hcp).impError
    fun _ v hsm' => .of_sameMounts (hsm.trans hsm') _)) ?_
  rintro plans v ⟨hsm', rfl⟩
  have hsm := hsm.trans hsm'
  refine .seq (.onError (.guard (fun _ => .of_sameMounts hsm _) fun _ => ?_))
  refine (mountConnection_ends (restorePrepare_preserves _ _) hho
    (fun d hd => restoreMount_mountsShare hho (hv d hd) parsed.port currentBootID ids) hcp
    (hnd.sublist hsub) fun _ _ => updateConnectionMountState_error).mono ?_ ?_
  · rintro _ x ⟨y, encoded, hall, hkey, hsta⟩
    have hmtb : parsed.directories ≠ [] → Mountable parsed.directories 64 := fun hne =>
      ⟨hne, hsub.length_le.trans hcnt, hnd.sublist hsub, hv⟩
    have hrow := updateConnectionMountState_ok (hsm.db ▸ hstd) hkey
    have hall' : Stored machine roots (row.withMountState parsed.port
        (intercalate [44] parsed.directories) currentBootID encoded).host _ _ _ _ _ := hall
    rw [hsta]
    refine (MountedAndStored.of_stored hsm hall' hmtb hrow rfl rfl hbt).imp
      fun directory mid hrec => ⟨hrec.1, ids, ?_, hrec.2⟩
    unfold persistedIDs at hids
    split at hids
    · cases hids
      have hlk := hrec.2
      cases hlk
    · exact hids
  · rintro undone x ⟨⟨mounted, hmnt⟩, htable⟩
    exact .of_mounting hsm hmnt htable

end

/-- **Creating and restoring a connection is transactional.** -/
theorem samba_mounts_transactional (machine : Machine) (w : Faulty ConnectionWorld) :
    (∀ request shares, (postSambaConnectionsCreate machine request shares).Ends w
      (fun key t => MountedAndStored machine (fun _ _ => False) w.state key t.state)
      (fun refusal t => RolledBack machine w.state refusal.rollback t.state)) ∧
    ∀ roots key row currentBootID, w.state.db.rows.lookup key = some row →
      bootIDOf w.state.bootFile = .ok currentBootID →
      (restoreSambaConnectionMounts machine roots key row currentBootID).Ends w
        (fun _ t => MountedAndStored machine (RecordedInBoot machine row currentBootID) w.state key t.state)
        (fun undone t => RolledBack machine w.state undone.rollback t.state) :=
  ⟨fun request shares => postSambaConnectionsCreate_ends request shares,
    fun _ _ _ _ hstored hboot => restoreSambaConnectionMounts_ends hstored hboot⟩

theorem sampleRestore_transactional :
    (restoreSambaConnectionMounts sampleMachine sampleRoots 1 sampleRow sampleBootID).Ends sampleWorld
      (fun _ t => MountedAndStored sampleMachine (RecordedInBoot sampleMachine sampleRow sampleBootID)
        sampleWorld.state 1 t.state)
      (fun undone t => RolledBack sampleMachine sampleWorld.state undone.rollback t.state) :=
  (samba_mounts_transactional sampleMachine sampleWorld).2 sampleRoots 1 sampleRow sampleBootID
    (lookup_insert _) (ok_of_toOption (by decide +kernel))

end ReCasaOS.Samba
