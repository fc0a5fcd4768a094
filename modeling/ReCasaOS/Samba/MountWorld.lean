/-
# The machine under the Samba connections

What the routes of `route/v1/samba.go` and `route/init.go` work on: the mounted file system, as it is
seen below the pinned roots (`managed_mount_linux.go`), and the table of connections
(`service/connections.go`). Everything the routes ask for is one call here, and every call may fail;
a call that fails has done nothing, and only a missing file is reported as missing.

The world keeps a record that no program reads: every request to mount or to unmount, with the file
system as it was at that moment (`requests`).

The pinned roots are directories apart from each other, so `validateManagedDestinationFD` fails only
if one of its calls does; and what `MkdirAll` says of a partial creation is left out.
-/
import ReCasaOS.Samba.ConnectionRules

namespace ReCasaOS.Samba

open Lib FileSecurity List Option Fallible

/-! ## 1. The table of connections -/

/-- `password_envelope`, by its storage class. -/
inductive EnvelopeColumn
  | null
  | blob (data : Bytes)
  | text (data : Bytes)
  deriving DecidableEq

/-- The columns of sealed credentials; `none` is NULL. -/
structure CredentialColumns where
  credentialID : Option Bytes
  credentialFormat : Option Bytes
  passwordEnvelope : EnvelopeColumn
  rowRevision : Int
  deriving DecidableEq

/-- `LegacySMBCredentialRowPredicateSQL`. -/
def CredentialColumns.isLegacy (columns : CredentialColumns) : Bool :=
  (columns.credentialID == none || columns.credentialID == some [])
    && (columns.credentialFormat == none || columns.credentialFormat == some [])
    && (columns.passwordEnvelope == .null || columns.passwordEnvelope == .blob [])
    && columns.rowRevision == 0

/-- `ConnectionsDBModel`, without the id, which is the key of the row. -/
structure ConnectionRow where
  username : Bytes
  password : Bytes
  host : Bytes
  port : Bytes
  directories : Bytes
  mountPoint : Bytes
  bootID : Bytes
  mountIDs : Bytes
  credential : CredentialColumns
  deriving DecidableEq

/-- The columns that `updateLegacyConnectionMountStateRecord` sets. -/
def ConnectionRow.withMountState (row : ConnectionRow) (port directories bootID mountIDs : Bytes) :
    ConnectionRow :=
  { row with port := port, directories := directories, bootID := bootID, mountIDs := mountIDs }

structure ConnectionTable where
  rows : NameTable Nat ConnectionRow
  /-- The number of rows of `o_security_migrations`. -/
  migrations : Nat

def mutationRejected : OpError := textError "SMB connection mutation rejected"

def mutationFailed : OpError := textError "SMB connection mutation failed"

namespace ConnectionTable

variable (db : ConnectionTable)

def verifyLegacyConnectionMutationState : Except OpError Unit := do
  check (db.rows.entries.any (fun row => !row.2.credential.isLegacy)) mutationRejected
  check (db.migrations ≠ 0) mutationRejected

/-- The key of a new row. -/
def newKey : Nat := db.rows.keys.foldr max 0 + 1

/-- `CreateConnection`; the columns that are not selected keep their defaults. -/
def createConnection (row : ConnectionRow) : Except OpError Nat × ConnectionTable :=
  match db.verifyLegacyConnectionMutationState with
  | .error err => (.error err, db)
  | .ok _ =>
    (.ok db.newKey, { db with
      rows := db.rows.insert db.newKey { row with credential := ⟨none, none, .null, 0⟩ } })

def updateConnectionMountState (id : Nat) (port directories bootID mountIDs : Bytes) :
    Except OpError Unit × ConnectionTable :=
  if id = 0 then (.error mutationRejected, db)
  else
    match db.verifyLegacyConnectionMutationState, db.rows.lookup id with
    | .ok _, some row =>
      (.ok (), { db with
        rows := db.rows.insert id (row.withMountState port directories bootID mountIDs) })
    | _, _ => (.error mutationRejected, db)

/-- `DeleteConnection`, of the key that the text stands for. -/
def deleteConnection (id : Nat) : Except OpError Unit × ConnectionTable :=
  match db.verifyLegacyConnectionMutationState, db.rows.lookup id with
  | .ok _, some _ => (.ok (), { db with rows := db.rows.erase id })
  | _, _ => (.error mutationRejected, db)

end ConnectionTable

/-! ## 2. The world -/

inductive RequestKind
  | mount
  | unmount
  deriving DecidableEq

structure MountRequest where
  kind : RequestKind
  path : Bytes
  /-- The file system when the request was made. -/
  before : MountedTree

structure ConnectionWorld where
  fs : MountedTree
  db : ConnectionTable
  /-- `/proc/sys/kernel/random/boot_id`. -/
  bootFile : Bytes
  requests : List MountRequest

/-- What stays as it is: the pinned roots and the mounts that they lie on, the ids of new mounts,
how a text is read as a key, and JSON. -/
structure Machine where
  roots : Option ManagedRoots
  pinned : Bytes → Int
  ids : MountIDs
  sqlKey : Bytes → Option Nat
  text : MountIDText

/-- A program of a route. -/
abbrev Program (ε α : Type) := Fallible (Faulty ConnectionWorld) ε α

/-- A call that only asks. -/
def consult {α : Type} (answer : ConnectionWorld → Except OpError α) : Program OpError α :=
  act errnoError fun world => (answer world, world)

/-- A call that changes the file system. -/
def changeTree {α : Type} (effect : MountedTree → Except Errno α × MountedTree) : Program OpError α :=
  act errnoError fun world =>
    ((effect world.fs).1.mapError errnoError, { world with fs := (effect world.fs).2 })

/-- A transaction on the table of connections. -/
def mutate {α : Type} (effect : ConnectionTable → Except OpError α × ConnectionTable) :
    Program OpError α :=
  act (fun _ => mutationFailed) fun world =>
    ((effect world.db).1, { world with db := (effect world.db).2 })

def record (kind : RequestKind) (path : Bytes) : Program OpError Unit :=
  Fallible.modify fun w =>
    ⟨{ w.state with requests := w.state.requests ++ [⟨kind, path, w.state.fs⟩] }, w.faults⟩

/-! ### Rules

A run is looked at in two ways: with any faults, and without. `calm` is what makes the second: if it
holds nothing fails, and a call that returns an error has it for an answer. -/

section

variable {α : Type} {calm : Prop} {w : Faulty ConnectionWorld} {P : α → Faulty ConnectionWorld → Prop}
variable {E : OpError → Faulty ConnectionWorld → Prop}

lemma calm_tail (hcm : calm → w.Quiet) (world : ConnectionWorld) :
    calm → Faulty.Quiet ⟨world, w.faults.tail⟩ :=
  fun h => (hcm h).tail world

lemma not_calm {failure : Failure} (hcm : calm → w.Quiet) (hnx : w.next = some failure) : ¬ calm := by
  intro h
  rw [(hcm h).next] at hnx
  cases hnx

/-- A call that only asks keeps the world; a file is reported missing only if it is. -/
lemma consult_ends {ans : ConnectionWorld → Except OpError α} (hcm : calm → w.Quiet)
    (hok : ∀ a, (calm → w.later.Quiet) → ans w.state = .ok a → P a w.later)
    (herror : ∀ err, (notExist err ∨ calm → ans w.state = .error err) →
      E err w.later) : (consult ans).Ends w P E := by
  refine Ends.act (fun failure hnx => herror _ ?_)
    (fun a ha => hok a (calm_tail hcm _) ha) fun err herr => herror err fun _ => herr
  rintro (habs | h)
  · exact absurd (beq_iff_eq.mp habs) failure.known.1
  · exact absurd h (not_calm hcm hnx)

/-- `Close`, `Stat` and the like: a call whose result matters only if it is an error. -/
def closeFile : Program OpError Unit := consult fun _ => .ok ()

lemma closeFile_ends {P : Unit → Faulty ConnectionWorld → Prop} (hcm : calm → w.Quiet)
    (hok : (calm → w.later.Quiet) → P () w.later)
    (herror : ∀ err, ¬ calm → E err w.later) : closeFile.Ends w P E := by
  refine consult_ends hcm (fun _ hcm _ => hok hcm) fun err herr => herror err fun h => ?_
  cases herr (.inr h)

lemma mutate_ends {eff : ConnectionTable → Except OpError α × ConnectionTable}
    (hcm : calm → w.Quiet)
    (hok : ∀ a, (calm → w.Quiet) → (eff w.state.db).1 = .ok a →
      P a ⟨{ w.state with db := (eff w.state.db).2 }, w.faults.tail⟩)
    (hsm : ∀ err, (eff w.state.db).1 = .error err → (eff w.state.db).2 = w.state.db)
    (herror : ∀ err, (calm → (eff w.state.db).1 = .error err) → E err w.later) :
    (mutate eff).Ends w P E := by
  refine Ends.act (fun failure hnx => herror _ fun h => ?_)
    (fun a ha => hok a hcm ha) fun err herr => ?_
  · exact absurd h (not_calm hcm hnx)
  · rw [hsm err herr]
    exact herror err fun _ => herr

lemma changeTree_ends {eff : MountedTree → Except Errno α × MountedTree} (hcm : calm → w.Quiet)
    (hok : ∀ a, (∀ world : ConnectionWorld, calm → Faulty.Quiet ⟨world, w.faults.tail⟩) →
      (eff w.state.fs).1 = .ok a → P a ⟨{ w.state with fs := (eff w.state.fs).2 }, w.faults.tail⟩)
    (hsm : ∀ code, (eff w.state.fs).1 = .error code → (eff w.state.fs).2 = w.state.fs)
    (herror : ∀ err, (calm → ∃ code, (eff w.state.fs).1 = .error code) → E err w.later) :
    (changeTree eff).Ends w P E := by
  refine Ends.act (fun failure hnx => herror _ fun h => ?_)
    (fun a ha => hok a (calm_tail hcm) (mapError_eq_ok.mp ha)) fun err herr => ?_
  · exact absurd h (not_calm hcm hnx)
  · cases hr : (eff w.state.fs).1 with
    | ok a =>
      rw [hr] at herr
      cases herr
    | error code =>
      rw [hsm code hr]
      exact herror err fun _ => ⟨code, hr⟩

lemma record_ends {kind : RequestKind} {path : Bytes} {P : Unit → Faulty ConnectionWorld → Prop}
    (h : P () ⟨{ w.state with requests := w.state.requests ++ [⟨kind, path, w.state.fs⟩] }, w.faults⟩) :
    (record kind path).Ends w P E :=
  .modify h

end

/-! ## 3. Files -/

/-- An open directory, by the mount it is on and its path. -/
structure Descriptor where
  mount : Int
  path : Bytes

section

variable (machine : Machine) (roots : ManagedRoots)

/-- What `OpenDirectory` finds. -/
def openedDirectory (path : Bytes) (fs : MountedTree) : Except OpError Descriptor := do
  check (roots.closed) (textError "file already closed")
  let location ← roots.resolveLocked path
  let mount ← (fs.resolve (components location.root) (components location.relative)
    (machine.pinned location.root)).mapError classifyManagedResolutionError
  .ok ⟨mount, location.canonical⟩

def openDirectory (path : Bytes) : Program OpError Descriptor :=
  consult fun world => openedDirectory machine roots path world.fs

/-- `MountID`. -/
def descriptorMountID (opened : Descriptor) : Program OpError Nat :=
  consult fun _ => do
    check (roots.closed) (textError "file already closed")
    .ok opened.mount.toNat

/-- `validateManagedOpenedFile`, when a directory is allowed. -/
def validateNode : Node → Except OpError Unit
  | .directory _ => .ok ()
  | .regular nlink => check (nlink ≠ 1) (unsafeError "managed regular file has multiple hard links")
  | .other => .error (unsafeError "managed path is not an allowed file type")

/-- What `IsMountPoint` finds. -/
def mountBoundary (path : Bytes) (fs : MountedTree) : Except OpError Bool := do
  check (roots.closed) (textError "file already closed")
  let location ← roots.resolveLocked path
  check (location.relative = [46]) (unsafeError "configured root cannot be modified")
  check (validatePathComponent location.base = false) (.leaf .unsafePath)
  let parent ← (fs.resolve (components location.root) (components location.relative).dropLast
    (machine.pinned location.root)).mapError classifyManagedResolutionError
  let target ← (fs.step parent location.canonical).mapError classifyManagedResolutionError
  validateNode target.2
  .ok (decide (target.1 ≠ parent))

def isMountPoint (path : Bytes) : Program OpError Bool :=
  consult fun world => mountBoundary machine roots path world.fs

/-- `ReadDir(limit)`; the end of the directory is the empty list. -/
def readDir (directory : Descriptor) (limit : Nat) : Program OpError (List DirEntry) :=
  consult fun world =>
    match world.fs.listing directory.mount directory.path with
    | none => .error (errnoError .enotdir)
    | some entries => .ok (entries.take limit)

/-- `Close`, as often as there are descriptors to close, whatever it returns. -/
def closeAll {ε : Type} : (count : Nat) → Program ε (List (Option OpError))
  | 0 => pure []
  | count + 1 => do
    let closed ← attempt closeFile
    let rest ← closeAll count
    pure (failureOf closed :: rest)

/-- `return errors.Join(err, a.Close(), b.Close())`. -/
def failClosing {α : Type} (count : Nat) (err : OpError) : Program OpError α := do
  let closed ← closeAll count
  fail (.joined (err :: closed.reduceOption))

/-- The same, on the error of a call. -/
def orClose {α : Type} (count : Nat) (m : Program OpError α) : Program OpError α := do
  match ← attempt m with
  | .ok a => pure a
  | .error err => failClosing count err

/-- The way down of `MkdirAll` to the next name, which is created if it is missing. -/
def makeDirectory (mount : Int) (dir : List Bytes) (name : Bytes) : Program OpError Int := do
  match ← attempt (consult fun world =>
      (world.fs.enter mount (absolutePath (dir ++ [name]))).mapError errnoError) with
  | .ok next => pure next
  | .error err =>
    if notExist err then do
      changeTree fun fs => fs.mkdirAt mount dir name
      closeFile -- the sync of the parent
      consult fun world => (world.fs.enter mount (absolutePath (dir ++ [name]))).mapError errnoError
    else fail err

def mkdirNames : (dir rest : List Bytes) → (mount : Int) → Program OpError Unit
  | _, [], _ => pure ()
  | dir, name :: rest, mount => do
    closeFile -- `validateManagedDestinationFD`
    let next ← makeDirectory mount dir name
    closeFile
    mkdirNames (dir ++ [name]) rest next

def mkdirAll (path : Bytes) : Program OpError Unit := do
  acquireMutation roots.closed
  let location ← ofExcept (roots.resolveLocked path)
  mkdirNames (components location.root) (components location.relative) (machine.pinned location.root)

end

/-! ## 4. Mounts -/

/-- `CurrentBootID`, of what the file holds. -/
def bootIDOf (data : Bytes) : Except OpError Bytes := do
  let bootID := trimSpace data
  check (bootID.length ≠ 36) (textError "invalid Linux boot ID")
  check (bootID.zipIdx.any (fun character =>
      if character.2 = 8 ∨ character.2 = 13 ∨ character.2 = 18 ∨ character.2 = 23 then
        character.1 != 45
      else !(decide (48 ≤ character.1 ∧ character.1 ≤ 57) || decide (97 ≤ character.1 ∧ character.1 ≤ 102)))
     )
    (textError "invalid Linux boot ID")
  .ok bootID

def currentBootID : Program OpError Bytes := consult fun world => bootIDOf world.bootFile

/-- What `InspectSambaMount` finds. -/
def inspectedMount (mountPoint host directory : Bytes) (table : List MountEntry) :
    Except OpError (Option SambaMountIdentity) := do
  check (validatePathComponent host = false) (.leaf .unsafePath)
  validateSambaDirectory directory
  inspectSambaMountEntries mountPoint host directory table

def inspectSambaMount (mountPoint host directory : Bytes) : Program OpError (Option SambaMountIdentity) :=
  consult fun world => inspectedMount mountPoint host directory world.fs.table

/-- What `ValidateSambaMount` finds. -/
def validatedMount (mountPoint host directory : Bytes) (expectedMountID : Nat) (table : List MountEntry) :
    Except OpError Bool := do
  check (validatePathComponent host = false) (.leaf .unsafePath)
  validateSambaDirectory directory
  validateSambaMountEntries mountPoint host directory expectedMountID table

def validateSambaMount (mountPoint host directory : Bytes) (expectedMountID : Nat) : Program OpError Bool :=
  consult fun world => validatedMount mountPoint host directory expectedMountID world.fs.table

section

variable (machine : Machine)

def mountSmaba (username host directory port : Bytes) (mountDirectory : Descriptor) (password : Bytes) :
    Program OpError Unit := do
  ofExcept (validateSambaConnectionFields username password host port)
  ofExcept (validateSambaDirectory directory)
  closeFile -- `Stat`
  record .mount mountDirectory.path
  changeTree fun fs => (.ok (), fs.mountOn machine.ids mountDirectory.mount mountDirectory.path
    (utf8 "cifs") (sambaSource host directory))

/-- The path of an entry of an open directory. -/
def Descriptor.child (parent : Descriptor) (name : Bytes) : Bytes :=
  absolutePath (components parent.path ++ [name])

def unmountSmaba (parentDirectory : Descriptor) (child : Bytes) : Program OpError Unit := do
  guard (validatePathComponent child = false)
    (.wrapped "invalid Samba unmount child" (.leaf .unsafePath))
  closeFile -- `Stat`
  record .unmount (parentDirectory.child child)
  changeTree fun fs => fs.unmountAt parentDirectory.mount (parentDirectory.child child)

end

/-! ## 5. Answers to a route -/

/-- `ctx.JSON` with an error: the status, the code in the result, and the error in its data.
A rollback may add an error of its own. -/
structure Refusal where
  status : Nat
  code : Nat
  cause : Option OpError
  rollback : Option OpError

/-- `CLIENT_ERROR`, `SERVICE_ERROR` with `INVALID_PARAMS`. -/
def invalidParams (status : Nat) : Refusal := ⟨status, 4000, none, none⟩

def serviceError (err : OpError) : Refusal := ⟨500, 500, some err, none⟩

def recordNotExist : Refusal := ⟨400, 20007, none, none⟩

def recordAlreadyExist : Refusal := ⟨500, 20008, some (textError "Record already exists"), none⟩

/-- `if err := m; err != nil { return ctx.JSON(..) }`. -/
def orRefuse {α : Type} (m : Program OpError α) (refusal : OpError → Refusal) : Program Refusal α :=
  m.onError fun _ err => refusal err

def managementFileRoots (machine : Machine) : Program Refusal ManagedRoots :=
  match machine.roots with
  | none => fail ⟨500, 500, none, none⟩
  | some roots => pure roots

section

variable {α : Type} {w : Faulty ConnectionWorld} {P : α → Faulty ConnectionWorld → Prop}
variable {E : OpError → Faulty ConnectionWorld → Prop}

lemma closeAll_ends {ε : Type} {E : ε → Faulty ConnectionWorld → Prop}
    {P : List (Option OpError) → Faulty ConnectionWorld → Prop} (count : Nat) :
    ∀ {w : Faulty ConnectionWorld}, (∀ closed faults, P closed ⟨w.state, faults⟩) →
      (closeAll count : Program ε _).Ends w P E := by
  induction count generalizing P with
  | zero => exact fun hP => .pure (hP _ _)
  | succ count ih =>
    intro w hP
    refine .seq (.attempt (closeFile_ends False.elim (fun _ => ?_) fun err _ => ?_))
    · exact .seq (ih fun closed faults => .pure (hP _ _))
    · exact .seq (ih fun closed faults => .pure (hP _ _))

lemma failClosing_ends (count : Nat) {err : OpError}
    (h : ∀ closed faults, E (.joined (err :: closed)) ⟨w.state, faults⟩) :
    (failClosing count err : Program OpError α).Ends w P E :=
  .seq (closeAll_ends count fun _ _ => .fail (h _ _))

/-- Closing the descriptors changes nothing but the error. -/
lemma orClose_ends (count : Nat) {m : Program OpError α}
    (h : m.Ends w P fun err t => ∀ closed faults, E (.joined (err :: closed)) ⟨t.state, faults⟩) :
    (orClose count m).Ends w P E := by
  refine .seq (.attempt (h.mono (fun a t ha => ?_) fun err t ht => ?_))
  · exact .pure ha
  · exact failClosing_ends count ht

end

/-! ## 6. Paths -/

/-- `filepath.Join("/mnt", host)`. -/
def hostPath (host : Bytes) : Bytes := joinPath [utf8 "/mnt", host]

/-- The directory of a share. -/
def sambaMountPoint (host directory : Bytes) : Bytes := absolutePath [utf8 "mnt", host, directory]

section

variable {names : List Bytes} {host : Bytes} {roots : ManagedRoots} {base : ManagedLocation}

lemma canonicalAbsoluteManagedPath_absolutePath (hne : names ≠ [])
    (h : ∀ name ∈ names, validatePathComponent name) :
    canonicalAbsoluteManagedPath (absolutePath names) = .ok (absolutePath names) := by
  refine canonicalAbsoluteManagedPath_of_components hne ?_ ?_ fun name hnm => ?_
  · exact fun name hnm => (isComponent_of_validatePathComponent (h name hnm)).1
  · exact fun hmem => (isComponent_of_validatePathComponent (h _ hmem)).2 rfl
  · exact (validatePathComponent_iff.mp (h name hnm)).2.2.2.2.1

lemma components_of_valid (h : ∀ name ∈ names, validatePathComponent name) :
    components (absolutePath names) = names :=
  components_absolutePath fun name hnm => (isComponent_of_validatePathComponent (h name hnm)).1

lemma mnt_component : validatePathComponent (utf8 "mnt") = true := by decide +kernel

section

variable (h : validatePathComponent host = true)
include h

lemma hostPath_eq : hostPath host = absolutePath [utf8 "mnt", host] := by
  obtain ⟨hcp, hdots⟩ := isComponent_of_validatePathComponent h
  have hmnt : components (utf8 "/mnt") = [utf8 "mnt"] := by decide +kernel
  have hhd : (utf8 "/mnt").head? = some 47 := by decide +kernel
  have hnms := components_of_isComponent hcp
  rw [hostPath, joinPath_rooted hhd, hmnt, hnms]
  · rfl
  · rw [hmnt]
    decide +kernel
  · rw [hnms, mem_singleton]
    exact Ne.symm hdots

/-- The names on the way to a host's directory and to a share's. -/
lemma host_names : ∀ name ∈ [utf8 "mnt", host], validatePathComponent name = true := by
  simp [mnt_component, h]

lemma share_names {directory : Bytes} (hd : validatePathComponent directory) :
    ∀ name ∈ [utf8 "mnt", host, directory], validatePathComponent name = true := by
  simp [mnt_component, h, hd]

lemma components_hostPath : components (absolutePath [utf8 "mnt", host]) = [utf8 "mnt", host] :=
  components_of_valid (host_names h)

lemma components_sambaMountPoint {directory : Bytes} (hd : validatePathComponent directory) :
    components (sambaMountPoint host directory) = [utf8 "mnt", host, directory] :=
  components_of_valid (share_names h hd)

lemma sambaMountPoint_inj {a b : Bytes} (ha : validatePathComponent a)
    (hb : validatePathComponent b) (heq : sambaMountPoint host a = sambaMountPoint host b) :
    a = b := by
  have hnms := components_sambaMountPoint h ha
  rw [heq, components_sambaMountPoint h hb] at hnms
  simpa using hnms.symm

end

lemma matchPath_hostPath (hho : validatePathComponent host)
    (h : roots.matchPath (hostPath host) = .ok base) :
    base.canonical = absolutePath [utf8 "mnt", host] ∧
      matchManagementPath roots.roots base.canonical = .ok base := by
  unfold ManagedRoots.matchPath at h
  split at h
  · cases h
  · obtain ⟨-, hcan, hsm⟩ := matchManagementPath_ok h
    refine ⟨?_, hsm⟩
    rw [hostPath_eq hho,
      canonicalAbsoluteManagedPath_absolutePath (cons_ne_nil _ _) (host_names hho)] at hcan
    exact (Except.ok.inj hcan).symm

/-- **Where a share is mounted.** -/
theorem matchChild_share {directory : Bytes} {child : ManagedLocation}
    (hho : validatePathComponent host) (hba : roots.matchPath (hostPath host) = .ok base)
    (hdir : validatePathComponent directory)
    (h : roots.matchChild base.canonical directory = .ok child) :
    child.canonical = sambaMountPoint host directory := by
  obtain ⟨hcan, hsm⟩ := matchPath_hostPath hho hba
  unfold ManagedRoots.matchChild at h
  split at h
  · cases h
  · rw [matchManagementChild_component hsm hdir h, hcan, components_hostPath hho]
    rfl

/-- A relative path made of plain names is accepted, if it is not blank. -/
lemma validateRelativePath_intercalate (hne : names ≠ [])
    (h : ∀ name ∈ names, validatePathComponent name)
    (hblank : trimSpace (intercalate [47] names) ≠ []) :
    clean (intercalate [47] names) = intercalate [47] names ∧
      validateRelativePath (intercalate [47] names) := by
  have hnms : ∀ name ∈ names, IsComponent name := fun name hnm =>
    (isComponent_of_validatePathComponent (h name hnm)).1
  have hspt := splitByte_intercalate hne fun name hnm => (hnms name hnm).2.2
  have hcps := components_intercalate hnms
  have hdots : [46, 46] ∉ names := fun hmem => (isComponent_of_validatePathComponent (h _ hmem)).2 rfl
  have hhd : (intercalate [47] names).head? ≠ some 47 := by
    obtain ⟨name, rest, rfl⟩ := exists_cons_of_ne_nil hne
    have hnm := hnms name (.head _)
    obtain ⟨b, name, rfl⟩ := exists_cons_of_ne_nil hnm.1
    have hb : (intercalate [47] ((b :: name) :: rest)).head? = some b := by
      cases rest with
      | nil => rw [intercalate_singleton]; rfl
      | cons next rest => rw [intercalate_cons_cons]; rfl
    intro hsl
    rw [hb] at hsl
    exact hnm.2.2 (some.inj hsl ▸ (.head _))
  have hcln : clean (intercalate [47] names) = intercalate [47] names := by
    rw [clean_of_plain (by rw [hcps]; exact hdots), if_neg hhd, hcps, if_neg hne]
  have hz : (0 : UInt8) ∉ intercalate [47] names := by
    intro hmem
    obtain ⟨name, hnm, hz⟩ := (@mem_splitByte 0 47 _ hmem).resolve_left (by decide)
    rw [hspt] at hnm
    exact (validatePathComponent_iff.mp (h name hnm)).2.2.2.2.1 hz
  have hdot : intercalate [47] names ≠ [46] := by
    intro hsm
    rw [hsm] at hcps
    exact hne (hcps.symm.trans (by decide))
  have hup : intercalate [47] names ≠ [46, 46] := by
    intro hsm
    rw [hsm] at hcps
    exact hdots (hcps ▸ (by decide))
  have hleads : ¬ [46, 46, 47] <+: intercalate [47] names := by
    rintro ⟨rest, hrs⟩
    have happend := components_append [46, 46] rest
    rw [show [46, 46] ++ 47 :: rest = [46, 46, 47] ++ rest from rfl, hrs, hcps] at happend
    exact hdots (happend ▸ mem_append_left _ (by decide))
  refine ⟨hcln, ?_⟩
  simp only [validateRelativePath, hcln, hspt, hasPrefix, Bool.not_eq_true', Bool.or_eq_false_iff,
    beq_eq_false_iff_ne, containsByte_eq_false, contains_eq_mem, decide_eq_false_iff_not]
  refine ⟨⟨⟨⟨⟨⟨hblank, hz⟩, hhd⟩, hdots⟩, hdot⟩, hup⟩, ?_⟩
  exact Bool.eq_false_of_not_eq_true fun hpre => hleads (List.isPrefixOf_iff_prefix.mp hpre)

/-- A host's directory lies right below its root, or is one. -/
lemma matchPath_relative (hho : validatePathComponent host)
    (h : roots.matchPath (hostPath host) = .ok base) :
    base.relative = host ∨ base.relative = [46] := by
  obtain ⟨hcan, hsm⟩ := matchPath_hostPath hho h
  obtain ⟨hv, -, -⟩ := matchManagementPath_ok hsm
  have hnms := hv.components_eq
  rw [hcan, components_hostPath hho] at hnms
  have hrt := absolutePath_of_canonical hv.root_canonical
  have hrel := hv.relative
  unfold relativeTo at hrel
  split at hrel
  · exact .inr (some.inj hrel).symm
  rename_i hne
  split at hrel
  next hpre =>
    obtain ⟨rest, hrs⟩ := isPrefixOf_iff_prefix.mp hpre
    have hrs' : base.relative = rest := by
      rw [← some.inj hrel, ← hrs]
      simp
    left
    cases hcs : components base.root with
    | nil =>
      rw [hcs] at hrt
      exact absurd hrt hv.proper
    | cons first others =>
      rw [hcs] at hnms hrt
      obtain ⟨rfl, htail⟩ := cons.inj hnms
      cases others with
      | nil =>
        rw [hcan, hrt, ← hrs'] at hrs
        have hjoin : absolutePath [utf8 "mnt", host] = absolutePath [utf8 "mnt"] ++ [47] ++ host := by
          rw [absolutePath, intercalate_cons_cons, intercalate_singleton, absolutePath,
            intercalate_singleton]
          simp
        rw [hjoin] at hrs
        exact append_cancel_left hrs
      | cons second others =>
        obtain ⟨rfl, hoth⟩ := cons.inj htail
        obtain ⟨rfl, -⟩ := append_eq_nil_iff.mp hoth.symm
        exact absurd (hcan.trans hrt.symm) hne
  · cases hrel

lemma matchChild_ok {directory : Bytes} {allowHidden : Bool} (hclo : roots.closed = false)
    (hho : validatePathComponent host) (hba : roots.matchPath (hostPath host) = .ok base)
    (hdir : validateSambaDirectoryName directory allowHidden = .ok ()) :
    ∃ child, roots.matchChild base.canonical directory = .ok child := by
  obtain ⟨-, hsm⟩ := matchPath_hostPath hho hba
  obtain ⟨hcp, -, -, htrim, -⟩ := validateSambaDirectoryName_ok hdir
  have hne : directory ≠ [] := (isComponent_of_validatePathComponent hcp).1.1
  have hsingle := validateRelativePath_intercalate (cons_ne_nil directory [])
    (fun name hnm => mem_singleton.mp hnm ▸ hcp)
    (by rw [intercalate_singleton, htrim]; exact hne)
  rw [intercalate_singleton] at hsingle
  have hpair := validateRelativePath_intercalate (cons_ne_nil host [directory]) (by
      intro name hnm
      rcases mem_cons.mp hnm with rfl | hnm
      · exact hho
      · exact mem_singleton.mp hnm ▸ hcp)
    (by
      refine ne_nil_of_mem (mem_trimSpace (b := 47) (by decide) ?_)
      simp)
  have hrelative : validateRelativePath (joinPath [base.relative, directory]) := by
    rcases matchPath_relative hho hba with hrel | hrel
    · rw [hrel, joinPath_pair, if_neg (isComponent_of_validatePathComponent hho).1.1, if_neg hne]
      rw [intercalate_cons_cons, intercalate_singleton, append_assoc, singleton_append] at hpair
      rw [hpair.1]
      exact hpair.2
    · have hdot : joinPath [[46], directory] = directory := by
        have hdots : ([46, 46] : Bytes) ∉ components ([46] ++ 47 :: directory) := by
          rw [components_append, components_of_isComponent (isComponent_of_validatePathComponent hcp).1]
          have hnil : components [46] = [] := by decide
          rw [hnil, nil_append, mem_singleton]
          exact Ne.symm (isComponent_of_validatePathComponent hcp).2
        have hnms : components ([46] ++ 47 :: directory) = [directory] := by
          rw [components_append, components_of_isComponent (isComponent_of_validatePathComponent hcp).1]
          rfl
        have hhd : ([46] ++ 47 :: directory : Bytes).head? ≠ some 47 := fun hsl =>
          absurd (some.inj hsl) (by decide)
        rw [joinPath_pair, if_neg (by decide), if_neg hne, clean_of_plain hdots, hnms,
          if_neg hhd, if_neg (cons_ne_nil _ _), intercalate_singleton]
      rw [hrel, hdot]
      exact hsingle.2
  refine ⟨⟨base.root, joinPath [base.relative, directory],
    joinPath [base.root, joinPath [base.relative, directory]]⟩, ?_⟩
  rw [ManagedRoots.matchChild, if_neg (by rw [hclo]; decide), matchManagementChild, hsm, hsingle.1]
  have hg : ∀ {value : Bytes}, validateRelativePath value → ¬ validateRelativePath value = false :=
    fun h hf => Bool.false_ne_true (hf.symm.trans h)
  simp only [bind_eq_ok, check_eq_ok]
  exact ⟨(), hg hsingle.2, base, rfl, (), hg hrelative, rfl⟩
lemma resolveLocked_names {location : ManagedLocation} (hne : names ≠ [])
    (hnms : ∀ name ∈ names, validatePathComponent name)
    (h : roots.resolveLocked (absolutePath names) = .ok location) :
    components location.root ++ components location.relative = names ∧
      location.canonical = absolutePath names := by
  obtain ⟨found, hfnd, hmem⟩ := bind_eq_ok.mp h
  obtain rfl : found = location := by
    split at hmem
    · exact Except.ok.inj hmem
    · cases hmem
  obtain ⟨hv, hcan, -⟩ := matchManagementPath_ok hfnd
  rw [canonicalAbsoluteManagedPath_absolutePath hne hnms] at hcan
  rw [← hv.components_eq, ← Except.ok.inj hcan]
  exact ⟨components_of_valid hnms, rfl⟩

variable {M : Machine} {fs fs' : MountedTree} (hne : names ≠ [])
  (hnms : ∀ name ∈ names, validatePathComponent name = true)
  (h : ∀ front, front <+: names → front ≠ [] → AgreeAt fs fs' (absolutePath front))
include hne hnms h

lemma openedDirectory_congr : openedDirectory M roots (absolutePath names) fs
      = openedDirectory M roots (absolutePath names) fs' := by
  unfold openedDirectory
  cases hloc : roots.resolveLocked (absolutePath names) with
  | error err => rfl
  | ok loc =>
    obtain ⟨hresolve, -⟩ := resolveLocked_names hne hnms hloc
    have hsm : ∀ mount, fs.resolve (components loc.root) (components loc.relative) mount
        = fs'.resolve (components loc.root) (components loc.relative) mount :=
      resolve_congr fun front hfro hnil => h _ (hresolve ▸ (prefix_append_right_inj _).mpr hfro)
        (append_ne_nil_of_right_ne_nil _ hnil)
    simp only [ok_bind, hsm]

lemma mountBoundary_congr : mountBoundary M roots (absolutePath names) fs
      = mountBoundary M roots (absolutePath names) fs' := by
  unfold mountBoundary
  cases hloc : roots.resolveLocked (absolutePath names) with
  | error err => rfl
  | ok loc =>
    obtain ⟨hresolve, hcan⟩ := resolveLocked_names hne hnms hloc
    have hsm : ∀ mount, fs.resolve (components loc.root) (components loc.relative).dropLast mount
        = fs'.resolve (components loc.root) (components loc.relative).dropLast mount :=
      resolve_congr fun front hfro hnil =>
        h _ (hresolve ▸ (prefix_append_right_inj _).mpr (hfro.trans (List.dropLast_prefix _)))
          (append_ne_nil_of_right_ne_nil _ hnil)
    have hst : ∀ mount, fs.step mount loc.canonical = fs'.step mount loc.canonical :=
      step_congr (hcan ▸ h names prefix_rfl hne)
    simp only [ok_bind, hsm, hst]

end

end ReCasaOS.Samba
