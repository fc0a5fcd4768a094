/-
# Cloud storage

`service/storage.go`. A cloud storage is a configuration of rclone and a mount at `/mnt/<remote>`. Two
authorities say what is mounted, the list of rclone and the kernel, and neither is under the control of
the service: everything that is not computed here is a request to an environment, which answers as it
likes (`CloudRequest`, `CloudAnswer`).

Observing the state takes three requests, the list of rclone on both sides of a look at the kernel; a
mutation is followed by observations until two in a row show what is expected, under a deadline
(`settleCloudMountState`). The clock is part of the environment, so the loop is cut off after `fuel`
rounds, in the error `running`.

The errors of the environment are an arbitrary type, of which `errors.Is` tells two things. Of a format
with arguments, an error has both. `s.mu` and the mutation lease are held throughout, and the lease is
given back at the end; a hook that returns no roots without an error is left out.
-/
import ReCasaOS.Lib.Dialogue
import ReCasaOS.Lib.NameTable
import ReCasaOS.Lib.Result
import ReCasaOS.Lib.Strings

namespace ReCasaOS.Cloud

open Lib Fallible

/-! ## 1. Names and errors -/

inductive CloudError (ε : Type)
  | external (err : ε)
  | text (message : String)
  | format (message : String) (arguments : List Bytes)
  | wrapped (message : String) (err : CloudError ε)
  | joined (errs : List (CloudError ε))
  | deadlineExceeded
  /-- `refusing inconsistent cloud %s state (rclone=%t, mount-boundary=%t)`. -/
  | inconsistent (operation : String) (listed mounted : Bool)
  /-- The text of `unresolvedError`. -/
  | unresolved (operation : String) (samples : Nat) (expected listed mounted : Bool)
  /-- The loop has not come to an end. -/
  | running

/-- `errors.Is` of an error of the environment, with `fs.ErrNotExist` or `ENOENT`, and with `ENOTCONN`,
`ESTALE` or `EIO`. -/
structure ErrorKinds (ε : Type) where
  notExist : ε → Bool
  stale : ε → Bool

variable {ε : Type}

/-- `errors.Join`, of errors some of which are not nil. -/
def joinErrors (errs : List (Option (CloudError ε))) : CloudError ε := .joined errs.reduceOption

/-- `/mnt/`. -/
def cloudMountRoot : Bytes := [47, 109, 110, 116, 47]

def isASCIIAlphaNumeric (c : UInt8) : Bool :=
  (decide (97 ≤ c) && decide (c ≤ 122)) || (decide (65 ≤ c) && decide (c ≤ 90)) ||
    (decide (48 ≤ c) && decide (c ≤ 57))

/-- Letters, digits and `-_.+@`. -/
def isRemoteByte (c : UInt8) : Bool := isASCIIAlphaNumeric c || [45, 95, 46, 43, 64].contains c

def isSafeCloudRemote : Bytes → Bool
  | [] => false
  | c :: rest => decide (rest.length < 128) && isASCIIAlphaNumeric c && rest.all isRemoteByte

def cloudMountPointForRemote (remote : Bytes) : Except (CloudError ε) Bytes := do
  check (isSafeCloudRemote remote = false) (.format "unsafe cloud storage remote name %q" [remote])
  pure (cloudMountRoot ++ remote)

def cloudRemoteFromMountPoint (mountPoint : Bytes) : Except (CloudError ε) Bytes := do
  check (hasPrefix mountPoint cloudMountRoot = false) (.text "cloud mount point must be below /mnt")
  let remote := mountPoint.drop cloudMountRoot.length
  let expected ← (cloudMountPointForRemote remote).mapError fun _ : CloudError ε =>
    .text "cloud mount point must be /mnt/<safe-remote-name>"
  check (expected ≠ mountPoint) (.text "cloud mount point must be /mnt/<safe-remote-name>")
  pure remote

/-! ## 2. Requests -/

/-- A configuration of rclone, `map[string]string`. -/
abbrev CloudConfig := NameTable Bytes Bytes

/-- `config["mount_point"]`. -/
def CloudConfig.mountPoint (config : CloudConfig) : Bytes :=
  (config.lookup [109, 111, 117, 110, 116, 95, 112, 111, 105, 110, 116]).getD []

/-- `httper.MountPoints`, as far as it is read. -/
structure MountRecord where
  mountPoint : Bytes
  fs : Bytes
  fsPath : Bytes
  deriving DecidableEq

inductive CloudRequest
  | getMountList
  | mount (mountPoint filesystem : Bytes)
  | unmount (mountPoint : Bytes)
  | getConfigByName (name : Bytes)
  | getAllConfigName
  | deleteConfigByName (name : Bytes)
  | managedRootsForMount (mountPoint : Bytes)
  | acquireMutation
  | mkdirAll (mountPoint : Bytes)
  | isMountPoint (mountPoint : Bytes)
  | openDirectory (mountPoint : Bytes)
  | readDir
  | closeDirectory
  | now
  | wait (delay : Int)
  | contextErr
  deriving DecidableEq

/-- What a request is answered with. `readDir` says whether there was an entry. -/
abbrev CloudAnswer (ε : Type) : CloudRequest → Type
  | .getMountList => Except ε (List MountRecord)
  | .mount _ _ => Option ε
  | .unmount _ => Option ε
  | .getConfigByName _ => Except ε CloudConfig
  | .getAllConfigName => Except ε (List Bytes)
  | .deleteConfigByName _ => Option ε
  | .managedRootsForMount _ => Except ε Unit
  | .acquireMutation => Except ε Unit
  | .mkdirAll _ => Except ε Unit
  | .isMountPoint _ => Except ε Bool
  | .openDirectory _ => Except ε Unit
  | .readDir => Except ε Bool
  | .closeDirectory => Option ε
  | .now => Int
  | .wait _ => Option ε
  | .contextErr => Option ε

abbrev CloudHistory (ε : Type) := History (CloudAnswer ε)

abbrev CloudEnvironment (ε : Type) := Environment (CloudAnswer ε)

abbrev CloudProgram (ε α : Type) := Fallible (CloudHistory ε) (CloudError ε) α

/-- `x, err := request; if err != nil { return f(err) }`. -/
def orFail {α : Type} (answer : CloudProgram ε (Except ε α)) (f : CloudError ε → CloudError ε) :
    CloudProgram ε α := do
  let x ← answer
  ofExcept (x.mapError fun err => f (.external err))

/-! ## 3. Observations -/

/-- The loop of `mountListContains`. -/
def mountListContainsFrom (mountPoint remote : Bytes) :
    (found : Bool) → List MountRecord → Except (CloudError ε) Bool
  | found, [] => .ok found
  | found, mounted :: rest =>
    if mounted.mountPoint = mountPoint ∧ mounted.fs ≠ remote then
      .error (.format "mount point %q belongs to unexpected rclone remote %q" [mountPoint, mounted.fs])
    else if mounted.fs ≠ remote then mountListContainsFrom mountPoint remote found rest
    else if mounted.fsPath ≠ [] then
      .error (.format "rclone remote %q is mounted from unexpected subpath %q" [remote, mounted.fsPath])
    else if mounted.mountPoint ≠ mountPoint then
      .error (.format "rclone remote %q is mounted at unexpected path %q" [remote, mounted.mountPoint])
    else if found then .error (.format "rclone remote %q has duplicate mount records" [remote])
    else mountListContainsFrom mountPoint remote true rest

def mountListContains (list : List MountRecord) (mountPoint remote : Bytes) :
    Except (CloudError ε) Bool :=
  mountListContainsFrom mountPoint remote false list

/-- `cloudMountTopologyEntry`, in the order in which entries are sorted. -/
abbrev TopologyEntry := Bytes ×ₗ Bytes ×ₗ Bytes

def MountRecord.topologyEntry (mounted : MountRecord) : TopologyEntry :=
  toLex (mounted.mountPoint, toLex (mounted.fs, mounted.fsPath))

def canonicalCloudMountTopology (list : List MountRecord) : List TopologyEntry :=
  sortAsc (list.map MountRecord.topologyEntry)

def sameCloudMountTopology (first second : List MountRecord) : Bool :=
  canonicalCloudMountTopology first == canonicalCloudMountTopology second

/-- `managedMountState`, of what `IsMountPoint` returned. -/
def managedMountState (kinds : ErrorKinds ε) : Except ε Bool → Bool × Option ε
  | .ok mounted => (mounted, none)
  | .error err => if kinds.notExist err then (false, none) else (false, some err)

structure CloudMountObservation (ε : Type) where
  mounted : Bool
  listed : Bool
  mountErr : Option (CloudError ε)
  listErr : Option (CloudError ε)
  unsafeTopology : Option (CloudError ε)

/-- The zero value. -/
def CloudMountObservation.none : CloudMountObservation ε := ⟨false, false, .none, .none, .none⟩

/-- The error of a result, with some text in front. -/
def failureOf {ε' α : Type} (message : String) (wrap : ε' → CloudError ε) :
    Except ε' α → Option (CloudError ε)
  | .ok _ => none
  | .error err => some (.wrapped message (wrap err))

/-- What `observeCloudMountState` makes of two lists and the state of the kernel between them. -/
def cloudMountObservation (mountPoint remote : Bytes) (before : Except ε (List MountRecord))
    (state : Bool × Option ε) (after : Except ε (List MountRecord)) : CloudMountObservation ε :=
  let mountErr := state.2.map fun err => .wrapped "inspect kernel mount boundary" (.external err)
  match before, after with
  | .ok before, .ok after =>
    match mountListContains before mountPoint remote, mountListContains after mountPoint remote with
    | .ok listedBefore, .ok listedAfter =>
      if sameCloudMountTopology before after = false ∨ listedBefore ≠ listedAfter then
        ⟨state.1, false, mountErr, some (.text "rclone mount topology changed across kernel sample"), none⟩
      else ⟨state.1, listedAfter, mountErr, none, none⟩
    | first, second =>
      let err := joinErrors
        [failureOf "validate rclone mount topology before kernel sample" id first,
          failureOf "validate rclone mount topology after kernel sample" id second]
      ⟨state.1, false, mountErr, some err, some err⟩
  | first, second =>
    ⟨state.1, false, mountErr, some (joinErrors
      [failureOf "query rclone mount list before kernel sample" .external first,
        failureOf "query rclone mount list after kernel sample" .external second]), none⟩

/-- Both authorities say `expected`. -/
def CloudMountObservation.Shows (observation : CloudMountObservation ε) (expected : Bool) : Bool :=
  observation.mountErr.isNone && observation.listErr.isNone && observation.mounted == expected &&
    observation.listed == expected

structure CloudMountSettlement (ε : Type) where
  converged : Bool
  samples : Nat
  last : CloudMountObservation ε
  deadlineErr : Option (CloudError ε)

def CloudMountSettlement.unresolvedError (result : CloudMountSettlement ε) (operation : String)
    (expected : Bool) : CloudError ε :=
  joinErrors
    [some (.unresolved operation result.samples expected result.last.listed result.last.mounted),
      result.last.mountErr.map (.wrapped "last kernel mount sample"),
      result.last.listErr.map (.wrapped "last rclone mount sample"),
      result.deadlineErr.map (.wrapped "settle deadline")]

/-! ## 4. The service -/

/-- `storageStruct`, in nanoseconds. -/
structure StorageSettings where
  settleTimeout : Int
  settleInterval : Int

/-- `cloudSettleSettings`. -/
def StorageSettings.timeout (s : StorageSettings) : Int :=
  if s.settleTimeout ≤ 0 then 3000000000 else s.settleTimeout

def StorageSettings.interval (s : StorageSettings) : Int :=
  min (if s.settleInterval ≤ 0 then 100000000 else s.settleInterval) s.timeout

section

variable (env : CloudEnvironment ε) (kinds : ErrorKinds ε) (settings : StorageSettings)

def observeCloudMountState (mountPoint remote : Bytes) :
    CloudProgram ε (CloudMountObservation ε) := do
  let before ← ask env .getMountList
  let state ← ask env (.isMountPoint mountPoint)
  let after ← ask env .getMountList
  pure (cloudMountObservation mountPoint remote before (managedMountState kinds state) after)

/-- The rest of a round of `settleCloudMountState`: whether to go on. -/
def awaitNextSample (deadline : Int) : CloudProgram ε (Option (CloudError ε)) := do
  let contextErr ← ask env .contextErr
  match contextErr with
  | some err => pure (some (.external err))
  | none =>
    let now ← ask env .now
    if deadline - now ≤ 0 then pure (some .deadlineExceeded)
    else
      let err ← ask env (.wait (min settings.interval (deadline - now)))
      pure (err.map .external)

def settleLoop (mountPoint remote : Bytes) (expected : Bool) (deadline : Int) :
    (fuel consecutive samples : Nat) → CloudMountObservation ε →
      CloudProgram ε (CloudMountSettlement ε)
  | 0, _, _, _ => fail .running
  | fuel + 1, consecutive, samples, last => do
    let now ← ask env .now
    if deadline - now ≤ 0 then pure ⟨false, samples, last, some .deadlineExceeded⟩
    else
      let observation ← observeCloudMountState env kinds mountPoint remote
      let consecutive := if observation.Shows expected then consecutive + 1 else 0
      if observation.unsafeTopology.isSome then pure ⟨false, samples + 1, observation, none⟩
      else if 2 ≤ consecutive then pure ⟨true, samples + 1, observation, none⟩
      else
        let stop ← awaitNextSample env settings deadline
        match stop with
        | some err => pure ⟨false, samples + 1, observation, some err⟩
        | none => settleLoop mountPoint remote expected deadline fuel consecutive (samples + 1) observation

def settleCloudMountState (fuel : Nat) (mountPoint remote : Bytes) (expected : Bool) :
    CloudProgram ε (CloudMountSettlement ε) := do
  let now ← ask env .now
  settleLoop env kinds settings mountPoint remote expected (now + settings.timeout) fuel 0 0 .none

def getConfigByNameLocked (name : Bytes) : CloudProgram ε CloudConfig := do
  let expected ← ofExcept (cloudMountPointForRemote name)
  let config ← orFail (ask env (.getConfigByName name)) id
  guard (config.mountPoint ≠ expected)
    (.format "persisted rclone mount_point for %q must be %q" [name, expected])
  orFail (ask env (.managedRootsForMount expected)) id
  pure config

/-- The unmount request, if there is a mount to undo. -/
def unmountListed (listed : Bool) (mountPoint : Bytes) : CloudProgram ε (Option ε) :=
  if listed then ask env (.unmount mountPoint) else pure none

def unmountStorageLocked (fuel : Nat) (mountPoint : Bytes) : CloudProgram ε Unit := do
  let remote ← ofExcept (cloudRemoteFromMountPoint mountPoint)
  let config ← (getConfigByNameLocked env remote).onError fun _ err =>
    .wrapped "validate cloud config before unmount" err
  guard (config.mountPoint ≠ mountPoint)
    (.format "persisted rclone mount_point for %q changed" [remote])
  orFail (ask env (.managedRootsForMount mountPoint)) id
  orFail (ask env .acquireMutation) (.wrapped "acquire managed cloud unmount transaction")
  let config ← orFail (ask env (.getConfigByName remote))
    (.wrapped "revalidate cloud config before unmount")
  guard (config.mountPoint ≠ mountPoint)
    (.format "persisted rclone mount_point for %q changed" [remote])
  let list ← orFail (ask env .getMountList) (.wrapped "list rclone mounts before unmount")
  let listed ← ofExcept (mountListContains list mountPoint remote)
  let state ← ask env (.isMountPoint mountPoint)
  let (mounted, stateErr) := managedMountState kinds state
  ofExcept (match stateErr with
    | none => .ok ()
    | some err =>
      -- isRecoverableStaleMountError
      check ((listed && kinds.stale err) = false)
        (.wrapped "inspect cloud mount before unmount" (.external err)))
  guard (listed = false ∧ mounted) (.inconsistent "unmount" listed mounted)
  let unmountErr ← unmountListed env listed mountPoint
  let settlement ← settleCloudMountState env kinds settings fuel mountPoint remote false
  guard (settlement.converged = false) (joinErrors
    [unmountErr.map .external, some (settlement.unresolvedError "cloud unmount reconciliation" false)])

def remoteListContains (remotes : List Bytes) (name : Bytes) : Bool := remotes.contains name

/-- What `deleteConfigByNameLocked` does after a delete request that was answered with an error. -/
def confirmDeleted (name : Bytes) (deleteErr : ε) : CloudProgram ε Unit := do
  let remotes ← ask env .getAllConfigName
  ofExcept (match remotes with
    | .ok remotes =>
      check (remoteListContains remotes name) (.joined [.external deleteErr])
    | .error listErr => .error (.joined [.external deleteErr, .external listErr]))

def deleteConfigByNameLocked (fuel : Nat) (name : Bytes) : CloudProgram ε Unit := do
  let mountPoint ← ofExcept (cloudMountPointForRemote name)
  let _ ← getConfigByNameLocked env name
  orFail (ask env (.managedRootsForMount mountPoint)) id
  let settlement ← settleCloudMountState env kinds settings fuel mountPoint name false
  guard (settlement.converged = false)
    (settlement.unresolvedError "cloud config deletion precondition" false)
  let deleteErr ← ask env (.deleteConfigByName name)
  match deleteErr with
  | none => pure ()
  | some err => confirmDeleted env name err

def removeStorage (fuel : Nat) (mountPoint : Bytes) : CloudProgram ε Unit := do
  let remote ← ofExcept (cloudRemoteFromMountPoint mountPoint)
  let config ← (getConfigByNameLocked env remote).onError fun _ err =>
    .wrapped "validate cloud config before removal" err
  guard (config.mountPoint ≠ mountPoint)
    (.format "persisted rclone mount_point for %q changed" [remote])
  unmountStorageLocked env kinds settings fuel mountPoint
  let config ← (getConfigByNameLocked env remote).onError fun _ err =>
    .wrapped "revalidate cloud config before deletion" err
  guard (config.mountPoint ≠ mountPoint)
    (.format "persisted rclone mount_point for %q changed" [remote])
  deleteConfigByNameLocked env kinds settings fuel remote

end

end ReCasaOS.Cloud
