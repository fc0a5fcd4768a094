/-
# Publishing a Samba config

`publishSambaConfigCAS` and `removeSambaConfigCAS` (`service/samba_config_publish_linux.go`) replace
and remove a config file in a directory that is held open, if the file is still the one that was read
before. Linux has no such operation, so the new file is staged under a random name and exchanged with
the target, the file that came out is compared with the expected one, and on a mismatch the exchange
is undone.

Others may replace, create or remove the target in between. The directory here has names and files
apart: a file keeps its number while it moves. Inode numbers come from `inode`, of which nothing is
assumed, so the number of a removed file may come back. Before every system call stands a turn of the
others (`interfere`), and every call may fail.

The directory also keeps a history that no program reads: which files others have put under the target
and which they have taken away, what the target held before each change that a call made to it, and
which snapshots the calls may discard.

Paths are left out of the texts of errors, and so are calls whose result is ignored.
-/
import ReCasaOS.Lib.NameTable
import ReCasaOS.FileSecurity.ManagedTree

namespace ReCasaOS.Samba

open Lib FileSecurity Fallible

/-! ## 1. The directory -/

def utf8 (s : String) : Bytes := s.toUTF8.data.toList

/-- A file; `elsewhere` is the number of its links outside the directory. -/
structure ConfigFile where
  identity : Nat × Nat
  regular : Bool
  elsewhere : Nat
  permission : Nat
  data : Bytes
  deriving DecidableEq, Inhabited

/-- `sambaConfigSnapshot`. The digest is that of `data`; `present` is the field `exists`, and `base`
the last element of `path`. -/
structure SambaConfigSnapshot where
  base : Bytes
  present : Bool
  data : Bytes
  permission : Nat
  identity : Nat × Nat
  deriving DecidableEq

def absentSnapshot (base : Bytes) : SambaConfigSnapshot := ⟨base, false, [], 0, (0, 0)⟩

def ConfigFile.snapshot (file : ConfigFile) (base : Bytes) : SambaConfigSnapshot :=
  ⟨base, true, file.data, file.permission, file.identity⟩

/-- What others do to the target. -/
inductive Foreign
  | put (regular : Bool) (elsewhere permission : Nat) (data : Bytes)
  | remove

structure History where
  /-- The files that others have put under the target. -/
  placed : List (Nat × ConfigFile)
  /-- The files that others have taken from the target. -/
  dropped : List Nat
  /-- What the target held before each change that a call made to it. -/
  displaced : List (Option (Nat × ConfigFile))
  /-- What the calls expected to find, and what they have staged. -/
  owned : List SambaConfigSnapshot

structure ConfigDirectory where
  names : NameTable Bytes Nat
  files : Nat → ConfigFile
  /-- The number of the next file. -/
  next : Nat
  target : Bytes
  schedule : List (List Foreign)
  inode : Nat → Nat × Nat
  random : Nat → Arr 16
  drawn : Nat
  history : History

/-- What `Fstat` reads. -/
structure ConfigStat where
  identity : Nat × Nat
  regular : Bool
  nlink : Nat
  permission : Nat

def singleLinkRegularStat (stat : ConfigStat) : Bool := stat.regular && stat.nlink == 1

namespace ConfigDirectory

variable (d : ConfigDirectory)

/-- A turn of another writer. -/
def apply : Foreign → ConfigDirectory
  | .put regular elsewhere permission data =>
    let file : ConfigFile := ⟨d.inode d.next, regular, elsewhere, permission, data⟩
    { d with
      names := d.names.insert d.target d.next
      files := Function.update d.files d.next file
      next := d.next + 1
      history := { d.history with
        placed := d.history.placed ++ [(d.next, file)]
        dropped := d.history.dropped ++ (d.names.lookup d.target).toList } }
  | .remove =>
    { d with
      names := d.names.erase d.target
      history := { d.history with
        dropped := d.history.dropped ++ (d.names.lookup d.target).toList } }

/-- What others do before the next call. -/
def interfere : ConfigDirectory :=
  (d.schedule.head?.getD []).foldl apply { d with schedule := d.schedule.tail }

def own (snapshot : SambaConfigSnapshot) : ConfigDirectory :=
  { d with history := { d.history with owned := d.history.owned ++ [snapshot] } }

/-- A change of names, between `old` and `new`. -/
def relabel (old new : Bytes) (names : NameTable Bytes Nat) : ConfigDirectory :=
  { d with
    names := names
    history :=
      if old = d.target ∨ new = d.target then
        { d.history with displaced := d.history.displaced ++
            [(d.names.lookup d.target).map fun i => (i, d.files i)] }
      else d.history }

/-- A file has at most one name here. -/
def stat (i : Nat) : ConfigStat :=
  { identity := (d.files i).identity, regular := (d.files i).regular
    nlink := (d.files i).elsewhere + (if d.names.entries.any (·.2 == i) then 1 else 0)
    permission := (d.files i).permission }

def fstatat (name : Bytes) : Except Errno ConfigStat :=
  match d.names.lookup name with
  | none => .error .enoent
  | some i => .ok (d.stat i)

/-- With `O_NOFOLLOW`. -/
def openat (name : Bytes) : Except Errno Nat :=
  match d.names.lookup name with
  | none => .error .enoent
  | some i => if (d.files i).regular then .ok i else .error .eloop

/-- With `O_CREAT|O_EXCL`. -/
def createExclusive (name : Bytes) (permission : Nat) : Except Errno Nat × ConfigDirectory :=
  match d.names.lookup name with
  | some _ => (.error .eexist, d)
  | none =>
    (.ok d.next, { d with
      names := d.names.insert name d.next
      files := Function.update d.files d.next ⟨d.inode d.next, true, 0, permission, []⟩
      next := d.next + 1 })

/-- `Write`, `Truncate` or `Chmod` of an open file. -/
def write (i : Nat) (f : ConfigFile → ConfigFile) : ConfigDirectory :=
  { d with files := Function.update d.files i (f (d.files i)) }

def renameNoReplace (old new : Bytes) : Except Errno Unit × ConfigDirectory :=
  match d.names.lookup old, d.names.lookup new with
  | none, _ => (.error .enoent, d)
  | some _, some _ => (.error .eexist, d)
  | some _, none => (.ok (), d.relabel old new (d.names.move old new))

def renameExchange (old new : Bytes) : Except Errno Unit × ConfigDirectory :=
  match d.names.lookup old, d.names.lookup new with
  | some _, some _ => (.ok (), d.relabel old new (d.names.exchange old new))
  | _, _ => (.error .enoent, d)

def unlinkat (name : Bytes) : Except Errno Unit × ConfigDirectory :=
  match d.names.lookup name with
  | none => (.error .enoent, d)
  | some _ => (.ok (), d.relabel name name (d.names.erase name))

end ConfigDirectory

/-! ## 2. Names and snapshots -/

abbrev Action (α : Type) := Fallible (Faulty ConfigDirectory) OpError α

section

variable {α : Type}

/-- A system call, after a turn of the others. -/
def syscall (effect : ConfigDirectory → Except Errno α × ConfigDirectory) :
    Fallible (Faulty ConfigDirectory) Errno α := do
  Fallible.modify fun w => ⟨w.state.interfere, w.faults⟩
  call effect

/-- A system call that changes nothing. -/
def asking (answer : ConfigDirectory → Except Errno α) : Fallible (Faulty ConfigDirectory) Errno α :=
  syscall fun d => (answer d, d)

/-- The errors of a call as they are. -/
def plainly (m : Fallible (Faulty ConfigDirectory) Errno α) : Action α := m.onError fun _ => errnoError

/-- `fmt.Errorf("..: %w", err)`. -/
def saying (message : String) (m : Fallible (Faulty ConfigDirectory) Errno α) : Action α :=
  m.onError fun _ code => .wrapped message (errnoError code)

/-- `fmt.Errorf("%w: ..", errSambaConfigConflict)`. -/
def conflict (message : String) : OpError :=
  .wrapped message (textError "Samba config changed concurrently")

/-- `return errors.Join(err, others...)`. -/
def failJoined (err : OpError) (others : List (Option OpError)) : Action α :=
  fail ((joinErrors (some err :: others)).getD err)

def sync : Action Unit := saying "sync Samba config directory" (asking fun _ => .ok ())

def close : Action Unit := plainly (asking fun _ => .ok ())

def fstat (i : Nat) : Fallible (Faulty ConfigDirectory) Errno ConfigStat := asking fun d => .ok (d.stat i)

/-- `Truncate`, `Chmod` or `Write` of an open file. -/
def writing (i : Nat) (f : ConfigFile → ConfigFile) : Action Unit :=
  plainly (syscall fun d => (.ok (), d.write i f))

def maxSambaConfigBytes : Nat := 4194304

def notSingleLink : OpError :=
  textError "inspect Samba config: Samba config must be a regular non-symlink file with exactly one hard link"

/-- What `readSnapshot` does with an open file. -/
def readOpened (base requiredMarker : Bytes) (fd : Nat) : Action SambaConfigSnapshot := do
  let info ← saying "inspect opened Samba config" (fstat fd)
  let data ← attempt
    (plainly (asking fun d => .ok ((d.files fd).data.take (maxSambaConfigBytes + 1))))
  let closed ← attempt close
  match data, closed with
  | .ok data, .ok _ => do
    guard (maxSambaConfigBytes < data.length) (textError "Samba config exceeds 4194304 bytes")
    guard (requiredMarker ≠ [] ∧ hasPrefix data requiredMarker = false)
      (textError "refusing to overwrite unmanaged Samba config")
    pure ⟨base, true, data, info.permission, info.identity⟩
  | data, closed =>
    fail ((joinErrors [failureOf data, failureOf closed]).getD (textError ""))

def readSnapshot (base : Bytes) (required : Bool) (requiredMarker : Bytes) :
    Action SambaConfigSnapshot := do
  match ← attempt (asking (·.fstatat base)) with
  | .error code =>
    if code = .enoent ∧ required = false then pure (absentSnapshot base)
    else fail (.wrapped "inspect Samba config" (errnoError code))
  | .ok named => do
    guard (singleLinkRegularStat named = false) notSingleLink
    let fd ← saying "open Samba config" (asking (·.openat base))
    let opened ← saying "inspect opened Samba config" (fstat fd)
    guard (opened.identity ≠ named.identity) (textError "Samba config changed while opening")
    guard (singleLinkRegularStat opened = false) notSingleLink
    readOpened base requiredMarker fd

/-- `.recasaos-quarantine-`. -/
def sambaConfigQuarantineMarker : Bytes := utf8 ".recasaos-quarantine-"

/-- `.cas-`. -/
def stagingMarker : Bytes := utf8 ".cas-"

def casName (marker base : Bytes) (random : Arr 16) : Bytes :=
  46 :: (base ++ (marker ++ hexEncode random.1))

def randomSambaCASName (marker base : Bytes) : Action Bytes := do
  let random ← plainly (syscall fun d => (.ok (d.random d.drawn), { d with drawn := d.drawn + 1 }))
  pure (casName marker base random)

/-- The name of the staged file and its descriptor, with the attempts that are left. -/
def createStaging (base : Bytes) (permission : Nat) : (attempts : Nat) → Action (Bytes × Nat)
  | 0 => fail (textError "could not reserve a Samba staging name")
  | attempts + 1 => do
    let name ← randomSambaCASName stagingMarker base
    match ← attempt (syscall (·.createExclusive name permission)) with
    | .ok fd => pure (name, fd)
    | .error code =>
      if code = .eexist then createStaging base permission attempts
      else fail (.wrapped "create staged Samba config" (errnoError code))

def randomQuarantineName (base : Bytes) : (attempts : Nat) → Action Bytes
  | 0 => fail (textError "could not reserve a Samba quarantine name")
  | attempts + 1 => do
    let candidate ← randomSambaCASName sambaConfigQuarantineMarker base
    match ← attempt (asking (·.fstatat candidate)) with
    | .ok _ => randomQuarantineName base attempts
    | .error code => if code = .enoent then pure candidate else fail (errnoError code)

/-- A name that `refuseQuarantine` does not let pass. -/
def unresolved (name : Bytes) : Bool :=
  decide (sambaConfigQuarantineMarker <:+: name) || (hasPrefix name [46] && decide (stagingMarker <:+: name))

def refuseQuarantine : Action Unit := do
  let _ ← plainly (asking fun _ => .ok ())
  let entries ← attempt (plainly (asking fun d => .ok d.names.keys))
  let closed ← attempt close
  match entries, closed with
  | .ok entries, .ok _ =>
    guard (entries.any unresolved) (conflict
      "unresolved Samba config quarantine or staging file requires administrator review")
  | entries, closed =>
    fail ((joinErrors [failureOf entries, failureOf closed]).getD (textError ""))

def openSambaConfigDirectory : Action Unit := saying "pin Samba config directory" (asking fun _ => .ok ())

/-- A name without a known file behind it is moved out of the way, and blocks all that follows. -/
def quarantineUnknown (base : Bytes) : Action Unit := do
  match ← attempt (asking (·.fstatat base)) with
  | .error code => if code = .enoent then pure () else fail (errnoError code)
  | .ok _ => do
    let retainedName ← randomQuarantineName base 16
    (syscall (·.renameNoReplace base retainedName)).onError fun _ _ =>
      conflict "preserve unknown Samba config"
    sync

end

/-! ## 3. Compare and swap -/

section

variable {α δ : Type} [DecidableEq δ] (sha256 : Bytes → δ)

def sambaConfigSnapshotsEqual (expected actual : SambaConfigSnapshot) : Bool :=
  if expected.present ≠ actual.present then false
  else if expected.present = false then true
  else decide (expected.identity = actual.identity ∧ expected.permission = actual.permission ∧
    sha256 expected.data = sha256 actual.data)

variable (expected : SambaConfigSnapshot)

/-- What was read, if it equals the snapshot. -/
def equalTo (read : Except OpError SambaConfigSnapshot) : Option SambaConfigSnapshot :=
  read.toOption.filter (sambaConfigSnapshotsEqual sha256 expected)

/-- The file is emptied, and its name let go. -/
def sanitize (moved : SambaConfigSnapshot) (retainedName : Bytes) : Action Unit := do
  let opened ← saying "retained proven Samba config" (asking (·.openat retainedName))
  let openedInfo ← attempt (plainly (fstat opened))
  guard (openedInfo.toOption.map ConfigStat.identity ≠ some moved.identity)
    (conflict "retained Samba config changed before sanitizing")
  writing opened fun file => { file with data := [] }
  writing opened fun file => { file with permission := 0o600 }
  plainly (asking fun _ => .ok ())
  close
  let final ← attempt (readSnapshot retainedName true [])
  guard (final.toOption.map (fun final => (final.identity, final.data, final.permission))
    ≠ some (moved.identity, [], 0o600)) (conflict "quarantine changed; unknown path preserved")
  saying "remove proven Samba quarantine file" (syscall (·.unlinkat retainedName))
  sync

/-- The file that was moved goes back. -/
def putBack (base retainedName : Bytes) (inspectErr : Option OpError) : Action Unit := do
  match ← attempt (plainly (syscall (·.renameNoReplace retainedName base))) with
  | .error rollbackErr => failJoined (conflict "unknown config preserved") [inspectErr, some rollbackErr]
  | .ok _ => failJoined (conflict "cleanup target changed before move") [inspectErr]

/-- The file that was moved is the expected one, or it goes back. -/
def discardMoved (retainedName : Bytes) : Action Unit := do
  let moved ← attempt (readSnapshot retainedName true [])
  match equalTo sha256 expected moved with
  | some moved => sanitize moved retainedName
  | none => putBack expected.base retainedName (failureOf moved)

def discardSambaConfigSnapshotIfOwned : Action Unit :=
  if expected.present = false then pure ()
  else do
    let current ← attempt (readSnapshot expected.base true [])
    match equalTo sha256 expected current with
    | none => failJoined (conflict "refusing to discard changed config") [failureOf current]
    | some _ => do
      let retainedName ← randomQuarantineName expected.base 16
      (syscall (·.renameNoReplace expected.base retainedName)).onError fun _ _ =>
        conflict "move proven config to retained tombstone"
      discardMoved sha256 expected retainedName

def discardTemporarySambaConfigSnapshotIfOwned : Action Unit := do
  match ← attempt (discardSambaConfigSnapshotIfOwned sha256 expected) with
  | .ok _ => pure ()
  | .error err => do
    let quarantined ← attempt (quarantineUnknown expected.base)
    failJoined err [failureOf quarantined]

section

variable (stagingName : Bytes)

/-- `closeRetained`: the staged file could not be written. -/
def closeRetained (staging : Nat) (cause : OpError) : Action α := do
  let _ ← attempt (writing staging fun file => { file with data := [] })
  let _ ← attempt (writing staging fun file => { file with permission := 0o600 })
  let info ← attempt (plainly (fstat staging))
  let closed ← attempt close
  match info with
  | .error statErr => failJoined cause [some statErr, failureOf closed]
  | .ok info => do
    let zero : SambaConfigSnapshot := ⟨stagingName, true, [], 0o600, info.identity⟩
    let discarded ← attempt (discardTemporarySambaConfigSnapshotIfOwned sha256 zero)
    failJoined cause [failureOf closed, failureOf discarded]

/-- Quarantine what is at the staging name, and fail. -/
def quarantineAndFail (err : OpError) (others : List (Option OpError)) : Action α := do
  let quarantined ← attempt (quarantineUnknown stagingName)
  failJoined err (others ++ [failureOf quarantined])

/-- Discard what is known to be at the staging name, and fail. -/
def discardAndFail (err : OpError) (others : List (Option OpError)) : Action α := do
  let discarded ← attempt (discardTemporarySambaConfigSnapshotIfOwned sha256 expected)
  failJoined err (others ++ [failureOf discarded])

/-- The staged file and what it was found to be. -/
def stage (data : Bytes) (permission : Nat) (stagingName : Bytes) (staging : Nat) :
    Action SambaConfigSnapshot := do
  let written ← attempt do
    writing staging fun file => { file with permission := permission }
    writing staging fun file => { file with data := file.data ++ data }
    plainly (asking fun _ => .ok ())
  match written with
  | .error err => closeRetained sha256 stagingName staging err
  | .ok _ => do
    match ← attempt (do close; readSnapshot stagingName true []) with
    | .error err => quarantineAndFail stagingName err []
    | .ok candidate => pure candidate

/-- Sync the directory, and fail. -/
def syncAndFail (err : OpError) (others : List (Option OpError)) : Action α := do
  let synced ← attempt sync
  failJoined err (others ++ [failureOf synced])

variable (candidate : SambaConfigSnapshot)

/-- After the exchange was undone. -/
def settleRollBack (displacedErr : Option OpError) : Action α := do
  let rolledBack ← attempt (readSnapshot stagingName true [])
  match equalTo sha256 candidate rolledBack with
  | some rolledBackTemporary => do
    let discarded ← attempt
      (discardTemporarySambaConfigSnapshotIfOwned sha256 rolledBackTemporary)
    syncAndFail (conflict "displaced config did not match snapshot") [displacedErr, failureOf discarded]
  | none => do
    let quarantined ← attempt (quarantineUnknown stagingName)
    syncAndFail (conflict "rollback target changed; unknown config preserved")
      [displacedErr, failureOf rolledBack, failureOf quarantined]

/-- The file that came out of the exchange is not the expected one. -/
def rollBack (displacedErr : Option OpError) : Action α := do
  let current ← attempt (readSnapshot expected.base true [])
  match equalTo sha256 candidate current with
  | none =>
    quarantineAndFail stagingName
      (conflict "publish target changed again; displaced config quarantined")
      [displacedErr, failureOf current]
  | some _ => do
    match ← attempt (plainly (syscall (·.renameExchange stagingName expected.base))) with
    | .error rollbackErr =>
      quarantineAndFail stagingName
        (conflict "could not roll back conditional publish; displaced config quarantined")
        [displacedErr, some rollbackErr]
    | .ok _ => settleRollBack sha256 stagingName candidate displacedErr

/-- After the exchange. -/
def settleExchange : Action (SambaConfigSnapshot × Option OpError) := do
  let displaced ← attempt (readSnapshot stagingName true [])
  match equalTo sha256 expected displaced with
  | some displaced => do
    let discarded ← attempt (discardTemporarySambaConfigSnapshotIfOwned sha256 displaced)
    let synced ← attempt sync
    pure (candidate, joinErrors [failureOf discarded, failureOf synced])
  | none => rollBack sha256 expected stagingName candidate (failureOf displaced)

/-- The staged file goes to the target. -/
def publishStaged : Action (SambaConfigSnapshot × Option OpError) :=
  if expected.present = false then do
    match ← attempt (syscall (·.renameNoReplace stagingName expected.base)) with
    | .error code =>
      discardAndFail sha256 candidate
        (if code = .eexist then conflict "appeared before publish" else errnoError code) []
    | .ok _ => do
      let synced ← attempt sync
      pure (candidate, failureOf synced)
  else do
    match ← attempt (syscall (·.renameExchange stagingName expected.base)) with
    | .error code =>
      discardAndFail sha256 candidate
        (if code = .enoent then conflict "disappeared before publish" else errnoError code) []
    | .ok _ => settleExchange sha256 expected stagingName candidate

end

/-- The history of what a call may discard. -/
def owning (snapshot : SambaConfigSnapshot) : Action Unit :=
  Fallible.modify fun w => ⟨w.state.own snapshot, w.faults⟩

/-- An error is returned without a snapshot; a snapshot may come with an error. -/
def publishSambaConfigCAS (data : Bytes) (permission : Nat) :
    Action (SambaConfigSnapshot × Option OpError) := do
  openSambaConfigDirectory
  refuseQuarantine
  owning expected
  let (stagingName, staging) ← createStaging expected.base permission 16
  let candidate ← stage sha256 data permission stagingName staging
  owning candidate
  publishStaged sha256 expected stagingName candidate

def removeSambaConfigCAS : Action Unit := do
  openSambaConfigDirectory
  refuseQuarantine
  owning expected
  discardSambaConfigSnapshotIfOwned sha256 expected
  match ← attempt (asking (·.fstatat expected.base)) with
  | .error code =>
    if code = .enoent then sync
    else fail (conflict "new content appeared during conditional removal")
  | .ok _ => fail (conflict "new content appeared during conditional removal")

end

end ReCasaOS.Samba
