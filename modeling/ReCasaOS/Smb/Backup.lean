/-
# Backup and restore of the keyring

`backupKeyringAt` and `restoreKeyringAt` of `pkg/smbcredentials/backup_linux.go`. A backup is
written to a staging name, checked, and renamed to the backup name; a restore opens the backup,
checks it and parses it. Every system call may fail, and `renameat2` may take effect and report an
error all the same. The provisioner inspects the target name after the rename (`settleNamedSource`);
the backup only inspects the staging name.
-/
import ReCasaOS.Smb.SourceFile

namespace ReCasaOS.Smb

open Lib List

/-! ## 1. Backup -/

structure BackupResult where
  created : Bool := false
  cleanupRequired : Bool := false
  durabilityUnknown : Bool := false
  deriving DecidableEq, Repr

/-- A descriptor was closed behind a backup, which a failing `close` makes uncertain. -/
def backupClosedBehind (outcome : BackupResult × Option SourceError)
    (closeErr : Option SourceError) : BackupResult × Option SourceError :=
  match closeErr with
  | none => outcome
  | some closeErr =>
    (if outcome.1.created then { outcome.1 with durabilityUnknown := true } else outcome.1,
      joinErrors [outcome.2, some closeErr])

def cleanupBackupStaging (path : SourceProvisionPath) (fd : SourceFd) :
    SourceSys (Bool × Option SourceError) :=
  cleanupStagedCandidate "remove keyring backup staging object" "sync keyring backup staging cleanup"
    .backupStaging path fd

/-- A backup is given up before it is published: the staging name is cleaned up, and what went
wrong there joins the other errors. -/
def abandonBackup (path : SourceProvisionPath) (fd : SourceFd) (errs : List (Option SourceError)) :
    SourceSys (BackupResult × Option SourceError) := do
  let cleanup ← cleanupBackupStaging path fd
  pure ({ cleanupRequired := cleanup.1 }, joinErrors (errs ++ [cleanup.2]))

/-- What a step of a backup yields: it goes on, or the backup is over. -/
abbrev BackupStep (α : Type) := Except (BackupResult × Option SourceError) α

/-- The backup is over. -/
def stopBackup (path : SourceProvisionPath) (fd : SourceFd) (errs : List (Option SourceError)) :
    SourceSys (BackupStep α) := do
  let outcome ← abandonBackup path fd errs
  pure (.error outcome)

section

variable (deriveKeyID : KeyMaterial → KeyID)

section

variable (path : SourceProvisionPath)

def validateBackupPublished (candidateFD : SourceFd) (data : Bytes) :
    SourceSys (Option SourceError) := do
  match ← validateBoundCandidate deriveKeyID "inspect published keyring backup"
      "bind published keyring backup" .backup path candidateFD data with
  | some err => pure (some err)
  | none =>
  let staging ← inspectSourceName path.directoryFD .backupStaging candidateFD
  if staging.2.isSome || staging.1 ≠ .absent then
    pure (joinErrors [some .unsafeSourceKeyring, staging.2])
  else pure none

/-- `backupKeyringAt` from the reserved staging name up to the rename: the bytes to publish. -/
def stageBackup (fd : SourceFd) (keyring : Keyring) : SourceSys (BackupStep Bytes) := do
  match keyring.marshal deriveKeyID with
  | .error err => stopBackup path fd [some (.keyring err)]
  | .ok data =>
  match ← prepareSourceCandidate deriveKeyID fd 1 path.owner path.group data with
  | some err => stopBackup path fd [some err]
  | none =>
  match ← path.revalidate with
  | some err => stopBackup path fd [some err]
  | none =>
  let staging ← inspectSourceName path.directoryFD .backupStaging fd
  if staging.2.isSome || staging.1 ≠ .candidate then
    stopBackup path fd [some .sourceCleanupRequired, staging.2]
  else
  let target ← inspectSourceName path.directoryFD .backup fd
  if target.2.isSome then
    stopBackup path fd [some .sourceCleanupRequired, target.2]
  else if target.1 ≠ .absent then
    stopBackup path fd [some .backupExists]
  else
  match ← syncDirectory "sync keyring backup directory" path with
  | some err => stopBackup path fd [some err]
  | none => pure (.ok data)

/-- `backupKeyringAt` behind a rename that succeeded. -/
def finishBackup (fd : SourceFd) (data : Bytes) :
    SourceSys (BackupResult × Option SourceError) := do
  match ← validateBackupPublished deriveKeyID path fd data with
  | some err =>
    let staging ← inspectSourceName path.directoryFD .backupStaging fd
    let dirty := staging.2.isSome || staging.1 ≠ .absent
    pure ({ created := true, durabilityUnknown := true, cleanupRequired := dirty },
      joinErrors [some err, staging.2])
  | none =>
  match ← syncDirectory "sync published keyring backup directory" path with
  | some err => pure ({ created := true, durabilityUnknown := true }, some err)
  | none =>
  match ← path.revalidate with
  | some err => pure ({ created := true, durabilityUnknown := true }, some err)
  | none => pure ({ created := true }, none)

/-- `backupKeyringAt` from the rename on. -/
def publishBackup (fd : SourceFd) (data : Bytes) :
    SourceSys (BackupResult × Option SourceError) := do
  match ← renameat2 path.directoryFD .backupStaging .backup with
  | some code =>
    let err := if code = .eexist then .backupExists
      else sourceProvisionFailure "publish keyring backup" code
    abandonBackup path fd [some err]
  | none => finishBackup deriveKeyID path fd data

/-- What happens while the staging file is open. -/
def backupToStaging (fd : SourceFd) (keyring : Keyring) :
    SourceSys (BackupResult × Option SourceError) := do
  match ← stageBackup deriveKeyID path fd keyring with
  | .error outcome => pure outcome
  | .ok data => publishBackup deriveKeyID path fd data

/-- What happens while the path is open. -/
def backupInDirectory (keyring : Keyring) : SourceSys (BackupResult × Option SourceError) := do
  match ← path.revalidate with
  | some err => pure ({}, some err)
  | none =>
  match ← openatExclusive path.directoryFD .backupStaging with
  | .error code =>
    let failure := sourceProvisionFailure "reserve keyring backup staging object" code
    if code = .eexist then
      pure ({ cleanupRequired := true }, joinErrors [some .sourceCleanupRequired, some failure])
    else pure ({}, some failure)
  | .ok fd =>
    let outcome ← backupToStaging deriveKeyID path fd keyring
    let closeErr ← sourceCloseFailure "close keyring backup candidate" fd
    pure (backupClosedBehind outcome closeErr)

end

def backupKeyringAt (rootFD : SourceFd) (owner group : Nat) (keyring : Keyring) :
    SourceSys (BackupResult × Option SourceError) := do
  match ← openSourceProvisionPath rootFD owner group with
  | .error err => pure ({}, some err)
  | .ok path =>
    let outcome ← backupInDirectory deriveKeyID path keyring
    let closeErr ← path.close
    pure (backupClosedBehind outcome closeErr)

/-- The calls of `backupToStaging` before `renameat2`: whether it is reached. -/
def stagingReachesRename (path : SourceProvisionPath) (fd : SourceFd) (keyring : Keyring) :
    SourceSys Bool := do
  match ← stageBackup deriveKeyID path fd keyring with
  | .error _ => pure false
  | .ok _ => pure true

/-- The calls of `backupInDirectory` before `renameat2`. -/
def directoryReachesRename (path : SourceProvisionPath) (keyring : Keyring) : SourceSys Bool := do
  match ← path.revalidate with
  | some _ => pure false
  | none =>
  match ← openatExclusive path.directoryFD .backupStaging with
  | .error _ => pure false
  | .ok fd => stagingReachesRename deriveKeyID path fd keyring

/-- The calls of `backupKeyringAt` before `renameat2`. -/
def backupReachesRename (rootFD : SourceFd) (owner group : Nat) (keyring : Keyring) :
    SourceSys Bool := do
  match ← openSourceProvisionPath rootFD owner group with
  | .error _ => pure false
  | .ok path => directoryReachesRename deriveKeyID path keyring

/-- The calls before `renameat2` do not end in a rename that takes effect and reports an error. -/
def RenameTruthful (reached : Bool) (w : SourceWorld) : Prop :=
  reached → ∀ code, w.outcome ≠ .applied code

/-! ## 2. Restore -/

def minBackupBytes : Nat := keyringMagic.length + 1 + 1 + keyIDSize + (keyIDSize + keySize)
def maxBackupBytes : Nat := keyringMagic.length + 1 + 1 + keyIDSize + maxKeys * (keyIDSize + keySize)

/-- The checks of `restoreKeyringAt` on what `fstat` answered. -/
def safeBackup (stat : FileStat) (owner group : Nat) : Bool :=
  stat.kind == .regular && stat.nlink == 1 && stat.uid == owner && stat.gid == group
    && stat.mode &&& 0o777 == 0o400 && !hasSpecialModeBits stat.mode
    && decide (minBackupBytes ≤ stat.size) && decide (stat.size ≤ maxBackupBytes)

/-- What happens while the backup is open. -/
def readBackup (path : SourceProvisionPath) (fd : SourceFd) :
    SourceSys (Except SourceError Keyring) := do
  match ← fstat fd with
  | .error code => pure (.error (sourceProvisionFailure "inspect keyring backup" code))
  | .ok stat =>
  if safeBackup stat path.owner path.group = false then pure (.error .unsafeSourceKeyring) else
  match ← sourcePreadExact fd stat.size with
  | .error err => pure (.error (.failure "read keyring backup" err))
  | .ok data =>
  let inspected ← inspectSourceName path.directoryFD .backup fd
  if inspected.2.isSome || inspected.1 ≠ .candidate then
    pure (.error (.join (.unsafeSourceKeyring :: inspected.2.toList)))
  else
  match ← path.revalidate with
  | some err => pure (.error err)
  | none =>
  match parseKeyring deriveKeyID data with
  | .error err => pure (.error (.join [.unsafeSourceKeyring, .keyring err]))
  | .ok restored => pure (.ok restored)

def restoreKeyringAt (rootFD : SourceFd) (owner group : Nat) :
    SourceSys (Except SourceError Keyring) := do
  match ← openSourceProvisionPath rootFD owner group with
  | .error err => pure (.error err)
  | .ok path =>
  match ← path.revalidate with
  | some err => let _ ← path.close; pure (.error err)
  | none =>
  match ← openatExisting path.directoryFD .backup with
  | .error code =>
    let _ ← path.close
    pure (.error (sourceProvisionFailure "open keyring backup" code))
  | .ok fd =>
    let restored ← readBackup deriveKeyID path fd
    let _ ← sourceCloseFailure "close keyring backup" fd
    let _ ← path.close
    pure restored

/-! ## 3. What a backup leaves behind -/

/-- The files below `n` and the directories on the way are as they were. -/
structure BackupFrame (n : Nat) (fs fs' : SourceFs) : Prop where
  kept : fs.KeptBelow n fs'
  directory : fs'.directory = fs.directory

variable {deriveKeyID} {path : SourceProvisionPath} {fd : SourceFd} {c n : Nat} {data : Bytes}
  {keyring : Keyring} {fs fs₁ fs₂ : SourceFs} {w : SourceWorld}

lemma BackupFrame.trans (h : BackupFrame n fs fs1) (h1 : BackupFrame n fs1 fs2) :
    BackupFrame n fs fs2 :=
  ⟨h.kept.trans h1.kept, h1.directory.trans h.directory⟩

lemma BackupFrame.refl (n : Nat) (fs : SourceFs) : BackupFrame n fs fs := ⟨.refl n fs, rfl⟩

lemma BackupFrame.onlyFile (hc : n ≤ c) (h : fs.OnlyFile c fs1) : BackupFrame n fs fs1 :=
  ⟨.onlyFile hc h, h.directory⟩

lemma BackupFrame.sameNames (h : fs.SameNames fs1) : BackupFrame n fs fs1 :=
  ⟨.sameNames h, h.directory⟩

/-- A backup that was given up. `bound` is what the backup name is bound to. -/
structure BackupAbandoned (n : Nat) (bound : Option Nat) (fs fs' : SourceFs)
    (outcome : BackupResult × Option SourceError) : Prop where
  frame : BackupFrame n fs fs'
  bound_eq : fs'.names .backup = bound
  created : outcome.1.created = false
  clean : outcome.1.cleanupRequired = false → fs'.names .backupStaging = none
  failed : outcome.2 ≠ none

lemma abandonBackup_spec (hop : Opened path fd n c) (hfr : BackupFrame n fs w.fs)
    {err : SourceError} {errs : List (Option SourceError)} (herr : some err ∈ errs) :
    (abandonBackup path fd errs).Post w fun outcome w' =>
      BackupAbandoned n (w.fs.names .backup) fs w'.fs outcome := by
  refine .bind (cleanupStagedCandidate_spec hop) ?_
  rintro ⟨stillDirty, cleanupErr⟩ w1 ⟨hk, hdir, hoth, hcln⟩
  refine .pure ⟨hfr.trans ⟨hk, hdir⟩, hoth .backup (by simp), rfl, hcln, ?_⟩
  intro hno
  have hall := joinErrors_eq_none.mp hno
  exact absurd (hall (some err) (mem_append_left _ herr)) (by simp)

/-- A backup that is ready to be renamed: its file is checked and on the disk, at the staging name,
and the backup name is free. -/
structure BackupStaged (n c owner group : Nat) (data : Bytes) (fs fs' : SourceFs) : Prop where
  frame : BackupFrame n fs fs'
  free : fs'.names .backup = none
  staged : fs'.names .backupStaging = some c
  file : SourceCandidate 1 owner group data (fs'.files c)

/-- What `stageBackup` may yield. -/
def StageOutcome (keyring : Keyring) (deriveKeyID : KeyMaterial → KeyID) (n c owner group : Nat)
    (bound : Option Nat) (fs fs' : SourceFs) : BackupStep Bytes → Prop
  | .error outcome => BackupAbandoned n bound fs fs' outcome
  | .ok data => bound = none ∧ keyring.marshal deriveKeyID = .ok data ∧
      BackupStaged n c owner group data fs fs'

lemma stageBackup_spec (hop : Opened path fd n c) (hfr : BackupFrame n fs w.fs) :
    (stageBackup deriveKeyID path fd keyring).Post w fun r w' =>
      StageOutcome keyring deriveKeyID n c path.owner path.group (w.fs.names .backup) fs w'.fs r := by
  have hstop : ∀ (w1 : SourceWorld) (errs : List (Option SourceError)) (err : SourceError),
      BackupFrame n fs w1.fs → w1.fs.names .backup = w.fs.names .backup → some err ∈ errs →
      (stopBackup path fd errs).Post w1 fun r w' =>
        StageOutcome keyring deriveKeyID n c path.owner path.group (w.fs.names .backup) fs w'.fs
          r := by
    intro w1 errs err hfr1 hbak herr
    refine .bind (abandonBackup_spec hop hfr1 herr) ?_
    rintro outcome w2 hout
    exact .pure (hbak ▸ hout)
  unfold stageBackup
  split
  · exact hstop w _ _ hfr rfl (.head _)
  rename_i data hda
  refine .bind (prepareSourceCandidate_spec hop.fd) ?_
  rintro prepareErr w1 ⟨honly, hprep⟩
  have hfr1 := hfr.trans (.onlyFile hop.new honly)
  have hbak1 : w1.fs.names .backup = w.fs.names .backup := by rw [honly.names]
  cases prepareErr with
  | some err => exact hstop w1 _ err hfr1 hbak1 (.head _)
  | none =>
  obtain ⟨hfi, -⟩ := hprep rfl
  refine .bind (path.revalidate_readOnly w1) ?_
  rintro pathErr w2 ⟨hfs2, -⟩
  rw [← hfs2] at hfr1 hbak1 hfi
  cases pathErr with
  | some err => exact hstop w2 _ err hfr1 hbak1 (.head _)
  | none =>
  refine .bind (inspectSourceName_spec hop.fd) ?_
  rintro ⟨stagingState, stagingErr⟩ w3 ⟨hfs3, -, hstg⟩
  rw [← hfs3] at hfr1 hbak1 hfi hstg
  split
  · exact hstop w3 _ .sourceCleanupRequired hfr1 hbak1 (.head _)
  rename_i hcand
  simp only [Bool.or_eq_true, decide_eq_true_eq, not_or, not_not, Bool.not_eq_true,
    Option.isSome_eq_false_iff, Option.isNone_iff_eq_none] at hcand
  obtain ⟨hstagingErr, rfl⟩ := hcand
  have hstgd : w3.fs.names .backupStaging = some c := hstg hstagingErr
  refine .bind (inspectSourceName_spec hop.fd) ?_
  rintro ⟨targetState, targetErr⟩ w4 ⟨hfs4, -, htgt⟩
  rw [← hfs4] at hfr1 hbak1 hfi hstgd htgt
  split
  · exact hstop w4 _ .sourceCleanupRequired hfr1 hbak1 (.head _)
  rename_i htargetErr
  split
  · exact hstop w4 _ .backupExists hfr1 hbak1 (.head _)
  rename_i habs
  rw [not_not] at habs
  subst habs
  have hfe : w4.fs.names .backup = none := htgt (by simpa using htargetErr)
  refine .bind (syncDirectory_spec hop.dir) ?_
  rintro syncErr w5 ⟨hsm, -⟩
  have hfr5 := hfr1.trans (.sameNames hsm)
  cases syncErr with
  | some err =>
    refine hstop w5 _ err hfr5 ?_ (.head _)
    rw [hsm.names]
    exact hbak1
  | none =>
    refine .pure ⟨hbak1 ▸ hfe, hda, hfr5, ?_, ?_, ?_⟩
    · rw [hsm.names]
      exact hfe
    · rw [hsm.names]
      exact hstgd
    · rw [hsm.files]
      exact hfi

lemma validateBackupPublished_spec (hfd : fd.target = .file c) :
    (validateBackupPublished deriveKeyID path fd data).Post w fun err w' => w'.fs = w.fs ∧
      (err = none → SourceCandidate 1 path.owner path.group data (w.fs.files c)) := by
  refine .bind (validateBoundCandidate_spec hfd) ?_
  rintro (_ | err) w1 ⟨hfs1, hv⟩
  swap
  · exact .pure ⟨hfs1, nofun⟩
  refine .bind (inspectSourceName_spec hfd) ?_
  rintro staging w2 ⟨hfs2, -, -⟩
  split
  · exact .pure ⟨hfs2.trans hfs1, by simp⟩
  · exact .pure ⟨hfs2.trans hfs1, fun _ => (hv rfl).1⟩

/-- What the rename and everything behind it may report. -/
structure BackupSettled (n c owner group : Nat) (data : Bytes) (fs fs' : SourceFs)
    (outcome : BackupResult × Option SourceError) : Prop where
  frame : BackupFrame n fs fs'
  bound : fs'.names .backup = none ∨ fs'.names .backup = some c
  clean : outcome.1.cleanupRequired = false → fs'.names .backupStaging = none
  succeeded : outcome.2 = none → outcome.1 = { created := true } ∧
    fs'.names .backup = some c ∧ SourceCandidate 1 owner group data (fs'.files c)

lemma BackupAbandoned.settled {owner group : Nat} {fs' : SourceFs} {bound : Option Nat}
    {outcome : BackupResult × Option SourceError} (h : BackupAbandoned n bound fs fs' outcome)
    (hbd : bound = none ∨ bound = some c) : BackupSettled n c owner group data fs fs' outcome :=
  ⟨h.frame, h.bound_eq ▸ hbd, h.clean, fun hno => absurd hno h.failed⟩

/-- Behind a rename that succeeded every outcome says `Created`. -/
lemma finishBackup_spec (hop : Opened path fd n c) (hfr : BackupFrame n fs w.fs)
    (hbak : w.fs.names .backup = some c) (hstg : w.fs.names .backupStaging = none) :
    (finishBackup deriveKeyID path fd data).Post w fun outcome w' =>
      outcome.1.created ∧ BackupSettled n c path.owner path.group data fs w'.fs outcome := by
  refine .bind (validateBackupPublished_spec hop.fd) ?_
  rintro validErr w1 ⟨hfs1, hv⟩
  rw [← hfs1] at hfr hbak hstg hv
  cases validErr with
  | some err =>
    refine .bind (inspectSourceName_spec hop.fd) ?_
    rintro staging w2 ⟨hfs2, -, -⟩
    rw [← hfs2] at hfr hbak hstg
    exact .pure ⟨rfl, hfr, Or.inr hbak, fun _ => hstg, by simp⟩
  | none =>
  refine .bind (syncDirectory_spec hop.dir) ?_
  rintro syncErr w2 ⟨hsm, -⟩
  have hfr2 := hfr.trans (.sameNames hsm)
  rw [← hsm.names] at hbak hstg
  rw [← hsm.files] at hv
  cases syncErr with
  | some err => exact .pure ⟨rfl, hfr2, .inr hbak, fun _ => hstg, nofun⟩
  | none =>
  refine .bind (path.revalidate_readOnly w2) ?_
  rintro pathErr w3 ⟨hfs3, -⟩
  rw [← hfs3] at hfr2 hbak hstg hv
  cases pathErr with
  | some err => exact .pure ⟨rfl, hfr2, .inr hbak, fun _ => hstg, nofun⟩
  | none =>
    exact .pure ⟨rfl, hfr2, .inr hbak, fun _ => hstg,
      fun _ => ⟨rfl, hbak, hv rfl⟩⟩

/-- **The rename decides whether a backup without `Created` may be there.** It is there just when
`renameat2` takes effect and reports an error. -/
theorem publishBackup_spec (hop : Opened path fd n c)
    (hstgd : BackupStaged n c path.owner path.group data fs w.fs) :
    (publishBackup deriveKeyID path fd data).Post w fun outcome w' =>
      BackupSettled n c path.owner path.group data fs w'.fs outcome ∧
        ((outcome.1.created = false → w'.fs.names .backup ≠ some c) ↔
          ∀ code, w.outcome ≠ .applied code) := by
  have hrnm : BackupFrame n fs (w.fs.rename .backupStaging .backup) :=
    hstgd.frame.trans ⟨fun _ _ => rfl, rfl⟩
  have hbak : (w.fs.rename .backupStaging .backup).names .backup = some c := by
    simp [Fs.rename, hstgd.staged]
  have hstg : (w.fs.rename .backupStaging .backup).names .backupStaging = none := by
    simp [Fs.rename]
  refine .bind (renameat2_outcome path.directoryFD hstgd.staged hstgd.free) ?_
  rintro (_ | code) w1 ⟨hdn, hfa⟩
  · obtain ⟨hfs1, hpl⟩ := hdn rfl
    rw [← hfs1] at hrnm hbak hstg
    refine (finishBackup_spec hop hrnm hbak hstg).mono ?_
    rintro outcome w' ⟨hcre, hset⟩
    refine ⟨hset, iff_of_true (fun hf => ?_) hpl⟩
    rw [hcre] at hf
    cases hf
  · -- an error: what the name is bound to depends on whether the rename took effect all the same
    rcases hfa (by simp) with ⟨hfs1, hpl⟩ | ⟨hfs1, code', happlied⟩
    · refine (abandonBackup_spec hop (hfs1 ▸ hstgd.frame) (.head _)).mono ?_
      rintro outcome w' haban
      rw [hfs1, hstgd.free] at haban
      refine ⟨haban.settled (.inl rfl), iff_of_true (fun _ => ?_) hpl⟩
      rw [haban.bound_eq]
      simp
    · refine (abandonBackup_spec hop (hfs1 ▸ hrnm) (.head _)).mono ?_
      rintro outcome w' haban
      rw [hfs1, hbak] at haban
      refine ⟨haban.settled (.inr rfl), iff_of_false (fun himp => ?_) ?_⟩
      · exact himp haban.created haban.bound_eq
      · exact fun hpl => hpl code' happlied

/-! ## 4. What a backup reports -/

variable (deriveKeyID) in
/-- What a run from `fs` to `fs'` reports. The files below `n` were there before. -/
structure BackupReport (n owner group : Nat) (keyring : Keyring) (fs fs' : SourceFs)
    (outcome : BackupResult × Option SourceError) : Prop where
  frame : BackupFrame n fs fs'
  existing : ∀ i, fs.names .backup = some i → fs'.names .backup = some i
  clean : fs.names .backupStaging = none → outcome.1.cleanupRequired = false →
    fs'.names .backupStaging = none
  succeeded : outcome.2 = none → ∃ data c, keyring.marshal deriveKeyID = .ok data ∧
    fs'.names .backup = some c ∧ SourceCandidate 1 owner group data (fs'.files c)

/-- A result without `Created` leaves the backup name unbound to any new file. -/
def BackupUnpublished (n : Nat) (outcome : BackupResult × Option SourceError) (w' : SourceWorld) :
    Prop :=
  outcome.1.created = false → ∀ i, w'.fs.names .backup = some i → i < n

section

variable {owner group : Nat} {fs' : SourceFs} {outcome : BackupResult × Option SourceError}

lemma BackupReport.refused (herr : outcome.2 ≠ none) :
    BackupReport deriveKeyID n owner group keyring fs fs outcome :=
  ⟨.refl n fs, fun _ hi => hi, fun h _ => h, fun h => absurd h herr⟩

lemma backupClosedBehind_flags (outcome : BackupResult × Option SourceError)
    (closeErr : Option SourceError) :
    (backupClosedBehind outcome closeErr).1.created = outcome.1.created ∧
      (backupClosedBehind outcome closeErr).1.cleanupRequired = outcome.1.cleanupRequired := by
  cases closeErr with
  | none => exact ⟨rfl, rfl⟩
  | some closeErr =>
    unfold backupClosedBehind
    dsimp only
    split <;> exact ⟨rfl, rfl⟩

/-- Nothing has failed only if nothing had failed before the `close`. -/
lemma backupClosedBehind_of_none {closeErr : Option SourceError}
    (h : (backupClosedBehind outcome closeErr).2 = none) : outcome.2 = none := by
  cases closeErr with
  | none => exact h
  | some closeErr =>
    have hall := joinErrors_eq_none.mp h
    exact hall outcome.2 (by simp)

lemma BackupReport.closed (h : BackupReport deriveKeyID n owner group keyring fs fs' outcome)
    (closeErr : Option SourceError) :
    BackupReport deriveKeyID n owner group keyring fs fs' (backupClosedBehind outcome closeErr) := by
  refine ⟨h.frame, h.existing, fun hfe hf => h.clean hfe ?_, fun hno => ?_⟩
  · rwa [(backupClosedBehind_flags ..).2] at hf
  · exact h.succeeded (backupClosedBehind_of_none hno)

lemma backupUnpublished_closed {w w' : SourceWorld} (hfs : w'.fs = w.fs)
    (closeErr : Option SourceError) :
    BackupUnpublished n (backupClosedBehind outcome closeErr) w' ↔ BackupUnpublished n outcome w := by
  unfold BackupUnpublished
  rw [(backupClosedBehind_flags ..).1, hfs]

end

lemma backupToStaging_spec (hop : Opened path fd n c) (hfr : BackupFrame n fs w.fs)
    (hbak : w.fs.names .backup = fs.names .backup)
    (hlt : ∀ i, fs.names .backup = some i → i < n) :
    (backupToStaging deriveKeyID path fd keyring).Post w fun outcome w' =>
      BackupReport deriveKeyID n path.owner path.group keyring fs w'.fs outcome ∧
        (BackupUnpublished n outcome w' ↔
          (stagingReachesRename deriveKeyID path fd keyring).Post w RenameTruthful) := by
  refine .bind_iff (stageBackup_spec hop hfr) ?_
  rintro (outcome | data) w1 hstage
  · -- given up before the rename, which is not reached
    have haban : BackupAbandoned n (w.fs.names .backup) fs w1.fs outcome := hstage
    refine .pure ⟨⟨haban.frame, ?_, fun _ => haban.clean,
      fun hno => absurd hno haban.failed⟩, iff_of_true ?_ nofun⟩
    · intro i hi
      rw [haban.bound_eq, hbak, hi]
    · intro _ i hi
      rw [haban.bound_eq, hbak] at hi
      exact hlt i hi
  · obtain ⟨hfe, hda, hstgd⟩ := hstage
    rw [hbak] at hfe
    refine (publishBackup_spec hop hstgd).mono ?_
    rintro outcome w2 ⟨hset, hren⟩
    refine ⟨⟨hset.frame, ?_, fun _ => hset.clean, fun hno => ?_⟩, ?_⟩
    · intro i hi
      rw [hfe] at hi
      cases hi
    · obtain ⟨-, hbd, hfi⟩ := hset.succeeded hno
      exact ⟨data, c, hda, hbd, hfi⟩
    · refine Iff.trans ?_ (hren.trans ⟨fun h _ => h, fun h => h rfl⟩)
      constructor
      · intro hunpublished hf hbd
        exact absurd (hunpublished hf c hbd) (not_lt.mpr hop.new)
      · intro hne hf i hi
        rcases hset.bound with hno | hbd
        · rw [hno] at hi
          cases hi
        · exact absurd hbd (hne hf)

lemma backupInDirectory_spec (hdir : path.directoryFD.target = .directory .recasaos) :
    (backupInDirectory deriveKeyID path keyring).Post w fun outcome w' =>
      BackupReport deriveKeyID w.fs.next path.owner path.group keyring w.fs w'.fs outcome ∧
        (BackupUnpublished w.fs.next outcome w' ↔
          (directoryReachesRename deriveKeyID path keyring).Post w RenameTruthful) := by
  refine .bind_iff (path.revalidate_readOnly w) ?_
  rintro (_ | err) w1 ⟨hfs1, -⟩
  swap
  · rw [← hfs1]
    exact .pure ⟨.refused nofun, iff_of_true (fun _ => w1.fs.names_lt _) nofun⟩
  rw [← hfs1]
  refine .bind_iff (openatExclusive_spec path.directoryFD SourceName.backupStaging) ?_
  rintro r w2 (⟨code, rfl, hfs2⟩ | ⟨fd, rfl, hfd, -, hfs2⟩)
  · rw [← hfs2]
    have hsm : ∀ outcome : BackupResult × Option SourceError,
        BackupUnpublished w2.fs.next outcome w2 ↔
          (pure false : SourceSys Bool).Post w2 RenameTruthful :=
      fun _ => iff_of_true (fun _ => w2.fs.names_lt _) nofun
    dsimp only
    split
    · exact .pure ⟨.refused (by simp), hsm _⟩
    · exact .pure ⟨.refused nofun, hsm _⟩
  · have hfr : BackupFrame w1.fs.next w1.fs w2.fs := by
      rw [hfs2]
      exact ⟨(Fs.KeptBelow.create (le_refl _)).trans (.link (le_refl _) _), rfl⟩
    have hbak : w2.fs.names .backup = w1.fs.names .backup := by
      rw [hfs2]
      rfl
    refine .bind (backupToStaging_spec ⟨hfd, le_refl _, hdir⟩ hfr hbak (w1.fs.names_lt .backup)) ?_
    rintro outcome w3 ⟨hrp, hiff⟩
    refine .bind (sourceCloseFailure_readOnly _ fd w3) ?_
    rintro closeErr w4 ⟨hfs4, -⟩
    exact .pure ⟨hfs4 ▸ hrp.closed closeErr, (backupUnpublished_closed hfs4 closeErr).trans hiff⟩

/-! ## 5. A staging object of an earlier run -/

/-- Reserving the staging name is reached, and answered by `EEXIST` if the name is taken: the path
opens, the fifteen calls up to there are not faulty, and the sixteenth has no other error. -/
structure BackupStagingReported (w : SourceWorld) (rootFD : SourceFd) (owner group : Nat) :
    Prop where
  opens : SourcePathOpens w rootFD owner group
  clear : w.Clear 15
  reserves : ∀ code, (w.script.getD 15 .ok).error = some code → code = .eexist

/-- **A staging object that was there is reported just when reserving its name is reached.** -/
theorem backup_staging_reported_iff (rootFD : SourceFd) (owner group : Nat)
    (hstg : w.fs.names .backupStaging ≠ none) :
    (backupKeyringAt deriveKeyID rootFD owner group keyring).Post w fun outcome w' =>
      w'.fs.names .backupStaging ≠ none ∧
        (outcome.1.cleanupRequired ↔ BackupStagingReported w rootFD owner group) := by
  refine .bind (openSourceProvisionPath_answer rootFD owner group w) ?_
  rintro (err | path) w1 ⟨hfs1, hops, hpa⟩
  · refine .pure ⟨hfs1 ▸ hstg, iff_of_false Bool.false_ne_true fun h => ?_⟩
    exact absurd (hops.mpr h.opens) (by simp)
  obtain ⟨hopenOn, hscr1⟩ := hpa path rfl
  have hops := hops.mp ⟨path, rfl⟩
  have hcl : w.Clear (10 + 5) ↔ w1.Clear 5 :=
    (World.clear_add hscr1).trans (and_iff_right hops.clear)
  rw [← hfs1] at hopenOn hstg
  refine .bind (P := fun outcome w' => w'.fs.names .backupStaging ≠ none ∧
    (outcome.1.cleanupRequired ↔ BackupStagingReported w rootFD owner group)) ?_ ?_
  · refine .bind (SourceProvisionPath.revalidate_answer hopenOn) ?_
    rintro (_ | err) w2 ⟨hfs2, hcl2, hscr2⟩
    swap
    · refine .pure ⟨hfs2 ▸ hstg, iff_of_false Bool.false_ne_true fun h => ?_⟩
      exact absurd (hcl2.mpr (hcl.mp h.clear)) (by simp)
    rw [← hfs2] at hstg
    refine .bind (openatExclusive_of_bound path.directoryFD hstg) ?_
    rintro r w3 ⟨hfs3, code, rfl, hco⟩
    have hrptd : BackupStagingReported w rootFD owner group ↔ code = .eexist := by
      have hout : w.script.getD 15 .ok = w2.outcome := by
        rw [World.outcome, hscr2 rfl, hscr1, drop_drop, head?_drop, getD_eq_getElem?_getD]
      rw [hco, ← hout]
      exact ⟨fun h => h.reserves, fun h => ⟨hops, hcl.mpr (hcl2.mp rfl), h⟩⟩
    rw [← hfs3] at hstg
    dsimp only
    split
    next heexist =>
      exact .pure ⟨hstg, iff_of_true rfl (hrptd.mpr heexist)⟩
    next hoth =>
      exact .pure ⟨hstg, iff_of_false Bool.false_ne_true fun h => hoth (hrptd.mp h)⟩
  · rintro outcome w2 ⟨hstg2, hiff⟩
    refine .bind (path.close_readOnly w2) ?_
    rintro closeErr w3 ⟨hfs3, -⟩
    refine .pure ⟨hfs3 ▸ hstg2, ?_⟩
    rw [(backupClosedBehind_flags ..).2]
    exact hiff

/-! ## 6. A backup can be restored -/

/-- The bytes of a keyring have the size of a backup, and are parsed back. -/
lemma marshal_restores (h : keyring.marshal deriveKeyID = .ok data) :
    (minBackupBytes ≤ data.length ∧ data.length ≤ maxBackupBytes) ∧
      ∃ restored, parseKeyring deriveKeyID data = .ok restored ∧ restored.active = keyring.active ∧
        ∀ id, restored.keys.lookup id = keyring.keys.lookup id := by
  obtain ⟨es, rfl, hpm, hasc, hv⟩ := marshal_eq_ok h
  refine ⟨?_, parseKeyring_of_valid hv hpm hasc⟩
  obtain ⟨hone, hmax, -, -⟩ := validateLocked_iff.mp hv
  rw [← hpm.length_eq] at hone hmax
  have hlen : (keyringBytes keyring.active es).length = 42 + es.length * 64 := by
    simp only [keyringBytes, keyringMagic, length_append, length_cons, length_nil,
      length_arr, length_entriesBytes]
  unfold maxKeys at hmax
  change 106 ≤ _ ∧ _ ≤ 554
  omega

/-- **A backup is restored by a run without faults.** -/
theorem restoreKeyringAt_of_backup {rootFD : SourceFd} {owner group : Nat}
    (hnil : w.script = []) (hops : SourcePathOpens w rootFD owner group)
    (hbd : w.fs.names .backup = some c)
    (hfi : SourceCandidate 1 owner group data (w.fs.files c))
    (hda : keyring.marshal deriveKeyID = .ok data) :
    (restoreKeyringAt deriveKeyID rootFD owner group).Post w fun r _ =>
      ∃ restored, r = .ok restored ∧ restored.active = keyring.active ∧
        ∀ id, restored.keys.lookup id = keyring.keys.lookup id := by
  obtain ⟨⟨hmin, hmax⟩, restored, hprs, hrestored⟩ := marshal_restores hda
  refine .bind (openSourceProvisionPath_answer rootFD owner group w) ?_
  rintro r w1 ⟨hfs1, hans, hpa⟩
  obtain ⟨path, rfl⟩ := hans.mpr hops
  obtain ⟨hopenOn, hscr1⟩ := hpa path rfl
  have hnil1 : w1.script = [] := by rw [hscr1, hnil, drop_nil]
  rw [← hfs1] at hopenOn hbd hfi
  have hv : ∀ w' : SourceWorld, w'.fs = w1.fs → w'.script = [] →
      path.revalidate.Post w' fun err w'' => err = none ∧ w''.fs = w1.fs ∧ w''.script = [] := by
    intro w' hfs hnil'
    refine (SourceProvisionPath.revalidate_answer (hfs ▸ hopenOn)).mono ?_
    rintro err w'' ⟨hfs'', hcl, hscr⟩
    have hno := hcl.mpr (World.clear_of_nil hnil' 5)
    exact ⟨hno, hfs''.trans hfs, by rw [hscr hno, hnil', drop_nil]⟩
  refine .bind (hv w1 rfl hnil1) ?_
  rintro err w2 ⟨rfl, hfs2, hnil2⟩
  refine .bind (openatExisting_of_nil path.directoryFD hnil2 (hfs2 ▸ hbd)) ?_
  rintro r w3 ⟨⟨fd, rfl, hfd⟩, hfs3, hnil3⟩
  rw [hfs2] at hfs3
  have hrd : (readBackup deriveKeyID path fd).Post w3 fun r _ => r = .ok restored := by
    refine .bind (fstat_of_nil fd hnil3) ?_
    rintro r w4 ⟨rfl, hfs4, hnil4⟩
    rw [hfs3] at hfs4
    have hsafe : safeBackup (w3.fs.stat fd.target) path.owner path.group := by
      rw [hfs3, hfd, hopenOn.owner_eq, hopenOn.group_eq]
      simp [safeBackup, Fs.stat, hfi.kind, hfi.nlink, hfi.uid, hfi.gid, hfi.permissions,
        hfi.special, hfi.content, hmin, hmax]
    have hsz : (w4.fs.files c).content.length = (w3.fs.stat fd.target).size := by
      rw [hfs4, hfs3, hfd]
      rfl
    dsimp only
    rw [hsafe, if_neg (by simp)]
    refine .bind (sourcePreadExact_of_nil hfd hnil4 hsz) ?_
    rintro r w5 ⟨rfl, hfs5, hnil5⟩
    rw [hfs4] at hfs5
    refine .bind (inspectSourceName_of_nil hfd hnil5 (hfs5 ▸ hbd)) ?_
    rintro r w6 ⟨rfl, hfs6, hnil6⟩
    refine .bind (hv w6 (hfs6.trans hfs5) hnil6) ?_
    rintro err w7 ⟨rfl, -, -⟩
    rw [hfs4, hfi.content]
    rw [hprs]
    exact .pure rfl
  refine .bind hrd ?_
  rintro r w4 rfl
  exact .skip fun _ _ => .skip fun _ _ => .pure ⟨restored, rfl, hrestored⟩

/-- The whole run; a run that succeeds has opened the path. -/
lemma backupKeyringAt_spec (rootFD : SourceFd) (owner group : Nat) :
    (backupKeyringAt deriveKeyID rootFD owner group keyring).Post w fun outcome w' =>
      (BackupReport deriveKeyID w.fs.next owner group keyring w.fs w'.fs outcome ∧
        (outcome.2 = none → SourcePathOpens w rootFD owner group)) ∧
      (BackupUnpublished w.fs.next outcome w' ↔
        (backupReachesRename deriveKeyID rootFD owner group keyring).Post w RenameTruthful) := by
  refine .bind_iff (openSourceProvisionPath_answer rootFD owner group w) ?_
  rintro (err | path) w1 ⟨hfs1, hops, hpa⟩
  · rw [← hfs1]
    exact .pure ⟨⟨.refused nofun, nofun⟩, iff_of_true (fun _ => w1.fs.names_lt _) nofun⟩
  obtain ⟨hopenOn, -⟩ := hpa path rfl
  have hops := hops.mp ⟨path, rfl⟩
  refine .bind (backupInDirectory_spec hopenOn.directoryFD_target) ?_
  rintro outcome w2 ⟨hrp, hiff⟩
  rw [hfs1, hopenOn.owner_eq, hopenOn.group_eq] at hrp
  rw [hfs1] at hiff
  refine .bind (path.close_readOnly w2) ?_
  rintro closeErr w3 ⟨hfs3, -⟩
  exact .pure ⟨⟨hfs3 ▸ hrp.closed closeErr, fun _ => hops⟩,
    (backupUnpublished_closed hfs3 closeErr).trans hiff⟩

/-- **When a backup reports honestly.** Whatever the system calls answer: success means that the
backup name holds exactly the canonical bytes of the keyring, and a restore without faults then
returns a keyring with the same active id and the same keys; and what stood at the backup name
before still stands there. A result without `Created` leaves the name unbound to any new file just
when `renameat2` is not reached with an outcome that takes effect and reports an error, and a result
without `CleanupRequired` means a free staging name just when it was free before, or reserving it is
reached and answered by `EEXIST`. -/
theorem backup_reports_honestly (deriveKeyID : KeyMaterial → KeyID) (root owner group : Nat)
    (keyring : Keyring) (w : SourceWorld) :
    (backupKeyringAt deriveKeyID ⟨root, .directory .root⟩ owner group keyring).Post w
      fun outcome w' =>
        ((outcome.1.created = false → ∀ i, w'.fs.names .backup = some i → i < w.fs.next) ↔
          (backupReachesRename deriveKeyID ⟨root, .directory .root⟩ owner group keyring).Post w
            fun reached w₁ => reached = true → ∀ code, w₁.outcome ≠ .applied code) ∧
        ((outcome.1.cleanupRequired = false → w'.fs.names .backupStaging = none) ↔
          w.fs.names .backupStaging = none ∨
            BackupStagingReported w ⟨root, .directory .root⟩ owner group) ∧
        (outcome.2 = none → ∃ data c, keyring.marshal deriveKeyID = .ok data ∧
          w'.fs.names .backup = some c ∧ (w'.fs.files c).content = data ∧
          (restoreKeyringAt deriveKeyID ⟨root, .directory .root⟩ owner group).Post
            { w' with script := [] } fun r _ => ∃ restored, r = .ok restored ∧
              restored.active = keyring.active ∧
              ∀ id, restored.keys.lookup id = keyring.keys.lookup id) ∧
        (∀ i, w.fs.names .backup = some i →
          w'.fs.names .backup = some i ∧ w'.fs.files i = w.fs.files i) := by
  have hstaging : (backupKeyringAt deriveKeyID ⟨root, .directory .root⟩ owner group keyring).Post w
      fun outcome w' => w.fs.names .backupStaging ≠ none → w'.fs.names .backupStaging ≠ none ∧
        (outcome.1.cleanupRequired = true ↔
          BackupStagingReported w ⟨root, .directory .root⟩ owner group) :=
    fun hbound => backup_staging_reported_iff _ owner group hbound
  refine ((backupKeyringAt_spec _ owner group).and hstaging).mono ?_
  rintro outcome w' ⟨⟨⟨hreport, hopens⟩, hiff⟩, hstaging⟩
  refine ⟨hiff, ?_, fun hnone => ?_, fun i hi => ⟨hreport.existing i hi, ?_⟩⟩
  · by_cases hfree : w.fs.names .backupStaging = none
    · exact iff_of_true (hreport.clean hfree) (.inl hfree)
    · obtain ⟨hleft, hreported⟩ := hstaging hfree
      rw [or_iff_right hfree, ← hreported]
      constructor
      · intro hclean
        by_contra hrequired
        exact hleft (hclean (Bool.eq_false_of_not_eq_true hrequired))
      · intro htrue hfalse
        rw [htrue] at hfalse
        cases hfalse
  · obtain ⟨data, c, hdata, hbound, hfile⟩ := hreport.succeeded hnone
    have hsafe := hopens hnone
    refine ⟨data, c, hdata, hbound, hfile.content, ?_⟩
    refine restoreKeyringAt_of_backup rfl ⟨?_, ?_, ?_, World.clear_of_nil rfl 10⟩ hbound hfile hdata
    · change safeSourceAncestor (w'.fs.directory .root) owner group = true
      rw [hreport.frame.directory]
      exact hsafe.root
    · change safeSourceAncestor (w'.fs.directory .etc) owner group = true
      rw [hreport.frame.directory]
      exact hsafe.etc
    · change safeSourceDirectory (w'.fs.directory .recasaos) owner group = true
      rw [hreport.frame.directory]
      exact hsafe.directory
  · exact hreport.frame.kept i (w.fs.names_lt _ i hi)

end

/-- The directory before the first backup. -/
def backupFs : SourceFs where
  directory
    | .root => ⟨0, 2, .directory, 20, 0, 0, 0o755, 4096⟩
    | .etc => ⟨0, 3, .directory, 90, 0, 0, 0o755, 4096⟩
    | .recasaos => ⟨0, 4, .directory, 2, 0, 0, 0o700, 4096⟩
  files := fun _ => ⟨.regular, 1, 0, 0, 0o400, [], true⟩
  next := 6
  names := fun _ => none
  namesSynced := true
  euid := 0
  egid := 0
  names_lt := nofun

/-- A keyring with one key, filed under its own bytes. -/
def oneKeyKeyring : Keyring := ⟨zeroArr 32, (∅ : KeyMap).insert (zeroArr 32) (zeroArr 32)⟩

/-- Every call succeeds, but `renameat2` takes effect and reports `EIO`. -/
def appliedRenameWorld : SourceWorld :=
  ⟨backupFs, List.replicate 36 .ok ++ [.applied .eio], 4, []⟩

/-- **A backup that is there is not reported.** -/
theorem applied_rename_not_reported :
    (backupKeyringAt (fun key => key) ⟨3, .directory .root⟩ 0 0 oneKeyKeyring
        appliedRenameWorld).1.1 = {} ∧
      (backupKeyringAt (fun key => key) ⟨3, .directory .root⟩ 0 0 oneKeyKeyring
        appliedRenameWorld).2.fs.names .backup = some 6 :=
  ⟨by decide +kernel, by decide +kernel⟩

end ReCasaOS.Smb
