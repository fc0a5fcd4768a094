/-
# Provisioning the source keyring

`provisionSystemKeyringSourceAt` of `pkg/smbcredentials/provision_linux.go`: a new keyring is
written to a file without a name, which is then linked to the credential name; where the file
system cannot do that, it is written to a staging name and renamed. Every system call may fail,
and `linkat` and `renameat2` may take effect and report an error all the same.

The result separates what was published from what is durable and what is left over. What it may
say about the directory is `ProvisionOutcome`, and each function below keeps it.
-/
import ReCasaOS.Smb.SourceFile

namespace ReCasaOS.Smb

open Lib Option

/-! ## 1. The namespace -/

structure ProvisionResult where
  created : Bool := false
  durabilityUnknown : Bool := false
  cleanupRequired : Bool := false
  deriving DecidableEq, Repr

def sourceNameExists (directoryFD : SourceFd) (name : SourceName) :
    SourceSys (Bool × Option SourceError) := do
  match ← fstatat directoryFD name with
  | .ok _ => pure (true, none)
  | .error .enoent => pure (false, none)
  | .error code => pure (false, some (sourceProvisionFailure "inspect source keyring namespace" code))

def requireEmptySourceNamespace (directoryFD : SourceFd) :
    SourceSys (ProvisionResult × Option SourceError) := do
  let target ← sourceNameExists directoryFD .credential
  let staging ← sourceNameExists directoryFD .staging
  if target.2.isSome || staging.2.isSome then
    let existsErr := if target.2.isNone && target.1 then some .sourceKeyringExists else none
    pure ({ cleanupRequired := true },
      joinErrors [some .sourceCleanupRequired, existsErr, target.2, staging.2])
  else if target.1 then
    if staging.1 then
      pure ({ cleanupRequired := staging.1 },
        joinErrors [some .sourceKeyringExists, some .sourceCleanupRequired])
    else pure ({ cleanupRequired := staging.1 }, some .sourceKeyringExists)
  else if staging.1 then pure ({ cleanupRequired := true }, some .sourceCleanupRequired)
  else pure ({}, none)

/-! ## 2. After publication -/

def anonymousSourceOpenUnavailable (code : Errno) : Bool :=
  code == .eopnotsupp || code == .eisdir || code == .enoent || code == .enosys

def sourceRenameUnsupported (code : Errno) : Bool :=
  code == .enosys || code == .einval || code == .eopnotsupp

def sourceLinkFailureDefinitive (code : Errno) : Bool :=
  code == .eperm || code == .eacces || code == .erofs || code == .einval || code == .enosys
    || code == .ebadf || code == .exdev || code == .eopnotsupp

section

variable (deriveKeyID : KeyMaterial → KeyID)

def validatePublishedSource (path : SourceProvisionPath) (candidateFD : SourceFd) (data : Bytes) :
    SourceSys (Option SourceError) :=
  validateBoundCandidate deriveKeyID "inspect published source candidate"
    "bind published source keyring" .credential path candidateFD data

def finalizePublishedSource (path : SourceProvisionPath) (fd : SourceFd) (data : Bytes)
    (result : ProvisionResult) : SourceSys (ProvisionResult × Option SourceError) := do
  let verifyBefore ← validatePublishedSource deriveKeyID path fd data
  let syncErr ← syncDirectory "sync published source keyring directory" path
  let pathErr ← path.revalidate
  let verifyAfter ← validatePublishedSource deriveKeyID path fd data
  let err := joinErrors [verifyBefore, syncErr, pathErr, verifyAfter]
  pure (if err.isSome then { result with durabilityUnknown := true } else result, err)

/-- `finalizePublishedSource` after something has gone wrong: its error joins the others. -/
def finalizeUncertainSource (path : SourceProvisionPath) (fd : SourceFd) (data : Bytes)
    (result : ProvisionResult) (errs : List (Option SourceError)) :
    SourceSys (ProvisionResult × Option SourceError) := do
  let finalized ← finalizePublishedSource deriveKeyID path fd data result
  pure (finalized.1, joinErrors (errs ++ [finalized.2]))

/-- A descriptor was closed behind a publication, which a failing `close` makes uncertain. -/
def closedBehind (outcome : ProvisionResult × Option SourceError) (closeErr : Option SourceError) :
    ProvisionResult × Option SourceError :=
  match closeErr with
  | none => outcome
  | some closeErr =>
    (if outcome.1.created then { outcome.1 with durabilityUnknown := true } else outcome.1,
      joinErrors [outcome.2, some closeErr])

lemma closedBehind_flags (outcome : ProvisionResult × Option SourceError)
    (closeErr : Option SourceError) : (closedBehind outcome closeErr).1.created = outcome.1.created ∧
      (closedBehind outcome closeErr).1.cleanupRequired = outcome.1.cleanupRequired := by
  cases closeErr with
  | none => exact ⟨rfl, rfl⟩
  | some closeErr =>
    unfold closedBehind
    dsimp only
    split <;> exact ⟨rfl, rfl⟩

/-- Nothing has failed only if the `close` has not failed. -/
lemma closedBehind_of_none {outcome : ProvisionResult × Option SourceError}
    {closeErr : Option SourceError} (h : (closedBehind outcome closeErr).2 = none) :
    closedBehind outcome closeErr = outcome := by
  cases closeErr with
  | none => rfl
  | some closeErr =>
    have hall := joinErrors_eq_none.mp h
    exact absurd (hall (some closeErr) (by simp)) (by simp)

/-! ## 3. The two ways to publish -/

section

variable (path : SourceProvisionPath)

/-- What `publishAnonymousSourceCandidate` makes of the answer of `linkat` and of the inspection
after it. The last component is the fallback to the other way. -/
def settleAnonymousSource (fd : SourceFd) (data : Bytes) (linkErr : Option Errno)
    (state : SourceNameState) (inspectErr : Option SourceError) :
    SourceSys ((ProvisionResult × Option SourceError) × Bool) := do
  let uncertain : ProvisionResult := { created := true, durabilityUnknown := true }
  match linkErr with
  | none =>
    if state ≠ .candidate then
      let finalized ← finalizeUncertainSource deriveKeyID path fd data uncertain
        [some .unsafeSourceKeyring, inspectErr]
      pure (finalized, false)
    else
      let finalized ← finalizePublishedSource deriveKeyID path fd data { created := true }
      pure (finalized, false)
  | some linkErr =>
    let failure := sourceProvisionFailure "publish anonymous source keyring" linkErr
    if inspectErr.isSome then
      let finalized ← finalizeUncertainSource deriveKeyID path fd data uncertain
        [some failure, inspectErr]
      pure (finalized, false)
    else if state = .candidate then
      let finalized ← finalizeUncertainSource deriveKeyID path fd data uncertain
        [some failure, inspectErr]
      pure (finalized, false)
    else if linkErr = .eexist then
      pure (({}, joinErrors [some .sourceKeyringExists, some failure, inspectErr]), false)
    else if state = .other then
      let finalized ← finalizeUncertainSource deriveKeyID path fd data uncertain
        [some failure, some .unsafeSourceKeyring]
      pure (finalized, false)
    else if linkErr = .enoent then
      -- the source checks `inspectErr` again here, which is `nil` on this branch
      match ← validateSourceCandidate deriveKeyID fd 0 path.owner path.group data with
      | some err => pure (({}, some err), false)
      | none =>
      match ← path.revalidate with
      | some err => pure (({}, some err), false)
      | none => pure (({}, some .anonymousSourcePublishUnavailable), true)
    else if sourceLinkFailureDefinitive linkErr then
      pure (({}, some failure), false)
    else
      let finalized ← finalizeUncertainSource deriveKeyID path fd data uncertain [some failure]
      pure (finalized, false)

def publishAnonymousSourceCandidate (fd : SourceFd) (data : Bytes) :
    SourceSys ((ProvisionResult × Option SourceError) × Bool) := do
  match ← prepareSourceCandidate deriveKeyID fd 0 path.owner path.group data with
  | some err => pure (({}, some err), false)
  | none =>
  match ← path.revalidate with
  | some err => pure (({}, some err), false)
  | none =>
  let target ← inspectSourceName path.directoryFD .credential fd
  if target.2.isSome then pure (({}, target.2), false)
  else if target.1 ≠ .absent then pure (({}, some .sourceKeyringExists), false)
  else
    let linkErr ← linkat fd path.directoryFD .credential
    let inspected ← inspectSourceName path.directoryFD .credential fd
    settleAnonymousSource deriveKeyID path fd data linkErr inspected.1 inspected.2

def provisionAnonymousSource (data : Bytes) :
    SourceSys ((ProvisionResult × Option SourceError) × Bool) := do
  match ← openatTemporary path.directoryFD with
  | .error code =>
    if anonymousSourceOpenUnavailable code then pure (({}, none), true)
    else pure (({}, some (sourceProvisionFailure "create anonymous source keyring candidate" code)),
      false)
  | .ok fd =>
    let published ← publishAnonymousSourceCandidate deriveKeyID path fd data
    let closeErr ← sourceCloseFailure "close anonymous source keyring candidate" fd
    pure (closedBehind published.1 closeErr, published.2 && closeErr.isNone)

def cleanupNamedSourceCandidate (fd : SourceFd) : SourceSys (Bool × Option SourceError) :=
  cleanupStagedCandidate "remove source keyring staging object" "sync source keyring staging cleanup"
    .staging path fd

/-- What `publishNamedSourceCandidate` makes of the answer of `renameat2` and of the two
inspections after it. -/
def settleNamedSource (fd : SourceFd) (data : Bytes) (renameErr : Option Errno)
    (target staging : SourceNameState × Option SourceError) :
    SourceSys (ProvisionResult × Option SourceError) := do
  match renameErr with
  | none =>
    if target.2.isSome || staging.2.isSome || target.1 ≠ .candidate || staging.1 ≠ .absent then
      let cleanupRequired := staging.2.isSome || staging.1 ≠ .absent
      let recoveryErr := if cleanupRequired then some .sourceCleanupRequired else none
      finalizeUncertainSource deriveKeyID path fd data
        { created := true, durabilityUnknown := true, cleanupRequired }
        [some .unsafeSourceKeyring, target.2, staging.2, recoveryErr]
    else finalizePublishedSource deriveKeyID path fd data { created := true }
  | some renameErr =>
    let failure := sourceProvisionFailure "publish named source keyring" renameErr
    if target.2.isSome || staging.2.isSome then
      finalizeUncertainSource deriveKeyID path fd data
        { created := true, durabilityUnknown := true, cleanupRequired := true }
        [some failure, some .sourceCleanupRequired, target.2, staging.2]
    else if target.1 = .candidate then
      let cleanupRequired := decide (staging.1 ≠ .absent)
      let recoveryErr := if cleanupRequired then some .sourceCleanupRequired else none
      finalizeUncertainSource deriveKeyID path fd data
        { created := true, durabilityUnknown := true, cleanupRequired }
        [some failure, target.2, recoveryErr]
    else if renameErr = .eexist ∧ staging.1 = .candidate then
      pure ({}, joinErrors [some .sourceKeyringExists, some failure, target.2])
    else if target.1 = .other ∨ staging.1 ≠ .candidate then
      finalizeUncertainSource deriveKeyID path fd data
        { created := true, durabilityUnknown := true, cleanupRequired := true }
        [some failure, some .unsafeSourceKeyring, some .sourceCleanupRequired]
    else if sourceRenameUnsupported renameErr then
      pure ({}, joinErrors [some .sourceProvisionUnsupported, some failure, target.2])
    else pure ({}, joinErrors [some failure, target.2])

/-- `publishNamedSourceCandidate` without its deferred cleanup. -/
def attemptNamedSource (fd : SourceFd) (data : Bytes) :
    SourceSys (ProvisionResult × Option SourceError) := do
  match ← prepareSourceCandidate deriveKeyID fd 1 path.owner path.group data with
  | some err => pure ({}, some err)
  | none =>
  match ← path.revalidate with
  | some err => pure ({}, some err)
  | none =>
  let staging ← inspectSourceName path.directoryFD .staging fd
  if staging.2.isSome || staging.1 ≠ .candidate then
    pure ({ cleanupRequired := true }, joinErrors [some .sourceCleanupRequired, staging.2])
  else
  let target ← inspectSourceName path.directoryFD .credential fd
  if target.2.isSome then
    pure ({ cleanupRequired := true }, joinErrors [some .sourceCleanupRequired, target.2])
  else if target.1 ≠ .absent then pure ({}, some .sourceKeyringExists)
  else
  match ← syncDirectory "sync source keyring staging directory" path with
  | some err => pure ({}, some err)
  | none =>
  let renameErr ← renameat2 path.directoryFD .staging .credential
  let target ← inspectSourceName path.directoryFD .credential fd
  let staging ← inspectSourceName path.directoryFD .staging fd
  settleNamedSource deriveKeyID path fd data renameErr target staging

def publishNamedSourceCandidate (fd : SourceFd) (data : Bytes) :
    SourceSys (ProvisionResult × Option SourceError) := do
  let attempt ← attemptNamedSource deriveKeyID path fd data
  if attempt.1.created then pure attempt
  else
    let cleanup ← cleanupNamedSourceCandidate path fd
    pure ({ attempt.1 with cleanupRequired := attempt.1.cleanupRequired || cleanup.1 },
      joinErrors [attempt.2, cleanup.2])

def provisionNamedSource (data : Bytes) : SourceSys (ProvisionResult × Option SourceError) := do
  match ← path.revalidate with
  | some err => pure ({}, some err)
  | none =>
  let namespaceOutcome ← requireEmptySourceNamespace path.directoryFD
  if namespaceOutcome.2.isSome then pure namespaceOutcome
  else
  match ← openatExclusive path.directoryFD .staging with
  | .error code =>
    let failure := sourceProvisionFailure "reserve source keyring staging object" code
    if code = .eexist then
      pure ({ cleanupRequired := true }, joinErrors [some .sourceCleanupRequired, some failure])
    else pure ({}, some failure)
  | .ok fd =>
    let published ← publishNamedSourceCandidate deriveKeyID path fd data
    let closeErr ← sourceCloseFailure "close named source keyring candidate" fd
    pure (closedBehind published closeErr)

end

/-! ## 4. `provisionSystemKeyringSourceAt` -/

/-- What happens between the opening of the path and its closing. -/
def provisionInDirectory (path : SourceProvisionPath) (random : Bytes) :
    SourceSys (ProvisionResult × Option SourceError) := do
  let namespaceOutcome ← requireEmptySourceNamespace path.directoryFD
  if namespaceOutcome.2.isSome then pure namespaceOutcome
  else
  match newKeyring deriveKeyID random with
  | .error err => pure ({}, some (.failure "generate source keyring" (.keyring err)))
  | .ok keyring =>
  match keyring.marshal deriveKeyID with
  | .error err => pure ({}, some (.failure "marshal source keyring" (.keyring err)))
  | .ok data =>
    let anonymous ← provisionAnonymousSource deriveKeyID path data
    if anonymous.2 = false then pure anonymous.1
    else provisionNamedSource deriveKeyID path data

def provisionSystemKeyringSourceAt (rootFD : SourceFd) (owner group : Nat) (random : Bytes) :
    SourceSys (ProvisionResult × Option SourceError) := do
  match ← openSourceProvisionPath rootFD owner group with
  | .error err => pure ({}, some err)
  | .ok path =>
    let outcome ← provisionInDirectory deriveKeyID path random
    let closeErr ← path.close
    pure (closedBehind outcome closeErr)

/-! ## 5. Names, and the end of a publication -/

variable {deriveKeyID} {path : SourceProvisionPath} {fd : SourceFd} {c : Nat} {data : Bytes}
  {w : SourceWorld}

lemma sourceNameExists_spec (directoryFD : SourceFd) (name : SourceName) :
    (sourceNameExists directoryFD name).Post w fun r w' => w'.fs = w.fs ∧
      (r.2 = none → (r.1 ↔ w.fs.names name ≠ none)) := by
  refine .bind (fstatat_spec directoryFD name) ?_
  rintro (code | stat) w1 ⟨hfs, hbd, habs⟩
  · split
    · contradiction
    next hco =>
      exact .pure ⟨hfs, fun _ => by simp [habs hco]⟩
    · exact .pure ⟨hfs, nofun⟩
  · obtain ⟨i, hi, -⟩ := hbd stat rfl
    exact .pure ⟨hfs, fun _ => by simp [hi]⟩

/-- Neither the credential nor a staging object is there. -/
structure EmptyNamespace (fs : SourceFs) : Prop where
  credential : fs.names .credential = none
  staging : fs.names .staging = none

/-- `requireEmptySourceNamespace` finds an empty namespace, or says what it could not rule out. -/
lemma requireEmptySourceNamespace_spec (directoryFD : SourceFd) :
    (requireEmptySourceNamespace directoryFD).Post w fun r w' => w'.fs = w.fs ∧
      r.1.created = false ∧ (r.1.cleanupRequired = false → w.fs.names .staging = none) ∧
      (r.2 = none → EmptyNamespace w.fs) := by
  refine .bind (sourceNameExists_spec directoryFD .credential) ?_
  rintro ⟨targetExists, targetErr⟩ w1 ⟨hfs1, htgt⟩
  refine .bind (sourceNameExists_spec directoryFD .staging) ?_
  rintro ⟨stagingExists, stagingErr⟩ w2 ⟨hfs2, hstg⟩
  have hfs : w2.fs = w.fs := hfs2.trans hfs1
  rw [hfs1] at hstg
  cases targetErr with
  | some err => exact .pure ⟨hfs, rfl, nofun, by simp⟩
  | none =>
  cases stagingErr with
  | some err => exact .pure ⟨hfs, rfl, nofun, by simp⟩
  | none =>
  have htgt := htgt rfl
  have hstg := hstg rfl
  cases targetExists <;> cases stagingExists
  · exact .pure ⟨hfs, rfl, fun _ => by simpa using hstg,
      fun _ => ⟨by simpa using htgt, by simpa using hstg⟩⟩
  · exact .pure ⟨hfs, rfl, nofun, nofun⟩
  · exact .pure ⟨hfs, rfl, fun _ => by simpa using hstg, nofun⟩
  · exact .pure ⟨hfs, rfl, nofun, by simp⟩

/-- Finalizing changes no name and no file, keeps what the result says about them, and succeeds
only if the candidate is published and the directory is on the disk. -/
lemma finalizePublishedSource_spec {n : Nat} (hopen : Opened path fd n c) (res : ProvisionResult) :
    (finalizePublishedSource deriveKeyID path fd data res).Post w fun r w' =>
      w.fs.SameNames w'.fs ∧ r.1.created = res.created ∧ r.1.cleanupRequired = res.cleanupRequired ∧
        (r.2 = none → r.1 = res ∧ w'.fs.names .credential = some c ∧
          SourceCandidate 1 path.owner path.group data (w'.fs.files c) ∧
          w'.fs.namesSynced) := by
  refine .bind (validateBoundCandidate_spec hopen.fd) ?_
  rintro verifyBefore w1 ⟨hfs1, -⟩
  refine .bind (syncDirectory_spec hopen.dir) ?_
  rintro syncErr w2 ⟨hsm, hsy⟩
  refine .bind (path.revalidate_readOnly w2) ?_
  rintro pathErr w3 ⟨hfs3, -⟩
  refine .bind (validateBoundCandidate_spec hopen.fd) ?_
  rintro verifyAfter w4 ⟨hfs4, hv⟩
  rw [hfs1] at hsm
  rw [← hfs3, ← hfs4] at hsm hsy
  rw [← hfs4] at hv
  refine .pure ⟨hsm, ?_, ?_, ?_⟩
  · split <;> rfl
  · split <;> rfl
  · intro hno
    dsimp only at hno ⊢
    have hall := joinErrors_eq_none.mp hno
    obtain ⟨hfi, hbd⟩ := hv (hall verifyAfter (by simp))
    rw [hno]
    exact ⟨rfl, hbd, hfi, hsy (hall syncErr (by simp))⟩

/-! ## 6. What the result may say -/

/-- A new file, on the disk with its name, holds exactly `data`. -/
def SourcePublished (n owner group : Nat) (data : Bytes) (fs : SourceFs) : Prop :=
  ∃ c, n ≤ c ∧ fs.names .credential = some c ∧ SourceCandidate 1 owner group data (fs.files c) ∧
    (fs.files c).synced ∧ fs.namesSynced

/-- What a run from the empty namespace `fs` to `fs'` may report. The files below `n` were there
before. -/
structure ProvisionOutcome (n owner group : Nat) (data : Bytes) (fs fs' : SourceFs)
    (outcome : ProvisionResult × Option SourceError) : Prop where
  kept : fs.KeptBelow n fs'
  unpublished : outcome.1.created = false → fs'.names .credential = none
  clean : outcome.1.cleanupRequired = false → fs'.names .staging = none
  succeeded : outcome.2 = none →
    outcome.1 = { created := true } ∧ SourcePublished n owner group data fs'

section

variable {n owner group : Nat} {fs fs' : SourceFs}

lemma ProvisionOutcome.refused {outcome : ProvisionResult × Option SourceError}
    (hk : fs.KeptBelow n fs') (hem : EmptyNamespace fs') (herr : outcome.2 ≠ none) :
    ProvisionOutcome n owner group data fs fs' outcome :=
  ⟨hk, fun _ => hem.credential, fun _ => hem.staging, fun h => absurd h herr⟩

lemma ProvisionOutcome.closed {outcome : ProvisionResult × Option SourceError}
    (h : ProvisionOutcome n owner group data fs fs' outcome) (closeErr : Option SourceError) :
    ProvisionOutcome n owner group data fs fs' (closedBehind outcome closeErr) := by
  refine ⟨h.kept, fun hf => h.unpublished ?_, fun hf => h.clean ?_, fun hno => ?_⟩
  · rwa [(closedBehind_flags ..).1] at hf
  · rwa [(closedBehind_flags ..).2] at hf
  · have hsm := closedBehind_of_none hno
    rw [hsm] at hno ⊢
    exact h.succeeded hno

end

section

variable {n : Nat} {fs : SourceFs}

section

variable (hopen : Opened path fd n c)
include hopen

variable (hk : fs.KeptBelow n w.fs)
include hk

lemma finalizePublishedSource_outcome (hstg : w.fs.names .staging = none)
    (hsy : (w.fs.files c).synced) :
    (finalizePublishedSource deriveKeyID path fd data { created := true }).Post w fun r w' =>
      ProvisionOutcome n path.owner path.group data fs w'.fs r := by
  refine (finalizePublishedSource_spec hopen _).mono ?_
  rintro ⟨res, err⟩ w' ⟨hsm, hcre, -, hok⟩
  refine ⟨hk.trans (.sameNames hsm), ?_, fun _ => hsm.names ▸ hstg, fun hno => ?_⟩
  · intro hf
    rw [hcre] at hf
    cases hf
  · obtain ⟨hres, hbd, hfi, hnms⟩ := hok hno
    exact ⟨hres, c, hopen.new, hbd, hfi, hsm.files ▸ hsy, hnms⟩

/-- Finalizing a publication that may have gone wrong. -/
lemma finalizeUncertainSource_outcome {res : ProvisionResult} (hcre : res.created)
    (hcln : res.cleanupRequired = false → w.fs.names .staging = none) {err : SourceError}
    {errs : List (Option SourceError)} (herr : some err ∈ errs) :
    (finalizeUncertainSource deriveKeyID path fd data res errs).Post w fun r w' =>
      ProvisionOutcome n path.owner path.group data fs w'.fs r := by
  refine .bind (finalizePublishedSource_spec hopen res) ?_
  rintro ⟨finalized, finalErr⟩ w' ⟨hsm, hcre', hcleanup', -⟩
  refine .pure ⟨hk.trans (.sameNames hsm), ?_, ?_, ?_⟩
  · intro hf
    rw [hcre', hcre] at hf
    cases hf
  · intro hf
    rw [hsm.names]
    exact hcln (hcleanup' ▸ hf)
  · intro hno
    have hall := joinErrors_eq_none.mp hno
    exact absurd (hall (some err) (List.mem_append_left _ herr)) (by simp)

/-- What the first way to publish may report: it is either the outcome, or nothing has happened
and the second way is open. -/
def AnonymousOutcome (n owner group : Nat) (data : Bytes) (fs fs' : SourceFs)
    (r : (ProvisionResult × Option SourceError) × Bool) : Prop :=
  (r.2 = false → ProvisionOutcome n owner group data fs fs' r.1) ∧
    (r.2 → fs.KeptBelow n fs' ∧ EmptyNamespace fs' ∧ n ≤ fs'.next)

lemma settleAnonymousSource_spec (hnx : n ≤ w.fs.next) (hstg : w.fs.names .staging = none)
    (hsy : (w.fs.files c).synced)
    (hcred : w.fs.names .credential = none ∨ w.fs.names .credential = some c)
    (linkErr : Option Errno) {state : SourceNameState} {inspectErr : Option SourceError}
    (hinsp : inspectErr = none → state.Holds c (w.fs.names .credential)) :
    (settleAnonymousSource deriveKeyID path fd data linkErr state inspectErr).Post w fun r w' =>
      AnonymousOutcome n path.owner path.group data fs w'.fs r := by
  have hunc : ∀ err errs, some err ∈ errs → (finalizeUncertainSource deriveKeyID path fd data
        { created := true, durabilityUnknown := true } errs >>= fun finalized =>
          pure (finalized, false)).Post w fun r w' =>
        AnonymousOutcome n path.owner path.group data fs w'.fs r := by
    intro err errs herr
    refine .bind (finalizeUncertainSource_outcome hopen hk rfl (fun _ => hstg) herr) ?_
    exact fun finalized w' h => .pure ⟨fun _ => h, nofun⟩
  -- a refusal comes after an inspection that did not find the candidate
  have hem : inspectErr = none → state ≠ .candidate → EmptyNamespace w.fs := by
    intro hno hsta
    have hne := (hinsp hno).ne_candidate hsta
    exact ⟨hcred.resolve_right hne, hstg⟩
  unfold settleAnonymousSource
  cases linkErr with
  | none =>
    dsimp only
    split
    · exact hunc .unsafeSourceKeyring _ (by simp)
    · refine .bind (finalizePublishedSource_outcome hopen hk hstg hsy) ?_
      exact fun finalized w' h => .pure ⟨fun _ => h, nofun⟩
  | some code =>
    dsimp only
    split
    · exact hunc _ _ (.head _)
    rename_i hinspd
    have hno : inspectErr = none := by simpa using hinspd
    split
    · exact hunc _ _ (.head _)
    rename_i hsta
    have hem := hem hno hsta
    split
    · exact .pure ⟨fun _ => .refused hk hem (by simp), nofun⟩
    split
    · exact hunc _ _ (.head _)
    split
    · refine .bind (validateSourceCandidate_spec hopen.fd) ?_
      rintro (_ | err) w1 ⟨hfs1, -⟩
      swap
      · exact .pure ⟨fun _ => hfs1 ▸ .refused hk hem nofun, nofun⟩
      refine .bind (path.revalidate_readOnly w1) ?_
      rintro (_ | err) w2 ⟨hfs2, -⟩
      · refine .pure ⟨nofun, fun _ => ?_⟩
        rw [hfs2, hfs1]
        exact ⟨hk, hem, hnx⟩
      · refine .pure ⟨fun _ => ?_, nofun⟩
        rw [hfs2, hfs1]
        exact .refused hk hem nofun
    split
    · exact .pure ⟨fun _ => .refused hk hem nofun, nofun⟩
    · exact hunc _ _ (.head _)

lemma publishAnonymousSourceCandidate_spec (hnx : n ≤ w.fs.next) (hem : EmptyNamespace w.fs) :
    (publishAnonymousSourceCandidate deriveKeyID path fd data).Post w fun r w' =>
      AnonymousOutcome n path.owner path.group data fs w'.fs r := by
  refine .bind (prepareSourceCandidate_spec hopen.fd) ?_
  rintro prepareErr w1 ⟨honly, hprep⟩
  have hk1 : fs.KeptBelow n w1.fs := hk.trans (.onlyFile hopen.new honly)
  have hem1 : EmptyNamespace w1.fs :=
    ⟨honly.names ▸ hem.credential, honly.names ▸ hem.staging⟩
  cases prepareErr with
  | some err => exact .pure ⟨fun _ => .refused hk1 hem1 nofun, nofun⟩
  | none =>
  obtain ⟨-, hsy⟩ := hprep rfl
  refine .bind (path.revalidate_readOnly w1) ?_
  rintro (_ | err) w2 ⟨hfs2, -⟩
  swap
  · exact .pure ⟨fun _ => hfs2 ▸ .refused hk1 hem1 nofun, nofun⟩
  refine .bind (inspectSourceName_spec hopen.fd) ?_
  rintro ⟨targetState, targetErr⟩ w3 ⟨hfs3, -, -⟩
  rw [← hfs2, ← hfs3] at hk1 hem1 hsy
  have hnx3 : n ≤ w3.fs.next := by rw [hfs3, hfs2, honly.next]; exact hnx
  split
  next hso =>
    exact .pure ⟨fun _ => .refused hk1 hem1 (isSome_iff_ne_none.mp hso), nofun⟩
  split
  · exact .pure ⟨fun _ => .refused hk1 hem1 nofun, nofun⟩
  refine .bind (linkat_spec hopen.fd path.directoryFD SourceName.credential) ?_
  rintro linkErr w4 hlink
  refine .bind (inspectSourceName_spec hopen.fd) ?_
  rintro ⟨state, inspectErr⟩ w5 ⟨hfs5, -, hinsp⟩
  rw [← hfs5] at hlink hinsp
  rcases hlink with ⟨-, hsm⟩ | ⟨-, hi, hlnkd⟩
  · rw [← hsm] at hk1 hem1 hsy hnx3
    exact settleAnonymousSource_spec hopen hk1 hnx3 hem1.staging hsy
      (.inl hem1.credential) linkErr hinsp
  · refine settleAnonymousSource_spec hopen ?_ ?_ ?_ ?_ (.inr ?_) linkErr hinsp
    · rw [hlnkd]
      exact hk1.trans (.link hopen.new hi)
    · rw [hlnkd]
      exact hnx3
    · rw [hlnkd]
      exact hem1.staging
    · rw [hlnkd]
      simpa [Fs.link] using hsy
    · rw [hlnkd]
      simp [Fs.link]

end

lemma provisionAnonymousSource_spec (hdir : path.directoryFD.target = .directory .recasaos)
    (hem : EmptyNamespace w.fs) :
    (provisionAnonymousSource deriveKeyID path data).Post w fun r w' =>
      AnonymousOutcome w.fs.next path.owner path.group data w.fs w'.fs r := by
  refine .bind (openatTemporary_spec path.directoryFD) ?_
  rintro r w1 (⟨code, rfl, hfs1⟩ | ⟨fd, rfl, hfd, hfs1⟩)
  · have hk : w.fs.KeptBelow w.fs.next w1.fs := hfs1 ▸ .refl _ _
    dsimp only
    split
    · exact .pure ⟨nofun, fun _ => ⟨hk, hfs1 ▸ hem, le_of_eq (by rw [hfs1])⟩⟩
    · exact .pure ⟨fun _ => .refused hk (hfs1 ▸ hem) nofun, nofun⟩
  · have hk : w.fs.KeptBelow w.fs.next w1.fs := hfs1 ▸ .create (le_refl _)
    have hnx : w.fs.next ≤ w1.fs.next := hfs1 ▸ Nat.le_succ _
    have hem1 : EmptyNamespace w1.fs := hfs1 ▸ ⟨hem.credential, hem.staging⟩
    refine .bind (publishAnonymousSourceCandidate_spec ⟨hfd, le_refl _, hdir⟩ hk hnx hem1) ?_
    rintro ⟨outcome, fallback⟩ w2 ⟨hdn, hfbk⟩
    refine .bind (sourceCloseFailure_readOnly _ fd w2) ?_
    rintro closeErr w3 ⟨hfs3, -⟩
    rw [← hfs3] at hdn hfbk
    cases fallback with
    | false => exact .pure ⟨fun _ => (hdn rfl).closed closeErr, nofun⟩
    | true =>
      obtain ⟨hk2, hem2, hnx2⟩ := hfbk rfl
      cases closeErr with
      | none => exact .pure ⟨nofun, fun _ => ⟨hk2, hem2, hnx2⟩⟩
      | some closeErr =>
        refine .pure ⟨fun _ => .refused hk2 hem2 ?_, nofun⟩
        simp [closedBehind]

/-- What the second way may report before its cleanup: the staging name may be left bound as long
as nothing was published. -/
structure NamedAttempt (n owner group : Nat) (data : Bytes) (fs fs' : SourceFs)
    (outcome : ProvisionResult × Option SourceError) : Prop where
  kept : fs.KeptBelow n fs'
  unpublished : outcome.1.created = false → fs'.names .credential = none
  clean : outcome.1.created → outcome.1.cleanupRequired = false → fs'.names .staging = none
  succeeded : outcome.2 = none →
    outcome.1 = { created := true } ∧ SourcePublished n owner group data fs'

lemma ProvisionOutcome.attempt {owner group : Nat} {fs' : SourceFs}
    {outcome : ProvisionResult × Option SourceError}
    (h : ProvisionOutcome n owner group data fs fs' outcome) :
    NamedAttempt n owner group data fs fs' outcome :=
  ⟨h.kept, h.unpublished, fun _ => h.clean, h.succeeded⟩

lemma NamedAttempt.refused {owner group : Nat} {fs' : SourceFs} {cleanupRequired : Bool}
    {err : Option SourceError} (hk : fs.KeptBelow n fs')
    (hcred : fs'.names .credential = none) (herr : err ≠ none) :
    NamedAttempt n owner group data fs fs' ({ cleanupRequired }, err) :=
  ⟨hk, fun _ => hcred, nofun, fun h => absurd h herr⟩

lemma settleNamedSource_spec (hopen : Opened path fd n c) (hk : fs.KeptBelow n w.fs)
    (hsy : (w.fs.files c).synced)
    (hcred : w.fs.names .credential = none ∨ w.fs.names .credential = some c)
    (renameErr : Option Errno) {target staging : SourceNameState × Option SourceError}
    (htgt : target.2 = none → target.1.Holds c (w.fs.names .credential))
    (hstg : staging.2 = none → staging.1.Holds c (w.fs.names .staging)) :
    (settleNamedSource deriveKeyID path fd data renameErr target staging).Post w fun r w' =>
      NamedAttempt n path.owner path.group data fs w'.fs r := by
  obtain ⟨stagingState, stagingErr⟩ := staging
  have hfe : stagingErr = none → stagingState = .absent → w.fs.names .staging = none := by
    rintro hno rfl
    exact hstg hno
  have hunc : ∀ cleanupRequired err errs, some err ∈ errs →
      (cleanupRequired = false → w.fs.names .staging = none) →
      (finalizeUncertainSource deriveKeyID path fd data
        { created := true, durabilityUnknown := true, cleanupRequired } errs).Post w fun r w' =>
        NamedAttempt n path.owner path.group data fs w'.fs r := by
    intro cleanupRequired err errs herr hcln
    exact (finalizeUncertainSource_outcome hopen hk rfl hcln herr).mono fun _ _ h => h.attempt
  unfold settleNamedSource
  cases renameErr with
  | none =>
    dsimp only
    split
    · refine hunc _ .unsafeSourceKeyring _ (by simp) fun hcln => ?_
      simp only [Bool.or_eq_false_iff, decide_eq_false_iff_not, not_not, isSome_eq_false_iff,
        isNone_iff_eq_none] at hcln
      exact hfe hcln.1 hcln.2
    next hg =>
      simp only [Bool.or_eq_true, decide_eq_true_eq, not_or, not_not, Bool.not_eq_true,
        isSome_eq_false_iff, isNone_iff_eq_none] at hg
      obtain ⟨⟨⟨-, hstagingErr⟩, -⟩, habs⟩ := hg
      exact (finalizePublishedSource_outcome hopen hk (hfe hstagingErr habs)
        hsy).mono fun _ _ h => h.attempt
  | some code =>
    dsimp only
    split
    · exact hunc true _ _ (.head _) nofun
    rename_i hinspd
    simp only [Bool.or_eq_true, not_or, Bool.not_eq_true, isSome_eq_false_iff,
      isNone_iff_eq_none] at hinspd
    split
    · refine hunc _ _ _ (.head _) fun hcln => ?_
      exact hfe hinspd.2 (by simpa using hcln)
    rename_i hsta
    -- the target was inspected and is not the candidate, so nothing was published
    have hno : w.fs.names .credential = none :=
      hcred.resolve_right ((htgt hinspd.1).ne_candidate hsta)
    split
    · exact .pure (.refused hk hno (by simp))
    split
    · exact hunc true _ _ (.head _) nofun
    split
    · exact .pure (.refused hk hno (by simp))
    · exact .pure (.refused hk hno (by simp))

lemma attemptNamedSource_spec (hopen : Opened path fd n c) (hk : fs.KeptBelow n w.fs)
    (hcred : w.fs.names .credential = none) :
    (attemptNamedSource deriveKeyID path fd data).Post w fun r w' =>
      NamedAttempt n path.owner path.group data fs w'.fs r := by
  refine .bind (prepareSourceCandidate_spec hopen.fd) ?_
  rintro prepareErr w1 ⟨honly, hprep⟩
  have hk1 : fs.KeptBelow n w1.fs := hk.trans (.onlyFile hopen.new honly)
  have hcred1 : w1.fs.names .credential = none := honly.names ▸ hcred
  cases prepareErr with
  | some err => exact .pure (.refused hk1 hcred1 nofun)
  | none =>
  obtain ⟨-, hsy⟩ := hprep rfl
  refine .bind (path.revalidate_readOnly w1) ?_
  rintro (_ | err) w2 ⟨hfs2, -⟩
  swap
  · exact .pure (hfs2 ▸ .refused hk1 hcred1 nofun)
  refine .bind (inspectSourceName_spec hopen.fd) ?_
  rintro ⟨stagingState, stagingErr⟩ w3 ⟨hfs3, -, hstg⟩
  rw [← hfs3] at hstg
  rw [← hfs2, ← hfs3] at hk1 hcred1 hsy
  split
  · exact .pure (.refused hk1 hcred1 (by simp))
  rename_i hcand
  simp only [Bool.or_eq_true, decide_eq_true_eq, not_or, not_not, Bool.not_eq_true,
    isSome_eq_false_iff, isNone_iff_eq_none] at hcand
  obtain ⟨hstagingErr, rfl⟩ := hcand
  have hbd : w3.fs.names .staging = some c := hstg hstagingErr
  refine .bind (inspectSourceName_spec hopen.fd) ?_
  rintro ⟨targetState, targetErr⟩ w4 ⟨hfs4, -, -⟩
  rw [← hfs4] at hk1 hcred1 hsy hbd
  split
  · exact .pure (.refused hk1 hcred1 (by simp))
  split
  · exact .pure (.refused hk1 hcred1 nofun)
  refine .bind (syncDirectory_spec hopen.dir) ?_
  rintro syncErr w5 ⟨hsm, -⟩
  have hk5 := hk1.trans (.sameNames hsm)
  rw [← hsm.names] at hcred1 hbd
  rw [← hsm.files] at hsy
  cases syncErr with
  | some err => exact .pure (.refused hk5 hcred1 nofun)
  | none =>
  refine .bind (renameat2_spec path.directoryFD SourceName.staging SourceName.credential) ?_
  rintro renameErr w6 hren
  refine .bind (inspectSourceName_spec hopen.fd) ?_
  rintro target w7 ⟨hfs7, -, htgt⟩
  refine .bind (inspectSourceName_spec hopen.fd) ?_
  rintro staging w8 ⟨hfs8, -, hstg'⟩
  have hfs : w8.fs = w6.fs := hfs8.trans hfs7
  rw [← hfs] at htgt hren
  rw [← hfs8] at hstg'
  rcases hren with ⟨-, hunch⟩ | ⟨i, hi, -, hrnm⟩
  · rw [← hunch] at hk5 hcred1 hsy
    exact settleNamedSource_spec hopen hk5 hsy (.inl hcred1) renameErr htgt hstg'
  · refine settleNamedSource_spec hopen ?_ ?_ (.inr ?_) renameErr htgt hstg'
    · rw [hrnm]
      exact hk5
    · rw [hrnm]
      exact hsy
    · rw [hrnm]
      simpa [Fs.rename] using hbd

lemma publishNamedSourceCandidate_spec (hopen : Opened path fd n c) (hk : fs.KeptBelow n w.fs)
    (hcred : w.fs.names .credential = none) :
    (publishNamedSourceCandidate deriveKeyID path fd data).Post w fun r w' =>
      ProvisionOutcome n path.owner path.group data fs w'.fs r := by
  refine .bind (attemptNamedSource_spec hopen hk hcred) ?_
  rintro ⟨res, err⟩ w1 hatt
  split
  next hcre =>
    exact .pure ⟨hatt.kept, hatt.unpublished, hatt.clean hcre, hatt.succeeded⟩
  next hcre =>
    rw [Bool.not_eq_true] at hcre
    refine .bind (cleanupStagedCandidate_spec hopen) ?_
    rintro ⟨cleanupRequired, cleanupErr⟩ w2 ⟨hk2, -, hoth, hcln⟩
    have hcred2 := hoth .credential (by simp)
    refine .pure ⟨hatt.kept.trans hk2, fun _ => ?_, fun hf => hcln ?_, fun hno => ?_⟩
    · rw [hcred2]
      exact hatt.unpublished hcre
    · exact (Bool.or_eq_false_iff.mp hf).2
    · -- nothing was published, so the attempt has failed
      have herr : err = none := (joinErrors_eq_none.mp hno) err (by simp)
      obtain ⟨hres, -⟩ := hatt.succeeded herr
      rw [hres] at hcre
      cases hcre

lemma provisionNamedSource_spec (hdir : path.directoryFD.target = .directory .recasaos)
    (hk : fs.KeptBelow n w.fs) (hnx : n ≤ w.fs.next) (hem : EmptyNamespace w.fs) :
    (provisionNamedSource deriveKeyID path data).Post w fun r w' =>
      ProvisionOutcome n path.owner path.group data fs w'.fs r := by
  refine .bind (path.revalidate_readOnly w) ?_
  rintro (_ | err) w1 ⟨hfs1, -⟩
  swap
  · exact .pure (hfs1 ▸ .refused hk hem nofun)
  refine .bind (requireEmptySourceNamespace_spec path.directoryFD) ?_
  rintro ⟨res, err⟩ w2 ⟨hfs2, -, -, -⟩
  rw [← hfs1, ← hfs2] at hk hem hnx
  split
  next hso =>
    exact .pure (.refused hk hem (isSome_iff_ne_none.mp hso))
  refine .bind (openatExclusive_spec path.directoryFD SourceName.staging) ?_
  rintro r w3 (⟨code, rfl, hfs3⟩ | ⟨fd, rfl, hfd, -, hfs3⟩)
  · rw [← hfs3] at hk hem
    dsimp only
    split
    · exact .pure (.refused hk hem (by simp))
    · exact .pure (.refused hk hem nofun)
  · have hk3 : fs.KeptBelow n w3.fs := by
      rw [hfs3]
      exact (hk.trans (.create hnx)).trans (.link hnx _)
    have hcred3 : w3.fs.names .credential = none := by
      rw [hfs3]
      exact hem.credential
    refine .bind (publishNamedSourceCandidate_spec ⟨hfd, hnx, hdir⟩ hk3 hcred3) ?_
    rintro outcome w4 hout
    refine .bind (sourceCloseFailure_readOnly _ fd w4) ?_
    rintro closeErr w5 ⟨hfs5, -⟩
    exact .pure (hfs5 ▸ hout.closed closeErr)

end

/-! ## 7. The whole run -/

variable (deriveKeyID) in
/-- What a run from `fs` to `fs'` reports, once the path is open. -/
structure ProvisionReport (owner group : Nat) (random : Bytes) (fs fs' : SourceFs)
    (outcome : ProvisionResult × Option SourceError) : Prop where
  unpublished : outcome.1.created = false → fs'.names .credential = fs.names .credential
  clean : outcome.1.cleanupRequired = false → fs'.names .staging = none
  succeeded : outcome.2 = none → outcome.1 = { created := true } ∧
    ∃ keyring data, newKeyring deriveKeyID random = .ok keyring ∧
      keyring.marshal deriveKeyID = .ok data ∧ SourcePublished fs.next owner group data fs'
  existing : ∀ i, fs.names .credential = some i →
    fs'.names .credential = some i ∧ fs'.files i = fs.files i

section

variable {owner group : Nat} {rnd : Bytes} {fs fs' : SourceFs}
variable {outcome : ProvisionResult × Option SourceError}

lemma ProvisionOutcome.report {keyring : Keyring}
    (h : ProvisionOutcome fs.next owner group data fs fs' outcome) (hem : EmptyNamespace fs)
    (hring : newKeyring deriveKeyID rnd = .ok keyring)
    (hda : keyring.marshal deriveKeyID = .ok data) :
    ProvisionReport deriveKeyID owner group rnd fs fs' outcome := by
  refine ⟨fun hf => ?_, h.clean, fun hno => ?_, fun i hi => ?_⟩
  · rw [h.unpublished hf, hem.credential]
  · obtain ⟨hres, hpub⟩ := h.succeeded hno
    exact ⟨hres, keyring, data, hring, hda, hpub⟩
  · rw [hem.credential] at hi
    cases hi

lemma ProvisionReport.refused (hcln : outcome.1.cleanupRequired = false → fs.names .staging = none)
    (herr : outcome.2 ≠ none) : ProvisionReport deriveKeyID owner group rnd fs fs outcome :=
  ⟨fun _ => rfl, hcln, fun h => absurd h herr, fun _ hi => ⟨hi, rfl⟩⟩

lemma ProvisionReport.closed (h : ProvisionReport deriveKeyID owner group rnd fs fs' outcome)
    (closeErr : Option SourceError) :
    ProvisionReport deriveKeyID owner group rnd fs fs' (closedBehind outcome closeErr) := by
  refine ⟨fun hf => h.unpublished ?_, fun hf => h.clean ?_, fun hno => ?_, h.existing⟩
  · rwa [(closedBehind_flags ..).1] at hf
  · rwa [(closedBehind_flags ..).2] at hf
  · have hsm := closedBehind_of_none hno
    rw [hsm] at hno ⊢
    exact h.succeeded hno

end

lemma provisionInDirectory_spec {random : Bytes}
    (hdir : path.directoryFD.target = .directory .recasaos) :
    (provisionInDirectory deriveKeyID path random).Post w fun r w' =>
      ProvisionReport deriveKeyID path.owner path.group random w.fs w'.fs r := by
  refine .bind (requireEmptySourceNamespace_spec path.directoryFD) ?_
  rintro ⟨res, err⟩ w1 ⟨hfs1, -, hcln, hem⟩
  rw [← hfs1] at hcln hem ⊢
  split
  next hso =>
    exact .pure (.refused hcln (isSome_iff_ne_none.mp hso))
  rename_i hno
  have hem := hem (by simpa using hno)
  split
  · exact .pure (.refused (fun _ => hem.staging) nofun)
  rename_i keyring hring
  split
  · exact .pure (.refused (fun _ => hem.staging) nofun)
  rename_i data hda
  refine .bind (provisionAnonymousSource_spec hdir hem) ?_
  rintro ⟨outcome, fallback⟩ w2 ⟨hdn, hfbk⟩
  cases fallback with
  | false => exact .pure ((hdn rfl).report hem hring hda)
  | true =>
    obtain ⟨hk, hem2, hnx⟩ := hfbk rfl
    exact (provisionNamedSource_spec hdir hk hnx hem2).mono fun _ _ h => h.report hem hring hda

/-- **Provisioning reports honestly, but for a staging object behind a path that does not open.**
Whatever the system calls answer: a result without `Created` leaves the credential name unbound to
any new file; success means that a new single-link file of mode 0400, on the disk like its name,
holds the canonical bytes of the new keyring; and what stood at the credential name before still
stands there. A result without `CleanupRequired` means a free staging name just when it was free
before, or the path opens. -/
theorem provision_reports_honestly (deriveKeyID : KeyMaterial → KeyID) (rootFD : SourceFd)
    (owner group : Nat) (random : Bytes) (w : SourceWorld) :
    (provisionSystemKeyringSourceAt deriveKeyID rootFD owner group random).Post w fun outcome w' =>
      (outcome.1.created = false → ∀ i, w'.fs.names .credential = some i → i < w.fs.next) ∧
      ((outcome.1.cleanupRequired = false → w'.fs.names .staging = none) ↔
        w.fs.names .staging = none ∨ SourcePathOpens w rootFD owner group) ∧
      (outcome.2 = none → outcome.1.created = true ∧ outcome.1.durabilityUnknown = false ∧
        outcome.1.cleanupRequired = false ∧
        ∃ keyring data c, newKeyring deriveKeyID random = .ok keyring ∧
          keyring.marshal deriveKeyID = .ok data ∧ w.fs.next ≤ c ∧
          w'.fs.names .credential = some c ∧
          SourceCandidate 1 owner group data (w'.fs.files c) ∧
          (w'.fs.files c).synced = true ∧ w'.fs.namesSynced = true) ∧
      (∀ i, w.fs.names .credential = some i →
        w'.fs.names .credential = some i ∧ w'.fs.files i = w.fs.files i) := by
  have hopens : (openSourceProvisionPath rootFD owner group).Post w fun r _ =>
      (∃ path, r = .ok path) ∧ True ↔ SourcePathOpens w rootFD owner group :=
    openSourceProvisionPath_succeeds rootFD owner group w fun _ _ => trivial
  refine .bind (((openSourceProvisionPath_readOnly rootFD owner group w).and
    (openSourceProvisionPath_spec rootFD owner group w)).and hopens) ?_
  rintro (err | path) w1 ⟨⟨⟨hfs1, -⟩, hpath⟩, hopens⟩
  · have hclosed : ¬ SourcePathOpens w rootFD owner group := by
      rw [← hopens]
      simp
    rw [← hfs1]
    refine .pure ⟨fun _ => w1.fs.names_lt _, ⟨fun hclean => .inl (hclean rfl), ?_⟩, nofun,
      fun _ hi => ⟨hi, rfl⟩⟩
    rintro (hfree | hopen) -
    · exact hfree
    · exact absurd hopen hclosed
  · obtain hopen := hopens.mp ⟨⟨path, rfl⟩, trivial⟩
    obtain ⟨-, -, hdir, howner, hgroup, -⟩ := hpath path rfl
    refine .bind (provisionInDirectory_spec hdir) ?_
    rintro outcome w2 hreport
    refine .bind (path.close_readOnly w2) ?_
    rintro closeErr w3 ⟨hfs3, -⟩
    rw [hfs1, howner, hgroup, ← hfs3] at hreport
    have hreport := hreport.closed closeErr
    refine .pure ⟨fun hfalse i hi => ?_, iff_of_true hreport.clean (.inr hopen), fun hnone => ?_,
      hreport.existing⟩
    · rw [hreport.unpublished hfalse] at hi
      exact w.fs.names_lt _ i hi
    · obtain ⟨hresult, keyring, data, hkeyring, hdata, c, hc, hbound, hfile, hsynced, hnames⟩ :=
        hreport.succeeded hnone
      rw [hresult]
      exact ⟨rfl, rfl, rfl, keyring, data, c, hkeyring, hdata, hc, hbound, hfile, hsynced, hnames⟩

end

/-- The directory of a run that stopped before its cleanup: a staging object and no credential. -/
def interruptedFs : SourceFs where
  directory
    | .root => ⟨0, 2, .directory, 20, 0, 0, 0o755, 4096⟩
    | .etc => ⟨0, 3, .directory, 90, 0, 0, 0o755, 4096⟩
    | .recasaos => ⟨0, 4, .directory, 2, 0, 0, 0o700, 4096⟩
  files := fun _ => ⟨.regular, 1, 0, 0, 0o400, [], true⟩
  next := 6
  names
    | .staging => some 5
    | _ => none
  namesSynced := true
  euid := 0
  egid := 0
  names_lt := by
    intro name i h
    cases name with
    | staging =>
      obtain rfl := Option.some.inj h
      decide
    | credential => cases h
    | backup => cases h
    | backupStaging => cases h

/-- The next run opens `/` and cannot open `etc`. -/
def interruptedWorld : SourceWorld := ⟨interruptedFs, [.ok, .fail .eio], 4, []⟩

/-- **A staging object that is still there is not reported.** -/
theorem leftover_staging_not_reported :
    (provisionSystemKeyringSourceAt (fun key => key) ⟨3, .directory .root⟩ 0 0 []
        interruptedWorld).1.1.cleanupRequired = false ∧
      (provisionSystemKeyringSourceAt (fun key => key) ⟨3, .directory .root⟩ 0 0 []
        interruptedWorld).2.fs.names .staging = some 5 :=
  ⟨rfl, rfl⟩

end ReCasaOS.Smb
