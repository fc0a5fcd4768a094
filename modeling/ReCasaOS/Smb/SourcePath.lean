/-
# The path to the keyring's directory

The errors, names and directories of `pkg/smbcredentials/provision_linux.go`, and the checked path
to `/etc/recasaos` that provisioning, backup and restore open first. They run on the directory of
`Lib.Posix`, with its faults.

An error of the source is an `Option SourceError`, with `none` for `nil`; `joinErrors` is
`errors.Join`.
-/
import ReCasaOS.Lib.Posix
import ReCasaOS.Smb.KeyringHeap

namespace ReCasaOS.Smb

open Lib List

/-! ## 1. Errors, names and descriptors -/

/-- The directories on the way to the keyring. -/
inductive SourceDir
  | root
  | etc
  | recasaos
  deriving DecidableEq, Repr

/-- The names that the package uses in its directory. -/
inductive SourceName
  | credential
  | staging
  | backup
  | backupStaging
  deriving DecidableEq, Repr

abbrev SourceFs := Fs SourceDir SourceName
abbrev SourceWorld := Lib.World SourceDir SourceName
abbrev SourceSys (α : Type) := Sys SourceDir SourceName α
abbrev SourceFd := Fd SourceDir

inductive SourceError
  | sourceKeyringExists
  | unsafeSourceKeyring
  | sourceProvisionUnsupported
  | sourceCleanupRequired
  | anonymousSourcePublishUnavailable
  | backupExists
  | shortWrite
  | unexpectedEOF
  | errno (code : Errno)
  | keyring (err : KeyringError)
  | failure (operation : String) (cause : SourceError)
  | join (errs : List SourceError)

/-- `sourceProvisionFailure` of a system call's error. -/
def sourceProvisionFailure (operation : String) (code : Errno) : SourceError :=
  .failure operation (.errno code)

/-- `errors.Join`. -/
def joinErrors (errs : List (Option SourceError)) : Option SourceError :=
  match errs.filterMap id with
  | [] => none
  | present => some (.join present)

@[simp] lemma joinErrors_eq_none {errs : List (Option SourceError)} :
    joinErrors errs = none ↔ ∀ err ∈ errs, err = none := by
  unfold joinErrors
  split
  next hnil =>
    rw [filterMap_eq_nil_iff] at hnil
    exact iff_of_true rfl hnil
  next hne =>
    refine iff_of_false (by simp) fun hall => hne ?_
    rw [filterMap_eq_nil_iff]
    exact hall

/-! ## 2. The path -/

structure SourceProvisionPath where
  rootFD : SourceFd
  etcFD : SourceFd
  directoryFD : SourceFd
  owner : Nat
  group : Nat
  root : FileStat
  etc : FileStat
  directory : FileStat

def hasSpecialModeBits (mode : Nat) : Bool := mode &&& 0o7000 != 0

def safeSourceAncestor (stat : FileStat) (owner group : Nat) : Bool :=
  stat.kind == .directory && stat.uid == owner && stat.gid == group && stat.mode &&& 0o022 == 0
    && !hasSpecialModeBits stat.mode

def safeSourceDirectory (stat : FileStat) (owner group : Nat) : Bool :=
  safeSourceAncestor stat owner group && stat.mode &&& 0o777 == 0o700

def sameSourceIdentity (left right : FileStat) : Bool :=
  left.dev == right.dev && left.ino == right.ino

/-- `sourceCloseFailure` and `sourcePathCloseFailure`. -/
def sourceCloseFailure (operation : String) (fd : SourceFd) : SourceSys (Option SourceError) := do
  match ← close fd with
  | .error code => pure (some (sourceProvisionFailure operation code))
  | .ok () => pure none

/-- `path.close` while only the first directory is open. -/
def closeEtc (etcFD : SourceFd) : SourceSys (Option SourceError) := do
  let etcErr ← sourceCloseFailure "close source keyring etc directory" etcFD
  pure (joinErrors [none, etcErr])

section

variable (path : SourceProvisionPath)

def SourceProvisionPath.close : SourceSys (Option SourceError) := do
  let directoryErr ← sourceCloseFailure "close source keyring directory" path.directoryFD
  let etcErr ← sourceCloseFailure "close source keyring etc directory" path.etcFD
  pure (joinErrors [joinErrors [none, directoryErr], etcErr])

/-- The checks of `revalidate` on what the six calls answered. -/
def SourceProvisionPath.unchanged (root etc directory : FileStat) : Bool :=
  sameSourceIdentity root path.root && sameSourceIdentity etc path.etc
    && sameSourceIdentity directory path.directory
    && safeSourceAncestor root path.owner path.group
    && safeSourceAncestor etc path.owner path.group
    && safeSourceDirectory directory path.owner path.group

def SourceProvisionPath.revalidate : SourceSys (Option SourceError) := do
  match ← fstat path.rootFD with
  | .error code => pure (some (sourceProvisionFailure "recheck source keyring root" code))
  | .ok root =>
  match ← fstat path.etcFD with
  | .error code => pure (some (sourceProvisionFailure "recheck source keyring etc directory" code))
  | .ok etc =>
  match ← fstat path.directoryFD with
  | .error code => pure (some (sourceProvisionFailure "recheck source keyring directory" code))
  | .ok directory =>
  if path.unchanged root etc directory = false then pure (some .unsafeSourceKeyring) else
  match ← fstatatDirectory path.rootFD .etc with
  | .error code => pure (some (sourceProvisionFailure "bind source keyring etc directory" code))
  | .ok namedEtc =>
  match ← fstatatDirectory path.etcFD .recasaos with
  | .error code => pure (some (sourceProvisionFailure "bind source keyring directory" code))
  | .ok namedDirectory =>
  if (sameSourceIdentity namedEtc path.etc
      && sameSourceIdentity namedDirectory path.directory) = false then
    pure (some .unsafeSourceKeyring)
  else pure none

/-- The end of `openSourceProvisionPath`, with both directories open. -/
def openedSourcePath : SourceSys (Except SourceError SourceProvisionPath) := do
  match ← path.revalidate with
  | some err => let _ ← path.close; pure (.error err)
  | none => pure (.ok path)

end

/-- `openSourceProvisionPath` from the opening of the last directory on. -/
def openSourceDirectory (rootFD etcFD : SourceFd) (owner group : Nat) (root etc : FileStat) :
    SourceSys (Except SourceError SourceProvisionPath) := do
  match ← openatDirectory etcFD .recasaos with
  | .error code =>
    let _ ← closeEtc etcFD
    pure (.error (sourceProvisionFailure "open source keyring directory" code))
  | .ok directoryFD =>
  match ← fstat directoryFD with
  | .error code =>
    let _ ← sourceCloseFailure "close source keyring directory" directoryFD
    let _ ← closeEtc etcFD
    pure (.error (sourceProvisionFailure "inspect source keyring directory" code))
  | .ok directory =>
  let path : SourceProvisionPath := ⟨rootFD, etcFD, directoryFD, owner, group, root, etc, directory⟩
  if safeSourceDirectory directory owner group = false then do
    let _ ← path.close
    pure (.error .unsafeSourceKeyring)
  else openedSourcePath path

def openSourceProvisionPath (rootFD : SourceFd) (owner group : Nat) :
    SourceSys (Except SourceError SourceProvisionPath) := do
  match ← fstat rootFD with
  | .error code => pure (.error (sourceProvisionFailure "inspect source keyring root" code))
  | .ok root =>
  if safeSourceAncestor root owner group = false then pure (.error .unsafeSourceKeyring) else
  match ← openatDirectory rootFD .etc with
  | .error code => pure (.error (sourceProvisionFailure "open source keyring etc directory" code))
  | .ok etcFD =>
  match ← fstat etcFD with
  | .error code =>
    let _ ← closeEtc etcFD
    pure (.error (sourceProvisionFailure "inspect source keyring etc directory" code))
  | .ok etc =>
  if safeSourceAncestor etc owner group = false then do
    let _ ← closeEtc etcFD
    pure (.error .unsafeSourceKeyring)
  else openSourceDirectory rootFD etcFD owner group root etc

lemma sourceCloseFailure_readOnly (op : String) (fd : SourceFd) :
    ReadOnly (sourceCloseFailure op fd) := by
  refine .bind (.close fd) fun r => ?_
  cases r <;> exact .pure _

lemma closeEtc_readOnly (etcFD : SourceFd) : ReadOnly (closeEtc etcFD) :=
  .bind (sourceCloseFailure_readOnly _ _) fun _ => .pure _

lemma SourceProvisionPath.close_readOnly (path : SourceProvisionPath) : ReadOnly path.close :=
  .bind (sourceCloseFailure_readOnly _ _) fun _ =>
    .bind (sourceCloseFailure_readOnly _ _) fun _ => .pure _

lemma SourceProvisionPath.revalidate_readOnly (path : SourceProvisionPath) :
    ReadOnly path.revalidate := by
  refine .bind (.fstat _) fun root => ?_
  cases root with
  | error code => exact .pure _
  | ok root =>
  refine .bind (.fstat _) fun etc => ?_
  cases etc with
  | error code => exact .pure _
  | ok etc =>
  refine .bind (.fstat _) fun directory => ?_
  cases directory with
  | error code => exact .pure _
  | ok directory =>
  dsimp only
  split
  · exact .pure _
  refine .bind (.fstatatDirectory _ _) fun namedEtc => ?_
  cases namedEtc with
  | error code => exact .pure _
  | ok namedEtc =>
  refine .bind (.fstatatDirectory _ _) fun namedDirectory => ?_
  cases namedDirectory with
  | error code => exact .pure _
  | ok namedDirectory =>
  dsimp only
  split <;> exact .pure _

lemma openSourceDirectory_readOnly (rootFD etcFD : SourceFd) (owner group : Nat)
    (root etc : FileStat) : ReadOnly (openSourceDirectory rootFD etcFD owner group root etc) := by
  refine .bind (.openatDirectory _ _) fun directoryFD => ?_
  cases directoryFD with
  | error code => exact .bind (closeEtc_readOnly _) fun _ => .pure _
  | ok directoryFD =>
  refine .bind (.fstat _) fun directory => ?_
  cases directory with
  | error code =>
    exact .bind (sourceCloseFailure_readOnly _ _) fun _ => .bind (closeEtc_readOnly _) fun _ => .pure _
  | ok directory =>
  dsimp only
  split
  · exact .bind (SourceProvisionPath.close_readOnly _) fun _ => .pure _
  · refine .bind (SourceProvisionPath.revalidate_readOnly _) fun err => ?_
    cases err with
    | some err => exact .bind (SourceProvisionPath.close_readOnly _) fun _ => .pure _
    | none => exact .pure _

variable (rootFD : SourceFd)

lemma openSourceProvisionPath_readOnly (owner group : Nat) :
    ReadOnly (openSourceProvisionPath rootFD owner group) := by
  refine .bind (.fstat _) fun root => ?_
  cases root with
  | error code => exact .pure _
  | ok root =>
  dsimp only
  split
  · exact .pure _
  refine .bind (.openatDirectory _ _) fun etcFD => ?_
  cases etcFD with
  | error code => exact .pure _
  | ok etcFD =>
  refine .bind (.fstat _) fun etc => ?_
  cases etc with
  | error code => exact .bind (closeEtc_readOnly _) fun _ => .pure _
  | ok etc =>
  dsimp only
  split
  · exact .bind (closeEtc_readOnly _) fun _ => .pure _
  · exact openSourceDirectory_readOnly _ _ _ _ _ _

/-- A path that was opened on the directory `fs`. -/
structure SourceProvisionPath.OpenOn (fs : SourceFs) (rootFD : SourceFd) (owner group : Nat)
    (path : SourceProvisionPath) : Prop where
  rootFD_eq : path.rootFD = rootFD
  etcFD_target : path.etcFD.target = .directory .etc
  directoryFD_target : path.directoryFD.target = .directory .recasaos
  owner_eq : path.owner = owner
  group_eq : path.group = group
  root_eq : path.root = fs.stat rootFD.target
  etc_eq : path.etc = fs.directory .etc
  directory_eq : path.directory = fs.directory .recasaos
  root_safe : safeSourceAncestor path.root owner group
  etc_safe : safeSourceAncestor path.etc owner group
  directory_safe : safeSourceDirectory path.directory owner group

@[simp] lemma sameSourceIdentity_self (stat : FileStat) : sameSourceIdentity stat stat := by
  simp [sameSourceIdentity]

variable {path : SourceProvisionPath} {R : SourceWorld → Prop}
variable {w : SourceWorld}

/-- `revalidate` on an unchanged directory succeeds unless one of its five calls is faulty. `R` is
anything that holds behind these calls. -/
lemma SourceProvisionPath.revalidate_succeeds {rootFD : SourceFd}
    {owner group : Nat} (hpa : path.OpenOn w.fs rootFD owner group)
    (hR : ∀ w' : SourceWorld, w'.script = w.script.drop 5 → R w') :
    path.revalidate.Post w (fun err w' => err = none ∧ R w') ↔ w.Clear 5 := by
  have hsteps : path.revalidate.Post w (fun err w' => err = none ∧ R w') ↔ w.Clear 5 ∧
      path.unchanged (w.fs.stat path.rootFD.target) (w.fs.stat path.etcFD.target)
        (w.fs.stat path.directoryFD.target) ∧
      (sameSourceIdentity (w.fs.directory .etc) path.etc
        && sameSourceIdentity (w.fs.directory .recasaos) path.directory) = true ∧ True := by
    refine succeeds_fstat (fun _ h => nomatch h.1) <| succeeds_fstat (fun _ h => nomatch h.1) <|
      succeeds_fstat (fun _ h => nomatch h.1) <| succeeds_check (fun h => nomatch h.1) fun _ => ?_
    refine succeeds_fstatatDirectory (fun _ h => nomatch h.1) <|
      succeeds_fstatatDirectory (fun _ h => nomatch h.1) <|
        succeeds_check (fun h => nomatch h.1) fun _ => ?_
    refine iff_of_true ⟨rfl, hR _ ?_⟩ ⟨World.clear_zero _, trivial⟩
    change w.script.tail.tail.tail.tail.tail = w.script.drop 5
    simp [← drop_one]
  have hstt : w.fs.stat path.rootFD.target = path.root := by rw [hpa.root_eq, hpa.rootFD_eq]
  rw [hsteps, hstt, hpa.etcFD_target, hpa.directoryFD_target]
  simp [SourceProvisionPath.unchanged, Fs.stat, ← hpa.etc_eq, ← hpa.directory_eq,
    hpa.owner_eq, hpa.group_eq, hpa.root_safe, hpa.etc_safe, hpa.directory_safe]

private lemma refused {err : SourceError} {P : SourceProvisionPath → Prop} :
    ∀ path, (.error err : Except SourceError SourceProvisionPath) = .ok path → P path := by
  simp

/-- What `openSourceProvisionPath` returns is open on the directory. -/
lemma openSourceProvisionPath_spec (owner group : Nat) (w : SourceWorld) :
    (openSourceProvisionPath rootFD owner group).Post w fun r _ =>
      ∀ path, r = .ok path → path.OpenOn w.fs rootFD owner group := by
  refine .bind (fstat_spec rootFD) ?_
  rintro (code | root) w1 ⟨hfs1, hrt⟩
  · exact .pure refused
  dsimp only
  split
  · exact .pure refused
  rename_i hsafe
  refine .bind (openatDirectory_spec rootFD .etc) ?_
  rintro (code | etcFD) w2 ⟨hfs2, hetcFD⟩
  · exact .pure refused
  refine .bind (fstat_spec etcFD) ?_
  rintro (code | etc) w3 ⟨hfs3, hetc⟩
  · exact .skip fun _ _ => .pure refused
  dsimp only
  split
  · exact .skip fun _ _ => .pure refused
  rename_i hsafeEtc
  refine .bind (openatDirectory_spec etcFD .recasaos) ?_
  rintro (code | directoryFD) w4 ⟨hfs4, hdirectoryFD⟩
  · exact .skip fun _ _ => .pure refused
  refine .bind (fstat_spec directoryFD) ?_
  rintro (code | directory) w5 ⟨hfs5, hdir⟩
  · exact .skip fun _ _ => .skip fun _ _ => .pure refused
  dsimp only
  split
  · exact .skip fun _ _ => .pure refused
  rename_i hsafeDirectory
  refine .skip ?_
  rintro (_ | err) w6
  · refine .pure fun path hok => ?_
    cases hok
    have hfs : w4.fs = w.fs := by rw [hfs4, hfs3, hfs2, hfs1]
    refine ⟨rfl, hetcFD _ rfl, hdirectoryFD _ rfl, rfl, rfl, hrt _ rfl, ?_, ?_, ?_, ?_, ?_⟩
    · rw [hetc _ rfl, hetcFD _ rfl, hfs2, hfs1]
      rfl
    · rw [hdir _ rfl, hdirectoryFD _ rfl, hfs]
      rfl
    · simpa using hsafe
    · simpa using hsafeEtc
    · simpa using hsafeDirectory
  · exact .skip fun _ _ => .pure refused

/-- The directories on the way are safe, and none of the ten calls that open the path is faulty. -/
structure SourcePathOpens (w : SourceWorld) (rootFD : SourceFd) (owner group : Nat) : Prop where
  root : safeSourceAncestor (w.fs.stat rootFD.target) owner group
  etc : safeSourceAncestor (w.fs.directory .etc) owner group
  directory : safeSourceDirectory (w.fs.directory .recasaos) owner group
  clear : w.Clear 10

private lemma not_opened {err : SourceError} :
    ¬ ∃ path, (.error err : Except SourceError SourceProvisionPath) = .ok path := by
  simp

lemma openedSourcePath_succeeds :
    (openedSourcePath path).Post w (fun r w' => (∃ path, r = .ok path) ∧ R w') ↔
      path.revalidate.Post w (fun err w' => err = none ∧ R w') := by
  have hrun : (openedSourcePath path).Post w (fun r w' => (∃ path, r = .ok path) ∧ R w') ↔
      (match (path.revalidate w).1 with
        | some err => do let _ ← path.close; pure (.error err)
        | none => pure (.ok path) : SourceSys (Except SourceError SourceProvisionPath)).Post
          (path.revalidate w).2 (fun r w' => (∃ path, r = .ok path) ∧ R w') := Iff.rfl
  rw [hrun]
  change _ ↔ (path.revalidate w).1 = none ∧ R (path.revalidate w).2
  cases (path.revalidate w).1 with
  | none => exact ⟨fun h => ⟨rfl, h.2⟩, fun h => ⟨⟨path, rfl⟩, h.2⟩⟩
  | some err => exact iff_of_false (fun h => not_opened h.1) nofun

/-- The path opens unless a directory on the way is not safe or one of ten calls is faulty. -/
lemma openSourceProvisionPath_succeeds (owner group : Nat) (w : SourceWorld)
    (hR : ∀ w' : SourceWorld, w'.script = w.script.drop 10 → R w') :
    (openSourceProvisionPath rootFD owner group).Post w
        (fun r w' => (∃ path, r = .ok path) ∧ R w') ↔
      SourcePathOpens w rootFD owner group := by
  have hsteps : (openSourceProvisionPath rootFD owner group).Post w
      (fun r w' => (∃ path, r = .ok path) ∧ R w') ↔ w.Clear 10 ∧
        safeSourceAncestor (w.fs.stat rootFD.target) owner group ∧
        safeSourceAncestor (w.fs.directory .etc) owner group ∧
        safeSourceDirectory (w.fs.directory .recasaos) owner group ∧ True := by
    refine succeeds_fstat (fun _ h => not_opened h.1) ?_
    refine succeeds_check (fun h => not_opened h.1) fun hrt => ?_
    refine succeeds_openatDirectory (fun _ h => not_opened h.1)
      fun etcFD w1 hetcFD hfs1 hscr1 => ?_
    change w1.fs = w.fs at hfs1
    rw [← hfs1]
    have hetc : w1.fs.stat etcFD.target = w1.fs.directory .etc := by
      rw [hetcFD]
      rfl
    refine succeeds_fstat (fun _ h => not_opened h.1) ?_
    rw [hetc]
    refine succeeds_check (fun h => not_opened h.1) fun hetcSafe => ?_
    refine succeeds_openatDirectory (fun _ h => not_opened h.1)
      fun directoryFD w2 hdirectoryFD hfs2 hscr2 => ?_
    change w2.fs = w1.fs at hfs2
    rw [← hfs2]
    have hdir : w2.fs.stat directoryFD.target = w2.fs.directory .recasaos := by
      rw [hdirectoryFD]
      rfl
    refine succeeds_fstat (fun _ h => not_opened h.1) ?_
    rw [hdir]
    refine succeeds_check (fun h => not_opened h.1) fun hdirectorySafe => ?_
    have hfs : w2.fs = w.fs := hfs2.trans hfs1
    rw [openedSourcePath_succeeds, and_true]
    refine SourceProvisionPath.revalidate_succeeds ⟨rfl, hetcFD, hdirectoryFD, rfl, rfl, rfl, rfl,
      rfl, hfs ▸ hrt, hfs2 ▸ hetcSafe, hdirectorySafe⟩ fun w' hscr' => hR w' ?_
    rw [hscr']
    simp only [World.answered] at hscr1 hscr2 ⊢
    simp [hscr2, hscr1, ← drop_one]
  rw [hsteps, and_true]
  constructor
  · rintro ⟨hcl, hrt, hetc, hdir⟩
    exact ⟨hrt, hetc, hdir, hcl⟩
  · rintro ⟨hrt, hetc, hdir, hcl⟩
    exact ⟨hcl, hrt, hetc, hdir⟩

/-- What is known once `openSourceProvisionPath` has answered. -/
lemma openSourceProvisionPath_answer (owner group : Nat) (w : SourceWorld) :
    (openSourceProvisionPath rootFD owner group).Post w fun r w' => w'.fs = w.fs ∧
      ((∃ path, r = .ok path) ↔ SourcePathOpens w rootFD owner group) ∧
      ∀ path, r = .ok path → path.OpenOn w.fs rootFD owner group ∧
        w'.script = w.script.drop 10 := by
  have hops : (openSourceProvisionPath rootFD owner group).Post w fun r _ =>
      (∃ path, r = .ok path) ∧ True ↔ SourcePathOpens w rootFD owner group :=
    openSourceProvisionPath_succeeds rootFD owner group w fun _ _ => trivial
  have hscr : (openSourceProvisionPath rootFD owner group).Post w fun r w' =>
      (∃ path, r = .ok path) ∧ w'.script = w.script.drop 10 ↔
        SourcePathOpens w rootFD owner group :=
    openSourceProvisionPath_succeeds rootFD owner group w fun _ h => h
  refine ((((openSourceProvisionPath_readOnly rootFD owner group w).and
    (openSourceProvisionPath_spec rootFD owner group w)).and hops).and hscr).mono ?_
  rintro r w' ⟨⟨⟨⟨hfs, -⟩, hpa⟩, hops⟩, hscr⟩
  rw [and_true] at hops
  refine ⟨hfs, hops, fun path hr => ⟨hpa path hr, ?_⟩⟩
  exact (hscr.mpr (hops.mp ⟨path, hr⟩)).2

lemma SourceProvisionPath.revalidate_answer {rootFD : SourceFd}
    {owner group : Nat} (hpa : path.OpenOn w.fs rootFD owner group) :
    path.revalidate.Post w fun err w' => w'.fs = w.fs ∧ (err = none ↔ w.Clear 5) ∧
      (err = none → w'.script = w.script.drop 5) := by
  have hcl : path.revalidate.Post w fun err _ => err = none ∧ True ↔ w.Clear 5 :=
    revalidate_succeeds hpa fun _ _ => trivial
  have hscr : path.revalidate.Post w fun err w' =>
      err = none ∧ w'.script = w.script.drop 5 ↔ w.Clear 5 :=
    revalidate_succeeds hpa fun _ h => h
  refine (((path.revalidate_readOnly w).and hcl).and hscr).mono ?_
  rintro err w' ⟨⟨⟨hfs, -⟩, hcl⟩, hscr⟩
  rw [and_true] at hcl
  exact ⟨hfs, hcl, fun hno => (hscr.mpr (hcl.mp hno)).2⟩

end ReCasaOS.Smb
