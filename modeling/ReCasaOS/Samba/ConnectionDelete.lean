/-
# Deleting a connection

`DeleteSambaConnections` (`route/v1/samba.go`) unmounts the shares of a stored connection and removes
its row. A mount id that was stored in this boot says which mount is the connection's own; everything
else that is mounted on a share's directory stops the request.

A first pass looks at every share and changes nothing. The second pass unmounts what the first one
found, after checking each mount again, and then the row goes. `Progress` says what the second pass
may have done to the world at any moment; the theorem at the end says that no mount is left behind or
taken from somebody else, and that a request which failed can be made again.
-/
import ReCasaOS.Samba.MountWorld

namespace ReCasaOS.Samba

open Lib FileSecurity List Option Fallible

variable {host : Bytes}

/-! ## 1. The program -/

structure SambaMountedPath where
  path : Bytes
  host : Bytes
  directory : Bytes
  mountID : Nat
  deriving DecidableEq

/-- `GetConnectionByID`; `none` is `gorm.ErrRecordNotFound`. -/
def getConnectionByID (machine : Machine) (id : Bytes) : Program OpError (Option (Nat × ConnectionRow)) :=
  consult fun world => .ok ((machine.sqlKey id).bind fun key =>
    (world.db.rows.lookup key).map fun row => (key, row))

section

variable (machine : Machine) (roots : ManagedRoots)

/-- `IsMountPoint`, of a directory that need not be there. -/
def boundaryAt (path : Bytes) : Program OpError Bool := do
  match ← attempt (isMountPoint machine roots path) with
  | .ok mounted => pure mounted
  | .error err => if notExist err then pure false else fail err

def legacyBoundaryError : OpError :=
  textError "legacy Samba mount boundary detected; reboot or perform administrator cleanup before retrying"

def preflightShares (baseHostPath : Bytes) : List Bytes → Program OpError (List Bytes)
  | [] => pure []
  | directory :: directories => do
    let location ← ofExcept (roots.matchChild baseHostPath directory)
    let mounted ← boundaryAt machine roots location.canonical
    guard (mounted) legacyBoundaryError
    let paths ← preflightShares baseHostPath directories
    pure (location.canonical :: paths)

def preflightLegacySambaMountBoundaries (baseHostPath : Bytes) (directories : List Bytes) :
    Program OpError (List Bytes) := do
  let baseMounted ← boundaryAt machine roots baseHostPath
  guard (baseMounted) legacyBoundaryError
  preflightShares machine roots baseHostPath directories

/-- The mount id of a descriptor has to be the expected one. -/
def checkDescriptor (opened : Descriptor) (expectedMountID : Nat) (mismatch : String) :
    Program OpError Unit := do
  let mountID ← descriptorMountID roots opened
  guard (mountID ≠ expectedMountID) (textError mismatch)

/-- The first pass, for one share: its mount, if there is one to unmount. -/
def checkShare (row : ConnectionRow) (currentBootID : Bytes) (mountIDs : NameTable Bytes Nat)
    (mountPoint directory : Bytes) : Program OpError (Option SambaMountedPath) :=
  let expectedMountID := (mountIDs.lookup directory).getD 0
  if row.bootID ≠ currentBootID ∨ expectedMountID = 0 then do
    let identity ← inspectSambaMount mountPoint row.host directory
    guard (identity ≠ none)
      (textError "refusing to unmount a Samba mount not owned in this boot")
    pure none
  else do
    let matched ← validateSambaMount mountPoint row.host directory expectedMountID
    if matched then do
      let mountDirectory ← openDirectory machine roots mountPoint
      orClose 1 (checkDescriptor roots mountDirectory expectedMountID
        "descriptor mount ID does not match persisted mount ID")
      closeFile
      pure (some ⟨mountPoint, row.host, directory, expectedMountID⟩)
    else pure none

def firstPass (row : ConnectionRow) (baseHostPath currentBootID : Bytes)
    (mountIDs : NameTable Bytes Nat) : List Bytes → Program Refusal (List SambaMountedPath)
  | [] => pure []
  | directory :: directories => do
    let location ← orRefuse (ofExcept (roots.matchChild baseHostPath directory))
      fun _ => invalidParams 500
    let owned ← orRefuse (checkShare machine roots row currentBootID mountIDs location.canonical directory)
      serviceError
    let ownedMounts ← firstPass row baseHostPath currentBootID mountIDs directories
    pure (owned.toList ++ ownedMounts)

/-- `ValidateSambaMount` of a mount that has to be there. -/
def confirmMount (mounted : SambaMountedPath) (mismatch : String) : Program OpError Unit := do
  let matched ← validateSambaMount mounted.path mounted.host mounted.directory mounted.mountID
  guard (matched = false) (textError mismatch)

/-- `ValidateSambaMount` after an unmount, and the parent is closed. -/
def confirmGone (mounted : SambaMountedPath) (remained : String) : Program OpError Unit := do
  let stillMounted ← attempt
    (validateSambaMount mounted.path mounted.host mounted.directory mounted.mountID)
  let closed ← attempt closeFile
  match joinErrors [failureOf stillMounted, failureOf closed], stillMounted with
  | some err, _ => fail err
  | none, .ok false => pure ()
  | none, _ => fail (textError remained)

/-- The second pass, for one mount. -/
def unmountOwned (ownedMount : SambaMountedPath) : Program OpError Unit := do
  let parentDirectory ← openDirectory machine roots (dirPath ownedMount.path)
  let mountDirectory ← orClose 1 (openDirectory machine roots ownedMount.path)
  orClose 2 (checkDescriptor roots mountDirectory ownedMount.mountID
    "descriptor mount ID does not match persisted mount ID")
  orClose 1 closeFile
  orClose 1 (confirmMount ownedMount "Samba mount identity changed before unmount")
  orClose 1 (unmountSmaba parentDirectory (basePath ownedMount.path))
  confirmGone ownedMount "Samba mount remained after unmount"

def secondPass : List SambaMountedPath → Program Refusal Unit
  | [] => pure ()
  | ownedMount :: ownedMounts => do
    orRefuse (unmountOwned machine roots ownedMount) serviceError
    secondPass ownedMounts

/-- A row without ownership fields: nothing may be mounted, and nothing is unmounted. -/
def deleteLegacy (key : Nat) (baseHostPath : Bytes) (persistedDirectories : List Bytes) :
    Program Refusal Unit := do
  orRefuse (acquireMutation roots.closed) serviceError
  let _ ← orRefuse (preflightLegacySambaMountBoundaries machine roots baseHostPath persistedDirectories)
    serviceError
  orRefuse (mutate fun db => db.deleteConnection key) serviceError

def deleteOwned (key : Nat) (row : ConnectionRow) (baseHostPath : Bytes) (directories : List Bytes) :
    Program Refusal Unit := do
  let bootID ← orRefuse currentBootID serviceError
  let mountIDs ← orRefuse (ofExcept (parseSambaMountIDs machine.text row.mountIDs 64))
    fun _ => invalidParams 500
  orRefuse (acquireMutation roots.closed) serviceError
  let baseMounted ← orRefuse (boundaryAt machine roots baseHostPath) serviceError
  guard (baseMounted)
    (serviceError (textError "Samba host directory is an unexpected mount point"))
  let ownedMounts ← firstPass machine roots row baseHostPath bootID mountIDs directories
  secondPass machine roots ownedMounts
  orRefuse (mutate fun db => db.deleteConnection key) serviceError

end

def validateRowFields (row : ConnectionRow) (parsed : PersistedConnection) : Except OpError Unit :=
  if parsed.legacy then validateLegacySambaHost row.host
  else validateSambaConnectionFields row.username row.password row.host parsed.port

/-- `ParsePersistedSambaConnection` of a row. -/
def ConnectionRow.parse (row : ConnectionRow) : Except OpError PersistedConnection :=
  parsePersistedSambaConnection row.directories row.port row.bootID row.mountIDs 64

def deleteRow (machine : Machine) (key : Nat) (row : ConnectionRow) : Program Refusal Unit := do
  let parsed ← orRefuse (ofExcept row.parse) fun _ => invalidParams 500
  orRefuse (ofExcept (validateRowFields row parsed)) fun _ => invalidParams 500
  let roots ← managementFileRoots machine
  let base ← orRefuse (ofExcept (roots.matchPath (hostPath row.host))) fun _ => invalidParams 500
  guard (row.mountPoint ≠ base.canonical) (invalidParams 500)
  if parsed.legacy then deleteLegacy machine roots key base.canonical parsed.allDirectories
  else deleteOwned machine roots key row base.canonical parsed.directories

def deleteSambaConnections (machine : Machine) (id : Bytes) : Program Refusal Unit := do
  let found ← orRefuse (getConnectionByID machine id) serviceError
  match found with
  | none => fail recordNotExist
  | some (key, row) => deleteRow machine key row

lemma validateRowFields_host {row : ConnectionRow} {parsed : PersistedConnection}
    (h : validateRowFields row parsed = .ok ()) : validatePathComponent row.host := by
  unfold validateRowFields at h
  split at h
  · exact validateLegacySambaHost_ok h
  · exact validateSambaConnectionFields_host h

/-! ## 2. Mounts of a connection -/

/-- A mount that is the connection's own: the only one at its path, of the share, and with the
expected id in the table and on a descriptor. -/
structure OwnedMount (machine : Machine) (roots : ManagedRoots) (fs : MountedTree)
    (mounted : SambaMountedPath) : Prop where
  entry : ∃ entry, entriesAt fs.table mounted.path = [entry] ∧
    IsShareMount entry mounted.host mounted.directory ∧ entry.id.toNat = mounted.mountID
  descriptor : ∃ opened, openedDirectory machine roots mounted.path fs = .ok opened ∧
    opened.mount.toNat = mounted.mountID

/-- A lookup from the directory above comes to something mounted. -/
def SeenFromParent (machine : Machine) (roots : ManagedRoots) (fs : MountedTree)
    (mounted : SambaMountedPath) : Prop :=
  ∃ parent, openedDirectory machine roots (dirPath mounted.path) fs = .ok parent ∧
    cross fs.table mounted.path parent.mount ≠ parent.mount

/-- The record of a mount names a share of the host and its directory. -/
structure Placed (host : Bytes) (mounted : SambaMountedPath) : Prop where
  valid : validatePathComponent host
  host_eq : mounted.host = host
  path : mounted.path = sambaMountPoint host mounted.directory
  directory : validateSambaDirectory mounted.directory = .ok ()

variable {mounted : SambaMountedPath}

lemma Placed.component (h : Placed host mounted) : validatePathComponent mounted.directory :=
  (validateSambaDirectoryName_ok h.directory).1

lemma Placed.dirPath_eq (h : Placed host mounted) :
    dirPath mounted.path = absolutePath [utf8 "mnt", host] := by
  rw [dirPath, h.path, components_sambaMountPoint h.valid h.component]
  rfl

lemma Placed.basePath_eq (h : Placed host mounted) : basePath mounted.path = mounted.directory := by
  rw [basePath, h.path, components_sambaMountPoint h.valid h.component]
  rfl

/-- A share's directory is not on the way to its host's, or to another share's. -/
lemma front_ne_share {directory : Bytes} {front names : List Bytes}
    (h : validatePathComponent host) (hd : validatePathComponent directory)
    (hnms : ∀ name ∈ names, validatePathComponent name)
    (hout : ¬ [utf8 "mnt", host, directory] <+: names) (hfro : front <+: names) :
    absolutePath front ≠ sambaMountPoint host directory := by
  intro heq
  have hcps : components (absolutePath front) = front :=
    components_of_valid fun name hnm => hnms name (hfro.subset hnm)
  rw [heq, components_sambaMountPoint h hd] at hcps
  exact hout (hcps ▸ hfro)

lemma share_not_prefix_host (host directory : Bytes) :
    ¬ [utf8 "mnt", host, directory] <+: [utf8 "mnt", host] := fun h => by
  have := h.length_le
  simp at this

lemma openedDirectory_path {machine : Machine} {roots : ManagedRoots} {names : List Bytes}
    {fs : MountedTree} {opened : Descriptor} (hne : names ≠ [])
    (hnms : ∀ name ∈ names, validatePathComponent name)
    (h : openedDirectory machine roots (absolutePath names) fs = .ok opened) :
    opened.path = absolutePath names := by
  simp only [openedDirectory, bind_eq_ok] at h
  obtain ⟨_, -, loc, hloc, mount, -, hopd⟩ := h
  cases hopd
  exact (resolveLocked_names hne hnms hloc).2

/-! ## 3. The calls -/

section

variable {calm : Prop} {M : Machine} {roots : ManagedRoots} {w : Faulty ConnectionWorld}

/-- What the mount table says about a mount of the connection. -/
abbrev SambaMountedPath.validated (mounted : SambaMountedPath) (s : ConnectionWorld) : Except OpError Bool :=
  validatedMount mounted.path mounted.host mounted.directory mounted.mountID s.fs.table

lemma validatedMount_ok {mountPoint host directory : Bytes} {want : Nat}
    {table : List MountEntry} {matched : Bool} :
    validatedMount mountPoint host directory want table = .ok matched ↔
      validatePathComponent host ∧ validateSambaDirectory directory = .ok () ∧
        validateSambaMountEntries mountPoint host directory want table = .ok matched := by
  simp only [validatedMount, bind_eq_ok, check_eq_ok, Bool.not_eq_false]
  exact ⟨fun ⟨_, hho, _, hdir, h⟩ => ⟨hho, hdir, h⟩,
    fun ⟨hho, hdir, h⟩ => ⟨(), hho, (), hdir, h⟩⟩

lemma inspectedMount_ok {mountPoint host directory : Bytes} {table : List MountEntry}
    {identity : Option SambaMountIdentity} :
    inspectedMount mountPoint host directory table = .ok identity ↔
      validatePathComponent host ∧ validateSambaDirectory directory = .ok () ∧
        inspectSambaMountEntries mountPoint host directory table = .ok identity := by
  simp only [inspectedMount, bind_eq_ok, check_eq_ok, Bool.not_eq_false]
  exact ⟨fun ⟨_, hho, _, hdir, h⟩ => ⟨hho, hdir, h⟩,
    fun ⟨hho, hdir, h⟩ => ⟨(), hho, (), hdir, h⟩⟩

lemma checkDescriptor_ends (hcm : calm → w.Quiet) (opened : Descriptor) (want : Nat)
    (mismatch : String) :
    (checkDescriptor roots opened want mismatch).Ends w
      (fun _ t => t.state = w.state ∧ (calm → t.Quiet) ∧ opened.mount.toNat = want)
      (fun _ t => t.state = w.state ∧
        (calm → roots.closed = false → opened.mount.toNat ≠ want)) := by
  refine .seq (consult_ends hcm (fun mid hcm hid => ?_) fun err herr => ⟨rfl, fun hc hclo => ?_⟩)
  · simp only [check_bind_eq_ok] at hid
    obtain rfl := Except.ok.inj hid.2
    exact .guard (fun hne => ⟨rfl, fun _ _ => hne⟩) fun heq => ⟨rfl, hcm, not_not.mp heq⟩
  · have := herr (.inr hc)
    rw [hclo] at this
    cases this

lemma confirmMount_ends (hcm : calm → w.Quiet) (mounted : SambaMountedPath) (mismatch : String) :
    (confirmMount mounted mismatch).Ends w
      (fun _ t => t = w.later ∧ (calm → t.Quiet) ∧ mounted.validated w.state = .ok true)
      (fun _ t => t.state = w.state ∧ (calm → mounted.validated w.state ≠ .ok true)) := by
  refine .seq (consult_ends hcm (fun matched hcm hmatd => ?_) fun err herr =>
    ⟨rfl, fun hc htrue => ?_⟩)
  · refine .guard (fun hf => ⟨rfl, fun _ htrue => ?_⟩) fun htrue => ?_
    · cases (hf ▸ hmatd).symm.trans htrue
    · exact ⟨rfl, hcm, Bool.eq_true_of_not_eq_false htrue ▸ hmatd⟩
  · cases (herr (.inr hc)).symm.trans htrue

lemma confirmGone_ends (hcm : calm → w.Quiet) (mounted : SambaMountedPath) (remained : String) :
    (confirmGone mounted remained).Ends w
      (fun _ t => t.state = w.state ∧ (calm → t.Quiet) ∧ mounted.validated w.state = .ok false)
      (fun _ t => t.state = w.state ∧ (calm → mounted.validated w.state ≠ .ok false)) := by
  refine .seq (.attempt (consult_ends hcm (fun still hcm hstl => ?_) fun err herr => ?_))
  · refine .seq (.attempt (closeFile_ends hcm (fun hcm => ?_) fun err hnot => ?_))
    · cases still with
      | false => exact .pure ⟨rfl, hcm, hstl⟩
      | true =>
        refine .fail ⟨rfl, fun _ hf => ?_⟩
        cases hstl.symm.trans hf
    · cases still <;> exact .fail ⟨rfl, fun hc => absurd hc hnot⟩
  · refine .seq (.attempt (closeFile_ends False.elim (fun _ => ?_) fun err' _ => ?_))
    · exact .fail ⟨rfl, fun hc hf => by cases (herr (.inr hc)).symm.trans hf⟩
    · exact .fail ⟨rfl, fun hc hf => by cases (herr (.inr hc)).symm.trans hf⟩

end

/-! ## 4. The second pass -/

/-- **What the second pass may have done**: it has unmounted some of the mounts that are `owned`, each
after it was seen to be one of the connection's own, and nothing else. -/
structure Progress (machine : Machine) (roots : ManagedRoots) (owned : List SambaMountedPath)
    (s t : ConnectionWorld) : Prop where
  db : t.db = s.db
  bootFile : t.bootFile = s.bootFile
  nodes : t.fs.nodes = s.fs.nodes
  contents : t.fs.contents = s.fs.contents
  fewer : t.fs.table.Sublist s.fs.table
  away : awayFrom (owned.map (·.path)) t.fs.table = awayFrom (owned.map (·.path)) s.fs.table
  requests : ∃ more, t.requests = s.requests ++ more ∧ ∀ request ∈ more, request.kind = .unmount ∧
    ∃ mounted ∈ owned, request.path = mounted.path ∧ OwnedMount machine roots request.before mounted

namespace Progress

variable {M : Machine} {roots : ManagedRoots} {owned owned' : List SambaMountedPath}
variable {s t u : ConnectionWorld}

lemma refl (M : Machine) (roots : ManagedRoots) (owned : List SambaMountedPath)
    (s : ConnectionWorld) : Progress M roots owned s s :=
  ⟨rfl, rfl, rfl, rfl, List.Sublist.refl _, rfl, [], (append_nil _).symm,
    fun _ h => absurd h not_mem_nil⟩

section

variable (h : Progress M roots owned s t)
include h

variable {path : Bytes}

lemma elsewhere (hpa : ∀ mounted ∈ owned, mounted.path ≠ path) :
    entriesAt t.fs.table path = entriesAt s.fs.table path := by
  have hout : path ∉ owned.map (·.path) := by
    intro hmem
    obtain ⟨mounted, hmtd, heq⟩ := mem_map.mp hmem
    exact hpa mounted hmtd heq
  rw [← entriesAt_awayFrom hout, h.away, entriesAt_awayFrom hout]

lemma trans (h' : Progress M roots owned t u) : Progress M roots owned s u := by
  obtain ⟨more, hmore, hall⟩ := h.requests
  obtain ⟨more', hmore', hall'⟩ := h'.requests
  refine ⟨h'.db.trans h.db, h'.bootFile.trans h.bootFile, h'.nodes.trans h.nodes,
    h'.contents.trans h.contents, h'.fewer.trans h.fewer, h'.away.trans h.away, more ++ more', ?_, ?_⟩
  · rw [hmore', hmore, append_assoc]
  · intro request hreq
    exact (mem_append.mp hreq).elim (hall request) (hall' request)

lemma mono (hsub : ∀ mounted ∈ owned, mounted ∈ owned') : Progress M roots owned' s t := by
  obtain ⟨more, hmore, hall⟩ := h.requests
  refine ⟨h.db, h.bootFile, h.nodes, h.contents, h.fewer, ?_, more, hmore, ?_⟩
  · exact awayFrom_congr (map_subset _ hsub) h.away
  · intro request hreq
    obtain ⟨hkind, mounted, hmem, hmtd⟩ := hall request hreq
    exact ⟨hkind, mounted, hsub mounted hmem, hmtd⟩

lemma clear (hpa : entriesAt s.fs.table path = []) : entriesAt t.fs.table path = [] :=
  entriesAt_eq_nil.mpr fun entry hent => entriesAt_eq_nil.mp hpa entry (h.fewer.subset hent)

lemma agreeAt (hpa : entriesAt t.fs.table path = entriesAt s.fs.table path) :
    AgreeAt t.fs s.fs path :=
  ⟨hpa, fun mount => by rw [h.nodes], h.contents⟩

lemma agreeAt_host {host : Bytes} (hho : validatePathComponent host)
    (hown : ∀ mounted ∈ owned, Placed host mounted) {front : List Bytes}
    (hfro : front <+: [utf8 "mnt", host]) : AgreeAt t.fs s.fs (absolutePath front) := by
  refine h.agreeAt (h.elsewhere fun mounted hmem => ?_)
  have hplc := hown mounted hmem
  rw [hplc.path]
  exact (front_ne_share hho hplc.component (host_names hho)
    (share_not_prefix_host host mounted.directory) hfro).symm

/-- A share whose mount is there as before is reached as before. -/
lemma agreeAt_share {host directory : Bytes} (hho : validatePathComponent host)
    (hd : validatePathComponent directory) (hown : ∀ mounted ∈ owned, Placed host mounted)
    (hsm : entriesAt t.fs.table (sambaMountPoint host directory) =
      entriesAt s.fs.table (sambaMountPoint host directory))
    {front : List Bytes} (hfro : front <+: [utf8 "mnt", host, directory]) :
    AgreeAt t.fs s.fs (absolutePath front) := by
  by_cases hwhole : front = [utf8 "mnt", host, directory]
  · rw [hwhole]
    exact h.agreeAt hsm
  refine h.agreeAt (h.elsewhere fun mounted hmem => ?_)
  have hplc := hown mounted hmem
  rw [hplc.path]
  refine (front_ne_share hho hplc.component (fun name hnm => ?_) (fun hpre => ?_)
    (prefix_refl front)).symm
  · exact share_names hho hd name (hfro.subset hnm)
  · exact hwhole (hfro.eq_of_length_le (hpre.length_le))

lemma ownedMount_iff {host : Bytes} {mounted : SambaMountedPath} (hplc : Placed host mounted)
    (hown : ∀ mounted ∈ owned, Placed host mounted)
    (hsm : entriesAt t.fs.table mounted.path = entriesAt s.fs.table mounted.path) :
    (OwnedMount M roots t.fs mounted ↔ OwnedMount M roots s.fs mounted) ∧
      (SeenFromParent M roots t.fs mounted ↔ SeenFromParent M roots s.fs mounted) := by
  have hop : openedDirectory M roots mounted.path t.fs
      = openedDirectory M roots mounted.path s.fs := by
    rw [hplc.path] at hsm ⊢
    exact openedDirectory_congr (cons_ne_nil _ _) (share_names hplc.valid hplc.component)
      fun front hfro _ => h.agreeAt_share hplc.valid hplc.component hown hsm hfro
  have hpar : openedDirectory M roots (dirPath mounted.path) t.fs
      = openedDirectory M roots (dirPath mounted.path) s.fs := by
    rw [hplc.dirPath_eq]
    exact openedDirectory_congr (cons_ne_nil _ _) (host_names hplc.valid)
      fun front hfro _ => h.agreeAt_host hplc.valid hown hfro
  constructor
  · exact ⟨fun ⟨hent, hdesc⟩ => ⟨hsm ▸ hent, hop ▸ hdesc⟩,
      fun ⟨hent, hdesc⟩ => ⟨hsm ▸ hent, hop ▸ hdesc⟩⟩
  · unfold SeenFromParent
    simp only [hpar, cross_congr hsm]

end

end Progress

section

variable {calm : Prop} {machine : Machine} {roots : ManagedRoots} {w : Faulty ConnectionWorld}

/-- An unmount: it is recorded, and then it takes the mount away or fails. -/
lemma unmountSmaba_ends (hcm : calm → w.Quiet) (parent : Descriptor) (child : Bytes) :
    (unmountSmaba parent child).Ends w
      (fun _ t => (calm → t.Quiet) ∧ (w.state.fs.unmountAt parent.mount (parent.child child)).1 = .ok () ∧
        t.state = { w.state with
          fs := (w.state.fs.unmountAt parent.mount (parent.child child)).2
          requests := w.state.requests ++ [⟨.unmount, parent.child child, w.state.fs⟩] })
      (fun _ t => (t.state = w.state ∨ t.state = { w.state with
          requests := w.state.requests ++ [⟨.unmount, parent.child child, w.state.fs⟩] }) ∧
        (calm → validatePathComponent child →
          (w.state.fs.unmountAt parent.mount (parent.child child)).1 ≠ .ok ())) := by
  refine .seq (.guard (fun hbad => ⟨.inl rfl, fun _ hg => ?_⟩) fun _ => ?_)
  · cases hbad.symm.trans hg
  refine .seq (closeFile_ends hcm (fun hcm => ?_) fun err hnot => ⟨.inl rfl, fun hc => absurd hc hnot⟩)
  refine .seq (record_ends ?_)
  refine changeTree_ends hcm (fun _ hqt hok => ⟨hqt _, hok, rfl⟩)
    (fun code hco => ?_) fun err herr => ⟨.inr rfl, fun hc _ hok => ?_⟩
  · unfold MountedTree.unmountAt at hco ⊢
    split at hco
    next hsm =>
      rw [if_pos hsm]
    · cases hco
  · obtain ⟨code, hco⟩ := herr hc
    cases hco.symm.trans hok

/-- What a statement makes of a mount that it takes away: it is gone, or something has failed or it was
not the connection's own and in sight. -/
abbrev Unmounts (calm : Prop) (machine : Machine) (roots : ManagedRoots) (mounted : SambaMountedPath)
    (m : Program OpError Unit) (w : Faulty ConnectionWorld) : Prop :=
  m.Ends w
    (fun _ t => Progress machine roots [mounted] w.state t.state ∧ (calm → t.Quiet) ∧
      entriesAt t.state.fs.table mounted.path = [])
    (fun _ t => Progress machine roots [mounted] w.state t.state ∧
      (calm → OwnedMount machine roots w.state.fs mounted →
        ¬ SeenFromParent machine roots w.state.fs mounted))

/-- **How a mount is taken away**, after its descriptor was looked at: it is closed, the mount is
confirmed, unmounted, and `last` has to find nothing mounted. -/
theorem unmountChecked_ends (hcm : calm → w.Quiet) {host : Bytes} {mounted : SambaMountedPath}
    (hplc : Placed host mounted) {parent opened : Descriptor} {changed : String}
    {last : Program OpError Unit}
    (hpar : openedDirectory machine roots (dirPath mounted.path) w.state.fs = .ok parent)
    (hopd : openedDirectory machine roots mounted.path w.state.fs = .ok opened)
    (hid : opened.mount.toNat = mounted.mountID)
    (hla : ∀ {t : Faulty ConnectionWorld}, (calm → t.Quiet) → last.Ends t
      (fun _ u => u.state = t.state ∧ (calm → u.Quiet) ∧ mounted.validated t.state = .ok false)
      (fun _ u => u.state = t.state ∧ (calm → mounted.validated t.state ≠ .ok false))) :
    Unmounts calm machine roots mounted (do
      orClose 1 closeFile
      orClose 1 (confirmMount mounted changed)
      orClose 1 (unmountSmaba parent (basePath mounted.path))
      last) w := by
  have hstl : Progress machine roots [mounted] w.state w.state := .refl ..
  refine .seq (orClose_ends 1 (closeFile_ends hcm (fun hcm => ?_) fun err hnot =>
    fun _ _ => ⟨hstl, fun hc => absurd hc hnot⟩))
  refine .bind (orClose_ends 1 ((confirmMount_ends hcm mounted _).impError ?_)) ?_
  · rintro err ⟨state, faults⟩ ⟨rfl, hf⟩ _ _
    refine ⟨hstl, fun hc hown => absurd ?_ (hf hc)⟩
    exact validatedMount_ok.mpr ⟨hplc.host_eq ▸ hplc.valid, hplc.directory,
      validateSambaMountEntries_true.mpr hown.entry⟩
  rintro _ _ ⟨rfl, hcm, hv⟩
  obtain ⟨hho, hdir, hes⟩ := validatedMount_ok.mp hv
  have hown : OwnedMount machine roots w.state.fs mounted :=
    ⟨validateSambaMountEntries_true.mp hes, opened, hopd, hid⟩
  have hpa : parent.child (basePath mounted.path) = mounted.path := by
    rw [hplc.dirPath_eq] at hpar
    rw [Descriptor.child, openedDirectory_path (cons_ne_nil _ _) (host_names hplc.valid) hpar,
      components_hostPath hplc.valid, hplc.basePath_eq, hplc.path]
    rfl
  have hunm : SeenFromParent machine roots w.state.fs mounted →
      (w.state.fs.unmountAt parent.mount mounted.path).1 = .ok () ∧
        entriesAt (w.state.fs.unmountAt parent.mount mounted.path).2.table mounted.path = [] := by
    rintro ⟨parent', hpar', hcross⟩
    obtain rfl := Except.ok.inj (hpar.symm.trans hpar')
    obtain ⟨entry, hent, -⟩ := hown.entry
    exact unmountAt_of_singleton hent hcross
  have hreqd : Progress machine roots [mounted] w.state
      { w.state with requests := w.state.requests ++ [⟨.unmount, mounted.path, w.state.fs⟩] } := by
    refine ⟨rfl, rfl, rfl, rfl, List.Sublist.refl _, rfl, _, rfl, fun request hreq => ?_⟩
    obtain rfl := mem_singleton.mp hreq
    exact ⟨rfl, mounted, mem_singleton_self _, rfl, hown⟩
  refine .bind (orClose_ends 1 ((unmountSmaba_ends hcm parent _).impError ?_)) ?_
  · rintro err ⟨state, faults⟩ ⟨hsta, hnot⟩ _ _
    refine ⟨?_, fun hc _ hse => ?_⟩
    · rw [hpa] at hsta
      rcases hsta with rfl | rfl
      · exact hstl
      · exact hreqd
    · refine hnot hc (hplc.basePath_eq ▸ hplc.component) ?_
      rw [hpa]
      exact (hunm hse).1
  rintro _ ⟨state, faults⟩ ⟨hcm, hok, hsta⟩
  rw [hpa] at hok hsta
  subst hsta
  have hpg : Progress machine roots [mounted] w.state { w.state with
      fs := (w.state.fs.unmountAt parent.mount mounted.path).2
      requests := w.state.requests ++ [⟨.unmount, mounted.path, w.state.fs⟩] } :=
    ⟨rfl, rfl, unmountAt_nodes, unmountAt_contents, unmountAt_sublist,
      awayFrom_unmountAt (mem_singleton_self _), hreqd.requests⟩
  refine (hla hcm).mono ?_ ?_
  · rintro _ ⟨state, faults⟩ ⟨rfl, hcm, hgn⟩
    exact ⟨hpg, hcm, validateSambaMountEntries_false.mp (validatedMount_ok.mp hgn).2.2⟩
  · rintro err ⟨state, faults⟩ ⟨rfl, hremains⟩
    refine ⟨hpg, fun hc _ hse => hremains hc ?_⟩
    exact validatedMount_ok.mpr ⟨hho, hdir, validateSambaMountEntries_false.mpr (hunm hse).2⟩

/-- **One mount of the second pass.** If nothing fails, a mount that is the connection's own and in
sight is gone afterwards. -/
theorem unmountOwned_ends (hcm : calm → w.Quiet) {host : Bytes} {mounted : SambaMountedPath}
    (hplc : Placed host mounted) (hclo : roots.closed = false) :
    Unmounts calm machine roots mounted (unmountOwned machine roots mounted) w := by
  have hstl : Progress machine roots [mounted] w.state w.state := .refl ..
  refine .seq (consult_ends hcm (fun parent hcm hpar => ?_) fun err herr => ⟨hstl, fun hc _ hse => ?_⟩)
  swap
  · obtain ⟨opened, hopd, -⟩ := hse
    cases (herr (.inr hc)).symm.trans hopd
  refine .seq (orClose_ends 1 (consult_ends hcm (fun opened hcm hopd => ?_) fun err herr =>
    fun _ _ => ⟨hstl, fun hc hown => ?_⟩))
  swap
  · obtain ⟨opened, hopd, -⟩ := hown.descriptor
    cases (herr (.inr hc)).symm.trans hopd
  refine .bind (orClose_ends 2 ((checkDescriptor_ends hcm opened _ _).impError ?_)) ?_
  · rintro err ⟨state, faults⟩ ⟨rfl, hmism⟩ _ _
    refine ⟨hstl, fun hc hown => ?_⟩
    obtain ⟨opened', hopd', hid⟩ := hown.descriptor
    obtain rfl := Except.ok.inj (hopd.symm.trans hopd')
    exact absurd hid (hmism hc hclo)
  rintro _ ⟨state, faults⟩ ⟨rfl, hcm, hid⟩
  exact unmountChecked_ends hcm hplc hpar hopd hid fun hcm => confirmGone_ends hcm mounted _

lemma secondPass_ends {host : Bytes} (hclo : roots.closed = false) :
    ∀ {owned : List SambaMountedPath} {w : Faulty ConnectionWorld}, (calm → w.Quiet) →
      (∀ mounted ∈ owned, Placed host mounted) → (owned.map (·.directory)).Nodup →
      (secondPass machine roots owned).Ends w
        (fun _ t => Progress machine roots owned w.state t.state ∧ (calm → t.Quiet) ∧
          ∀ mounted ∈ owned, entriesAt t.state.fs.table mounted.path = [])
        (fun _ t => Progress machine roots owned w.state t.state ∧
          (calm → (∀ mounted ∈ owned, OwnedMount machine roots w.state.fs mounted) →
            ¬ ∀ mounted ∈ owned, SeenFromParent machine roots w.state.fs mounted))
  | [], w, hcm, _, _ => .pure ⟨.refl .., hcm, fun _ h => absurd h not_mem_nil⟩
  | mounted :: owned, w, hcm, hplc, hnd => by
    obtain ⟨hfh, hnd⟩ := nodup_cons.mp hnd
    have hhere := hplc mounted (.head _)
    have hrs : ∀ other ∈ owned, Placed host other := fun other hoth =>
      hplc other (.tail _ hoth)
    refine .bind (.onError ((unmountOwned_ends hcm hhere hclo).impError ?_)) ?_
    · rintro err t ⟨hpg, hnot⟩
      refine ⟨hpg.mono fun m hm => mem_singleton.mp hm ▸ (.head _),
        fun hc hown hse => ?_⟩
      exact hnot hc (hown _ (.head _)) (hse _ (.head _))
    rintro _ t ⟨hpg, hcm, hgn⟩
    -- the mounts that are left are as they were
    have hsm : ∀ other ∈ owned,
        entriesAt t.state.fs.table other.path = entriesAt w.state.fs.table other.path := by
      intro other hoth
      refine hpg.elsewhere fun m hm heq => hfh ?_
      rw [mem_singleton.mp hm, hhere.path, (hrs other hoth).path] at heq
      have hnms := sambaMountPoint_inj hhere.valid hhere.component (hrs other hoth).component heq
      exact mem_map.mpr ⟨other, hoth, hnms.symm⟩
    have hone : ∀ m ∈ [mounted], Placed host m := fun m hm => mem_singleton.mp hm ▸ hhere
    have hst : Progress machine roots (mounted :: owned) w.state t.state :=
      hpg.mono fun m hm => mem_singleton.mp hm ▸ (.head _)
    refine (secondPass_ends hclo hcm hrs hnd).mono ?_ ?_
    · rintro _ u ⟨hlater, hcm, hcl⟩
      refine ⟨hst.trans (hlater.mono fun m hm => .tail _ hm), hcm, ?_⟩
      intro m hm
      rcases mem_cons.mp hm with rfl | hm
      · exact hlater.clear hgn
      · exact hcl m hm
    · rintro err u ⟨hlater, hnot⟩
      refine ⟨hst.trans (hlater.mono fun m hm => .tail _ hm), fun hc hown hse => ?_⟩
      refine hnot hc (fun m hm => ?_) fun m hm => ?_
      · exact (hpg.ownedMount_iff (hrs m hm) hone (hsm m hm)).1.mpr (hown m (.tail _ hm))
      · exact (hpg.ownedMount_iff (hrs m hm) hone (hsm m hm)).2.mpr (hse m (.tail _ hm))

end

/-! ## 5. The first pass -/

section

variable {calm : Prop} {machine : Machine} {roots : ManagedRoots} {w : Faulty ConnectionWorld}
variable {row : ConnectionRow} {bootID : Bytes} {mountIDs : NameTable Bytes Nat}

/-- A share whose mount is the one that was stored in this boot. -/
def OwnedShare (machine : Machine) (roots : ManagedRoots) (row : ConnectionRow) (bootID : Bytes)
    (mountIDs : NameTable Bytes Nat) (fs : MountedTree) (mounted : SambaMountedPath) : Prop :=
  row.bootID = bootID ∧ mountIDs.lookup mounted.directory = some mounted.mountID ∧
    mounted.mountID ≠ 0 ∧ OwnedMount machine roots fs mounted

/-- A share that does not stop the request: nothing is mounted, or its own mount is. -/
def Passes (machine : Machine) (roots : ManagedRoots) (row : ConnectionRow) (bootID : Bytes)
    (mountIDs : NameTable Bytes Nat) (fs : MountedTree) (directory : Bytes) : Prop :=
  entriesAt fs.table (sambaMountPoint row.host directory) = [] ∨
    ∃ mountID, OwnedShare machine roots row bootID mountIDs fs
      ⟨sambaMountPoint row.host directory, row.host, directory, mountID⟩

lemma checkShare_ends (hcm : calm → w.Quiet) (hclo : roots.closed = false) {directory : Bytes}
    (hho : validatePathComponent row.host) (hdir : validateSambaDirectory directory = .ok ()) :
    (checkShare machine roots row bootID mountIDs (sambaMountPoint row.host directory) directory).Ends w
      (fun found t => t.state = w.state ∧ (calm → t.Quiet) ∧
        (found = none ∧ entriesAt w.state.fs.table (sambaMountPoint row.host directory) = [] ∨
          ∃ mountID, found = some ⟨sambaMountPoint row.host directory, row.host, directory, mountID⟩ ∧
            OwnedShare machine roots row bootID mountIDs w.state.fs
              ⟨sambaMountPoint row.host directory, row.host, directory, mountID⟩))
      (fun _ t => t.state = w.state ∧
        (calm → ¬ Passes machine roots row bootID mountIDs w.state.fs directory)) := by
  unfold checkShare
  simp only
  split
  next hforn =>
    have hnotOwned : ∀ mountID, ¬ OwnedShare machine roots row bootID mountIDs w.state.fs
        ⟨sambaMountPoint row.host directory, row.host, directory, mountID⟩ := by
      rintro mountID ⟨hbt, hlk, hne, -⟩
      rcases hforn with hforn | hz
      · exact hforn hbt
      · rw [hlk] at hz
        exact hne hz
    refine .seq (consult_ends hcm (fun identity hcm hidn => ?_) fun err herr =>
      ⟨rfl, fun hc hpasses => ?_⟩)
    · obtain ⟨-, -, hes⟩ := inspectedMount_ok.mp hidn
      refine .seq (.guard (fun hso => ⟨rfl, fun _ hpasses => ?_⟩) fun hnone => ?_)
      · rcases hpasses with hnil | ⟨mountID, hown⟩
        · rw [inspectSambaMountEntries_none.mpr hnil] at hes
          exact hso (Except.ok.inj hes).symm
        · exact hnotOwned mountID hown
      · rw [not_not.mp hnone] at hes
        exact .pure ⟨rfl, hcm, .inl ⟨rfl, inspectSambaMountEntries_none.mp hes⟩⟩
    · rcases hpasses with hnil | ⟨mountID, hown⟩
      · have hok := inspectedMount_ok.mpr ⟨hho, hdir, inspectSambaMountEntries_none.mpr hnil⟩
        cases (herr (.inr hc)).symm.trans hok
      · exact hnotOwned mountID hown
  next hours =>
    obtain ⟨hbt, hne⟩ := not_or.mp hours
    obtain ⟨mountID, hlk⟩ : ∃ mountID, mountIDs.lookup directory = some mountID := by
      cases hl : mountIDs.lookup directory with
      | none =>
        rw [hl] at hne
        exact absurd rfl hne
      | some mountID => exact ⟨mountID, rfl⟩
    rw [hlk, getD_some] at hne ⊢
    -- the only mount id that could make the share one of the connection's own
    have hthis : ∀ {id}, OwnedShare machine roots row bootID mountIDs w.state.fs
        ⟨sambaMountPoint row.host directory, row.host, directory, id⟩ → id = mountID := fun hown =>
      some.inj (hown.2.1.symm.trans hlk)
    refine .seq (consult_ends hcm (fun matched hcm hmatd => ?_) fun err herr =>
      ⟨rfl, fun hc hpasses => ?_⟩)
    swap
    · have herr := herr (.inr hc)
      rcases hpasses with hnil | ⟨id, hown⟩
      · have hok : validatedMount (sambaMountPoint row.host directory) row.host directory mountID
            w.state.fs.table = .ok false :=
          validatedMount_ok.mpr ⟨hho, hdir, validateSambaMountEntries_false.mpr hnil⟩
        cases herr.symm.trans hok
      · obtain rfl := hthis hown
        have hok := validatedMount_ok.mpr ⟨hho, hdir,
          validateSambaMountEntries_true.mpr hown.2.2.2.entry⟩
        cases herr.symm.trans hok
    obtain ⟨-, -, hes⟩ := validatedMount_ok.mp hmatd
    cases matched with
    | false =>
      exact .pure ⟨rfl, hcm, .inl ⟨rfl, validateSambaMountEntries_false.mp hes⟩⟩
    | true =>
      have hent := validateSambaMountEntries_true.mp hes
      have hmtd : entriesAt w.state.fs.table (sambaMountPoint row.host directory) ≠ [] := by
        obtain ⟨entry, hent, -⟩ := hent
        rw [hent]
        exact cons_ne_nil _ _
      have hfls : (∀ opened, openedDirectory machine roots (sambaMountPoint row.host directory) w.state.fs
            = .ok opened → opened.mount.toNat ≠ mountID) →
          ¬ Passes machine roots row bootID mountIDs w.state.fs directory := by
        rintro hno (hnil | ⟨id, hown⟩)
        · exact hmtd hnil
        · obtain rfl := hthis hown
          obtain ⟨opened, hopd, hid⟩ := hown.2.2.2.descriptor
          exact hno opened hopd hid
      refine .seq (consult_ends hcm (fun opened hcm hopd => ?_) fun err herr =>
        ⟨rfl, fun hc => hfls fun opened hopd => ?_⟩)
      swap
      · cases (herr (.inr hc)).symm.trans hopd
      refine .bind (orClose_ends 1 ((checkDescriptor_ends hcm opened _ _).impError ?_)) ?_
      · rintro err ⟨state, faults⟩ ⟨rfl, hmism⟩ _ _
        refine ⟨rfl, fun hc => hfls fun other hoth => ?_⟩
        obtain rfl := Except.ok.inj (hopd.symm.trans hoth)
        exact hmism hc hclo
      rintro _ ⟨state, faults⟩ ⟨rfl, hcm, hid⟩
      refine .seq (closeFile_ends hcm (fun hcm => ?_) fun err hnot => ⟨rfl, fun hc => absurd hc hnot⟩)
      refine .pure ⟨rfl, hcm, .inr ⟨mountID, rfl, not_not.mp hbt, hlk, hne, hent, ?_⟩⟩
      exact ⟨opened, hopd, hid⟩

/-- What a first pass has found. -/
structure Found (machine : Machine) (roots : ManagedRoots) (row : ConnectionRow) (bootID : Bytes)
    (mountIDs : NameTable Bytes Nat) (fs : MountedTree) (directories : List Bytes)
    (owned : List SambaMountedPath) : Prop where
  covered : ∀ directory ∈ directories, entriesAt fs.table (sambaMountPoint row.host directory) = [] ∨
    ∃ mounted ∈ owned, mounted.directory = directory
  placed : ∀ mounted ∈ owned, Placed row.host mounted
  shares : ∀ mounted ∈ owned, OwnedShare machine roots row bootID mountIDs fs mounted
  listed : (owned.map (·.directory)).Sublist directories

lemma firstPass_ends {base : ManagedLocation} (hclo : roots.closed = false)
    (hho : validatePathComponent row.host)
    (hba : roots.matchPath (hostPath row.host) = .ok base) :
    ∀ {directories : List Bytes} {w : Faulty ConnectionWorld}, (calm → w.Quiet) →
      (∀ directory ∈ directories, validateSambaDirectory directory = .ok ()) →
      (firstPass machine roots row base.canonical bootID mountIDs directories).Ends w
        (fun owned t => t.state = w.state ∧ (calm → t.Quiet) ∧
          Found machine roots row bootID mountIDs w.state.fs directories owned)
        (fun _ t => t.state = w.state ∧ (calm →
          ¬ ∀ directory ∈ directories, Passes machine roots row bootID mountIDs w.state.fs directory))
  | [], w, hcm, _ => by
    refine .pure ⟨rfl, hcm, ⟨fun _ h => absurd h not_mem_nil, fun _ h => absurd h not_mem_nil,
      fun _ h => absurd h not_mem_nil, List.Sublist.slnil⟩⟩
  | directory :: directories, w, hcm, hv => by
    have hdir := hv directory (.head _)
    have hcp := (validateSambaDirectoryName_ok hdir).1
    refine .seq (.onError (.ofExcept (fun child hch => ?_) fun err herr => ⟨rfl, fun _ => ?_⟩))
    swap
    · obtain ⟨child, hch⟩ := matchChild_ok hclo hho hba hdir
      cases herr.symm.trans hch
    rw [matchChild_share hho hba hcp hch]
    refine .bind (.onError ((checkShare_ends hcm hclo hho hdir).impError ?_)) ?_
    · rintro err t ⟨hsta, hnot⟩
      exact ⟨hsta, fun hc hall => hnot hc (hall directory (.head _))⟩
    rintro found ⟨state, faults⟩ ⟨rfl, hcm, hfnd⟩
    refine .bind ((firstPass_ends hclo hho hba hcm fun d hd =>
      hv d (.tail _ hd)).impError ?_) ?_
    · rintro err t ⟨hsta, hnot⟩
      exact ⟨hsta, fun hc hall => hnot hc fun d hd => hall d (.tail _ hd)⟩
    rintro owned t ⟨hsta, hcm, hlater⟩
    refine .pure ⟨hsta, hcm, ?_⟩
    rcases hfnd with ⟨rfl, hnil⟩ | ⟨mid, rfl, hown⟩
    · refine ⟨fun d hd => ?_, hlater.placed, hlater.shares, hlater.listed.cons _⟩
      rcases mem_cons.mp hd with rfl | hd
      · exact .inl hnil
      · exact hlater.covered d hd
    · refine ⟨fun d hd => ?_, fun m hm => ?_, fun m hm => ?_, hlater.listed.cons_cons _⟩
      · rcases mem_cons.mp hd with rfl | hd
        · exact .inr ⟨_, (.head _), rfl⟩
        · exact (hlater.covered d hd).imp id fun ⟨m, hm, heq⟩ => ⟨m, .tail _ hm, heq⟩
      · rcases mem_cons.mp hm with rfl | hm
        · exact ⟨hho, rfl, rfl, hdir⟩
        · exact hlater.placed m hm
      · rcases mem_cons.mp hm with rfl | hm
        · exact hown
        · exact hlater.shares m hm

end

/-! ## 6. Both passes -/

section

variable {calm : Prop} {machine : Machine} {w : Faulty ConnectionWorld} {row : ConnectionRow}
variable {roots : ManagedRoots}

/-- The host's directory is not a mount point, or is not there. -/
def HostUnmounted (machine : Machine) (roots : ManagedRoots) (path : Bytes) (fs : MountedTree) : Prop :=
  mountBoundary machine roots path fs = .ok false ∨
    ∃ err, mountBoundary machine roots path fs = .error err ∧ notExist err

/-- What a request that nothing interferes with needs: the settings of the machine, the row and the
table of connections in order, the host's directory not mounted, and on every share's directory nothing,
or the connection's own mount in sight. -/
structure Ready (machine : Machine) (roots : ManagedRoots) (base : ManagedLocation) (bootID : Bytes)
    (mountIDs : NameTable Bytes Nat) (row : ConnectionRow) (directories : List Bytes)
    (world : ConnectionWorld) : Prop where
  pinned : machine.roots = some roots
  usable : roots.closed = false
  located : roots.matchPath (hostPath row.host) = .ok base
  mountPoint : row.mountPoint = base.canonical
  booted : bootIDOf world.bootFile = .ok bootID
  identities : parseSambaMountIDs machine.text row.mountIDs 64 = .ok mountIDs
  unsealed : world.db.verifyLegacyConnectionMutationState = .ok ()
  host : HostUnmounted machine roots base.canonical world.fs
  shares : ∀ directory ∈ directories,
    entriesAt world.fs.table (sambaMountPoint row.host directory) = [] ∨
      ∃ mountID, OwnedShare machine roots row bootID mountIDs world.fs
          ⟨sambaMountPoint row.host directory, row.host, directory, mountID⟩ ∧
        SeenFromParent machine roots world.fs
          ⟨sambaMountPoint row.host directory, row.host, directory, mountID⟩

/-- The preconditions of a request. -/
def Removable (machine : Machine) (row : ConnectionRow) (directories : List Bytes)
    (world : ConnectionWorld) : Prop :=
  ∃ roots base bootID mountIDs, Ready machine roots base bootID mountIDs row directories world

variable {directories : List Bytes}

lemma Removable.ready {base : ManagedLocation} {bootID : Bytes} {mountIDs : NameTable Bytes Nat}
    {s : ConnectionWorld} (h : Removable machine row directories s)
    (hrts : machine.roots = some roots) (hba : roots.matchPath (hostPath row.host) = .ok base)
    (hbt : bootIDOf s.bootFile = .ok bootID)
    (hids : parseSambaMountIDs machine.text row.mountIDs 64 = .ok mountIDs) :
    Ready machine roots base bootID mountIDs row directories s := by
  obtain ⟨roots', base', bootID', mountIDs', hrdy⟩ := h
  obtain rfl := some.inj (hrdy.pinned.symm.trans hrts)
  obtain rfl := Except.ok.inj (hrdy.located.symm.trans hba)
  obtain rfl := Except.ok.inj (hrdy.booted.symm.trans hbt)
  obtain rfl := Except.ok.inj (hrdy.identities.symm.trans hids)
  exact hrdy

/-- The world after a request, up to the row: it is as before, or the first pass has gone through and
the second one has come some way. -/
def Attempted (machine : Machine) (row : ConnectionRow) (directories : List Bytes)
    (faults : List (Option Failure)) (world t : ConnectionWorld) : Prop :=
  t = world ∨ ∃ roots base bootID mountIDs owned, machine.roots = some roots ∧
    roots.matchPath (hostPath row.host) = .ok base ∧ bootIDOf world.bootFile = .ok bootID ∧
    parseSambaMountIDs machine.text row.mountIDs 64 = .ok mountIDs ∧
    (firstPass machine roots row base.canonical bootID mountIDs directories ⟨world, faults⟩).1 = .ok owned ∧
    Found machine roots row bootID mountIDs world.fs directories owned ∧
    Progress machine roots owned world t

/-- Where the second pass is through, nothing of the connection is mounted. -/
lemma Found.clear {bootID : Bytes} {mountIDs : NameTable Bytes Nat} {s t : ConnectionWorld}
    {owned : List SambaMountedPath}
    (h : Found machine roots row bootID mountIDs s.fs directories owned)
    (hpg : Progress machine roots owned s t)
    (hgn : ∀ mounted ∈ owned, entriesAt t.fs.table mounted.path = []) :
    ∀ directory ∈ directories, entriesAt t.fs.table (sambaMountPoint row.host directory) = [] := by
  intro directory hdir
  rcases h.covered directory hdir with hnil | ⟨mounted, hmem, rfl⟩
  · exact hpg.clear hnil
  · exact (h.placed mounted hmem).path ▸ hgn mounted hmem

lemma boundaryAt_ends (hcm : calm → w.Quiet) (path : Bytes) : (boundaryAt machine roots path).Ends w
      (fun mounted t => t = w.later ∧ (calm → t.Quiet) ∧
        (mounted → calm → ¬ HostUnmounted machine roots path w.state.fs))
      (fun _ t => t.state = w.state ∧ (calm → ¬ HostUnmounted machine roots path w.state.fs)) := by
  refine .seq (.attempt (consult_ends hcm (fun mounted hcm hmtd => ?_) fun err herr => ?_))
  · refine .pure ⟨rfl, hcm, ?_⟩
    rintro rfl - (hf | ⟨err, herr, -⟩)
    · cases hmtd.symm.trans hf
    · cases hmtd.symm.trans herr
  · by_cases habs : notExist err
    · simp only [habs, if_true]
      exact .pure ⟨rfl, calm_tail hcm _, fun h => by cases h⟩
    · simp only [habs]
      refine .fail ⟨rfl, fun hc hunm => ?_⟩
      rcases hunm with hf | ⟨err', herr', habs'⟩
      · cases (herr (.inr hc)).symm.trans hf
      · obtain rfl := Except.error.inj ((herr (.inr hc)).symm.trans herr')
        exact habs habs'

variable {key : Nat}

lemma deleteConnection_ok {db : ConnectionTable} (h : (db.deleteConnection key).1 = .ok ()) :
    (db.deleteConnection key).2 = { db with rows := db.rows.erase key } := by
  unfold ConnectionTable.deleteConnection at h ⊢
  split
  · rfl
  · split at h <;> simp_all

lemma deleteConnection_error {db : ConnectionTable} {err : OpError}
    (h : (db.deleteConnection key).1 = .error err) : (db.deleteConnection key).2 = db := by
  unfold ConnectionTable.deleteConnection at h ⊢
  split
  · split at h <;> simp_all
  · rfl

lemma deleteOwned_ends {base : ManagedLocation}
    (hcm : calm → w.Quiet) (hrts : machine.roots = some roots)
    (hho : validatePathComponent row.host)
    (hba : roots.matchPath (hostPath row.host) = .ok base) (hnd : directories.Nodup)
    (hv : ∀ directory ∈ directories, validateSambaDirectory directory = .ok ())
    (hstd : w.state.db.rows.lookup key = some row) :
    (deleteOwned machine roots key row base.canonical directories).Ends w
      (fun _ t => ∃ mid, Attempted machine row directories (w.faults.drop 2) w.state mid ∧
        (∀ directory ∈ directories, entriesAt mid.fs.table (sambaMountPoint row.host directory) = []) ∧
        t.state = { mid with db := { mid.db with rows := mid.db.rows.erase key } })
      (fun _ t => Attempted machine row directories (w.faults.drop 2) w.state t.state ∧
        (calm → ¬ Removable machine row directories w.state)) := by
  refine .seq (.onError (consult_ends hcm (fun bootID hcm hbt => ?_) fun err herr =>
    ⟨.inl rfl, fun hc hrdy => ?_⟩))
  swap
  · obtain ⟨_, _, _, _, hrdy⟩ := hrdy
    cases (herr (.inr hc)).symm.trans hrdy.booted
  refine .seq (.onError (.ofExcept (fun mountIDs hids => ?_) fun err herr =>
    ⟨.inl rfl, fun hc hrdy => ?_⟩))
  swap
  · obtain ⟨_, _, _, _, hrdy⟩ := hrdy
    cases herr.symm.trans hrdy.identities
  have hrdy : Removable machine row directories w.state →
      Ready machine roots base bootID mountIDs row directories w.state :=
    fun h => h.ready hrts hba hbt hids
  refine .seq (.onError (.guard (fun hclo => ⟨.inl rfl, fun hc h => ?_⟩) fun hclo => ?_))
  · cases hclo.symm.trans (hrdy h).usable
  have hclo := Bool.eq_false_of_not_eq_true hclo
  refine .bind (.onError ((boundaryAt_ends hcm _).impError ?_)) ?_
  · rintro err t ⟨hsta, hnot⟩
    exact ⟨.inl hsta, fun hc h => hnot hc (hrdy h).host⟩
  rintro mounted _ ⟨rfl, hcm, hmtd⟩
  refine .seq (.guard (fun htrue => ⟨.inl rfl, fun hc h => ?_⟩) fun _ => ?_)
  · exact hmtd htrue hc (hrdy h).host
  have hrun : (firstPass machine roots row base.canonical bootID mountIDs directories).Ends
      ⟨w.state, w.faults.tail.tail⟩ (fun owned _ => (firstPass machine roots row base.canonical bootID
        mountIDs directories ⟨w.state, w.faults.tail.tail⟩).1 = .ok owned) (fun _ _ => True) :=
    ⟨fun _ h => h, fun _ _ => trivial⟩
  refine .bind (((firstPass_ends hclo hho hba hcm hv).and hrun).impError ?_) ?_
  · rintro refusal t ⟨⟨hsta, hnot⟩, -⟩
    refine ⟨.inl hsta, fun hc h => hnot hc fun directory hdir => ?_⟩
    exact ((hrdy h).shares directory hdir).imp id fun ⟨mountID, hown, _⟩ => ⟨mountID, hown⟩
  rintro owned ⟨state, faults⟩ ⟨⟨rfl, hcm, hfnd⟩, hrun⟩
  have hdr : w.faults.drop 2 = w.faults.tail.tail := by
    rw [← drop_one, ← drop_one, drop_drop]
  have hattd : ∀ {t}, Progress machine roots owned w.state t →
      Attempted machine row directories (w.faults.drop 2) w.state t := fun hpg =>
    .inr ⟨roots, base, bootID, mountIDs, owned, hrts, hba, hbt, hids, hdr ▸ hrun, hfnd, hpg⟩
  refine .bind ((secondPass_ends hclo hcm hfnd.placed (hfnd.listed.nodup hnd)).impError ?_) ?_
  · rintro refusal t ⟨hpg, hnot⟩
    refine ⟨hattd hpg, fun hc h => ?_⟩
    refine hnot hc (fun mounted hmem => (hfnd.shares mounted hmem).2.2.2) fun mounted hmem => ?_
    have hplc := hfnd.placed mounted hmem
    have hdir := hfnd.listed.subset (List.mem_map_of_mem hmem)
    have hown := hfnd.shares mounted hmem
    obtain ⟨path, host, directory, mountID⟩ := mounted
    obtain rfl : host = row.host := hplc.host_eq
    obtain rfl : path = sambaMountPoint row.host directory := hplc.path
    rcases (hrdy h).shares directory hdir with hnil | ⟨other, hoth, hse⟩
    · obtain ⟨entry, hent, -⟩ := hown.2.2.2.entry
      cases hent.symm.trans hnil
    · obtain rfl : other = mountID := some.inj (hoth.2.1.symm.trans hown.2.1)
      exact hse
  rintro _ ⟨state, faults⟩ ⟨hpg, hcm, hgn⟩
  refine .onError (mutate_ends hcm (fun _ _ hok => ⟨state, hattd hpg,
    hfnd.clear hpg hgn, ?_⟩) (fun err herr => deleteConnection_error herr) fun err herr =>
      ⟨hattd hpg, fun hc h => ?_⟩)
  · exact congrArg (fun db => { state with db := db }) (deleteConnection_ok hok)
  · have hok : (state.db.deleteConnection key).1 = .ok () := by
      rw [hpg.db, ConnectionTable.deleteConnection, (hrdy h).unsealed, hstd]
    cases (herr hc).symm.trans hok

lemma deleteSambaConnections_ends {id : Bytes} {parsed : PersistedConnection}
    (hcm : calm → w.Quiet) (hkey : machine.sqlKey id = some key)
    (hstd : w.state.db.rows.lookup key = some row) (hown : row.bootID ≠ [])
    (hprsd : row.parse = .ok parsed) (hflds : validateRowFields row parsed = .ok ()) :
    (deleteSambaConnections machine id).Ends w
      (fun _ t => ∃ mid, Attempted machine row parsed.directories (w.faults.drop 3) w.state mid ∧
        (∀ directory ∈ parsed.directories,
          entriesAt mid.fs.table (sambaMountPoint row.host directory) = []) ∧
        t.state = { mid with db := { mid.db with rows := mid.db.rows.erase key } })
      (fun _ t => Attempted machine row parsed.directories (w.faults.drop 3) w.state t.state ∧
        (calm → ¬ Removable machine row parsed.directories w.state)) := by
  obtain ⟨-, -, hsub, hnd, hv, hleg, -⟩ := parsePersistedSambaConnection_ok hprsd
  have hnew : parsed.legacy = false := hleg.trans (decide_eq_false hown)
  have hho := validateRowFields_host hflds
  have hfnd : (machine.sqlKey id).bind (fun key => (w.state.db.rows.lookup key).map fun row => (key, row))
      = some (key, row) := by
    rw [hkey, bind_some, hstd, map_some]
  refine .seq (.onError (consult_ends hcm (fun found hcm hans => ?_) fun err herr =>
    ⟨.inl rfl, fun hc => by cases herr (.inr hc)⟩))
  obtain rfl := (Except.ok.inj hans).symm.trans hfnd
  refine .seq (.onError (.ofExcept (fun parsed' hprsd' => ?_) fun err herr => ?_))
  swap
  · cases herr.symm.trans hprsd
  obtain rfl := Except.ok.inj (hprsd.symm.trans hprsd')
  refine .seq (.onError (.ofExcept (fun _ _ => ?_) fun err herr => ?_))
  swap
  · cases herr.symm.trans hflds
  unfold managementFileRoots
  split
  next hno =>
    refine .seq (.fail ⟨.inl rfl, fun _ hrdy => ?_⟩)
    obtain ⟨_, _, _, _, hrdy⟩ := hrdy
    cases hno.symm.trans hrdy.pinned
  rename_i roots hrts
  refine .seq (.pure ?_)
  refine .seq (.onError (.ofExcept (fun base hba => ?_) fun err herr => ⟨.inl rfl, fun _ hrdy => ?_⟩))
  swap
  · obtain ⟨_, _, _, _, hrdy⟩ := hrdy
    obtain rfl := some.inj (hrdy.pinned.symm.trans hrts)
    cases herr.symm.trans hrdy.located
  refine .seq (.guard (fun hne => ⟨.inl rfl, fun _ hrdy => ?_⟩) fun _ => ?_)
  · obtain ⟨_, _, _, _, hrdy⟩ := hrdy
    obtain rfl := some.inj (hrdy.pinned.symm.trans hrts)
    obtain rfl := Except.ok.inj (hrdy.located.symm.trans hba)
    exact hne hrdy.mountPoint
  simp only [hnew]
  have hdr : w.faults.drop 3 = w.faults.tail.drop 2 := by
    rw [← drop_one, drop_drop]
  rw [hdr]
  exact deleteOwned_ends hcm hrts hho hba (hsub.nodup hnd) hv hstd

section

variable {dirs : List Bytes} {faults : List (Option Failure)} {s t : ConnectionWorld}
variable (h : Attempted machine row dirs faults s t)
include h

lemma Attempted.db : t.db = s.db := by
  rcases h with rfl | ⟨_, _, _, _, _, -, -, -, -, -, -, hpg⟩
  · rfl
  · exact hpg.db

/-- No request is made before the first pass is through. -/
lemma Attempted.surveyed {roots : ManagedRoots} {base : ManagedLocation} {bootID : Bytes}
    {mountIDs : NameTable Bytes Nat} {refusal : Refusal} (hrts : machine.roots = some roots)
    (hba : roots.matchPath (hostPath row.host) = .ok base)
    (hbt : bootIDOf s.bootFile = .ok bootID)
    (hids : parseSambaMountIDs machine.text row.mountIDs 64 = .ok mountIDs)
    (hfa : (firstPass machine roots row base.canonical bootID mountIDs dirs ⟨s, faults⟩).1 = .error refusal) :
    t.requests = s.requests := by
  rcases h with rfl | ⟨roots', base', bootID', mountIDs', owned, hrts', hba', hbt', hids', hrun, -, -⟩
  · rfl
  obtain rfl := some.inj (hrts.symm.trans hrts')
  obtain rfl := Except.ok.inj (hba.symm.trans hba')
  obtain rfl := Except.ok.inj (hbt.symm.trans hbt')
  obtain rfl := Except.ok.inj (hids.symm.trans hids')
  cases hrun.symm.trans hfa

lemma Attempted.requests :
    ∃ more, t.requests = s.requests ++ more ∧ ∀ request ∈ more, request.kind = .unmount ∧
      ∃ directory ∈ dirs, ∃ roots mountIDs mid entry opened,
        request.path = sambaMountPoint row.host directory ∧
        entriesAt request.before.table request.path = [entry] ∧ entry.fsType = utf8 "cifs" ∧
        entry.source = sambaSource row.host directory ∧ entry.id = ((mid : Nat) : Int) ∧
        machine.roots = some roots ∧
        openedDirectory machine roots request.path request.before = .ok opened ∧
        opened.mount.toNat = mid ∧
        parseSambaMountIDs machine.text row.mountIDs 64 = .ok mountIDs ∧
        mountIDs.lookup directory = some mid ∧ bootIDOf s.bootFile = .ok row.bootID := by
  rcases h with rfl | ⟨roots, base, bootID, mountIDs, owned, hrts, -, hbt, hids, -, hfnd, hpg⟩
  · exact ⟨[], (append_nil _).symm, fun _ h => absurd h not_mem_nil⟩
  obtain ⟨more, hmore, hall⟩ := hpg.requests
  refine ⟨more, hmore, fun request hreq => ?_⟩
  obtain ⟨hkind, mounted, hmem, hpa, hown⟩ := hall request hreq
  obtain ⟨entry, hent, hmnt, hid⟩ := hown.entry
  obtain ⟨opened, hopd, hdesc⟩ := hown.descriptor
  have hplc := hfnd.placed mounted hmem
  obtain ⟨hsm, hlk, -, -⟩ := hfnd.shares mounted hmem
  refine ⟨hkind, mounted.directory, hfnd.listed.subset (List.mem_map_of_mem hmem), roots, mountIDs,
    mounted.mountID, entry, opened, hpa.trans hplc.path, hpa ▸ hent, hmnt.fsType,
    hplc.host_eq ▸ hmnt.source, ?_, hrts, hpa ▸ hopd, hdesc, hids, hlk, hsm ▸ hbt⟩
  have := hmnt.positive
  omega

/-- **A request that failed leaves the preconditions as they were.** -/
theorem Attempted.removable (hho : validatePathComponent row.host)
    (hv : ∀ directory ∈ dirs, validateSambaDirectory directory = .ok ())
    (hrem : Removable machine row dirs s) : Removable machine row dirs t := by
  rcases h with rfl | ⟨roots, base, bootID, mountIDs, owned, hrts, hba, hbt, hids, -, hfnd, hpg⟩
  · exact hrem
  have hrdy := hrem.ready hrts hba hbt hids
  refine ⟨roots, base, bootID, mountIDs, hrts, hrdy.usable, hba, hrdy.mountPoint,
    hpg.bootFile ▸ hbt, hids, hpg.db ▸ hrdy.unsealed, ?_, fun directory hdir => ?_⟩
  · have hbdry : mountBoundary machine roots base.canonical t.fs
        = mountBoundary machine roots base.canonical s.fs := by
      rw [(matchPath_hostPath hho hrdy.located).1]
      exact mountBoundary_congr (cons_ne_nil _ _) (host_names hho)
        fun front hfro _ => hpg.agreeAt_host hho hfnd.placed hfro
    have hunm := hrdy.host
    unfold HostUnmounted at hunm ⊢
    rwa [hbdry]
  · rcases hrdy.shares directory hdir with hnil | ⟨mid, hshare, hse⟩
    · exact .inl (hpg.clear hnil)
    · obtain ⟨hsm, hlk, hne, hmnt⟩ := hshare
      obtain ⟨entry, hent, -⟩ := hmnt.entry
      have hsub : (entriesAt t.fs.table (sambaMountPoint row.host directory)).Sublist
          (entriesAt s.fs.table (sambaMountPoint row.host directory)) := hpg.fewer.filter _
      rw [hent] at hsub
      rcases sublist_singleton.mp hsub with hgn | hsts
      · exact .inl hgn
      · have hplc : Placed row.host ⟨sambaMountPoint row.host directory, row.host, directory, mid⟩ :=
          ⟨hho, rfl, rfl, hv directory hdir⟩
        have hiff := hpg.ownedMount_iff hplc hfnd.placed (hsts.trans hent.symm)
        exact .inr ⟨mid, ⟨hsm, hlk, hne, hiff.1.mpr hmnt⟩, hiff.2.mpr hse⟩

end

end

/-! ## 7. The main theorem -/

/-- What a request to delete the row `key` does, whatever fails. -/
structure SafeDelete (machine : Machine) (id : Bytes) (key : Nat) (row : ConnectionRow)
    (parsed : PersistedConnection) (w : Faulty ConnectionWorld) : Prop where
  /-- The row goes only when nothing is mounted on any of its shares' directories. -/
  removed : (deleteSambaConnections machine id w).2.state.db.rows.lookup key = none →
    ∀ directory ∈ parsed.directories, ∀ entry ∈ (deleteSambaConnections machine id w).2.state.fs.table,
      entry.mountpoint ≠ sambaMountPoint row.host directory
  /-- Nothing is mounted, and a mount that is to be unmounted is the only one at its path, a CIFS mount
  of the share, with the id in the table and on a descriptor that was stored in this boot. -/
  unmounted : ∃ more, (deleteSambaConnections machine id w).2.state.requests = w.state.requests ++ more ∧
    ∀ request ∈ more, request.kind = .unmount ∧
      ∃ directory ∈ parsed.directories, ∃ roots mountIDs mountID entry opened,
        request.path = sambaMountPoint row.host directory ∧
        entriesAt request.before.table request.path = [entry] ∧ entry.fsType = utf8 "cifs" ∧
        entry.source = sambaSource row.host directory ∧ entry.id = ((mountID : Nat) : Int) ∧
        machine.roots = some roots ∧
        openedDirectory machine roots request.path request.before = .ok opened ∧
        opened.mount.toNat = mountID ∧
        parseSambaMountIDs machine.text row.mountIDs 64 = .ok mountIDs ∧
        mountIDs.lookup directory = some mountID ∧ bootIDOf w.state.bootFile = .ok row.bootID
  /-- If the first pass fails, nothing is unmounted. Three calls come before it. -/
  surveyed : ∀ roots base bootID mountIDs refusal, machine.roots = some roots →
    roots.matchPath (hostPath row.host) = .ok base → bootIDOf w.state.bootFile = .ok bootID →
    parseSambaMountIDs machine.text row.mountIDs 64 = .ok mountIDs →
    (firstPass machine roots row base.canonical bootID mountIDs parsed.directories
      ⟨w.state, w.faults.drop 3⟩).1 = .error refusal →
    (deleteSambaConnections machine id w).2.state.requests = w.state.requests
  /-- After a failure the row is still there, and so are the preconditions. -/
  kept : ∀ refusal, (deleteSambaConnections machine id w).1 = .error refusal →
    (deleteSambaConnections machine id w).2.state.db.rows.lookup key = some row ∧
      (Removable machine row parsed.directories w.state →
        Removable machine row parsed.directories (deleteSambaConnections machine id w).2.state)
  /-- With the preconditions, and if nothing fails, the row goes. -/
  retried : w.Quiet → Removable machine row parsed.directories w.state →
    (deleteSambaConnections machine id w).1 = .ok () ∧
      (deleteSambaConnections machine id w).2.state.db.rows.lookup key = none

/-- **Deleting a connection strands no mount and steals none**, and can be tried again. -/
theorem samba_delete_safe (machine : Machine) (id : Bytes) (key : Nat) (row : ConnectionRow)
    (parsed : PersistedConnection) (w : Faulty ConnectionWorld) (hkey : machine.sqlKey id = some key)
    (hstored : w.state.db.rows.lookup key = some row) (howned : row.bootID ≠ [])
    (hparsed : row.parse = .ok parsed) (hfields : validateRowFields row parsed = .ok ()) :
    SafeDelete machine id key row parsed w := by
  obtain ⟨-, -, -, -, hvalid, -, -⟩ := parsePersistedSambaConnection_ok hparsed
  have hhost := validateRowFields_host hfields
  have hends : (deleteSambaConnections machine id).Ends w _ _ :=
    deleteSambaConnections_ends (fun h : w.Quiet => h) hkey hstored howned hparsed hfields
  rcases hends.cases with ⟨_, t, hrun, mid, hmid, hclear, hstate⟩ | ⟨refusal, t, hrun, hmid, hnot⟩
  · have hrequests : t.state.requests = mid.requests := by rw [hstate]
    have hdb : t.state.db.rows.lookup key = none := by
      rw [hstate]
      exact AList.lookup_erase key mid.db.rows
    constructor
    · intro _ directory hdirectory entry hentry
      rw [hrun, hstate] at hentry
      exact entriesAt_eq_nil.mp (hclear directory hdirectory) entry hentry
    · rw [hrun, hrequests]
      exact hmid.requests
    · intro roots base bootID mountIDs refusal hroots hbase hboot hids hfailed
      rw [hrun, hrequests]
      exact hmid.surveyed hroots hbase hboot hids hfailed
    · intro refusal herror
      rw [hrun] at herror
      cases herror
    · intro _ _
      rw [hrun]
      exact ⟨rfl, hdb⟩
  · have hrow : t.state.db.rows.lookup key = some row := hmid.db ▸ hstored
    constructor
    · intro hgone
      rw [hrun] at hgone
      cases hgone.symm.trans hrow
    · rw [hrun]
      exact hmid.requests
    · intro roots base bootID mountIDs refusal hroots hbase hboot hids hfailed
      rw [hrun]
      exact hmid.surveyed hroots hbase hboot hids hfailed
    · intro _ _
      rw [hrun]
      exact ⟨hrow, hmid.removable hhost hvalid⟩
    · intro hquiet hremovable
      exact absurd hremovable (hnot hquiet)

/-! ### An instance -/

/-- Ids that only grow. -/
def nextIDs : MountIDs where
  next table := (((table.map (·.id.toNat)).foldr max 0 + 1 : Nat) : Int)
  positive table := by omega
  fresh table entry hentry := by
    have hle : entry.id.toNat ≤ (table.map (·.id.toNat)).foldr max 0 :=
      List.le_max_of_le (List.mem_map_of_mem hentry) (le_refl _)
    omega

def sampleRoots : ManagedRoots where
  closed := false
  roots := [utf8 "/mnt"]
  normalized := by
    intro root hroot
    obtain rfl := List.mem_singleton.mp hroot
    have hmnt : utf8 "/mnt" = absolutePath [utf8 "mnt"] := by decide +kernel
    refine ⟨?_, by decide +kernel⟩
    rw [hmnt]
    refine canonicalAbsoluteManagedPath_absolutePath (List.cons_ne_nil _ _) fun name hname => ?_
    exact List.mem_singleton.mp hname ▸ mnt_component

def sampleMachine : Machine := ⟨some sampleRoots, fun _ => 1, nextIDs, fun _ => some 1, pairText⟩

def sampleBootID : Bytes := utf8 "01234567-89ab-cdef-0123-456789abcdef"

/-- A connection to the share `a` of the host `h`, with mount 2 on its directory. -/
def sampleRow : ConnectionRow :=
  ⟨utf8 "u", utf8 "p", utf8 "h", utf8 "445", utf8 "a", utf8 "/mnt/h", sampleBootID, utf8 "[:2\"a\"]",
    ⟨none, none, .null, 0⟩⟩

def sampleWorld : Faulty ConnectionWorld :=
  let host : Node := .directory [⟨utf8 "a", true⟩]
  let share : Node := .directory []
  let table : List MountEntry := [⟨2, 1, utf8 "/mnt/h/a", utf8 "cifs", utf8 "//h/a"⟩]
  let nodes := fun (mount : Int) (path : Bytes) =>
    if mount ≠ 1 then none
    else if path = utf8 "/mnt/h" then some host
    else if path = utf8 "/mnt/h/a" then some share else none
  ⟨⟨⟨table, nodes, fun _ => []⟩, ⟨(∅ : NameTable Nat ConnectionRow).insert 1 sampleRow, 0⟩, sampleBootID,
    []⟩, []⟩

theorem sampleDelete_safe :
    SafeDelete sampleMachine (utf8 "1") 1 sampleRow ⟨[utf8 "a"], [utf8 "a"], utf8 "445", false⟩ sampleWorld :=
  samba_delete_safe sampleMachine (utf8 "1") 1 sampleRow _ sampleWorld rfl (AList.lookup_insert _)
    (by decide +kernel) (ok_of_toOption (by decide +kernel)) (ok_of_toOption (by decide +kernel))

end ReCasaOS.Samba
