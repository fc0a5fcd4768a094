/-
# The configured roots and the paths below them

`ManagedRoots` (`managed_roots_linux.go`) keeps a descriptor of every configured root. A path is
matched with a root by its spelling (`managed_paths.go`), opened below the root without symbolic
links, and compared with the other roots object by object (`managed_copy_linux.go`).

The file system is one tree, and a descriptor of a directory in it is its path: nothing that is
modelled moves a directory that is open, and no directory is mounted twice. Everything here only
asks. What it is told are the `stat` data and mount ids on the way to its paths, and while those
stay as they are it comes to the same result (`validateManagedDestinationFD_replays`).
-/
import Mathlib.Data.List.DropRight
import ReCasaOS.FileSecurity.ManagedTree
import ReCasaOS.Lib.Result

namespace ReCasaOS.FileSecurity

open Lib List Option Fallible

/-! ## 1. Paths -/

def canonicalAbsoluteManagedPath (value : Bytes) : Except OpError Bytes :=
  if value = [] ∨ containsByte value 0 ∨ value.head? ≠ some 47 then
    .error (.leaf .managedPathOutsideRoots)
  else
    let trimmed := (value.reverse.dropWhile (· == 47)).reverse
    let trimmed := if trimmed = [] then [47] else trimmed
    if clean trimmed ≠ trimmed then .error (.leaf .managedPathOutsideRoots) else .ok trimmed

structure ManagedLocation where
  root : Bytes
  relative : Bytes
  canonical : Bytes
  deriving DecidableEq, Repr

/-- `filepath.Rel` of clean absolute paths, unless it leads upwards. -/
def relativeTo (root canonical : Bytes) : Option Bytes :=
  if canonical = root then some [46]
  else if hasPrefix canonical (root ++ [47]) then some (canonical.drop (root.length + 1))
  else none

/-- The loop of `MatchManagementPath`. -/
def matchRoots (canonical : Bytes) : List Bytes → Except OpError ManagedLocation
  | [] => .error (.leaf .managedPathOutsideRoots)
  | configuredRoot :: roots =>
    match canonicalAbsoluteManagedPath configuredRoot with
    | .error _ => .error (.wrapped "configured root" (.leaf .invalidManagedRoot))
    | .ok root =>
      if root = [47] then .error (.wrapped "configured root" (.leaf .invalidManagedRoot))
      else
        match relativeTo root canonical with
        | none => matchRoots canonical roots
        | some relative => .ok ⟨root, relative, canonical⟩

def matchManagementPath (roots : List Bytes) (absolutePath : Bytes) : Except OpError ManagedLocation :=
  match canonicalAbsoluteManagedPath absolutePath with
  | .error _ => .error (.leaf .managedPathOutsideRoots)
  | .ok canonical => matchRoots canonical roots

/-- The roots as `normalizeManagementFileRoots` leaves them, pinned by `OpenManagementFileRoots`. -/
structure ManagedRoots where
  closed : Bool
  roots : List Bytes
  normalized : ∀ root ∈ roots, canonicalAbsoluteManagedPath root = .ok root ∧ root ≠ [47]

namespace ManagedRoots

variable (m : ManagedRoots)

def matchLocked (absolutePath : Bytes) : Except OpError ManagedLocation :=
  matchManagementPath m.roots absolutePath

/-- `resolveLocked`; the root that it returns is the one that the location names. -/
def resolveLocked (absolutePath : Bytes) : Except OpError ManagedLocation := do
  let location ← m.matchLocked absolutePath
  if location.root ∈ m.roots then .ok location else .error (.leaf .managedPathOutsideRoots)

end ManagedRoots

/-- `ValidateRelativePath`, which returns `ErrUnsafePath` or nil. -/
def validateRelativePath (relative : Bytes) : Bool :=
  let cleaned := clean relative
  !(trimSpace relative == [] || containsByte relative 0 || relative.head? == some 47
    || (splitByte 47 relative).contains [46, 46]
    || cleaned == [46] || cleaned == [46, 46] || hasPrefix cleaned [46, 46, 47])

def matchManagementChild (roots : List Bytes) (base relative : Bytes) :
    Except OpError ManagedLocation := do
  check (validateRelativePath relative = false) (.leaf .unsafePath)
  let baseLocation ← matchManagementPath roots base
  let childRelative := joinPath [baseLocation.relative, clean relative]
  check (validateRelativePath childRelative = false) (.leaf .unsafePath)
  .ok ⟨baseLocation.root, childRelative, joinPath [baseLocation.root, childRelative]⟩

/-- `Match`. -/
def ManagedRoots.matchPath (m : ManagedRoots) (absolutePath : Bytes) : Except OpError ManagedLocation :=
  if m.closed then .error (textError "file already closed") else m.matchLocked absolutePath

def ManagedRoots.matchChild (m : ManagedRoots) (base relative : Bytes) :
    Except OpError ManagedLocation :=
  if m.closed then .error (textError "file already closed")
  else matchManagementChild m.roots base relative

/-- `filepath.Dir` of a clean absolute path. -/
def dirPath (canonical : Bytes) : Bytes := absolutePath (components canonical).dropLast

/-- `filepath.Base` of a clean path. -/
def basePath (path : Bytes) : Bytes := ((components path).getLast?).getD [46]

/-- The directory of a location, as a descriptor. -/
def ManagedLocation.parent (location : ManagedLocation) : List Bytes :=
  components location.root ++ (components location.relative).dropLast

def ManagedLocation.base (location : ManagedLocation) : Bytes := basePath location.relative

section

variable {canonical : Bytes}

/-- A canonical path is absolute and clean, and stays as it is. -/
lemma canonicalAbsoluteManagedPath_ok {value : Bytes}
    (h : canonicalAbsoluteManagedPath value = .ok canonical) :
    canonical.head? = some 47 ∧ clean canonical = canonical ∧
      canonicalAbsoluteManagedPath canonical = .ok canonical := by
  unfold canonicalAbsoluteManagedPath at h
  split at h
  · cases h
  rename_i hvalue
  simp only [not_or, Bool.not_eq_true, containsByte_eq_false, not_not] at hvalue
  obtain ⟨hne, hz, hhd⟩ := hvalue
  have htrim : (value.reverse.dropWhile (· == 47)).reverse = value.rdropWhile (· == 47) := rfl
  rw [htrim] at h
  obtain ⟨rest, hrs⟩ := rdropWhile_prefix (· == (47 : UInt8)) value
  simp only at h
  by_cases hnil : value.rdropWhile (· == 47) = []
  · rw [if_pos hnil] at h
    split at h
    · cases h
    · cases h
      exact ⟨rfl, rfl, rfl⟩
  · rw [if_neg hnil] at h
    split at h
    · cases h
    rename_i hcln
    cases h
    have hhd' : (value.rdropWhile (· == 47)).head? = some 47 := by
      rw [← hrs, head?_append_of_ne_nil _ hnil] at hhd
      exact hhd
    have hz' : (0 : UInt8) ∉ value.rdropWhile (· == 47) := by
      intro hmem
      exact hz (hrs ▸ mem_append_left _ hmem)
    refine ⟨hhd', not_not.mp hcln, ?_⟩
    have htrim' : ((value.rdropWhile (· == 47)).reverse.dropWhile (· == 47)).reverse
        = value.rdropWhile (· == 47) := rdropWhile_idempotent (· == 47) value
    unfold canonicalAbsoluteManagedPath
    rw [if_neg, htrim']
    · simp only [if_neg hnil]
      exact if_neg hcln
    · simp only [not_or, Bool.not_eq_true, containsByte_eq_false, not_not]
      exact ⟨hnil, hz', hhd'⟩

lemma canonicalAbsoluteManagedPath_of_components {names : List Bytes} (hne : names ≠ [])
    (hnms : ∀ name ∈ names, IsComponent name) (hup : [46, 46] ∉ names)
    (hpl : ∀ name ∈ names, 0 ∉ name) :
    canonicalAbsoluteManagedPath (absolutePath names) = .ok (absolutePath names) := by
  have hcps := components_absolutePath hnms
  have hdots : [46, 46] ∉ components (absolutePath names) := by
    rwa [hcps]
  have hcln : clean (absolutePath names) = absolutePath names := by
    have hhd : (absolutePath names).head? = some 47 := rfl
    rw [clean_of_plain hdots, if_pos hhd, hcps]
  obtain ⟨first, last, rfl⟩ := (eq_nil_or_concat' names).resolve_left hne
  have hla := hnms last (mem_append_right _ (mem_singleton_self _))
  -- the path ends with the last name, and that has no slash
  have hends : ∃ front, absolutePath (first ++ [last]) = front ++ last := by
    by_cases hfst : first = []
    · exact ⟨[47], by simp [absolutePath, hfst]⟩
    · refine ⟨47 :: (intercalate [47] first ++ [47]), ?_⟩
      rw [absolutePath, intercalate_append hfst (cons_ne_nil _ _), intercalate_singleton]
      simp
  obtain ⟨front, hfro⟩ := hends
  have htrim : ((absolutePath (first ++ [last])).reverse.dropWhile (· == 47)).reverse
      = absolutePath (first ++ [last]) := by
    refine rdropWhile_eq_self_iff.mpr fun hpa => ?_
    have hmem : (absolutePath (first ++ [last])).getLast hpa ∈ last := by
      simp only [hfro, getLast_append_of_ne_nil _ hla.1]
      exact getLast_mem _
    rw [beq_iff_eq]
    exact fun hsl => hla.2.2 (hsl ▸ hmem)
  have hz : containsByte (absolutePath (first ++ [last])) 0 = false := by
    rw [containsByte_eq_false]
    intro hmem
    rcases mem_cons.mp hmem with hsl | hmem
    · exact absurd hsl (by decide)
    · obtain ⟨name, hnm, hz⟩ := (@mem_splitByte 0 47 _ hmem).resolve_left (by decide)
      rw [splitByte_intercalate hne fun name hnm => (hnms name hnm).2.2] at hnm
      exact hpl name hnm hz
  have hnil : absolutePath (first ++ [last]) ≠ [] := cons_ne_nil _ _
  unfold canonicalAbsoluteManagedPath
  rw [if_neg, htrim]
  · simp only [if_neg hnil, hcln, ne_eq, not_true_eq_false, if_false]
  · rw [hz]
    exact not_or.mpr ⟨hnil, not_or.mpr ⟨Bool.false_ne_true, not_not.mpr rfl⟩⟩

/-- What a location says. -/
structure ManagedLocation.Valid (location : ManagedLocation) (roots : List Bytes) : Prop where
  canonical : canonicalAbsoluteManagedPath location.canonical = .ok location.canonical
  root : ∃ configured ∈ roots, canonicalAbsoluteManagedPath configured = .ok location.root
  proper : location.root ≠ [47]
  relative : relativeTo location.root location.canonical = some location.relative

lemma matchRoots_ok {roots : List Bytes} {location : ManagedLocation}
    (hcan : canonicalAbsoluteManagedPath canonical = .ok canonical)
    (h : matchRoots canonical roots = .ok location) :
    location.canonical = canonical ∧ location.Valid roots := by
  induction roots with
  | nil => cases h
  | cons configured roots ih =>
    unfold matchRoots at h
    split at h
    · cases h
    rename_i root hrt
    split at h
    · cases h
    rename_i hprop
    split at h
    · obtain ⟨heq, hv⟩ := ih h
      obtain ⟨other, hmem, hoth⟩ := hv.root
      exact ⟨heq, hv.canonical, ⟨other, .tail _ hmem, hoth⟩, hv.proper, hv.relative⟩
    next relative hrel =>
      cases h
      exact ⟨rfl, hcan, ⟨configured, (.head _), hrt⟩, hprop, hrel⟩

lemma matchManagementPath_ok {roots : List Bytes} {path : Bytes} {location : ManagedLocation}
    (h : matchManagementPath roots path = .ok location) :
    location.Valid roots ∧ canonicalAbsoluteManagedPath path = .ok location.canonical ∧
      matchManagementPath roots location.canonical = .ok location := by
  unfold matchManagementPath at h
  split at h
  · cases h
  next canonical hcan =>
    obtain ⟨-, -, hsm⟩ := canonicalAbsoluteManagedPath_ok hcan
    obtain ⟨rfl, hv⟩ := matchRoots_ok hsm h
    refine ⟨hv, hcan, ?_⟩
    rw [matchManagementPath, hsm]
    exact h

variable {location : ManagedLocation} {roots : List Bytes}

lemma absolutePath_of_canonical (h : canonicalAbsoluteManagedPath canonical = .ok canonical) :
    canonical = absolutePath (components canonical) :=
  let ⟨hhd, hcln, _⟩ := canonicalAbsoluteManagedPath_ok h
  (absolutePath_components hhd hcln).1

lemma components_ne_nil {root : Bytes} (h : canonicalAbsoluteManagedPath root = .ok root) (hne : root ≠ [47]) :
    components root ≠ [] := by
  intro hnil
  have hrt := absolutePath_of_canonical h
  rw [hnil] at hrt
  exact hne hrt

/-- The components of a location are those of its root and then the relative ones. -/
lemma ManagedLocation.Valid.components_eq (h : location.Valid roots) :
    components location.canonical = components location.root ++ components location.relative := by
  have hrel := h.relative
  unfold relativeTo at hrel
  split at hrel
  next hsm =>
    rw [← some.inj hrel, hsm]
    exact (append_nil _).symm
  · split at hrel
    next hpre =>
      obtain ⟨rest, hrs⟩ := isPrefixOf_iff_prefix.mp hpre
      have hdr : location.relative = rest := by
        rw [← some.inj hrel, ← hrs]
        simp
      have hcan : location.canonical = location.root ++ 47 :: location.relative := by
        rw [hdr, ← hrs, append_assoc, singleton_append]
      conv_lhs => rw [hcan]
      exact components_append _ _
    · cases hrel

/-- The directory and the name that `openManagedParent` comes to. -/
lemma ManagedLocation.Valid.target (h : location.Valid roots)
    (hba : validatePathComponent location.base) :
    location.parent ++ [location.base] = components location.canonical := by
  have hne : components location.relative ≠ [] := by
    intro hnil
    rw [ManagedLocation.base, basePath, hnil] at hba
    exact absurd hba (by decide)
  rw [h.components_eq, ManagedLocation.parent, append_assoc, ManagedLocation.base, basePath,
    getLast?_eq_some_getLast hne, getD_some,
    dropLast_append_getLast]

lemma isComponent_of_validatePathComponent {value : Bytes}
    (h : validatePathComponent value) : IsComponent value ∧ value ≠ [46, 46] :=
  let ⟨hne, hdot, hdots, _, _, hsl⟩ := validatePathComponent_iff.mp h
  ⟨⟨hne, hdot, hsl⟩, hdots⟩

lemma dotdot_notMem_canonical
    (h : canonicalAbsoluteManagedPath canonical = .ok canonical) : [46, 46] ∉ components canonical :=
  let ⟨hhd, hcln, _⟩ := canonicalAbsoluteManagedPath_ok h
  dotdot_notMem_components hhd hcln

lemma ManagedLocation.Valid.root_canonical (h : location.Valid roots) :
    canonicalAbsoluteManagedPath location.root = .ok location.root := by
  obtain ⟨configured, -, hcfgd⟩ := h.root
  exact (canonicalAbsoluteManagedPath_ok hcfgd).2.2

lemma ManagedLocation.Valid.names_ne_nil (h : location.Valid roots) :
    components location.canonical ≠ [] := by
  intro hnil
  rw [h.components_eq, append_eq_nil_iff] at hnil
  exact components_ne_nil h.root_canonical h.proper hnil.1

/-- The child of a location with the name of a single component. -/
lemma matchManagementChild_component {base name : Bytes} {child : ManagedLocation}
    (hba : matchManagementPath roots base = .ok location)
    (hnm : validatePathComponent name)
    (h : matchManagementChild roots base name = .ok child) :
    child.canonical = absolutePath (components location.canonical ++ [name]) := by
  obtain ⟨hcp, hdots⟩ := isComponent_of_validatePathComponent hnm
  obtain ⟨hv, -, -⟩ := matchManagementPath_ok hba
  have hnms := components_of_isComponent hcp
  have hpl : [46, 46] ∉ components name := by
    rw [hnms, mem_singleton]
    exact Ne.symm hdots
  have hcln : clean name = name := by
    have hhd : name.head? ≠ some 47 := fun hhd => hcp.2.2 (mem_of_head? hhd)
    rw [clean_of_plain hpl, if_neg hhd, hnms, if_neg (cons_ne_nil _ _), intercalate_singleton]
  have hrt := dotdot_notMem_canonical hv.root_canonical
  have hrel : [46, 46] ∉ components location.relative := by
    have hcan := dotdot_notMem_canonical hv.canonical
    rw [hv.components_eq] at hcan
    exact fun hmem => hcan (mem_append_right _ hmem)
  simp only [matchManagementChild, hcln, bind_eq_ok, hba, Except.ok.injEq,
    exists_eq_left'] at h
  obtain ⟨_, -, _, -, rfl⟩ := h
  have hch := components_joinPath hrel hpl
  have hch' : [46, 46] ∉ components (joinPath [location.relative, name]) := by
    rw [hch]
    exact fun hmem => (mem_append.mp hmem).elim hrel hpl
  have hhd := (canonicalAbsoluteManagedPath_ok hv.root_canonical).1
  rw [joinPath_rooted hhd hrt hch', hch, hnms, hv.components_eq, append_assoc]

end

/-! ## 2. Descriptors -/

section

/-- What is known about the file at an open path. -/
def fdInfo (path : List Bytes) (tree : ManagedTree) : Except Errno FileData :=
  match (FileTree.get path tree).map FileTree.info with
  | none => .error .ebadf
  | some info => .ok info

def fstat (path : List Bytes) (tree : ManagedTree) : Except Errno FileStat :=
  (fdInfo path tree).map (·.stat)

/-- `unix.Statx(fd, "", AT_EMPTY_PATH, STATX_MNT_ID)`. -/
def statxFd (path : List Bytes) (tree : ManagedTree) : Except Errno (Option Nat) :=
  (fdInfo path tree).map (·.mountID)

/-- `unix.Fstatat(parent, name, AT_SYMLINK_NOFOLLOW)`. -/
def fstatAt (parent : List Bytes) (name : Bytes) (tree : ManagedTree) : Except Errno FileStat :=
  match (FileTree.get (parent ++ [name]) tree).map FileTree.info with
  | none => .error .enoent
  | some info => .ok info.stat

def typeAt (path : List Bytes) (tree : ManagedTree) : Option FileType :=
  ((FileTree.get path tree).map FileTree.info).map (·.stat.type)

/-- `unix.Openat2` of a directory below an open one, without symbolic links. -/
def resolveBeneath (tree : ManagedTree) : (dir rest : List Bytes) → Except Errno Unit
  | _, [] => .ok ()
  | dir, name :: rest =>
    match typeAt (dir ++ [name]) tree with
    | none => .error .enoent
    | some .directory => resolveBeneath tree (dir ++ [name]) rest
    | some .symlink => .error .eloop
    | some _ => .error .enotdir

/-- `openManagedParent`; it returns the directory `location.parent` and the name `location.base`. -/
def openManagedParent (location : ManagedLocation) : Fallible (Faulty ManagedTree) OpError Unit := do
  guard (location.relative = [46]) (unsafeError "configured root cannot be modified")
  guard (validatePathComponent location.base = false) (.leaf .unsafePath)
  openAt fun tree =>
    resolveBeneath tree (components location.root) (components location.relative).dropLast

def managedStatSameObject (first second : FileStat) : Bool :=
  first.dev == second.dev && first.ino == second.ino

/-- The loop of `managedDescriptorIsAncestorOrSame`. -/
def ancestorLoop (ancestorStat : FileStat) :
    (limit : Nat) → (current : List Bytes) → Fallible (Faulty ManagedTree) OpError Bool
  | 0, _ => fail (textError "managed descriptor ancestry exceeds depth limit")
  | limit + 1, current => do
    let currentStat ← ask (fstat current)
    if managedStatSameObject ancestorStat currentStat then pure true
    else do
      ask fun _ : ManagedTree => .ok ()
      let parentStat ← ask (fstat current.dropLast)
      if managedStatSameObject currentStat parentStat then pure false
      else do
        closing
        ancestorLoop ancestorStat limit current.dropLast

def managedDescriptorIsAncestorOrSame (ancestor descendant : List Bytes) :
    Fallible (Faulty ManagedTree) OpError Bool := do
  let ancestorStat ← ask (fstat ancestor)
  if ancestorStat.type ≠ .directory then pure false
  else do
    ask fun _ : ManagedTree => .ok ()
    ancestorLoop ancestorStat 513 descendant

/-- The comparison of `validateManagedDestinationDescriptors` with one configured root. -/
def checkOtherRoot (selectedRoot : Bytes) (destination : List Bytes) (destinationStat : FileStat)
    (destinationMountID selectedMountID : Nat) (other : Bytes) :
    Fallible (Faulty ManagedTree) OpError Unit :=
  -- the selected root contains itself, so the source's test of the index is included
  if pathContains other selectedRoot then pure ()
  else do
    let otherStat ← ask (fstat (components other))
    guard (managedStatSameObject destinationStat otherStat)
      (unsafeError "destination descriptor aliases configured root")
    let insideOther ← managedDescriptorIsAncestorOrSame (components other) destination
    guard (insideOther)
      (unsafeError "destination descriptor resolves below configured root")
    guard (destinationMountID ≠ selectedMountID ∧ destinationStat.dev = otherStat.dev)
      (unsafeError "destination crosses into a possible configured-root bind alias")

/-- A check for every root. -/
def forRoots (check : Bytes → Fallible (Faulty ManagedTree) OpError Unit) :
    List Bytes → Fallible (Faulty ManagedTree) OpError Unit
  | [] => pure ()
  | root :: roots => do
    check root
    forRoots check roots

def validateManagedDestinationFD (m : ManagedRoots) (selectedRoot : Bytes) (destination : List Bytes)
    (location : ManagedLocation) : Fallible (Faulty ManagedTree) OpError Unit := do
  guard (location.root ≠ selectedRoot) (unsafeError "destination root selection changed")
  let withinSelected ← managedDescriptorIsAncestorOrSame (components selectedRoot) destination
  guard (withinSelected = false)
    (unsafeError "destination descriptor is outside its selected configured root")
  let destinationStat ← ask (fstat destination)
  let destinationMountID ← managedMountIDAt (statxFd destination)
  let selectedMountID ← managedMountIDAt (statxFd (components selectedRoot))
  forRoots (checkOtherRoot selectedRoot destination destinationStat destinationMountID selectedMountID)
    m.roots

def rejectConfiguredRootCanonicalAtOrBelow (m : ManagedRoots) (candidate : Bytes) :
    Fallible (Faulty ManagedTree) OpError Unit :=
  guard (∃ root ∈ m.roots, pathContains candidate root)
    (unsafeError "transfer path contains configured root")

/-- The comparison of `rejectConfiguredRootAtOrBelow` with one configured root. -/
def checkRootBelow (candidate : List Bytes) (candidateStat : FileStat) (candidateMountID : Nat)
    (root : Bytes) : Fallible (Faulty ManagedTree) OpError Unit := do
  let rootStat ← ask (fstat (components root))
  guard (managedStatSameObject candidateStat rootStat)
    (unsafeError "transfer descriptor aliases configured root")
  if candidateStat.type ≠ .directory then pure ()
  else do
    let ancestor ← managedDescriptorIsAncestorOrSame candidate (components root)
    guard (ancestor) (unsafeError "transfer descriptor contains configured root")
    let rootMountID ← managedMountIDAt (statxFd (components root))
    guard (candidateStat.dev = rootStat.dev ∧ candidateMountID ≠ rootMountID)
      (.wrapped "a same-device configured root is reachable through a different mount alias"
        (.leaf .unsafeManagedDirectoryTransfer))

def rejectConfiguredRootAtOrBelow (m : ManagedRoots) (candidate : List Bytes) (canonical : Bytes) :
    Fallible (Faulty ManagedTree) OpError Unit := do
  rejectConfiguredRootCanonicalAtOrBelow m canonical
  let candidateStat ← ask (fstat candidate)
  let candidateMountID ← managedMountIDAt (statxFd candidate)
  forRoots (checkRootBelow candidate candidateStat candidateMountID) m.roots

/-- `unix.Openat2` of a file, without symbolic links; a descriptor of a special file may or may not
be had. -/
def openFile (path : List Bytes) (tree : ManagedTree) : Except Errno Unit :=
  match typeAt path tree with
  | none => .error .enoent
  | some .symlink => .error .eloop
  | some _ => .ok ()

def validateManagedOpenedFile (path : List Bytes) (allowDirectory : Bool) :
    Fallible (Faulty ManagedTree) OpError Unit := do
  let stat ← ask (fstat path)
  match stat.type with
  | .regular =>
    guard (stat.nlink ≠ 1) (unsafeError "managed regular file has multiple hard links")
  | .directory =>
    guard (allowDirectory = false) (unsafeError "managed path is not an allowed file type")
  | _ => fail (unsafeError "managed path is not an allowed file type")

/-- `openManagedTransferChild`, of the entry `name` of an open directory. -/
def openManagedTransferChild (parent : List Bytes) (name : Bytes) :
    Fallible (Faulty ManagedTree) OpError Unit := do
  guard (validatePathComponent name = false) (.leaf .unsafePath)
  openAt (openFile (parent ++ [name]))
  validateManagedOpenedFile (parent ++ [name]) true

/-- `sameManagedTransferStat` compares every field that is modelled. -/
def sameManagedTransferStat (before after : FileStat) : Bool := decide (before = after)

def verifyManagedNameIdentity (parent : List Bytes) (name : Bytes) (expected : FileStat) :
    Fallible (Faulty ManagedTree) OpError Unit := do
  let actual ← ask (fstatAt parent name)
  guard (sameManagedTransferStat expected actual = false)
    (unsafeError "managed source name changed during transfer")

end

/-! ## 3. The same answers -/

/-- Two trees that look the same on the way to some paths. -/
def InfoAgree (P : List Bytes → Prop) (tree tree' : ManagedTree) : Prop :=
  ∀ path, P path → (FileTree.get path tree).map FileTree.info = (FileTree.get path tree').map FileTree.info

section

variable {P : List Bytes → Prop} {same : ManagedTree → ManagedTree → Prop}
variable {tree tree' : ManagedTree} {path : List Bytes}

lemma infoAgree_of_eq (tree tree' : ManagedTree) (h : tree = tree') : InfoAgree P tree tree' :=
  fun _ _ => by rw [h]

lemma fdInfo_congr (h : InfoAgree P tree tree') (hp : P path) : fdInfo path tree = fdInfo path tree' := by
  rw [fdInfo, fdInfo, h path hp]

lemma typeAt_congr (h : InfoAgree P tree tree') (hp : P path) : typeAt path tree = typeAt path tree' := by
  rw [typeAt, typeAt, h path hp]

lemma ask_replays {α : Type} {ans : ManagedTree → Except Errno α}
    (h : ∀ t t', same t t' → ans t = ans t') : Replays same (ask ans) :=
  .onError (.query fun t t' ht _ ha => (h t t' ht) ▸ ha)

lemma openAt_replays {α : Type} {ans : ManagedTree → Except Errno α}
    (h : ∀ t t', same t t' → ans t = ans t') : Replays same (openAt ans) :=
  .onError (.query fun t t' ht _ ha => (h t t' ht) ▸ ha)

lemma managedMountIDAt_replays {ans : ManagedTree → Except Errno (Option Nat)}
    (h : ∀ t t', same t t' → ans t = ans t') : Replays same (managedMountIDAt ans) := by
  refine .bind (.onError (.query fun t t' ht a ha => (h t t' ht) ▸ ha)) fun reported => ?_
  cases reported with
  | none => exact .fail _
  | some mountID => exact .pure mountID

section

variable (hsm : ∀ t t', same t t' → InfoAgree P t t')
include hsm

lemma fstat_replays (hp : P path) : Replays same (ask (fstat path)) :=
  ask_replays fun t t' ht => by rw [fstat, fstat, fdInfo_congr (hsm t t' ht) hp]

lemma statxFd_replays (hp : P path) : Replays same (managedMountIDAt (statxFd path)) :=
  managedMountIDAt_replays fun t t' ht => by rw [statxFd, statxFd, fdInfo_congr (hsm t t' ht) hp]

variable (hup : ∀ path, P path → P path.dropLast)
include hup

lemma ancestorLoop_replays (ancestorStat : FileStat) (limit : Nat) : ∀ {cur : List Bytes},
    P cur → Replays same (ancestorLoop ancestorStat limit cur) := by
  induction limit with
  | zero => exact fun _ => .fail _
  | succ limit ih =>
    intro cur hcur
    refine .bind (fstat_replays hsm hcur) fun currentStat => ?_
    split
    · exact .pure _
    refine .bind (ask_replays fun _ _ _ => rfl) fun _ => ?_
    refine .bind (fstat_replays hsm (hup _ hcur)) fun parentStat => ?_
    split
    · exact .pure _
    · exact .bind (ask_replays fun _ _ _ => rfl) fun _ => ih (hup _ hcur)

lemma managedDescriptorIsAncestorOrSame_replays {ancestor descendant : List Bytes} (ha : P ancestor)
    (hd : P descendant) : Replays same (managedDescriptorIsAncestorOrSame ancestor descendant) := by
  refine .bind (fstat_replays hsm ha) fun ancestorStat => ?_
  split
  · exact .pure _
  · exact .bind (ask_replays fun _ _ _ => rfl) fun _ => ancestorLoop_replays hsm hup _ _ hd

omit hsm hup in
lemma forRoots_replays {check : Bytes → Fallible (Faulty ManagedTree) OpError Unit} {roots : List Bytes}
    (h : ∀ root ∈ roots, Replays same (check root)) :
    Replays same (forRoots check roots) := by
  induction roots with
  | nil => exact .pure ()
  | cons root roots ih =>
    exact .bind (h root (.head _)) fun _ => ih fun r hr => h r (.tail _ hr)

lemma validateManagedDestinationFD_replays (m : ManagedRoots) {selectedRoot : Bytes}
    {dst : List Bytes} {location : ManagedLocation}
    (hrts : ∀ root ∈ m.roots, P (components root)) (hsel : P (components selectedRoot))
    (hdst : P dst) :
    Replays same (validateManagedDestinationFD m selectedRoot dst location) := by
  refine .bind .guard fun _ => ?_
  refine .bind (managedDescriptorIsAncestorOrSame_replays hsm hup hsel hdst) fun _ => ?_
  refine .bind .guard fun _ => .bind (fstat_replays hsm hdst) fun _ => ?_
  refine .bind (statxFd_replays hsm hdst) fun _ => ?_
  refine .bind (statxFd_replays hsm hsel) fun _ => forRoots_replays fun root hrt => ?_
  unfold checkOtherRoot
  split
  · exact .pure ()
  refine .bind (fstat_replays hsm (hrts root hrt)) fun _ => .bind .guard fun _ => ?_
  exact .bind (managedDescriptorIsAncestorOrSame_replays hsm hup (hrts root hrt) hdst)
    fun _ => .bind .guard fun _ => .guard

omit hsm hup in
lemma resolveBeneath_congr {dir rest : List Bytes} (h : InfoAgree P tree tree')
    (hpaths : ∀ done, done <+: rest → P (dir ++ done)) :
    resolveBeneath tree dir rest = resolveBeneath tree' dir rest := by
  induction rest generalizing dir with
  | nil => rfl
  | cons name rest ih =>
    have hnx : ∀ done, done <+: rest → P (dir ++ [name] ++ done) := by
      intro done hdn
      rw [append_assoc, singleton_append]
      exact hpaths _ (cons_prefix_cons.mpr ⟨rfl, hdn⟩)
    have hty := typeAt_congr h (hpaths [name] (cons_prefix_cons.mpr ⟨rfl, nil_prefix⟩))
    simp only [resolveBeneath, hty, ih hnx]

omit hup in
lemma openManagedParent_replays {location : ManagedLocation}
    (hpaths : ∀ path, path <+: location.parent → P path) :
    Replays same (openManagedParent location) := by
  refine .bind .guard fun _ => .bind .guard fun _ => openAt_replays fun t t' ht => ?_
  exact resolveBeneath_congr (hsm t t' ht) fun done hdn =>
    hpaths _ ((prefix_append_right_inj _).mpr hdn)

omit hup in
lemma validateManagedOpenedFile_replays (hp : P path) (allowDirectory : Bool) :
    Replays same (validateManagedOpenedFile path allowDirectory) := by
  refine .bind (fstat_replays hsm hp) fun stat => ?_
  split
  · exact .guard
  · exact .guard
  · exact .fail _

omit hup in
lemma openManagedTransferChild_replays {parent : List Bytes} {name : Bytes} (hp : P (parent ++ [name])) :
    Replays same (openManagedTransferChild parent name) := by
  refine .bind .guard fun _ => .bind (openAt_replays fun t t' ht => ?_) fun _ =>
    validateManagedOpenedFile_replays hsm hp true
  rw [openFile, openFile, typeAt_congr (hsm t t' ht) hp]

end

lemma rejectConfiguredRootAtOrBelow_ends (m : ManagedRoots) (cand : List Bytes) (canonical : Bytes)
    (w : Faulty ManagedTree) : (rejectConfiguredRootAtOrBelow m cand canonical).Ends w
      (fun _ w' => w'.state = w.state ∧ ∀ root ∈ m.roots, pathContains canonical root = false)
      (fun _ w' => w'.state = w.state) := by
  refine .seq (.guard (fun _ => rfl) fun hrts => ?_)
  have hbw : ∀ root ∈ m.roots, pathContains canonical root = false := fun root hrt =>
    Bool.eq_false_of_not_eq_true fun h => hrts ⟨root, hrt, h⟩
  have hagree := infoAgree_of_eq (P := fun _ => True)
  refine .seq (ask_ends (fun candidateStat _ => ?_) fun _ _ _ => rfl)
  refine .seq (managedMountIDAt_ends (fun candidateMountID _ => ?_) fun _ _ _ => rfl)
  have hrply : Replays Eq
      (forRoots (checkRootBelow cand candidateStat candidateMountID) m.roots) := by
    refine forRoots_replays fun root _ => .bind (fstat_replays hagree trivial) fun _ =>
      .bind .guard fun _ => ?_
    split
    · exact .pure ()
    refine .bind (managedDescriptorIsAncestorOrSame_replays hagree (fun _ _ => trivial) trivial trivial)
      fun _ => .bind .guard fun _ => .bind (statxFd_replays hagree trivial) fun _ => .guard
  exact (hrply.ends _).imp fun _ _ h => ⟨h.2, hbw⟩

end

end ReCasaOS.FileSecurity
