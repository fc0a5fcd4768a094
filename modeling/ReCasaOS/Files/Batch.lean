/-
# Batches of copies and moves

`PrepareFileOperation` (`service/file.go`) accepts a batch only if its sources and targets keep
out of one another's way. It compares spellings of paths: each source with the earlier ones and
with its own target in one loop, every target with every other source in a second one.

What it is for is that the items of a batch do not see one another. `CopyInto` and `MoveInto` are
taken here as atomic operations on a file system, a map from paths to what is there, about which
only one thing is assumed (`AtomicTransfers`): they change nothing outside the source and the named
child of the destination, and look at nothing outside these and the directories on the way to them.
With the skip and the replace style an accepted batch then comes to the same in every order
(`accepted_batch_order_independent`).
-/
import ReCasaOS.FileSecurity.ManagedRoots
import ReCasaOS.Files.Operation
import ReCasaOS.Lib.Footprint

namespace ReCasaOS.Files

open Lib FileSecurity List

variable {location : ManagedLocation}

/-! ## 1. Preparation -/

def maxManagedFileOperationItems : Nat := 16

def maxInt64 : Int := 9223372036854775807

/-- What is asked of an `os.FileInfo`. -/
inductive FileKind
  | directory
  | regular
  | other
  deriving DecidableEq, Repr

/-- The part of `ManagedFileOperationRoots` that is asked and changes nothing. -/
structure InspectRoots where
  managed : ManagedRoots
  stat : Bytes → Except OperationError FileKind
  treeSize : Bytes → Except OperationError Int
  isMountPoint : Bytes → Except OperationError Bool

/-- What `invalidFileOperation` is called with. -/
inductive InvalidReason
  /-- `type must be copy or move` -/
  | operationType
  /-- `invalid managed copy conflict style: %q` -/
  | conflictStyle (style : String)
  /-- `item count must be between 1 and 16` -/
  | itemCount
  /-- `destination must be an absolute path` -/
  | destinationNotAbsolute
  /-- `source %d must be an absolute path` -/
  | sourceNotAbsolute (index : Nat)
  /-- `unsafe destination path` -/
  | unsafeDestination
  /-- `destination must be a directory` -/
  | destinationNotDirectory
  /-- `unsafe source path at item %d` -/
  | unsafeSource (index : Nat)
  /-- `source %d has an unsupported type` -/
  | unsupportedSource (index : Nat)
  /-- `unsafe source name at item %d` -/
  | unsafeSourceName (index : Nat)
  /-- `unsafe target path at item %d` -/
  | unsafeTarget (index : Nat)
  /-- `target %d is a configured root` -/
  | targetIsRoot (index : Nat)
  /-- `source and target overlap at item %d` -/
  | sourceTargetOverlap (index : Nat)
  /-- `destination is inside source directory at item %d` -/
  | destinationInsideSource (index : Nat)
  /-- `source items %d and %d overlap` -/
  | sourcesOverlap (previousIndex index : Nat)
  /-- `multiple items resolve to target %q` -/
  | sameTarget (target : Bytes)
  /-- `source %d is a mount point` -/
  | sourceMounted (index : Nat)
  /-- `total size overflows int64` -/
  | sizeOverflow
  /-- `target %d overlaps source %d` -/
  | targetOverlapsSource (targetIndex sourceIndex : Nat)
  deriving DecidableEq, Repr

inductive PrepareError
  | busy
  /-- `managed file roots are unavailable` -/
  | unavailable
  | invalid (reason : InvalidReason)
  /-- `inspect managed destination: %w` -/
  | inspectDestination (err : OperationError)
  /-- `inspect managed source %d: %w` -/
  | inspectSource (index : Nat) (err : OperationError)
  /-- `inspect managed source mount %d: %w` -/
  | inspectMount (index : Nat) (err : OperationError)
  /-- `measure managed source %d: %w` -/
  | measureSource (index : Nat) (err : OperationError)
  deriving DecidableEq, Repr

def managedOperationPathContains (parent child : Bytes) : Bool := pathContains parent child

def managedOperationPathsOverlap (first second : Bytes) : Bool :=
  managedOperationPathContains first second || managedOperationPathContains second first

/-- A path as the shape checks want it. -/
def absoluteText (path : Bytes) : Bool :=
  !(path == [] || path.head? != some 47 || containsByte path 0)

def validateFileOperationShape (operation : FileOperate) : Except PrepareError Unit := do
  check (operation.type ≠ "copy" ∧ operation.type ≠ "move") (.invalid .operationType)
  check (parseManagedConflictStyle operation.style = none)
    (.invalid (.conflictStyle operation.style))
  check (operation.item.length = 0 ∨ maxManagedFileOperationItems < operation.item.length)
    (.invalid .itemCount)
  check (absoluteText operation.toPath = false) (.invalid .destinationNotAbsolute)
  match operation.item.findIdx? fun item => !absoluteText item.fromPath with
  | none => .ok ()
  | some index => .error (.invalid (.sourceNotAbsolute index))

/-- The variables of the loop over the items. -/
structure Prepared where
  item : List FileItem
  canonicalSources : List Bytes
  plannedTargets : List Bytes
  total : Int

def Prepared.start : Prepared := ⟨[], [], [], 0⟩

/-- An item as it leaves the loop. -/
def FileItem.prepared (item : FileItem) (source : Bytes) (size : Int) : FileItem :=
  { item with
    fromPath := source
    size
    processedSize := 0
    finished := false
    destination := []
    status := .other ""
    error := ""
    durabilityUnknown := false }

section

variable (roots : InspectRoots) (operationType : String) (style : ManagedConflictStyle)
  (destination : ManagedLocation)

/-- The check that is made for moves only. -/
def checkMount (index : Nat) (source : Bytes) : Except PrepareError Unit :=
  if operationType = "move" then do
    let mounted ← (roots.isMountPoint source).mapError (.inspectMount index)
    check (mounted) (.invalid (.sourceMounted index))
  else .ok ()

/-- The body of the loop. The keys of `seenTargets` are the planned targets. -/
def prepareItem (p : Prepared) (index : Nat) (item : FileItem) : Except PrepareError Prepared := do
  let source ← (roots.managed.matchPath item.fromPath).mapError fun _ =>
    .invalid (.unsafeSource index)
  check (source.relative = [46]) (.invalid (.unsafeSource index))
  let sourceInfo ← (roots.stat source.canonical).mapError (.inspectSource index)
  check (sourceInfo = .other) (.invalid (.unsupportedSource index))
  let base := base source.canonical
  check (validatePathComponent base = false) (.invalid (.unsafeSourceName index))
  let target ← (roots.managed.matchChild destination.canonical base).mapError fun _ =>
    .invalid (.unsafeTarget index)
  let targetAuthorization ← (roots.managed.matchPath target.canonical).mapError fun _ =>
    .invalid (.targetIsRoot index)
  check (targetAuthorization.relative = [46]) (.invalid (.targetIsRoot index))
  check (dirPath source.canonical = destination.canonical ∨
      managedOperationPathsOverlap source.canonical target.canonical)
    (.invalid (.sourceTargetOverlap index))
  check (sourceInfo = .directory ∧
      managedOperationPathContains source.canonical destination.canonical)
    (.invalid (.destinationInsideSource index))
  match p.canonicalSources.findIdx? (managedOperationPathsOverlap · source.canonical) with
  | some previousIndex => .error (.invalid (.sourcesOverlap previousIndex index))
  | none =>
    check (target.canonical ∈ p.plannedTargets ∧ style ≠ .rename)
      (.invalid (.sameTarget target.canonical))
    checkMount roots operationType index source.canonical
    let size ← (roots.treeSize source.canonical).mapError (.measureSource index)
    check (size < 0 ∨ maxInt64 - size < p.total) (.invalid .sizeOverflow)
    .ok
      { item := p.item ++ [item.prepared source.canonical size]
        canonicalSources := p.canonicalSources ++ [source.canonical]
        plannedTargets := p.plannedTargets ++ [target.canonical]
        total := p.total + size }

def prepareItems : List FileItem → (index : Nat) → Prepared → Except PrepareError Prepared
  | [], _, p => .ok p
  | item :: items, index, p => do
    let p ← prepareItem roots operationType style destination p index item
    prepareItems items (index + 1) p

end

/-- The inner loop of the second pass. -/
def checkTarget (targetIndex : Nat) (target : Bytes) :
    (sources : List Bytes) → (sourceIndex : Nat) → Except PrepareError Unit
  | [], _ => .ok ()
  | source :: sources, sourceIndex => do
    check (targetIndex ≠ sourceIndex ∧ managedOperationPathsOverlap target source)
      (.invalid (.targetOverlapsSource targetIndex sourceIndex))
    checkTarget targetIndex target sources (sourceIndex + 1)

/-- The second pass: no target overlaps the source of another item. -/
def checkTargets (sources : List Bytes) :
    (targets : List Bytes) → (targetIndex : Nat) → Except PrepareError Unit
  | [], _ => .ok ()
  | target :: targets, targetIndex => do
    checkTarget targetIndex target sources 0
    checkTargets sources targets (targetIndex + 1)

/-- `PrepareFileOperation`; `gateFree` says that no other preparation is going on. -/
def prepareFileOperation (gateFree : Bool) (roots : Option InspectRoots) (operation : FileOperate) :
    Except PrepareError FileOperate := do
  check (gateFree = false) .busy
  let roots ← orError roots .unavailable
  validateFileOperationShape operation
  let style ← orError (parseManagedConflictStyle operation.style)
    (.invalid (.conflictStyle operation.style))
  let destination ← (roots.managed.matchPath operation.toPath).mapError fun _ =>
    .invalid .unsafeDestination
  let destinationInfo ← (roots.stat destination.canonical).mapError .inspectDestination
  check (destinationInfo ≠ .directory) (.invalid .destinationNotDirectory)
  let p ← prepareItems roots operation.type style destination operation.item 0 .start
  checkTargets p.canonicalSources p.plannedTargets 0
  .ok { operation with
    item := p.item
    toPath := destination.canonical
    style := style.text
    totalSize := p.total
    processedSize := 0
    finished := false
    error := ""
    durabilityUnknown := false }

/-! ## 2. What an accepted batch keeps apart -/

/-- Neither path is the other one or below it. -/
def Incomparable (x y : List Bytes) : Prop := ¬ x <+: y ∧ ¬ y <+: x

lemma Incomparable.symm {x y : List Bytes} (h : Incomparable x y) : Incomparable y x := ⟨h.2, h.1⟩

lemma incomparable_children {dir : List Bytes} {a b : Bytes} (h : a ≠ b) :
    Incomparable (dir ++ [a]) (dir ++ [b]) := by
  have hch : ∀ a b : Bytes, a ≠ b → ¬ dir ++ [a] <+: dir ++ [b] := by
    intro a b hne hle
    have hsm := hle.eq_of_length (by simp)
    exact hne (singleton_inj.mp (append_cancel_left hsm))
  exact ⟨hch a b h, hch b a h.symm⟩

/-- Canonical paths do not overlap if their components are not comparable. -/
lemma incomparable_of_overlap {x y : Bytes} (hx : x = absolutePath (components x))
    (hy : y = absolutePath (components y)) (hx' : components x ≠ []) (hy' : components y ≠ [])
    (h : managedOperationPathsOverlap x y = false) : Incomparable (components x) (components y) := by
  obtain ⟨hxy, hyx⟩ := Bool.or_eq_false_iff.mp h
  constructor
  · rw [← pathContains_iff hx hy hx', ← managedOperationPathContains, hxy]
    exact Bool.false_ne_true
  · rw [← pathContains_iff hy hx hy', ← managedOperationPathContains, hyx]
    exact Bool.false_ne_true

/-- The path that an item is transferred to, below the destination. -/
def targetPath (destination source : Bytes) : Bytes :=
  absolutePath (components destination ++ [base source])

/-- What the first loop has established of a source. -/
structure Admitted (destination source : Bytes) : Prop where
  canonical : source = absolutePath (components source)
  proper : components source ≠ []
  name : IsComponent (base source)
  apart : managedOperationPathsOverlap source (targetPath destination source) = false

/-- The invariant of the first loop. -/
structure Prepared.Good (p : Prepared) (style : ManagedConflictStyle) (destination : Bytes) :
    Prop where
  item : p.item.map (·.fromPath) = p.canonicalSources
  targets : p.plannedTargets = p.canonicalSources.map (targetPath destination)
  admitted : ∀ source ∈ p.canonicalSources, Admitted destination source
  sources : p.canonicalSources.Pairwise fun a b => managedOperationPathsOverlap a b = false
  distinct : style ≠ .rename → p.plannedTargets.Nodup

lemma Prepared.start_good (style : ManagedConflictStyle) (destination : Bytes) :
    Prepared.start.Good style destination :=
  ⟨rfl, rfl, by simp [start], List.Pairwise.nil, fun _ => nodup_nil⟩

lemma matchPath_eq_ok {m : ManagedRoots} {path : Bytes} (h : m.matchPath path = .ok location) :
    matchManagementPath m.roots path = .ok location := by
  unfold ManagedRoots.matchPath at h
  split at h
  · cases h
  · exact h

lemma matchChild_eq_ok {m : ManagedRoots} {base rel : Bytes}
    (h : m.matchChild base rel = .ok location) :
    matchManagementChild m.roots base rel = .ok location := by
  unfold ManagedRoots.matchChild at h
  split at h
  · cases h
  · exact h

section

variable {roots : InspectRoots} {operationType : String} {style : ManagedConflictStyle}
  {dst : ManagedLocation} {p p' : Prepared} {index : Nat} {item : FileItem}

/-- One turn of the loop: the item has a source and a target that are admitted. -/
lemma prepareItem_eq_ok (hdst : roots.managed.matchPath dst.canonical = .ok dst)
    (h : prepareItem roots operationType style dst p index item = .ok p') :
    ∃ src size, Admitted dst.canonical src ∧
      (∀ previous ∈ p.canonicalSources, managedOperationPathsOverlap previous src = false) ∧
      (style ≠ .rename → targetPath dst.canonical src ∉ p.plannedTargets) ∧
      p' = { item := p.item ++ [item.prepared src size]
             canonicalSources := p.canonicalSources ++ [src]
             plannedTargets := p.plannedTargets ++ [targetPath dst.canonical src]
             total := p.total + size } := by
  simp only [prepareItem, bind_eq_ok, mapError_eq_ok, check_eq_ok] at h
  obtain ⟨src, hsrc, _, -, _, -, _, -, _, hnm, target, htgt, -, -, _, -, _, hown, _, -, h⟩ := h
  split at h
  · cases h
  rename_i hearl
  simp only [bind_eq_ok, mapError_eq_ok, check_eq_ok] at h
  obtain ⟨_, hse, _, -, size, -, _, -, h⟩ := h
  obtain ⟨hv, -, -⟩ := matchManagementPath_ok (matchPath_eq_ok hsrc)
  have hcp := Bool.not_eq_false _ ▸ hnm
  have htgt : target.canonical = targetPath dst.canonical src.canonical :=
    matchManagementChild_component (matchPath_eq_ok hdst) hcp
      (matchChild_eq_ok htgt)
  rw [htgt] at hown hse h
  have hadm : Admitted dst.canonical src.canonical :=
    { canonical := absolutePath_of_canonical hv.canonical
      proper := hv.names_ne_nil
      name := (isComponent_of_validatePathComponent hcp).1
      apart := Bool.eq_false_iff.mpr (not_or.mp hown).2 }
  refine ⟨src.canonical, size, hadm, ?_, ?_, (Except.ok.inj h).symm⟩
  · intro previous hprev
    exact findIdx?_eq_none_iff.mp hearl previous hprev
  · exact fun hsty hmem => hse ⟨hmem, hsty⟩

lemma prepareItem_good (hdst : roots.managed.matchPath dst.canonical = .ok dst)
    (hp : p.Good style dst.canonical)
    (h : prepareItem roots operationType style dst p index item = .ok p') :
    p'.Good style dst.canonical := by
  obtain ⟨src, size, hadm, hearl, hse, rfl⟩ := prepareItem_eq_ok hdst h
  refine ⟨?_, ?_, ?_, ?_, fun hsty => ?_⟩
  · rw [map_append, hp.item]
    rfl
  · rw [hp.targets, map_append]
    rfl
  · intro other hoth
    rcases mem_append.mp hoth with hoth | hoth
    · exact hp.admitted other hoth
    · exact mem_singleton.mp hoth ▸ hadm
  · rw [pairwise_append]
    refine ⟨hp.sources, pairwise_singleton _ _, fun previous hprev other hoth => ?_⟩
    exact mem_singleton.mp hoth ▸ hearl previous hprev
  · exact nodup_append.mpr ⟨hp.distinct hsty, nodup_singleton _, fun target htgt other hoth heq =>
        hse hsty (mem_singleton.mp hoth ▸ heq ▸ htgt)⟩

lemma prepareItems_good (hdst : roots.managed.matchPath dst.canonical = .ok dst) :
    ∀ {items : List FileItem} {index : Nat} {p p' : Prepared}, p.Good style dst.canonical →
      prepareItems roots operationType style dst items index p = .ok p' →
      p'.Good style dst.canonical
  | [], _, _, _, hp, h => Except.ok.inj h ▸ hp
  | _ :: _, _, _, _, hp, h => by
    obtain ⟨next, hnx, h⟩ := bind_eq_ok.mp h
    exact prepareItems_good hdst (prepareItem_good hdst hp hnx) h

end

lemma checkTarget_eq_ok {targetIndex : Nat} {target : Bytes} :
    ∀ {sources : List Bytes} {sourceIndex : Nat},
      checkTarget targetIndex target sources sourceIndex = .ok () →
      ∀ (j : Nat) (source : Bytes), sources[j]? = some source → targetIndex ≠ sourceIndex + j →
        managedOperationPathsOverlap target source = false
  | [], _, _, _, _, hsrc, _ => by simp at hsrc
  | source :: sources, sourceIndex, h, j, other, hoth, hne => by
    obtain ⟨hfst, hrs⟩ := check_bind_eq_ok.mp h
    cases j with
    | zero =>
      obtain rfl : source = other := by simpa using hoth
      exact Bool.eq_false_iff.mpr fun hovl => hfst ⟨hne, hovl⟩
    | succ j =>
      exact checkTarget_eq_ok hrs j other (by simpa using hoth) (by omega)

lemma checkTargets_eq_ok {sources : List Bytes} : ∀ {targets : List Bytes} {targetIndex : Nat},
      checkTargets sources targets targetIndex = .ok () →
      ∀ (i : Nat) (target : Bytes), targets[i]? = some target →
        ∀ (j : Nat) (src : Bytes), sources[j]? = some src → targetIndex + i ≠ j →
          managedOperationPathsOverlap target src = false
  | [], _, _, _, _, htgt, _, _, _, _ => by simp at htgt
  | target :: targets, targetIndex, h, i, other, hoth, j, src, hsrc, hne => by
    obtain ⟨_, hfst, hrs⟩ := bind_eq_ok.mp h
    cases i with
    | zero =>
      obtain rfl : target = other := by simpa using hoth
      exact checkTarget_eq_ok hfst j src hsrc (by omega)
    | succ i =>
      exact checkTargets_eq_ok hrs i other (by simpa using hoth) j src hsrc (by omega)

/-! ## 3. Transfers on a file system -/

/-- What is at a path. -/
abbrev FileSystem (Object : Type) := List Bytes → Option Object

/-- The source and all below it, and the target and all below it. -/
def transferWrites (source target : List Bytes) : Set (List Bytes) :=
  {path | source <+: path ∨ target <+: path}

/-- The same, and what is on the way there. -/
def transferReads (source target : List Bytes) : Set (List Bytes) :=
  {path | source <+: path ∨ target <+: path ∨ path <+: source ∨ path <+: target}

/-- The components of the target of an item. -/
def targetOf (destination source : Bytes) : List Bytes := components destination ++ [base source]

/-- The transfers are atomic operations that keep to the source and to the child of the
destination with the same name. With the rename style the child has a name of its own. -/
structure AtomicTransfers {Object : Type} (roots : TransferRoots (FileSystem Object)) : Prop where
  copyInto : ∀ source destination style, style ≠ .rename →
    Confined (roots.copyInto source destination style)
      (transferReads (components source) (targetOf destination source))
      (transferWrites (components source) (targetOf destination source))
  moveInto : ∀ source destination style, style ≠ .rename →
    Confined (roots.moveInto source destination style)
      (transferReads (components source) (targetOf destination source))
      (transferWrites (components source) (targetOf destination source))

/-- The transfer of one item. -/
def itemReads (destination : Bytes) (item : FileItem) : Set (List Bytes) :=
  transferReads (components item.fromPath) (targetOf destination item.fromPath)

def itemWrites (destination : Bytes) (item : FileItem) : Set (List Bytes) :=
  transferWrites (components item.fromPath) (targetOf destination item.fromPath)

/-- Transfers between paths that are not comparable are apart. -/
lemma transfers_apart {src target src' target' : List Bytes}
    (hss : Incomparable src src') (hst : Incomparable src target')
    (hts : Incomparable target src') (htt : Incomparable target target') :
    ∀ path ∈ transferWrites src target, path ∉ transferReads src' target' := by
  have key : ∀ x y path : List Bytes, Incomparable x y → x <+: path → ¬ y <+: path ∧ ¬ path <+: y := by
    intro x y path hxy hx
    constructor
    · intro hy
      rcases prefix_or_prefix_of_prefix hx hy with hle | hle
      · exact hxy.1 hle
      · exact hxy.2 hle
    · exact fun hy => hxy.1 (hx.trans hy)
  rintro path (hpa | hpa) (h | h | h | h)
  · exact (key src src' path hss hpa).1 h
  · exact (key src target' path hst hpa).1 h
  · exact (key src src' path hss hpa).2 h
  · exact (key src target' path hst hpa).2 h
  · exact (key target src' path hts hpa).1 h
  · exact (key target target' path htt hpa).1 h
  · exact (key target src' path hts hpa).2 h
  · exact (key target target' path htt hpa).2 h

/-! ## 4. Accepted batches -/

/-- The sources and targets of two items keep apart. -/
structure ItemsApart (destination : Bytes) (a b : FileItem) : Prop where
  sources : Incomparable (components a.fromPath) (components b.fromPath)
  left : Incomparable (components a.fromPath) (targetOf destination b.fromPath)
  right : Incomparable (targetOf destination a.fromPath) (components b.fromPath)
  targets : Incomparable (targetOf destination a.fromPath) (targetOf destination b.fromPath)

lemma components_targetPath (destination : Bytes) {source : Bytes} (h : IsComponent (base source)) :
    components (targetPath destination source) = targetOf destination source := by
  refine components_absolutePath fun name hnm => ?_
  rcases mem_append.mp hnm with hnm | hnm
  · exact isComponent_of_mem_components hnm
  · exact mem_singleton.mp hnm ▸ h

lemma Admitted.target_incomparable {destination src other : Bytes}
    (hsrc : Admitted destination src) (hoth : Admitted destination other)
    (h : managedOperationPathsOverlap (targetPath destination src) other = false) :
    Incomparable (targetOf destination src) (components other) := by
  have htgt := components_targetPath destination hsrc.name
  rw [← htgt]
  refine incomparable_of_overlap ?_ hoth.canonical ?_ hoth.proper h
  · rw [htgt]
    rfl
  · rw [htgt]
    exact append_ne_nil_of_right_ne_nil _ (cons_ne_nil _ _)

/-- **The two loops together keep the items apart.** -/
theorem prepared_apart {p : Prepared} {style : ManagedConflictStyle} {destination : Bytes}
    (hp : p.Good style destination) (hsty : style ≠ .rename)
    (htargets : checkTargets p.canonicalSources p.plannedTargets 0 = .ok ()) :
    p.item.Pairwise (ItemsApart destination) := by
  have hsnd : ∀ i j (hi : i < p.canonicalSources.length) (hj : j < p.canonicalSources.length),
      i ≠ j → managedOperationPathsOverlap (targetPath destination p.canonicalSources[i])
        p.canonicalSources[j] = false := by
    intro i j hi hj hij
    refine checkTargets_eq_ok htargets i _ ?_ j _ (getElem?_eq_getElem hj) (by omega)
    rw [hp.targets, getElem?_map, getElem?_eq_getElem hi]
    rfl
  have hsources : p.canonicalSources.Pairwise fun a b =>
      Incomparable (components a) (components b) ∧
      Incomparable (components a) (targetOf destination b) ∧
      Incomparable (targetOf destination a) (components b) ∧
      Incomparable (targetOf destination a) (targetOf destination b) := by
    rw [pairwise_iff_getElem]
    intro i j hi hj hij
    have ha := hp.admitted _ (getElem_mem hi)
    have hb := hp.admitted _ (getElem_mem hj)
    have hdist : base p.canonicalSources[i] ≠ base p.canonicalSources[j] := by
      have hnd := hp.distinct hsty
      rw [hp.targets, nodup_iff_pairwise_ne, pairwise_map, pairwise_iff_getElem] at hnd
      intro hsm
      exact hnd i j hi hj hij (by rw [targetPath, targetPath, hsm])
    refine ⟨?_, ?_, ?_, incomparable_children hdist⟩
    · exact incomparable_of_overlap ha.canonical hb.canonical ha.proper hb.proper
        (pairwise_iff_getElem.mp hp.sources i j hi hj hij)
    · exact (hb.target_incomparable ha (hsnd j i hj hi (by omega))).symm
    · exact ha.target_incomparable hb (hsnd i j hi hj (by omega))
  rw [← hp.item, pairwise_map] at hsources
  exact hsources.imp fun h => ⟨h.1, h.2.1, h.2.2.1, h.2.2.2⟩

lemma prepareFileOperation_eq_ok {gateFree : Bool} {roots : Option InspectRoots}
    {op accepted : FileOperate}
    (h : prepareFileOperation gateFree roots op = .ok accepted)
    (hsty : accepted.style = "skip" ∨ accepted.style = "replace") :
    ∃ style, parseManagedConflictStyle accepted.style = some style ∧ style ≠ .rename ∧
      accepted.item.Pairwise (ItemsApart accepted.toPath) := by
  simp only [prepareFileOperation, bind_eq_ok, mapError_eq_ok] at h
  obtain ⟨_, -, inspect, -, _, -, style, -, destination, hdst, _, -, _, -, p, hp, _,
    htargets, h⟩ := h
  cases h
  have hren : style ≠ .rename := by
    rintro rfl
    exact absurd hsty (by simp [ManagedConflictStyle.text])
  obtain ⟨-, -, hagain⟩ := matchManagementPath_ok (matchPath_eq_ok hdst)
  have hop : inspect.managed.matchPath destination.canonical = .ok destination := by
    unfold ManagedRoots.matchPath at hdst ⊢
    split at hdst
    · cases hdst
    next hclo =>
      rw [if_neg hclo]
      exact hagain
  have hg := prepareItems_good hop (Prepared.start_good style destination.canonical) hp
  exact ⟨style, parseManagedConflictStyle_text style, hren, prepared_apart hg hren htargets⟩

section

variable {Object : Type} (transfers : TransferRoots (FileSystem Object))

def transferItem (operation : FileOperate) (style : ManagedConflictStyle) (item : FileItem)
    (fs : FileSystem Object) : (ManagedTransferResult × Option OperationError) × FileSystem Object :=
  executeManagedFileOperationItem transfers operation.type item.fromPath operation.toPath style fs

/-- The loop runs the transfers one after another and records each result in its item. -/
lemma executeItems_eq (op : FileOperate) (style : ManagedConflictStyle)
    (items : List FileItem) (p : Progress) (fs : FileSystem Object) :
    (executeItems transfers op.type op.toPath style items p fs).2
        = (runAll (transferItem transfers op style) items fs).2 ∧
      (executeItems transfers op.type op.toPath style items p fs).1.item
        = p.item ++ zipWith (fun item res => item.record res.1 res.2) items
            (runAll (transferItem transfers op style) items fs).1 := by
  induction items generalizing p fs with
  | nil => exact ⟨rfl, (append_nil _).symm⟩
  | cons item items ih =>
    rw [executeItems, runAll, zipWith_cons_cons]
    obtain ⟨hsta, hit⟩ := ih (p.record item (transferItem transfers op style item fs).1.1
        (transferItem transfers op style item fs).1.2)
      (transferItem transfers op style item fs).2
    refine ⟨hsta, hit.trans ?_⟩
    rw [Progress.record, append_assoc, singleton_append]

variable {transfers}

lemma transferItem_confined (htrf : AtomicTransfers transfers) {op : FileOperate}
    {style : ManagedConflictStyle} (hsty : style ≠ .rename) (item : FileItem) :
    Confined (transferItem transfers op style item) (itemReads op.toPath item)
      (itemWrites op.toPath item) := by
  by_cases hcopy : op.type = "copy"
  · have heq : transferItem transfers op style item
        = transfers.copyInto item.fromPath op.toPath style := by
      funext fs
      rw [transferItem, executeManagedFileOperationItem, if_pos hcopy]
    exact heq ▸ htrf.copyInto item.fromPath op.toPath style hsty
  · by_cases hmove : op.type = "move"
    · have heq : transferItem transfers op style item
          = transfers.moveInto item.fromPath op.toPath style := by
        funext fs
        rw [transferItem, executeManagedFileOperationItem, if_neg hcopy, if_pos hmove]
      exact heq ▸ htrf.moveInto item.fromPath op.toPath style hsty
    · refine ⟨?_, fun fs path _ => ?_, fun fs fs' hsm => ⟨?_, fun path hpa => ?_⟩⟩
      · rintro path (hpa | hpa)
        · exact .inl hpa
        · exact .inr (.inl hpa)
      · simp only [transferItem, executeManagedFileOperationItem, if_neg hcopy, if_neg hmove]
      · simp only [transferItem, executeManagedFileOperationItem, if_neg hcopy, if_neg hmove]
      · simp only [transferItem, executeManagedFileOperationItem, if_neg hcopy, if_neg hmove]
        refine hsm path ?_
        rcases hpa with hpa | hpa
        · exact .inl hpa
        · exact .inr (.inl hpa)

/-- **An accepted batch comes to the same in every order.** The sources and targets of its items
keep apart; and on every file system there is one outcome for each item and one final file system
for all the orders in which the items can be executed. -/
theorem accepted_batch_order_independent (htransfers : AtomicTransfers transfers) {gateFree : Bool}
    {roots : Option InspectRoots} {operation accepted : FileOperate}
    (haccepted : prepareFileOperation gateFree roots operation = .ok accepted)
    (hstyle : accepted.style = "skip" ∨ accepted.style = "replace") :
    accepted.item.Pairwise (ItemsApart accepted.toPath) ∧
    ∀ fs : FileSystem Object, ∃ (outcome : FileItem → FileItem) (final : FileSystem Object),
      ∀ items : List FileItem, items.Perm accepted.item →
        (executePreparedFileOperation transfers { accepted with item := items } fs).1.item
            = items.map outcome ∧
          (executePreparedFileOperation transfers { accepted with item := items } fs).2 = final := by
  obtain ⟨style, hparse, hrename, hapart⟩ := prepareFileOperation_eq_ok haccepted hstyle
  refine ⟨hapart, fun fs => ⟨fun item => item.record
    (transferItem transfers accepted style item fs).1.1
    (transferItem transfers accepted style item fs).1.2,
    (runAll (transferItem transfers accepted style) accepted.item fs).2, fun items hperm => ?_⟩⟩
  have hconfined : ∀ item ∈ accepted.item, Confined (transferItem transfers accepted style item)
      (itemReads accepted.toPath item) (itemWrites accepted.toPath item) :=
    fun item _ => transferItem_confined htransfers hrename item
  have hpair : accepted.item.Pairwise (Apart (itemReads accepted.toPath)
      (itemWrites accepted.toPath)) := by
    refine hapart.imp fun h => ⟨?_, ?_⟩
    · exact transfers_apart h.sources h.left h.right h.targets
    · exact transfers_apart h.sources.symm h.right.symm h.left.symm h.targets.symm
  have hconfined' := fun item hitem => hconfined item (hperm.mem_iff.mp hitem)
  have hpair' := (hperm.pairwise_iff fun h => Apart.symm h).mpr hpair
  obtain ⟨hresults, -, -⟩ := runAll_apart hconfined' hpair' fs
  obtain ⟨hstate, hitem⟩ := executeItems_eq transfers accepted style items .start fs
  obtain ⟨hitem', hstate'⟩ :=
    executePreparedFileOperation_eq transfers { accepted with item := items } hparse fs
  refine ⟨?_, (hstate'.trans hstate).trans (runAll_perm hconfined hpair hperm fs)⟩
  refine (hitem'.trans hitem).trans ?_
  rw [hresults, zipWith_map_right, zipWith_self]
  rfl

end

/-! ## 5. Transfers that are atomic -/

/-- A transfer as it is meant: what is below the source appears below the target, in place of what
was there unless that is to be kept. -/
def treeTransfer {Object : Type} (move : Bool) (source destination : Bytes)
    (style : ManagedConflictStyle) (fs : FileSystem Object) :
    (ManagedTransferResult × Option OperationError) × FileSystem Object :=
  let target := targetOf destination source
  if (fs (components source)).isNone then
    ((⟨[], false⟩, some (plainError "no such file or directory")), fs)
  else if (fs target).isSome ∧ style = .skip then
    ((⟨targetPath destination source, false⟩, none), fs)
  else
    ((⟨targetPath destination source, true⟩, none), fun path =>
      if target.isPrefixOf path then fs (components source ++ path.drop target.length)
      else if move ∧ (components source).isPrefixOf path then none
      else fs path)

def treeTransfers (Object : Type) : TransferRoots (FileSystem Object) :=
  ⟨treeTransfer false, treeTransfer true⟩

lemma treeTransfer_confined {Object : Type} (move : Bool) (src destination : Bytes)
    (style : ManagedConflictStyle) :
    Confined (@treeTransfer Object move src destination style)
      (transferReads (components src) (targetOf destination src))
      (transferWrites (components src) (targetOf destination src)) := by
  refine ⟨?_, ?_, ?_⟩
  · rintro path (hpa | hpa)
    · exact .inl hpa
    · exact .inr (.inl hpa)
  · intro fs path hpa
    have hsrc : (components src).isPrefixOf path = false :=
      Bool.eq_false_iff.mpr fun h => hpa (.inl (List.isPrefixOf_iff_prefix.mp h))
    have htgt : (targetOf destination src).isPrefixOf path = false :=
      Bool.eq_false_iff.mpr fun h => hpa (.inr (List.isPrefixOf_iff_prefix.mp h))
    unfold treeTransfer
    dsimp only
    split
    · rfl
    · split
      · rfl
      · simp only [hsrc, htgt, Bool.false_eq_true, and_false, if_false]
  · intro fs fs' hsm
    have hsrc : ∀ rest, fs (components src ++ rest) = fs' (components src ++ rest) :=
      fun rest => hsm _ (.inl (prefix_append _ rest))
    have hself : fs (components src) = fs' (components src) := by
      simpa using hsrc []
    have htgt : fs (targetOf destination src) = fs' (targetOf destination src) :=
      hsm _ (.inr (.inl prefix_rfl))
    have hwr : ∀ path ∈ transferWrites (components src) (targetOf destination src),
        fs path = fs' path := by
      rintro path (hpa | hpa)
      · exact hsm path (.inl hpa)
      · exact hsm path (.inr (.inl hpa))
    unfold treeTransfer
    simp only [hself, htgt, hsrc]
    split
    · exact ⟨rfl, hwr⟩
    · split
      · exact ⟨rfl, hwr⟩
      · refine ⟨rfl, fun path hpa => ?_⟩
        simp only [hwr path hpa]

lemma treeTransfers_atomic (Object : Type) : AtomicTransfers (treeTransfers Object) where
  copyInto source destination style _ := treeTransfer_confined false source destination style
  moveInto source destination style _ := treeTransfer_confined true source destination style

lemma sampleRoots_normalized (root : Bytes) (hrt : root ∈ ([[47, 114]] : List Bytes)) :
    canonicalAbsoluteManagedPath root = .ok root ∧ root ≠ [47] := by
  rw [mem_singleton.mp hrt]
  exact ⟨rfl, by decide⟩

/-- The root `/r`, with a directory `/r/b` to copy to. -/
def sampleInspect : InspectRoots where
  managed := ⟨false, [[47, 114]], sampleRoots_normalized⟩
  stat path := .ok (if path = [47, 114, 47, 98] then .directory else .regular)
  treeSize _ := .ok 1
  isMountPoint _ := .ok false

/-- The items `/r/a/x` and `/r/a/y`. -/
def sampleBatch : FileOperate :=
  { type := "copy"
    item := [⟨[47, 114, 47, 97, 47, 120], false, 0, 0, [], .other "", "", false⟩,
      ⟨[47, 114, 47, 97, 47, 121], false, 0, 0, [], .other "", "", false⟩]
    totalSize := 0, processedSize := 0, toPath := [47, 114, 47, 98], style := "skip"
    finished := false, status := .other "", error := "", durabilityUnknown := false }

def sampleAccepted : FileOperate :=
  { sampleBatch with
    item := sampleBatch.item.map fun item => item.prepared item.fromPath 1
    totalSize := 2 }

theorem sample_batch_order_independent :
    prepareFileOperation true (some sampleInspect) sampleBatch = .ok sampleAccepted ∧
    sampleAccepted.item.Pairwise (ItemsApart sampleAccepted.toPath) ∧
    ∀ fs : FileSystem Nat, ∃ (outcome : FileItem → FileItem) (final : FileSystem Nat),
      ∀ items : List FileItem, items.Perm sampleAccepted.item →
        (executePreparedFileOperation (treeTransfers Nat)
            { sampleAccepted with item := items } fs).1.item = items.map outcome ∧
          (executePreparedFileOperation (treeTransfers Nat)
            { sampleAccepted with item := items } fs).2 = final := by
  have haccepted : prepareFileOperation true (some sampleInspect) sampleBatch
      = .ok sampleAccepted := by rfl
  exact ⟨haccepted,
    accepted_batch_order_independent (treeTransfers_atomic Nat) haccepted (.inl rfl)⟩

end ReCasaOS.Files
