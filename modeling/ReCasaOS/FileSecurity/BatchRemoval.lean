/-
# Removing a batch of trees

`RemoveAllBatch` (`managed_roots_linux.go`) matches every path with a root and refuses paths that
overlap, then walks every tree to see whether it may be removed, and only then removes them, one
after the other. Each removal opens its parent directory anew and repeats the checks.

What the walk has accepted stays acceptable while other trees are removed, since the paths do not
overlap and no root is below one of them.
-/
import ReCasaOS.FileSecurity.ManagedRoots
import ReCasaOS.FileSecurity.Removal

namespace ReCasaOS.FileSecurity

open Lib List Option Fallible

/-! ## 1. The batch -/

section

variable (m : ManagedRoots)

/-- What the preflight of a tree and its removal both begin with: the location and the mount of its
directory. -/
def openRemovalTarget (absolutePath : Bytes) :
    Fallible (Faulty ManagedTree) OpError (ManagedLocation × Nat) := do
  let location ← ofExcept (m.resolveLocked absolutePath)
  openManagedParent location
  let parentLocation ← ofExcept (m.matchLocked (dirPath location.canonical))
  validateManagedDestinationFD m location.root location.parent parentLocation
  let parentMountID ← managedMountIDAt (statxFd location.parent)
  pure (location, parentMountID)

/-- Work in the open directory at a path. -/
def inDirectoryAt {α : Type} (path : List Bytes) (work : Fallible (Faulty ManagedTree) OpError α) :
    Fallible (Faulty ManagedTree) OpError α := do
  let w ← Fallible.get
  match FileTree.get path w.state with
  | none => fail (errnoError .ebadf)
  | some directory =>
    zoom (fun _ => directory) (fun tree dir => FileTree.updateAt (fun _ => dir) path tree) work

structure ManagedRemovalPlan where
  canonical : Bytes
  stat : FileStat

def preflightRemoveAllLocked (absolutePath : Bytes) :
    Fallible (Faulty ManagedTree) OpError ManagedRemovalPlan := do
  let (location, parentMountID) ← openRemovalTarget m absolutePath
  openManagedTransferChild location.parent location.base
  rejectConfiguredRootAtOrBelow m (location.parent ++ [location.base]) location.canonical
  let targetStat ← ask (fstat (location.parent ++ [location.base]))
  closing
  inDirectoryAt location.parent (validateRemovable location.base parentMountID)
  pure ⟨location.canonical, targetStat⟩

def removeAllPreflightedLocked (plan : ManagedRemovalPlan) :
    Fallible (Faulty ManagedTree) OpError Unit := do
  let (location, parentMountID) ← openRemovalTarget m plan.canonical
  verifyManagedNameIdentity location.parent location.base plan.stat
  inDirectoryAt location.parent (removePrevalidated location.base parentMountID)

def managedPathsOverlap (first second : Bytes) : Bool :=
  pathContains first second || pathContains second first

/-- The first loop of `RemoveAllBatch`. -/
def matchBatch :
    (absolutePaths canonicalPaths : List Bytes) → Except OpError (List Bytes)
  | [], canonicalPaths => .ok canonicalPaths
  | absolutePath :: absolutePaths, canonicalPaths => do
    let location ← m.matchLocked absolutePath
    check (location.relative = [46]) (unsafeError "configured root cannot be removed")
    check (∃ previous ∈ canonicalPaths, managedPathsOverlap previous location.canonical)
      (unsafeError "batch removal paths overlap")
    matchBatch absolutePaths (canonicalPaths ++ [location.canonical])

/-- The second loop. -/
def preflightAll :
    List Bytes → Fallible (Faulty ManagedTree) OpError (List ManagedRemovalPlan)
  | [] => pure []
  | absolutePath :: canonicalPaths => do
    let plan ← preflightRemoveAllLocked m absolutePath
    let plans ← preflightAll canonicalPaths
    pure (plan :: plans)

/-- `RemoveAllBatch` up to the first removal. -/
def prepareBatch (absolutePaths : List Bytes) :
    Fallible (Faulty ManagedTree) OpError (List ManagedRemovalPlan) := do
  guard (absolutePaths = []) (textError "no managed removal paths")
  acquireMutation m.closed
  let canonicalPaths ← ofExcept (matchBatch m absolutePaths [])
  preflightAll m canonicalPaths

structure ManagedBatchMutationResult where
  completed : List Bytes
  changed : Bool

/-- What a call returns, with the tree it leaves. -/
structure BatchOutcome where
  result : ManagedBatchMutationResult
  err : Option OpError
  tree : ManagedTree

/-- The last loop. -/
def removePlans :
    List ManagedRemovalPlan → ManagedBatchMutationResult → Faulty ManagedTree → BatchOutcome
  | [], result, w => ⟨result, none, w.state⟩
  | plan :: plans, result, w =>
    match removeAllPreflightedLocked m plan w with
    | (.error err, w') =>
      if result.completed ≠ [] ∨ Reports err then
        ⟨{ result with changed := true },
          some (changedMutationError "managed batch removal partially completed" false err), w'.state⟩
      else ⟨result, some err, w'.state⟩
    | (.ok _, w') => removePlans plans ⟨result.completed ++ [plan.canonical], true⟩ w'

def removeAllBatch (absolutePaths : List Bytes) (w : Faulty ManagedTree) : BatchOutcome :=
  match prepareBatch m absolutePaths w with
  | (.error err, w') => ⟨⟨[], false⟩, some err, w'.state⟩
  | (.ok plans, w') => removePlans m plans ⟨[], false⟩ w'

end

/-! ## 2. Opening a tree -/

/-- The paths whose data the checks of a tree look at. -/
def WatchedPath (m : ManagedRoots) (location : ManagedLocation) (path : List Bytes) : Prop :=
  path <+: location.parent ∨ ∃ root ∈ m.roots, path <+: components root

section

variable {m : ManagedRoots} {w : Faulty ManagedTree} {same : ManagedTree → ManagedTree → Prop}
variable {location : ManagedLocation} {plan : ManagedRemovalPlan}
variable {path : Bytes}

lemma resolveLocked_ok (h : m.resolveLocked path = .ok location) :
    m.matchLocked path = .ok location ∧ location.root ∈ m.roots := by
  obtain ⟨found, hfnd, hrs⟩ := bind_eq_ok.mp h
  split at hrs
  next hrt =>
    cases hrs
    exact ⟨hfnd, hrt⟩
  · cases hrs

lemma openRemovalTarget_replays {absolutePath : Bytes}
    (hsm : ∀ location, m.resolveLocked absolutePath = .ok location →
      ∀ t t', same t t' → InfoAgree (WatchedPath m location) t t') :
    Replays same (openRemovalTarget m absolutePath) := by
  refine .ofExcept_bind fun location hloc => ?_
  have hagree := hsm location hloc
  have hrts : ∀ root ∈ m.roots, WatchedPath m location (components root) :=
    fun root hrt => .inr ⟨root, hrt, prefix_rfl⟩
  have hup : ∀ path, WatchedPath m location path → WatchedPath m location path.dropLast := by
    rintro path (hpa | ⟨root, hrt, hpa⟩)
    · exact .inl ((List.dropLast_prefix path).trans hpa)
    · exact .inr ⟨root, hrt, (List.dropLast_prefix path).trans hpa⟩
  refine .bind (openManagedParent_replays hagree fun path hpa => .inl hpa) fun _ => ?_
  refine .bind (.ofExcept _) fun parentLocation => ?_
  refine .bind (validateManagedDestinationFD_replays hagree hup m hrts
    (hrts _ (resolveLocked_ok hloc).2) (.inl prefix_rfl)) fun _ => ?_
  exact .bind (statxFd_replays hagree (.inl prefix_rfl)) fun _ => .pure _

lemma openRemovalTarget_ends (m : ManagedRoots) (absolutePath : Bytes) (w : Faulty ManagedTree) :
    (openRemovalTarget m absolutePath).Ends w
      (fun found w' => w'.state = w.state ∧ (openRemovalTarget m absolutePath w).1 = .ok found ∧
        m.resolveLocked absolutePath = .ok found.1 ∧ validatePathComponent found.1.base)
      (fun _ w' => w'.state = w.state) := by
  have hrply : Replays Eq (openRemovalTarget m absolutePath) :=
    openRemovalTarget_replays fun _ _ => infoAgree_of_eq
  have hlexical : (openRemovalTarget m absolutePath).Ends w
      (fun found _ => m.resolveLocked absolutePath = .ok found.1 ∧
        validatePathComponent found.1.base) (fun _ _ => True) := by
    refine .seq (.ofExcept (fun location hloc => ?_) fun _ _ => trivial)
    refine .seq (.seq (.guard (fun _ => trivial) fun _ => .seq (.guard (fun _ => trivial) fun hba => ?_)))
    refine openAt_ends (fun _ _ => ?_) fun _ _ => trivial
    refine .seq (.ofExcept (fun parentLocation _ => ?_) fun _ _ => trivial)
    have hchecks : Replays Eq
        (validateManagedDestinationFD m location.root location.parent parentLocation) :=
      validateManagedDestinationFD_replays (P := fun _ => True) infoAgree_of_eq (fun _ _ => trivial)
        m (fun _ _ => trivial) trivial trivial
    refine .seq ((hchecks.ends _).mono (fun _ _ _ => ?_) fun _ _ _ => trivial)
    refine .seq (managedMountIDAt_ends (fun mid _ => .pure ?_) fun _ _ _ => trivial)
    exact ⟨hloc, Bool.eq_true_of_not_eq_false hba⟩
  exact ((hrply.ends w).and hlexical).mono
    (fun found w' h => ⟨h.1.2, h.1.1, h.2.1, h.2.2⟩) fun _ _ h => h.1

lemma target_of_resolveLocked (h : m.resolveLocked path = .ok location)
    (hba : validatePathComponent location.base) :
    location.parent ++ [location.base] = components location.canonical :=
  (matchManagementPath_ok (resolveLocked_ok h).1).1.target hba

/-! ## 3. One removal -/

/-- What work on one entry of a directory does to the tree. -/
lemma inDirectoryAt_ends {α : Type} {path : List Bytes}
    {work : Fallible (Faulty ManagedTree) OpError α} {P : α → Faulty ManagedTree → Prop}
    {E : OpError → Faulty ManagedTree → Prop}
    (hwork : ∀ directory, FileTree.get path w.state = some directory →
      work.Ends ⟨directory, w.faults⟩
        (fun a v => P a ⟨FileTree.updateAt (fun _ => v.state) path w.state, v.faults⟩)
        (fun err v => E err ⟨FileTree.updateAt (fun _ => v.state) path w.state, v.faults⟩))
    (hclo : FileTree.get path w.state = none → E (errnoError .ebadf) w) :
    (inDirectoryAt path work).Ends w P E := by
  refine .seq (.get ?_)
  split
  next hno =>
    exact .fail (hclo hno)
  next directory hdir =>
    exact .zoom (hwork directory hdir)

/-- What is left of a tree. -/
structure TreeRemoved (canonical : Bytes) (tree tree' : ManagedTree) : Prop where
  touched : FileTree.TouchedBelow (components canonical) tree tree'
  gone : FileTree.get (components canonical) tree' = none

/-- How the removal of a tree fails. -/
structure RemovalOfTreeFails (canonical : Bytes) (tree : ManagedTree) (err : OpError)
    (tree' : ManagedTree) : Prop where
  touched : FileTree.TouchedBelow (components canonical) tree tree'
  honest : tree' = tree ∨ Reports err

lemma verifyManagedNameIdentity_ends {parent : List Bytes} {name : Bytes} {exp : FileStat}
    {P : Unit → Faulty ManagedTree → Prop} {E : OpError → Faulty ManagedTree → Prop}
    (hok : P () w.later) (herr : ∀ err, E err w.later) :
    (verifyManagedNameIdentity parent name exp).Ends w P E :=
  .seq (ask_ends (fun _ _ => .guard (fun _ => herr _) fun _ => hok) fun err _ _ => herr err)

lemma resolveLocked_canonical
    (hpa : canonicalAbsoluteManagedPath path = .ok path) (h : m.resolveLocked path = .ok location) :
    location.canonical = path := by
  have hcan := (matchManagementPath_ok (resolveLocked_ok h).1).2.1
  exact Except.ok.inj (hcan.symm.trans hpa)

lemma removeAllPreflighted_ends
    (hpl : canonicalAbsoluteManagedPath plan.canonical = .ok plan.canonical) :
    (removeAllPreflightedLocked m plan).Ends w
      (fun _ w' => TreeRemoved plan.canonical w.state w'.state)
      (fun err w' => RemovalOfTreeFails plan.canonical w.state err w'.state) := by
  have hfa : ∀ (err : OpError) (tree' : ManagedTree), tree' = w.state →
      RemovalOfTreeFails plan.canonical w.state err tree' := by
    rintro err tree' rfl
    exact ⟨.refl _ _, .inl rfl⟩
  refine .bind ((openRemovalTarget_ends m plan.canonical w).impError fun err w' h => ?_) ?_
  · exact hfa err _ h
  rintro ⟨location, pid⟩ w1 ⟨hsta, -, hloc, hba⟩
  have htgt := target_of_resolveLocked hloc hba
  rw [resolveLocked_canonical hpl hloc] at htgt
  refine .seq (verifyManagedNameIdentity_ends ?_ fun err => hfa err _ hsta)
  refine inDirectoryAt_ends (fun directory hdirectory => ?_) fun _ => hfa _ _ hsta
  rw [show (⟨w1.state, w1.faults.tail⟩ : Faulty ManagedTree).state = w.state from hsta] at hdirectory ⊢
  refine removePrevalidated_ends.mono (fun _ v h => ?_) fun err v h => ?_
  · obtain ⟨htch, hgn⟩ := h
    refine ⟨htgt ▸ htch.below hdirectory, ?_⟩
    rw [← htgt, FileTree.get_updateAt_entry hdirectory]
    exact hgn
  · obtain ⟨htch, -, hk⟩ := h
    refine ⟨htgt ▸ htch.below hdirectory, ?_⟩
    by_cases hreps : Reports err
    · exact .inr hreps
    · refine .inl (FileTree.updateAt_self fun dir hdir => ?_)
      rw [hk hreps]
      exact some.inj (hdirectory.symm.trans hdir)

/-! ## 4. The loop of removals -/

/-- Trees at paths of which none is at or below another one. -/
def Apart (plans : List ManagedRemovalPlan) : Prop :=
  plans.Pairwise fun plan plan' => ¬ components plan.canonical <+: components plan'.canonical ∧
    ¬ components plan'.canonical <+: components plan.canonical

/-- The result so far says that something has changed if a tree has been removed. -/
def ManagedBatchMutationResult.Sound (result : ManagedBatchMutationResult) : Prop :=
  result.completed ≠ [] ↔ result.changed

/-- What the loop guarantees, from a result that is sound. -/
structure BatchHonest (plans : List ManagedRemovalPlan) (result : ManagedBatchMutationResult)
    (tree : ManagedTree) (outcome : BatchOutcome) : Prop where
  completed : outcome.err = none →
    outcome.result.completed = result.completed ++ plans.map (·.canonical)
  gone : outcome.err = none → ∀ plan ∈ plans, FileTree.get (components plan.canonical) outcome.tree = none
  others : ∀ path, (∀ plan ∈ plans, ¬ components plan.canonical <+: path ∧
    ¬ path <+: components plan.canonical) → FileTree.get path outcome.tree = FileTree.get path tree
  changed : result.changed → outcome.result.changed
  kept : outcome.result.changed = false → outcome.tree = tree
  reports : ∀ err, outcome.err = some err → outcome.tree ≠ tree ∨ result.changed →
    outcome.result.changed ∧ Reports err

lemma removePlans_honest {plans : List ManagedRemovalPlan} (hap : Apart plans)
    (hplans : ∀ plan ∈ plans, canonicalAbsoluteManagedPath plan.canonical = .ok plan.canonical) :
    ∀ (res : ManagedBatchMutationResult) (w : Faulty ManagedTree), res.Sound →
      BatchHonest plans res w.state (removePlans m plans res w) := by
  induction plans with
  | nil =>
    intro res w _
    refine ⟨fun _ => (append_nil _).symm, fun _ plan hplan => ?_, fun _ _ => rfl, fun h => h,
      fun _ => rfl, fun err herr => ?_⟩
    · cases hplan
    · cases herr
  | cons plan plans ih =>
    intro res w hsound
    obtain ⟨hfst, hap⟩ := pairwise_cons.mp hap
    have hends := removeAllPreflighted_ends (m := m) (w := w) (hplans plan (.head _))
    unfold removePlans
    rcases hends.cases with ⟨_, w', hrun, hrmvd⟩ | ⟨err, w', hrun, hfls⟩
    · rw [hrun]
      have hrs := ih hap (fun p hp => hplans p (.tail _ hp))
        ⟨res.completed ++ [plan.canonical], true⟩ w' (iff_of_true (by simp) rfl)
      refine ⟨fun hno => ?_, fun hno p hp => ?_, fun path hpa => ?_, fun _ => hrs.changed rfl,
        fun hk => ?_, fun err herr _ => hrs.reports err herr (.inr rfl)⟩
      · rw [hrs.completed hno, append_assoc]
        rfl
      · rcases mem_cons.mp hp with rfl | hp
        · rw [hrs.others _ fun other hother => (hfst other hother).symm]
          exact hrmvd.gone
        · exact hrs.gone hno p hp
      · rw [hrs.others path fun other hother => hpa other (mem_cons_of_mem _ hother)]
        obtain ⟨hbw, habove⟩ := hpa plan (.head _)
        exact hrmvd.touched.others path hbw habove
      · rw [hrs.changed rfl] at hk
        cases hk
    · rw [hrun]
      have hoth : ∀ path, (∀ p ∈ plan :: plans, ¬ components p.canonical <+: path ∧
          ¬ path <+: components p.canonical) → FileTree.get path w'.state = FileTree.get path w.state := by
        intro path hpa
        obtain ⟨hbw, habove⟩ := hpa plan (.head _)
        exact hfls.touched.others path hbw habove
      by_cases hrp : res.completed ≠ [] ∨ Reports err
      · simp only [if_pos hrp]
        refine ⟨fun hno => ?_, fun hno => ?_, hoth, fun _ => rfl, fun hk => ?_, fun e he _ => ?_⟩
        · cases hno
        · cases hno
        · cases hk
        · cases he
          exact ⟨rfl, reports_changedMutationError _ _ _⟩
      · simp only [if_neg hrp]
        obtain ⟨hno, hpl⟩ := not_or.mp hrp
        have hunch : ¬ res.changed := fun h => hno (hsound.mpr h)
        have hsm : w'.state = w.state := hfls.honest.resolve_right hpl
        refine ⟨fun hno => ?_, fun hno => ?_, hoth, fun h => h, fun _ => hsm, fun e _ hcase => ?_⟩
        · cases hno
        · cases hno
        · exact absurd hcase (not_or.mpr ⟨not_not.mpr hsm, hunch⟩)

/-! ## 5. The preparation -/

/-- What an accepted preflight has established about a tree. -/
structure Planned (m : ManagedRoots) (tree : ManagedTree) (plan : ManagedRemovalPlan)
    (location : ManagedLocation) (parentMountID : Nat) : Prop where
  opened : ∃ w, w.state = tree ∧ (openRemovalTarget m plan.canonical w).1 = .ok (location, parentMountID)
  resolved : m.resolveLocked plan.canonical = .ok location
  base : validatePathComponent location.base
  entry : ∃ entry, FileTree.get (components plan.canonical) tree = some entry ∧ entry.info.stat = plan.stat
  removable : ∃ dir, FileTree.get location.parent tree = some dir ∧
    Removable dir location.base parentMountID
  roots : ∀ root ∈ m.roots, pathContains plan.canonical root = false

variable {tree : ManagedTree}

lemma fstat_ok {path : List Bytes} {stat : FileStat} (h : fstat path tree = .ok stat) :
    ∃ entry, FileTree.get path tree = some entry ∧ entry.info.stat = stat := by
  unfold fstat fdInfo at h
  cases hget : FileTree.get path tree with
  | none =>
    rw [hget] at h
    cases h
  | some entry =>
    rw [hget] at h
    exact ⟨entry, rfl, Except.ok.inj h⟩

lemma preflight_ends (hpa : canonicalAbsoluteManagedPath path = .ok path) :
    (preflightRemoveAllLocked m path).Ends w
      (fun plan w' => w'.state = w.state ∧ plan.canonical = path ∧
        ∃ location pid, Planned m w.state plan location pid)
      (fun _ w' => w'.state = w.state) := by
  refine .bind (openRemovalTarget_ends m path w) ?_
  rintro ⟨location, pid⟩ w1 ⟨hsta, hopd, hloc, hba⟩
  have hcan := resolveLocked_canonical hpa hloc
  have htgt := target_of_resolveLocked hloc hba
  have hch : Replays Eq (openManagedTransferChild location.parent location.base) :=
    openManagedTransferChild_replays (P := fun _ => True) infoAgree_of_eq trivial
  refine .bind ((hch.ends w1).mono (fun _ _ h => h.2.trans hsta) fun _ _ h => h.trans hsta) ?_
  intro _ w2 hw2
  refine .bind ((rejectConfiguredRootAtOrBelow_ends m _ location.canonical w2).impError
    fun _ _ h => h.trans hw2) ?_
  rintro _ w3 ⟨hw3, hrts⟩
  have hw3 := hw3.trans hw2
  refine .seq (ask_ends (fun stat hstt => ?_) fun _ _ _ => hw3)
  refine .seq (closing_ends ?_ fun _ _ => hw3)
  refine .seq (inDirectoryAt_ends (fun directory hdirectory => ?_) fun _ => hw3)
  have hk : ∀ v : ManagedTree, v = directory →
      FileTree.updateAt (fun _ => v) location.parent w3.state = w.state := by
    rintro v rfl
    rw [← hw3]
    exact FileTree.updateAt_self fun dir hdir => some.inj (hdirectory.symm.trans hdir)
  refine validateRemovable_ends.mono (fun _ v hv => .pure ?_) fun _ v hv => hk _ hv.1
  rw [show (⟨w3.state, w3.faults.tail.tail⟩ : Faulty ManagedTree).state = w.state from hw3] at hdirectory
  obtain ⟨entry, hent, hstt⟩ := fstat_ok hstt
  rw [hw3, htgt] at hent
  refine ⟨hk _ hv.1, hcan, location, pid, ?_, ?_, hba, ⟨entry, hent, hstt⟩,
    ⟨directory, hdirectory, hv.2⟩, hrts⟩
  · exact ⟨w, rfl, hcan.symm ▸ hopd⟩
  · exact hcan.symm ▸ hloc

lemma preflightAll_ends {paths : List Bytes}
    (hpaths : ∀ path ∈ paths, canonicalAbsoluteManagedPath path = .ok path) (w : Faulty ManagedTree) :
    (preflightAll m paths).Ends w
      (fun plans w' => w'.state = w.state ∧ plans.map (·.canonical) = paths ∧
        ∀ plan ∈ plans, ∃ location pid, Planned m w.state plan location pid)
      (fun _ w' => w'.state = w.state) := by
  induction paths generalizing w with
  | nil =>
    refine .pure ⟨rfl, rfl, fun plan hpl => ?_⟩
    cases hpl
  | cons path paths ih =>
    refine .bind (preflight_ends (hpaths path (.head _))) ?_
    rintro plan w1 ⟨hw1, hcan, hpln⟩
    refine .bind ((ih (fun p hp => hpaths p (.tail _ hp)) w1).impError
      fun _ _ h => h.trans hw1) ?_
    rintro plans w2 ⟨hw2, hcans, hrs⟩
    refine .pure ⟨hw2.trans hw1, by rw [map_cons, hcan, hcans], fun p hp => ?_⟩
    rcases mem_cons.mp hp with rfl | hp
    · exact hpln
    · exact hw1 ▸ hrs p hp

/-- The paths of a batch, as the roots spell them. -/
def canonicalPath (m : ManagedRoots) (path : Bytes) : Except OpError Bytes :=
  (m.matchLocked path).map (·.canonical)

/-- A path below a root. -/
structure BelowRoot (path : Bytes) : Prop where
  canonical : canonicalAbsoluteManagedPath path = .ok path
  proper : components path ≠ []

lemma belowRoot_of_match (h : m.matchLocked path = .ok location) :
    BelowRoot location.canonical := by
  obtain ⟨hv, -, -⟩ := matchManagementPath_ok h
  refine ⟨hv.canonical, ?_⟩
  obtain ⟨configured, -, hcfgd⟩ := hv.root
  have hrt := (canonicalAbsoluteManagedPath_ok hcfgd).2.2
  rw [hv.components_eq]
  exact append_ne_nil_of_left_ne_nil (components_ne_nil hrt hv.proper) _

/-- Two paths overlap exactly if the components of one are the first ones of the other. -/
lemma managedPathsOverlap_iff {first second : Bytes} (hfst : BelowRoot first) (hsnd : BelowRoot second) :
    managedPathsOverlap first second ↔
      components first <+: components second ∨ components second <+: components first := by
  have h1 := absolutePath_of_canonical hfst.canonical
  have h2 := absolutePath_of_canonical hsnd.canonical
  rw [managedPathsOverlap, Bool.or_eq_true_iff, pathContains_iff h1 h2 hfst.proper,
    pathContains_iff h2 h1 hsnd.proper]

lemma matchBatch_ok {paths : List Bytes} : ∀ {before canonicals : List Bytes},
    matchBatch m paths before = .ok canonicals →
      ∃ found, canonicals = before ++ found ∧ paths.mapM (canonicalPath m) = .ok found ∧
        (∀ canonical ∈ found, BelowRoot canonical) ∧
        (before.Pairwise (fun a b => managedPathsOverlap a b = false) →
          canonicals.Pairwise fun a b => managedPathsOverlap a b = false) := by
  induction paths with
  | nil =>
    intro before canonicals h
    cases h
    refine ⟨[], (append_nil _).symm, rfl, fun c hc => ?_, fun h => h⟩
    cases hc
  | cons path paths ih =>
    intro before canonicals h
    obtain ⟨location, hloc, hrs⟩ := bind_eq_ok.mp h
    obtain ⟨-, hrs⟩ := check_bind_eq_ok.mp hrs
    obtain ⟨hovl, hrs⟩ := check_bind_eq_ok.mp hrs
    obtain ⟨found, hcans, hmap, hbw, hap⟩ := ih hrs
    have hpa : canonicalPath m path = .ok location.canonical := by
      rw [canonicalPath, hloc]
      rfl
    refine ⟨location.canonical :: found, ?_, ?_, fun c hc => ?_, fun hbef => hap ?_⟩
    · rw [hcans, append_assoc]
      rfl
    · rw [mapM_cons, hpa, ok_bind, hmap]
      rfl
    · rcases mem_cons.mp hc with rfl | hc
      · exact belowRoot_of_match hloc
      · exact hbw c hc
    · refine pairwise_append.mpr ⟨hbef, pairwise_singleton _ _, fun a ha b hb => ?_⟩
      obtain rfl := mem_singleton.mp hb
      exact Bool.eq_false_of_not_eq_true fun h => hovl ⟨a, ha, h⟩

/-- **Nothing changes before the first removal.** -/
theorem prepareBatch_ends (m : ManagedRoots) (paths : List Bytes) (w : Faulty ManagedTree) :
    (prepareBatch m paths).Ends w (fun plans w' => w'.state = w.state ∧
        paths.mapM (canonicalPath m) = .ok (plans.map (·.canonical)) ∧ Apart plans ∧
        (∀ plan ∈ plans, BelowRoot plan.canonical) ∧
        ∀ plan ∈ plans, ∃ location pid, Planned m w.state plan location pid)
      (fun _ w' => w'.state = w.state) := by
  refine .seq (.guard (fun _ => rfl) fun _ => .seq (.guard (fun _ => rfl) fun _ => ?_))
  refine .seq (.ofExcept (fun canonicals hcans => ?_) fun _ _ => rfl)
  obtain ⟨found, rfl, hmap, hbw, hap⟩ := matchBatch_ok hcans
  have hpairs := hap List.Pairwise.nil
  refine (preflightAll_ends (fun path hpa => (hbw path hpa).canonical) w).imp fun plans w' h => ?_
  obtain ⟨hsta, rfl, hpln⟩ := h
  have hplans : ∀ plan ∈ plans, BelowRoot plan.canonical :=
    fun plan hpl => hbw _ (List.mem_map_of_mem hpl)
  refine ⟨hsta, hmap, ?_, hplans, hpln⟩
  refine (pairwise_map.mp hpairs).imp_of_mem fun hpl hpl' hovl => not_or.mp fun h => ?_
  rw [(managedPathsOverlap_iff (hplans _ hpl) (hplans _ hpl')).mpr h] at hovl
  cases hovl

/-! ## 6. Removing what was accepted -/

/-- A tree that looks as it did when it was accepted. -/
structure StillPlanned (m : ManagedRoots) (location : ManagedLocation) (tree tree' : ManagedTree) : Prop where
  agree : InfoAgree (WatchedPath m location) tree tree'
  entry : FileTree.get (components location.canonical) tree'
    = FileTree.get (components location.canonical) tree

lemma removeAllPreflighted_quiet {pid : Nat}
    (hpl : BelowRoot plan.canonical) (h : Planned m tree plan location pid)
    (hw : w.Quiet) (hstl : StillPlanned m location tree w.state) :
    (removeAllPreflightedLocked m plan).Ends w (fun _ w' => w'.Quiet) (fun _ _ => False) := by
  have hcan := resolveLocked_canonical hpl.canonical h.resolved
  have htgt := target_of_resolveLocked h.resolved h.base
  have hrply : Replays (fun t t' => InfoAgree (WatchedPath m location) t t')
      (openRemovalTarget m plan.canonical) := by
    refine openRemovalTarget_replays fun found hfnd t t' hagree => ?_
    obtain rfl := Except.ok.inj (h.resolved.symm.trans hfnd)
    exact hagree
  obtain ⟨w0, rfl, hopd⟩ := h.opened
  obtain ⟨w1, hrun, hqt, hsta⟩ := hrply.again w0 _ hopd w hw hstl.agree
  refine .seq (.of_ok hrun ?_)
  obtain ⟨entry, hent, hstt⟩ := h.entry
  have hent' : FileTree.get (location.parent ++ [location.base]) w1.state = some entry := by
    rw [hsta, htgt, hstl.entry, hcan, hent]
  have hans : fstatAt location.parent location.base w1.state = .ok plan.stat := by
    rw [fstatAt, hent', ← hstt]
    rfl
  refine .seq (.seq (ask_quiet hqt hans (.guard (fun hbad => ?_) fun _ => ?_)))
  · exact absurd rfl (of_decide_eq_false hbad)
  obtain ⟨dir, hdir, hrem⟩ := h.removable
  refine inDirectoryAt_ends (fun directory hdirectory => ?_) fun hno => ?_
  · have hlk : directory.lookup location.base = dir.lookup location.base := by
      rw [← FileTree.get_entry hdirectory, ← FileTree.get_entry hdir, htgt, hcan, hent,
        ← hcan, ← htgt]
      exact hent'
    have hrem' := (removable_congr hlk h.base h.base).mpr hrem
    exact (removePrevalidated_quiet (w := ⟨directory, w1.faults.tail⟩) (hqt.tail _) hrem').mono
      (fun _ v hv => hv.1) fun _ _ hf => hf
  · rw [FileTree.get_append, show FileTree.get location.parent w1.state = none from hno] at hent'
    cases hent'

/-- The removal of one tree leaves the others acceptable. -/
lemma StillPlanned.after {tree' tree'' : ManagedTree} {canonical : Bytes}
    {pid : Nat} (h : StillPlanned m location tree tree')
    (hpln : Planned m tree plan location pid) (hpl : BelowRoot plan.canonical)
    (hcan : BelowRoot canonical)
    (hrts : ∀ root ∈ m.roots, pathContains canonical root = false)
    (hap : ¬ components canonical <+: components plan.canonical ∧
      ¬ components plan.canonical <+: components canonical)
    (htch : FileTree.TouchedBelow (components canonical) tree' tree'') :
    StillPlanned m location tree tree'' := by
  have hloc := resolveLocked_canonical hpl.canonical hpln.resolved
  have htgt := target_of_resolveLocked hpln.resolved hpln.base
  rw [hloc] at htgt
  constructor
  · intro path hpa
    rw [h.agree path hpa, htch.info path]
    intro hpre
    rcases hpa with hpa | ⟨root, hrt, hpa⟩
    · refine hap.1 (hpre.trans (hpa.trans ?_))
      rw [← htgt]
      exact prefix_append _ _
    · have hrt' := (m.normalized root hrt).1
      have hcont := (pathContains_iff (absolutePath_of_canonical hcan.canonical)
        (absolutePath_of_canonical hrt') hcan.proper).mpr (hpre.trans hpa)
      rw [hrts root hrt] at hcont
      cases hcont
  · rw [← h.entry]
    refine htch.others _ ?_ ?_
    · rw [hloc]
      exact hap.1
    · rw [hloc]
      exact hap.2

/-- **What was accepted is removed**, if nothing fails. -/
theorem removePlans_quiet (tree : ManagedTree) {plans : List ManagedRemovalPlan} (hap : Apart plans)
    (hplans : ∀ plan ∈ plans, BelowRoot plan.canonical) :
    ∀ (res : ManagedBatchMutationResult) (w : Faulty ManagedTree), w.Quiet →
      (∀ plan ∈ plans, ∃ location pid, Planned m tree plan location pid ∧
        StillPlanned m location tree w.state) →
        (removePlans m plans res w).err = none := by
  induction plans with
  | nil => exact fun _ _ _ _ => rfl
  | cons plan plans ih =>
    intro res w hw hpln
    obtain ⟨hfst, hap⟩ := pairwise_cons.mp hap
    have hpl := hplans plan (.head _)
    obtain ⟨location, pid, hthis, hstl⟩ := hpln plan (.head _)
    obtain ⟨_, w', hrun, hqt, hrmvd⟩ := ((removeAllPreflighted_quiet hpl hthis hw hstl).and
      (removeAllPreflighted_ends hpl.canonical)).impError (fun _ _ h => h.1) |>.returns
    unfold removePlans
    rw [hrun]
    refine ih hap (fun p hp => hplans p (.tail _ hp)) _ w' hqt fun p hp => ?_
    obtain ⟨location', pid', hpln', hstl'⟩ := hpln p (.tail _ hp)
    refine ⟨location', pid', hpln', ?_⟩
    exact hstl'.after hpln' (hplans p (.tail _ hp)) hpl hthis.roots (hfst p hp) hrmvd.touched

/-! ## 7. The call -/

lemma mapM_sublist {α β ε : Type} {f : α → Except ε β} {part list : List α} (h : part.Sublist list) :
    ∀ {found : List β}, list.mapM f = .ok found → ∃ found', part.mapM f = .ok found' ∧
      found'.Sublist found := by
  induction h with
  | slnil => exact fun hfnd => ⟨[], rfl, nil_sublist _⟩
  | cons a _ ih =>
    intro found hfnd
    rw [mapM_cons] at hfnd
    obtain ⟨b, -, hrs⟩ := bind_eq_ok.mp hfnd
    obtain ⟨rest, hrs, hcons⟩ := bind_eq_ok.mp hrs
    obtain ⟨found', hfnd', hsub⟩ := ih hrs
    obtain rfl := pure_eq_ok.mp hcons
    exact ⟨found', hfnd', hsub.cons b⟩
  | cons_cons a _ ih =>
    intro found hfnd
    rw [mapM_cons] at hfnd
    obtain ⟨b, hb, hrs⟩ := bind_eq_ok.mp hfnd
    obtain ⟨rest, hrs, hcons⟩ := bind_eq_ok.mp hrs
    obtain ⟨found', hfnd', hsub⟩ := ih hrs
    obtain rfl := pure_eq_ok.mp hcons
    exact ⟨b :: found', by rw [mapM_cons, hb, ok_bind, hfnd']; rfl, hsub.cons_cons b⟩

lemma removeAllBatch_cases (m : ManagedRoots) (paths : List Bytes) (w : Faulty ManagedTree) :
    (∃ err w', prepareBatch m paths w = (.error err, w') ∧
      removeAllBatch m paths w = ⟨⟨[], false⟩, some err, w.state⟩) ∨
    ∃ plans w', prepareBatch m paths w = (.ok plans, w') ∧ w'.state = w.state ∧
      removeAllBatch m paths w = removePlans m plans ⟨[], false⟩ w' ∧
      paths.mapM (canonicalPath m) = .ok (plans.map (·.canonical)) ∧ Apart plans ∧
      (∀ plan ∈ plans, BelowRoot plan.canonical) ∧
      ∀ plan ∈ plans, ∃ location parentMountID, Planned m w.state plan location parentMountID := by
  unfold removeAllBatch
  rcases (prepareBatch_ends m paths w).cases with ⟨plans, w', hrun, hsta, hplans⟩ | ⟨err, w', hrun, hsta⟩
  · rw [hrun]
    exact .inr ⟨plans, w', rfl, hsta, rfl, hplans⟩
  · rw [hrun]
    exact Or.inl ⟨err, w', rfl, by rw [← hsta]⟩

end

/-- **Batch removal reports soundly.** A nil error means that `Completed` lists all the paths and that
nothing is left of any of them. If something was unlinked and there is an error, the result and the
error both say so. If the result says that nothing changed, nothing did. If two of the requested paths
are equal, or one contains the other, nothing is touched. And if the preflight has accepted all the
trees and no call fails from there on, they are all removed. -/
theorem remove_all_batch_sound (m : ManagedRoots) (paths : List Bytes) (w : Faulty ManagedTree) :
    ((removeAllBatch m paths w).err = none →
      paths.mapM (canonicalPath m) = .ok (removeAllBatch m paths w).result.completed ∧
        ∀ canonical ∈ (removeAllBatch m paths w).result.completed,
          FileTree.get (components canonical) (removeAllBatch m paths w).tree = none) ∧
    (∀ err, (removeAllBatch m paths w).err = some err → (removeAllBatch m paths w).tree ≠ w.state →
      (removeAllBatch m paths w).result.changed = true ∧ Reports err) ∧
    ((removeAllBatch m paths w).result.changed = false → (removeAllBatch m paths w).tree = w.state) ∧
    (∀ path path' canonical canonical', List.Sublist [path, path'] paths →
      canonicalPath m path = .ok canonical → canonicalPath m path' = .ok canonical' →
      components canonical <+: components canonical' ∨ components canonical' <+: components canonical →
        (removeAllBatch m paths w).tree = w.state) ∧
    (∀ plans w', prepareBatch m paths w = (.ok plans, w') → w'.Quiet →
      (removeAllBatch m paths w).err = none) := by
  rcases removeAllBatch_cases m paths w with ⟨err, w', hrun, hbatch⟩ |
    ⟨plans, w', hrun, hstate, hbatch, hmap, hapart, hplans, hplanned⟩
  · rw [hbatch]
    refine ⟨fun h => ?_, fun _ _ hchanged => absurd rfl hchanged, fun _ => rfl, fun _ _ _ _ _ _ _ _ => rfl,
      fun plans w'' hok => ?_⟩
    · cases h
    · cases hrun.symm.trans hok
  · rw [hbatch, ← hstate]
    have hhonest := removePlans_honest (m := m) hapart (fun plan hplan => (hplans plan hplan).canonical)
      ⟨[], false⟩ w' (iff_of_false (fun h => h rfl) Bool.false_ne_true)
    refine ⟨fun hnone => ?_, fun err herr hchanged => hhonest.reports err herr (.inl hchanged),
      hhonest.kept, fun path path' canonical canonical' hsub hpath hpath' hoverlap => ?_,
      fun plans' w'' hok hquiet => ?_⟩
    · rw [hhonest.completed hnone]
      refine ⟨hmap, fun canonical hcanonical => ?_⟩
      obtain ⟨plan, hplan, rfl⟩ := mem_map.mp hcanonical
      exact hhonest.gone hnone plan hplan
    · obtain ⟨found, hfound, hsub⟩ := mapM_sublist hsub hmap
      rw [mapM_cons, hpath, ok_bind, mapM_cons, hpath', ok_bind] at hfound
      cases hfound
      have hpairs : (plans.map (·.canonical)).Pairwise fun a b =>
          ¬ components a <+: components b ∧ ¬ components b <+: components a := pairwise_map.mpr hapart
      have hpair := hpairs.sublist hsub
      obtain ⟨hnot, hnot'⟩ := rel_of_pairwise_cons hpair (.head _)
      exact absurd hoverlap (not_or.mpr ⟨hnot, hnot'⟩)
    · obtain ⟨rfl, rfl⟩ := Prod.mk.inj (hrun.symm.trans hok) |>.imp Except.ok.inj id
      refine removePlans_quiet w.state hapart hplans _ w' hquiet fun plan hplan => ?_
      obtain ⟨location, parentMountID, h⟩ := hplanned plan hplan
      exact ⟨location, parentMountID, h, infoAgree_of_eq _ _ hstate.symm, by rw [hstate]⟩

/-! ### A batch of two trees -/

def sampleRoots : ManagedRoots where
  closed := false
  roots := [[47, 114]]
  normalized := by
    intro root hroot
    obtain rfl := List.mem_singleton.mp hroot
    exact ⟨rfl, by decide⟩

def batchFile (ino : Nat) (type : FileType) : FileData :=
  ⟨⟨1, ino, type, 448, 1, 0, 0, 0, 0, 4096, 0, 0, 0⟩, some 1, []⟩

/-- `/r` holds a file `a` and a directory `b` with a link `c` in it. -/
def sampleTree : ManagedTree :=
  .node (batchFile 1 .directory) [([114], .node (batchFile 2 .directory)
    [([97], .node (batchFile 3 .regular) []),
      ([98], .node (batchFile 4 .directory) [([99], .node (batchFile 5 .symlink) [])])])]

/-- `/r/a` and `/r/b/` are removed together. -/
theorem sample_batch_removed :
    (removeAllBatch sampleRoots [[47, 114, 47, 97], [47, 114, 47, 98, 47]] ⟨sampleTree, []⟩).err = none ∧
      ∀ canonical ∈ (removeAllBatch sampleRoots [[47, 114, 47, 97], [47, 114, 47, 98, 47]]
          ⟨sampleTree, []⟩).result.completed,
        FileTree.get (components canonical)
          (removeAllBatch sampleRoots [[47, 114, 47, 97], [47, 114, 47, 98, 47]] ⟨sampleTree, []⟩).tree
            = none := by
  have hisNone : (removeAllBatch sampleRoots [[47, 114, 47, 97], [47, 114, 47, 98, 47]]
      ⟨sampleTree, []⟩).err.isNone = true := by decide +kernel
  have hnone := isNone_iff_eq_none.mp hisNone
  exact ⟨hnone, ((remove_all_batch_sound _ _ _).1 hnone).2⟩

end ReCasaOS.FileSecurity
