/-
# Removing a tree

`validateManagedRemovableEntryAt` (`managed_copy_linux.go`) walks a tree to see whether it may be
removed; `removeManagedEntryAtPrevalidated` (`managed_roots_linux.go`) removes it, entry by entry.
They are separate recursions with the same limits on depth and on the number of entries. The
source counts the depth up to `maxManagedRemoveDepth`; here `levels` counts what is left of it.
-/
import ReCasaOS.FileSecurity.ManagedTree

namespace ReCasaOS.FileSecurity

open Lib List Option Fallible

def maxManagedTreeEntries : Nat := 100000
def maxManagedRemoveDepth : Nat := 128

/-- The levels that a walk from depth 0 may use. -/
def managedLevels : Nat := maxManagedRemoveDepth + 1

/-! ## 1. The walk -/

/-- `if *entries >= maxManagedTreeEntries { .. }; *entries++`. -/
def countEntry (message : String) : Fallible (Faulty Nat) OpError Unit := do
  let w ← Fallible.get
  guard (maxManagedTreeEntries ≤ w.state) (textError message)
  Fallible.modify fun w => ⟨w.state + 1, w.faults⟩

/-- `validateManagedRemovableEntryAt`; the state is `*entries`. -/
def validateManagedRemovableEntryAt :
    (levels : Nat) → (parent : ManagedTree) → (name : Bytes) → (parentMountID : Nat) →
      (nested : Bool) → Fallible (Faulty Nat) OpError Unit
  | 0, _, name, _, _ => do
    guard (validatePathComponent name = false) (.leaf .unsafePath)
    fail (textError "managed replacement exceeds depth limit")
  | levels + 1, parent, name, parentMountID, nested => do
    guard (validatePathComponent name = false) (.leaf .unsafePath)
    countEntry "managed replacement exceeds entry limit"
    let mountID ← managedMountIDAt fun _ => parent.statx name
    guard (mountID ≠ parentMountID) (unsafeError "refusing to replace a mount boundary")
    let stat ← ask fun _ => parent.fstatat name
    match stat.type with
    | .regular =>
      guard (stat.nlink ≠ 1) (unsafeError "replacement target has multiple hard links")
    | .symlink =>
      guard (nested = false) (unsafeError "refusing to replace a symbolic link")
    | .directory => do
      let directory ← openAt fun _ => parent.openDirectory name
      Fallible.forEachEntry errnoError
        (fun child => validateManagedRemovableEntryAt levels directory child mountID true)
        directory.names 0 none
    | .special => fail (unsafeError "refusing to replace a special file")

/-! ## 2. The removal -/

/-- `managedRemovalState`, with the directory that the removal works in. -/
structure RemovalWorld where
  dir : ManagedTree
  entries : Nat
  changed : Bool

def managedRemovalFailure (w : Faulty RemovalWorld) (err : OpError) : OpError :=
  if w.state.changed = false then err
  else changedMutationError "managed recursive removal partially completed" false err

/-- A call that changes the directory. -/
def changeDirectory (change : ManagedTree → Except Errno Unit × ManagedTree) :
    Fallible (Faulty RemovalWorld) OpError Unit :=
  (call fun w => ((change w.dir).1, { w with dir := (change w.dir).2 })).onError
    fun _ code => errnoError code

/-- `state.changed = true`. -/
def recordChange : Fallible (Faulty RemovalWorld) OpError Unit :=
  Fallible.modify fun w => ⟨{ w.state with changed := true }, w.faults⟩

/-- The work on an open directory, the entry `name` of the current one. -/
def inDirectory {α : Type} (name : Bytes) (directory : ManagedTree)
    (work : Fallible (Faulty RemovalWorld) OpError α) : Fallible (Faulty RemovalWorld) OpError α :=
  zoom (fun w => { w with dir := directory })
    (fun w v => { v with dir := w.dir.set name v.dir }) work

/-- What there is to remove: the type of the entry, or `none` if it is gone. -/
def inspectRemoval (name : Bytes) (parentMountID : Nat) :
    Fallible (Faulty RemovalWorld) OpError (Option FileType) := do
  guard (validatePathComponent name = false) (.leaf .unsafePath)
  let w ← Fallible.get
  guard (maxManagedTreeEntries ≤ w.state.entries)
    (textError "managed removal exceeds entry limit")
  Fallible.modify fun w => ⟨{ w.state with entries := w.state.entries + 1 }, w.faults⟩
  match ← attempt (managedMountIDAt fun w : RemovalWorld => w.dir.statx name) with
  | .error err => if notExist err then pure none else fail err
  | .ok targetMountID =>
    guard (targetMountID ≠ parentMountID)
      (unsafeError "refusing to cross a mount boundary during removal")
    match ← attempt (ask fun w : RemovalWorld => w.dir.fstatat name) with
    | .error err => if notExist err then pure none else fail err
    | .ok stat => pure (some stat.type)

/-- The work on an open directory, with the removal of an entry. -/
def emptyDirectory (remove : (name : Bytes) → (mountID : Nat) → Fallible (Faulty RemovalWorld) OpError Unit)
    (parentMountID : Nat) (directory : ManagedTree) : Fallible (Faulty RemovalWorld) OpError Unit := do
  let openedMountID ← managedMountIDAt fun w : RemovalWorld => .ok w.dir.info.mountID
  guard (openedMountID ≠ parentMountID)
    (unsafeError "directory mount changed during removal")
  Fallible.forEachEntry errnoError (fun child => remove child openedMountID) directory.names 0 none
  closing

def removeManagedEntryAtPrevalidated :
    (levels : Nat) → (name : Bytes) → (parentMountID : Nat) →
      Fallible (Faulty RemovalWorld) OpError Unit
  | 0, name, _ =>
    onError (do
      guard (validatePathComponent name = false) (.leaf .unsafePath)
      fail (textError "managed removal exceeds depth limit")) managedRemovalFailure
  | levels + 1, name, parentMountID => do
    match ← (inspectRemoval name parentMountID).onError managedRemovalFailure with
    | none => pure ()
    | some .directory => do
      let directory ← (openAt fun w : RemovalWorld => w.dir.openDirectory name).onError
        managedRemovalFailure
      (inDirectory name directory
        (emptyDirectory (removeManagedEntryAtPrevalidated levels) parentMountID directory)).onError
        managedRemovalFailure
      (changeDirectory (·.rmdirat name)).onError managedRemovalFailure
      recordChange
      syncManagedDirectory "sync recursively removed managed directory parent" true
    | some _ => do
      (changeDirectory (·.unlinkat name)).onError managedRemovalFailure
      recordChange
      syncManagedDirectory "sync recursively removed managed entry parent" true

/-! ## 3. What a removal does -/

/-- What a removal of `name` may do to its directory, however it ends: nothing but the entry is
touched, and that one exactly if a change is put on record. -/
structure RemovalWorld.Advance (name : Bytes) (w w' : RemovalWorld) : Prop where
  info : w'.dir.info = w.dir.info
  others : ∀ n, n ≠ name → w'.dir.lookup n = w.dir.lookup n
  absent : w.dir.lookup name = none → w'.dir.lookup name = none
  changed : w.changed → w'.changed
  kept : w'.changed = false → w'.dir = w.dir
  lost : w.changed = false → w'.changed → w'.dir.lookup name ≠ w.dir.lookup name

namespace RemovalWorld.Advance

variable {name : Bytes} {w w' w'' : RemovalWorld}

lemma same (hdir : w'.dir = w.dir) (hchg : w'.changed = w.changed) : Advance name w w' := by
  refine ⟨by rw [hdir], fun _ _ => by rw [hdir], fun h => hdir ▸ h, fun h => hchg ▸ h,
    fun _ => hdir, fun hw hw' => ?_⟩
  rw [hchg, hw] at hw'
  cases hw'

lemma of_same (hdir : w'.dir = w.dir) (hchg : w'.changed = w.changed) (h : Advance name w' w'') :
    Advance name w w'' := by
  exact ⟨hdir ▸ h.info, hdir ▸ h.others, hdir ▸ h.absent, hchg ▸ h.changed, hdir ▸ h.kept,
    hchg ▸ hdir ▸ h.lost⟩

lemma unchanged (h : Advance name w w') (hk : w'.changed = false) : w.changed = false := by
  rw [← Bool.not_eq_true]
  intro hchg
  rw [h.changed hchg] at hk
  cases hk

lemma erase (h : Advance name w w') (hent : w.dir.lookup name ≠ none) :
    Advance name w { w' with dir := w'.dir.erase name, changed := true } := by
  refine ⟨h.info, fun n hn => (FileTree.lookup_erase_ne hn).trans (h.others n hn), fun hno => ?_,
    fun _ => rfl, fun hk => ?_, fun _ _ hsm => ?_⟩
  · exact absurd hno hent
  · cases hk
  · exact hent (hsm.symm.trans FileTree.lookup_erase_self)

lemma still_lost (h : Advance name w w') {n : Bytes} (hn : w.dir.lookup n = none) :
    w'.dir.lookup n = none := by
  by_cases hnm : n = name
  · subst hnm
    exact h.absent hn
  · rw [h.others n hnm]
    exact hn

end RemovalWorld.Advance

/-- A failure is reported as a change exactly if something has been unlinked. -/
def Honest (err : OpError) (w : RemovalWorld) : Prop := Reports err ↔ w.changed

/-- Before it is passed up, an error need only be no false alarm. -/
lemma honest_managedRemovalFailure {w : Faulty RemovalWorld} {err : OpError}
    (h : w.state.changed = false → ¬ Reports err) :
    Honest (managedRemovalFailure w err) w.state := by
  unfold Honest managedRemovalFailure
  by_cases hchg : w.state.changed = false
  · rw [if_pos hchg, hchg]
    exact iff_of_false (h hchg) Bool.false_ne_true
  · rw [if_neg hchg]
    exact iff_of_true (reports_changedMutationError _ _ _) (Bool.not_eq_false _ ▸ hchg)

/-- How a removal fails. -/
def RemovalFails (name : Bytes) (w : RemovalWorld) (err : OpError) (w' : Faulty RemovalWorld) : Prop :=
  w.Advance name w'.state ∧ Honest err w'.state

section

variable {name : Bytes} {w : Faulty RemovalWorld}
variable {dir : ManagedTree} {rest : List Bytes} {v v' : Faulty RemovalWorld}

lemma passed_up {α : Type} {m : Fallible (Faulty RemovalWorld) OpError α}
    {P : α → Faulty RemovalWorld → Prop} {w0 : RemovalWorld}
    (h : m.Ends w P fun err w' => w0.Advance name w'.state ∧
      (w'.state.changed = false → ¬ Reports err)) :
    (m.onError managedRemovalFailure).Ends w P (RemovalFails name w0) :=
  Ends.onError (h.mono (fun _ _ hP => hP) fun _ _ hE =>
    ⟨hE.1, honest_managedRemovalFailure hE.2⟩)

/-- What `inspectRemoval` finds. -/
def Found (name : Bytes) (dir : ManagedTree) : Option FileType → Prop
  | none => dir.lookup name = none
  | some type => ∃ entry, dir.lookup name = some entry ∧ entry.info.stat.type = type

lemma fstatat_absent (h : dir.fstatat name = .error .enoent) : dir.lookup name = none := by
  unfold ManagedTree.fstatat at h
  split at h
  · assumption
  · cases h

lemma statx_absent (h : dir.statx name = .error .enoent) : dir.lookup name = none := by
  unfold ManagedTree.statx at h
  split at h
  · assumption
  · cases h

lemma fstatat_ok {stat : FileStat} (h : dir.fstatat name = .ok stat) :
    ∃ entry, dir.lookup name = some entry ∧ entry.info.stat = stat := by
  unfold ManagedTree.fstatat at h
  split at h
  · cases h
  next entry hent =>
    exact ⟨entry, hent, Except.ok.inj h⟩

/-- The entry behind the answers of `fstatat` and `statx`. -/
lemma entry_of_stat {stat : FileStat} {mountID : Option Nat} (hstt : dir.fstatat name = .ok stat)
    (hmnt : dir.statx name = .ok mountID) :
    ∃ entry, dir.lookup name = some entry ∧ entry.info.stat = stat ∧ entry.info.mountID = mountID := by
  obtain ⟨entry, hent, hstt⟩ := fstatat_ok hstt
  rw [ManagedTree.statx, hent] at hmnt
  exact ⟨entry, hent, hstt, Except.ok.inj hmnt⟩

lemma inspectRemoval_ends (name : Bytes) (pid : Nat) (w : Faulty RemovalWorld) :
    (inspectRemoval name pid).Ends w
      (fun found w' => w'.state.dir = w.state.dir ∧ w'.state.changed = w.state.changed ∧
        Found name w.state.dir found)
      (fun err w' => w'.state.dir = w.state.dir ∧ w'.state.changed = w.state.changed ∧
        Simple err) := by
  refine .seq (.guard (fun _ => ⟨rfl, rfl, simple_leaf _⟩) fun _ => ?_)
  refine .seq (.get (.seq (.guard (fun _ => ⟨rfl, rfl, simple_leaf _⟩) fun _ => ?_)))
  refine .seq (.modify (.seq (.attempt (managedMountIDAt_ends (fun targetMountID hmnt => ?_) ?_))))
  · refine .seq (.guard (fun _ => ⟨rfl, rfl, simple_wrapped _ _⟩) fun _ => ?_)
    refine .seq (.attempt (ask_ends (fun stat hstt => .pure ⟨rfl, rfl, ?_⟩) fun err herr habs => ?_))
    · obtain ⟨entry, hent, rfl⟩ := fstatat_ok hstt
      exact ⟨entry, hent, rfl⟩
    · exact absent_ends (fun h => ⟨rfl, rfl, fstatat_absent (habs h)⟩) ⟨rfl, rfl, herr⟩
  · intro err herr habs
    exact absent_ends (fun h => ⟨rfl, rfl, statx_absent (habs h)⟩) ⟨rfl, rfl, herr⟩

/-- A call that unlinks `name` or does nothing. -/
def Unlinks (name : Bytes) (change : ManagedTree → Except Errno Unit × ManagedTree) : Prop :=
  ∀ dir, (∃ code, change dir = (.error code, dir)) ∨ change dir = (.ok (), dir.erase name)

lemma unlinks_unlinkat (name : Bytes) : Unlinks name (·.unlinkat name) := by
  intro dir
  show (∃ code, dir.unlinkat name = _) ∨ dir.unlinkat name = _
  unfold ManagedTree.unlinkat
  split
  · exact .inl ⟨_, rfl⟩
  · split
    · exact .inl ⟨_, rfl⟩
    · exact .inr rfl

lemma unlinks_rmdirat (name : Bytes) : Unlinks name (·.rmdirat name) := by
  intro dir
  show (∃ code, dir.rmdirat name = _) ∨ dir.rmdirat name = _
  unfold ManagedTree.rmdirat
  split
  · exact .inl ⟨_, rfl⟩
  · split
    · exact .inl ⟨_, rfl⟩
    · split
      · exact .inl ⟨_, rfl⟩
      · exact .inr rfl

lemma changeDirectory_ends {change : ManagedTree → Except Errno Unit × ManagedTree}
    {P : Unit → Faulty RemovalWorld → Prop} {E : OpError → Faulty RemovalWorld → Prop}
    (hchn : Unlinks name change)
    (hok : P () ⟨{ w.state with dir := w.state.dir.erase name }, w.faults.tail⟩)
    (herr : ∀ err, Simple err → E err w.later) :
    (changeDirectory change).Ends w P E := by
  refine .onError (.call (fun _ _ => herr _ (simple_leaf _)) (fun _ hdn => ?_) fun code hco => ?_)
  · rcases hchn w.state.dir with ⟨code, hfls⟩ | herases
    · rw [hfls] at hdn
      cases hdn
    · show P () ⟨{ w.state with dir := (change w.state.dir).2 }, w.faults.tail⟩
      rw [herases]
      exact hok
  · show E _ ⟨{ w.state with dir := (change w.state.dir).2 }, w.faults.tail⟩
    rcases hchn w.state.dir with ⟨code, hfls⟩ | herases
    · rw [hfls]
      exact herr _ (simple_leaf _)
    · rw [herases] at hco
      cases hco

/-- How a removal ends normally. -/
def RemovalEnds (name : Bytes) (w : RemovalWorld) (w' : Faulty RemovalWorld) : Prop :=
  w.Advance name w'.state ∧ w'.state.dir.lookup name = none

/-- The end of a removal: the entry is unlinked, that is put on record, and the directory is
synchronized. -/
lemma unlink_ends {change : ManagedTree → Except Errno Unit × ManagedTree} (op : String)
    {w0 : RemovalWorld} (hw : w0.Advance name w.state) (hent : w0.dir.lookup name ≠ none)
    (hchn : Unlinks name change) :
    (do (changeDirectory change).onError managedRemovalFailure
        recordChange
        syncManagedDirectory op true).Ends w (fun _ w' => RemovalEnds name w0 w')
      (RemovalFails name w0) := by
  have hadv := hw.erase hent
  refine .seq (passed_up (changeDirectory_ends hchn ?_ fun err herr => ?_))
  · refine .seq (.modify (syncManagedDirectory_ends op ⟨hadv, ?_⟩ fun err herr => ?_))
    · exact FileTree.lookup_erase_self
    · exact ⟨hadv, iff_of_true herr rfl⟩
  · exact ⟨hw, fun _ => herr.simple_not_reports⟩

/-- Between two visits the entries visited are gone. -/
structure Emptying (w : RemovalWorld) (rest : List Bytes) (v : Faulty RemovalWorld) : Prop where
  info : v.state.dir.info = w.dir.info
  gone : ∀ n, n ∉ rest → v.state.dir.lookup n = none
  changed : w.changed → v.state.changed
  kept : v.state.changed = false → v.state.dir = w.dir
  lost : w.changed = false → v.state.changed →
    ∃ n, w.dir.lookup n ≠ none ∧ v.state.dir.lookup n = none

/-- How the work in a directory fails. -/
structure EmptyingFails (w : RemovalWorld) (err : OpError) (v : Faulty RemovalWorld) : Prop where
  changed : w.changed → v.state.changed
  kept : v.state.changed = false → v.state.dir = w.dir
  lost : w.changed = false → v.state.changed → v.state.dir ≠ w.dir
  reports : v.state.changed = false → ¬ Reports err

lemma Emptying.ne {w : RemovalWorld} (h : Emptying w rest v) (hw : w.changed = false)
    (hv : v.state.changed) : v.state.dir ≠ w.dir := by
  obtain ⟨n, hbef, haf⟩ := h.lost hw hv
  intro hsm
  exact hbef (hsm ▸ haf)

lemma Emptying.fails {w : RemovalWorld} {err : OpError} (h : Emptying w rest v)
    (hsta : v'.state = v.state) (herr : Simple err) : EmptyingFails w err v' := by
  constructor
  · rw [hsta]
    exact h.changed
  · rw [hsta]
    exact h.kept
  · rw [hsta]
    exact h.ne
  · exact fun _ => herr.simple_not_reports

lemma emptying_readInvariant (w : RemovalWorld) :
    Fallible.ReadInvariant errnoError (Emptying w) (EmptyingFails w) where
  read _ _ h := ⟨h.info, h.gone, h.changed, h.kept, h.lost⟩
  failed _ _ _ _ _ _ _ h := h.fails rfl (simple_leaf _)

variable {directory : ManagedTree}

lemma Emptying.start {w : Faulty RemovalWorld} (h : w.state.dir = directory) :
    Emptying w.state directory.names w := by
  refine ⟨rfl, fun n hn => h ▸ FileTree.lookup_eq_none hn, fun h => h, fun _ => rfl, fun hw hv => ?_⟩
  rw [hw] at hv
  cases hv

lemma Emptying.visit {w : RemovalWorld} {n : Bytes} (h : Emptying w (n :: rest) v)
    (hv : RemovalEnds n v.state v') : Emptying w rest v' := by
  obtain ⟨hadv, hgn⟩ := hv
  refine ⟨hadv.info.trans h.info, fun m hm => ?_, fun hw => hadv.changed (h.changed hw),
    fun hk => ?_, fun hw hv' => ?_⟩
  · by_cases hmn : m = n
    · exact hmn ▸ hgn
    · rw [hadv.others m hmn]
      exact h.gone m (not_mem_cons_of_ne_of_not_mem hmn hm)
  · exact (hadv.kept hk).trans (h.kept (hadv.unchanged hk))
  · cases hv : v.state.changed with
    | false =>
      refine ⟨n, fun hno => ?_, hgn⟩
      rw [← h.kept hv] at hno
      exact hadv.lost hv hv' (hgn.trans hno.symm)
    | true =>
      obtain ⟨m, hbef, haf⟩ := h.lost hw hv
      exact ⟨m, hbef, hadv.still_lost haf⟩

lemma Emptying.visit_fails {w : RemovalWorld} {n : Bytes} {err : OpError}
    (h : Emptying w (n :: rest) v) (hv : RemovalFails n v.state err v') :
    EmptyingFails w err v' := by
  obtain ⟨hadv, hhonest⟩ := hv
  refine ⟨fun hw => hadv.changed (h.changed hw), fun hk => ?_, fun hw hv' hsm => ?_,
    fun hk hreps => ?_⟩
  · exact (hadv.kept hk).trans (h.kept (hadv.unchanged hk))
  · cases hv : v.state.changed with
    | false =>
      apply hadv.lost hv hv'
      rw [hsm, h.kept hv]
    | true =>
      obtain ⟨m, hbef, haf⟩ := h.lost hw hv
      exact hbef (hsm ▸ hadv.still_lost haf)
  · rw [hhonest.mp hreps] at hk
    cases hk

/-- The work in an open directory changes only the entry that it is. -/
lemma advance_set {v : RemovalWorld} {w : RemovalWorld}
    (hent : w.dir.lookup name = some directory) (hchg : w.changed → v.changed)
    (hk : v.changed = false → v.dir = directory)
    (hlost : w.changed = false → v.changed → v.dir ≠ directory) :
    w.Advance name { v with dir := w.dir.set name v.dir } := by
  have hpres : w.dir.lookup name ≠ none := by
    rw [hent]
    exact some_ne_none directory
  refine ⟨rfl, fun n hn => FileTree.lookup_set_ne hn, fun hno => absurd hno hpres, hchg,
    fun h => ?_, fun hw hv hsm => ?_⟩
  · show w.dir.set name v.dir = w.dir
    rw [hk h]
    exact FileTree.set_self hent
  · have hset : (w.dir.set name v.dir).lookup name = some v.dir := FileTree.lookup_set_self hpres
    exact hlost hw hv (some.inj (hset.symm.trans (hsm.trans hent)))

lemma openDirectory_ok (h : dir.openDirectory name = .ok directory) :
    dir.lookup name = some directory ∧ directory.info.stat.type = .directory := by
  unfold ManagedTree.openDirectory at h
  split at h
  · cases h
  next entry hent =>
    split at h
    next hty =>
      cases h
      exact ⟨hent, hty⟩
    · cases h
    · cases h

lemma openDirectory_eq {entry : ManagedTree} (hent : dir.lookup name = some entry)
    (hty : entry.info.stat.type = .directory) : dir.openDirectory name = .ok entry := by
  simp only [ManagedTree.openDirectory, hent, hty]

/-- The work in an open directory, given what the removal of an entry does. -/
lemma emptyDirectory_ends
    {remove : (name : Bytes) → (mountID : Nat) → Fallible (Faulty RemovalWorld) OpError Unit}
    (hremove : ∀ name mountID w, (remove name mountID).Ends w
      (fun _ w' => RemovalEnds name w.state w') (RemovalFails name w.state))
    (pid : Nat) (w : Faulty RemovalWorld) (directory : ManagedTree)
    (hw : w.state.dir = directory) :
    (emptyDirectory remove pid directory).Ends w (fun _ v => Emptying w.state [] v)
      (EmptyingFails w.state) := by
  have hsrt : Emptying w.state directory.names w :=
    .start hw
  refine .seq (managedMountIDAt_ends (fun openedMountID _ => ?_) fun err herr _ => hsrt.fails rfl herr)
  refine .seq (.guard (fun _ => hsrt.fails rfl (simple_wrapped _ _)) fun _ => ?_)
  refine .bind (Fallible.forEachEntry_ends (emptying_readInvariant w.state) ?_
    (emptying_readInvariant w.state |>.read _ _ hsrt) fun e he => ?_) fun _ v hv => ?_
  · intro name rest v _ hv
    exact (hremove name openedMountID v).mono (fun _ _ h => hv.visit h) fun _ _ h => hv.visit_fails h
  · cases he
  · exact closing_ends ((emptying_readInvariant w.state).read _ _ hv) fun err herr => hv.fails rfl herr

end

variable (levels : Nat)

/-- **A removal is honest.** If it returns normally the name is gone. If it fails, the error
reports a change exactly if an entry has been unlinked. Nothing but the entry is touched, and not
even that one unless a change is on record. -/
theorem remove_ends : ∀ (name : Bytes) (pid : Nat) (w : Faulty RemovalWorld),
    (removeManagedEntryAtPrevalidated levels name pid).Ends w
      (fun _ w' => RemovalEnds name w.state w') (RemovalFails name w.state) := by
  induction levels with
  | zero =>
    intro name pid w
    have hsm : w.state.Advance name w.state := .same rfl rfl
    refine passed_up (.seq (.guard (fun _ => ?_) fun _ => .fail ?_))
    · exact ⟨hsm, fun _ => (simple_leaf _).simple_not_reports⟩
    · exact ⟨hsm, fun _ => (simple_leaf _).simple_not_reports⟩
  | succ levels ih =>
    intro name pid w
    refine .bind (passed_up ((inspectRemoval_ends name pid w).impError ?_)) ?_
    · intro err w' ⟨hdir, hchg, herr⟩
      exact ⟨.same hdir hchg, fun _ => herr.simple_not_reports⟩
    · intro found w1 ⟨hdir, hchg, hfnd⟩
      have hw1 : w.state.Advance name w1.state := .same hdir hchg
      cases found with
      | none => exact .pure ⟨hw1, hdir ▸ hfnd⟩
      | some type =>
        have hpres : w.state.dir.lookup name ≠ none := by
          obtain ⟨entry, hent, -⟩ := hfnd
          rw [hent]
          exact some_ne_none entry
        cases type with
        | directory =>
          refine .seq (passed_up (openAt_ends (fun directory hop => ?_) fun err herr => ?_))
          · obtain ⟨hent, -⟩ := openDirectory_ok hop
            refine .seq (passed_up (.zoom ((emptyDirectory_ends ih _ _ directory rfl).mono ?_ ?_)))
            · intro _ v h
              refine unlink_ends _ (.of_same hdir hchg (advance_set hent h.changed h.kept h.ne)) ?_
                (unlinks_rmdirat name)
              exact hpres
            · intro err v h
              exact ⟨.of_same hdir hchg (advance_set hent h.changed h.kept h.lost), h.reports⟩
          · exact ⟨hw1, fun _ => herr.simple_not_reports⟩
        | _ => exact unlink_ends _ hw1 hpres (unlinks_unlinkat name)

/-! ## 4. The limits

`removable` is what the walk accepts, without the calls: it counts on from `count` and has no value
if a limit is exceeded, a mount is crossed, or there is an entry of a kind that is not removed. -/

/-- The part that depends on the type of the entry. -/
def removableKind (walk : ManagedTree → Bytes → Nat → Bool → Nat → Option Nat) (entry : ManagedTree)
    (mountID : Nat) (nested : Bool) (count : Nat) : Option Nat :=
  match entry.info.stat.type with
  | .regular => if entry.info.stat.nlink ≠ 1 then none else some count
  | .symlink => if nested = false then none else some count
  | .directory => entry.names.foldlM (fun count child => walk entry child mountID true count) count
  | .special => none

def removable : (levels : Nat) → (parent : ManagedTree) → (name : Bytes) → (mountID : Nat) →
    (nested : Bool) → (count : Nat) → Option Nat
  | 0, _, _, _, _, _ => none
  | levels + 1, parent, name, mountID, nested, count =>
    if validatePathComponent name = false ∨ maxManagedTreeEntries ≤ count then none
    else
      match parent.lookup name with
      | none => none
      | some entry =>
        if entry.info.mountID ≠ some mountID then none
        else removableKind (removable levels) entry mountID nested (count + 1)

lemma removable_succ {levels mountID count count' : Nat} {parent : ManagedTree} {name : Bytes}
    {nested : Bool} (h : removable (levels + 1) parent name mountID nested count = some count') :
    validatePathComponent name ∧ count < maxManagedTreeEntries ∧
      ∃ entry, parent.lookup name = some entry ∧ entry.info.mountID = some mountID ∧
        ((entry.info.stat.type = .regular ∧ entry.info.stat.nlink = 1 ∧ count' = count + 1) ∨
          (entry.info.stat.type = .symlink ∧ nested ∧ count' = count + 1) ∨
          (entry.info.stat.type = .directory ∧
            entry.names.foldlM (fun count child => removable levels entry child mountID true count)
              (count + 1) = some count')) := by
  unfold removable at h
  split at h
  · cases h
  rename_i hnm
  rw [not_or, Bool.not_eq_false, not_le] at hnm
  split at h
  · cases h
  rename_i entry hent
  split at h
  · cases h
  rename_i hmnt
  refine ⟨hnm.1, hnm.2, entry, hent, not_not.mp hmnt, ?_⟩
  unfold removableKind at h
  cases hty : entry.info.stat.type with
  | regular =>
    rw [hty] at h
    obtain ⟨hlink, heq⟩ := ite_none_left_eq_some.mp h
    exact .inl ⟨rfl, not_not.mp hlink, (some.inj heq).symm⟩
  | symlink =>
    rw [hty] at h
    obtain ⟨hnest, heq⟩ := ite_none_left_eq_some.mp h
    exact .inr (.inl ⟨rfl, Bool.eq_true_of_not_eq_false hnest, (some.inj heq).symm⟩)
  | directory =>
    rw [hty] at h
    exact .inr (.inr ⟨rfl, h⟩)
  | special =>
    rw [hty] at h
    cases h

lemma validate_ends : ∀ (parent : ManagedTree) (name : Bytes) (mountID : Nat)
    (nested : Bool) (w : Faulty Nat),
    (validateManagedRemovableEntryAt levels parent name mountID nested).Ends w
      (fun _ w' => removable levels parent name mountID nested w.state = some w'.state)
      (fun err _ => Simple err) := by
  induction levels with
  | zero =>
    intro parent name mountID nested w
    exact .seq (.guard (fun _ => simple_leaf _) fun _ => .fail (simple_leaf _))
  | succ levels ih =>
    intro parent name mountID nested w
    refine .seq (.guard (fun _ => simple_leaf _) fun hnm => ?_)
    refine .seq (.seq (.get (.seq (.guard (fun _ => simple_leaf _) fun hcnt => .modify ?_))))
    refine .seq (managedMountIDAt_ends (fun targetMountID hmnt => ?_) fun err herr _ => herr)
    refine .seq (.guard (fun _ => simple_wrapped _ _) fun hsm => ?_)
    obtain rfl : targetMountID = mountID := not_not.mp hsm
    refine .seq (ask_ends (fun stat hstt => ?_) fun err herr _ => herr)
    obtain ⟨entry, hent, rfl, hmnt⟩ := entry_of_stat hstt hmnt
    have hlimits : ¬ (validatePathComponent name = false ∨ maxManagedTreeEntries ≤ w.state) :=
      not_or.mpr ⟨hnm, hcnt⟩
    have hwalk : ∀ count', removableKind (removable levels) entry targetMountID nested (w.state + 1)
        = some count' → removable (levels + 1) parent name targetMountID nested w.state = some count' := by
      intro count' hkind
      rw [removable, if_neg hlimits, hent]
      exact (if_neg (not_not.mpr hmnt)).trans hkind
    cases hty : entry.info.stat.type with
    | regular =>
      refine .guard (fun _ => simple_wrapped _ _) fun hlink => hwalk _ ?_
      rw [removableKind, hty]
      exact if_neg hlink
    | symlink =>
      refine .guard (fun _ => simple_wrapped _ _) fun hnest => hwalk _ ?_
      rw [removableKind, hty]
      exact if_neg hnest
    | special => exact .fail (simple_wrapped _ _)
    | directory =>
      refine .seq (openAt_ends (fun directory hop => ?_) fun err herr => herr)
      obtain ⟨hdir, -⟩ := openDirectory_ok hop
      obtain rfl : entry = directory := some.inj (hent.symm.trans hdir)
      -- the count so far is that of the entries visited
      refine (Fallible.forEachEntry_ends
        (I := fun rest v => ∃ done, done ++ rest = entry.names ∧ done.foldlM
          (fun count child => removable levels entry child targetMountID true count) (w.state + 1)
            = some v.state)
        ⟨fun _ _ h => h, fun _ _ _ _ _ _ _ _ => simple_leaf _⟩ ?_ ⟨[], rfl, rfl⟩ ?_).mono ?_
        (fun _ _ h => h)
      · rintro child rest v - ⟨done, hdn, hcnt⟩
        refine (ih entry child targetMountID true v).imp fun _ v' hv' => ?_
        refine ⟨done ++ [child], by rw [append_assoc]; exact hdn, ?_⟩
        rw [foldlM_append, hcnt, bind_eq_bind, bind_some, foldlM_cons, hv']
        rfl
      · intro err herr
        cases herr
      · rintro _ v ⟨done, hdn, hcnt⟩
        refine hwalk _ ?_
        rw [append_nil] at hdn
        rw [removableKind, hty, ← hdn]
        exact hcnt

/-- The walk accepts nothing else: within the limits it does not fail, if no call does. -/
lemma validate_quiet : ∀ {parent : ManagedTree} {name : Bytes} {mountID : Nat}
    {nested : Bool} {count' : Nat} {w : Faulty Nat}, w.Quiet →
    removable levels parent name mountID nested w.state = some count' →
      (validateManagedRemovableEntryAt levels parent name mountID nested).Ends w
        (fun _ w' => w'.Quiet ∧ w'.state = count') (fun _ _ => False) := by
  induction levels with
  | zero =>
    intro parent name mountID nested count' w _ h
    cases h
  | succ levels ih =>
    intro parent name mountID nested count' w hw h
    obtain ⟨hnm, hcnt, entry, hent, hmnt, hkind⟩ := removable_succ h
    have hstatx : parent.statx name = .ok (some mountID) := by
      rw [ManagedTree.statx, hent]
      exact congrArg Except.ok hmnt
    have hstt : parent.fstatat name = .ok entry.info.stat := by
      rw [ManagedTree.fstatat, hent]
    have hqt : ∀ n : Nat, Faulty.Quiet ⟨n, w.faults.tail.tail⟩ := fun n => (hw.tail n).tail n
    refine .seq (.guard (fun h => absurd (hnm.symm.trans h) Bool.noConfusion) fun _ => ?_)
    refine .seq (.seq (.get (.seq (.guard (fun h => absurd h (not_le.mpr hcnt)) fun _ => .modify ?_))))
    refine .seq (managedMountIDAt_quiet hw hstatx (.seq (.guard (fun h => absurd rfl h) fun _ => ?_)))
    refine .seq (ask_quiet (hw.tail _) hstt ?_)
    rcases hkind with ⟨hty, hlink, rfl⟩ | ⟨hty, hnest, rfl⟩ | ⟨hty, hfold⟩
    · rw [hty]
      exact .guard (fun h => absurd hlink h) fun _ => ⟨hqt _, rfl⟩
    · rw [hty]
      exact .guard (fun h => absurd (hnest.symm.trans h) Bool.noConfusion) fun _ => ⟨hqt _, rfl⟩
    · rw [hty]
      refine .seq (openAt_quiet (hqt _) (openDirectory_eq hent hty) ?_)
      refine (Fallible.forEachEntry_ends (I := fun rest v => v.Quiet ∧ rest.foldlM
        (fun count child => removable levels entry child mountID true count) v.state = some count')
        ⟨fun _ v h => ⟨h.1.tail _, h.2⟩, fun _ v h failure hnx => ?_⟩ ?_ ⟨(hqt _).tail _, hfold⟩
        fun e he => ?_).imp fun _ v h => ?_
      · rw [h.1.next] at hnx
        cases hnx
      · rintro child rest v - ⟨hv, hrs⟩
        obtain ⟨n, hn, hrs⟩ := bind_eq_some_iff.mp hrs
        refine (ih hv hn).imp fun _ v' hv' => ?_
        obtain ⟨hqt, rfl⟩ := hv'
        exact ⟨hqt, hrs⟩
      · cases he
      · exact ⟨h.1, some.inj h.2⟩

lemma foldlM_le {α : Type} {f : Nat → α → Option Nat} (hf : ∀ n a m, f n a = some m → n ≤ m)
    {list : List α} {n m : Nat} (h : list.foldlM f n = some m) : n ≤ m := by
  induction list generalizing n with
  | nil => exact (some.inj h).le
  | cons a list ih =>
    obtain ⟨k, hk, hrs⟩ := bind_eq_some_iff.mp h
    exact (hf n a k hk).trans (ih hrs)

lemma removable_lt : ∀ {parent : ManagedTree} {name : Bytes} {mountID : Nat}
    {nested : Bool} {count count' : Nat},
    removable levels parent name mountID nested count = some count' → count < count' := by
  induction levels with
  | zero =>
    intro parent name mountID nested count count' h
    cases h
  | succ levels ih =>
    intro parent name mountID nested count count' h
    obtain ⟨-, -, entry, -, -, hkind⟩ := removable_succ h
    rcases hkind with ⟨-, -, rfl⟩ | ⟨-, -, rfl⟩ | ⟨-, hfold⟩
    · exact Nat.lt_succ_self count
    · exact Nat.lt_succ_self count
    · refine Nat.lt_of_succ_le (foldlM_le (fun n child m hm => (ih hm).le) hfold)

/-! ## 5. Removing what the walk has accepted -/

/-- What the removal of `name` starts from: at most `count` entries are counted, and the name is bound
to `entry` or to nothing any more. -/
structure Accepted (name : Bytes) (entry : ManagedTree) (count : Nat) (w : Faulty RemovalWorld) : Prop where
  quiet : w.Quiet
  count : w.state.entries ≤ count
  entry : w.state.dir.lookup name = some entry ∨ w.state.dir.lookup name = none

section

variable {name : Bytes} {w : Faulty RemovalWorld} {E : OpError → Faulty RemovalWorld → Prop}

/-- Where a removal ends that nothing disturbs. -/
def QuietEnd (count : Nat) (w : Faulty RemovalWorld) : Prop := w.Quiet ∧ w.state.entries ≤ count

variable {mountID count : Nat}

lemma inspectRemoval_quiet {entry : ManagedTree} (hw : Accepted name entry count w)
    (hnm : validatePathComponent name) (hcnt : count < maxManagedTreeEntries)
    (hmnt : entry.info.mountID = some mountID) :
    (inspectRemoval name mountID).Ends w
      (fun found w' => QuietEnd (count + 1) w' ∧ w'.state.dir = w.state.dir ∧
        (found = none ∨ found = some entry.info.stat.type ∧ w.state.dir.lookup name = some entry)) E := by
  have hes := hw.count
  refine .seq (.guard (fun h => absurd (hnm.symm.trans h) Bool.noConfusion) fun _ => ?_)
  refine .seq (.get (.seq (.guard (fun h => absurd h (by omega)) fun _ => .seq (.modify ?_))))
  rcases hw.entry with hent | hno
  · have hstatx : w.state.dir.statx name = .ok (some mountID) := by
      rw [ManagedTree.statx, hent]
      exact congrArg Except.ok hmnt
    have hstt : w.state.dir.fstatat name = .ok entry.info.stat := by
      rw [ManagedTree.fstatat, hent]
    refine .seq (.attempt (managedMountIDAt_quiet hw.quiet hstatx ?_))
    refine .seq (.guard (fun h => absurd rfl h) fun _ => ?_)
    refine .seq (.attempt (ask_quiet (hw.quiet.tail _) hstt (.pure ⟨⟨?_, ?_⟩, rfl, ?_⟩)))
    · exact (hw.quiet.tail w.state).tail _
    · exact Nat.succ_le_succ hes
    · exact .inr ⟨rfl, hent⟩
  · have hstatx : w.state.dir.statx name = .error .enoent := by
      rw [ManagedTree.statx, hno]
    refine .seq (.attempt (managedMountIDAt_absent hw.quiet hstatx (.pure ⟨⟨?_, ?_⟩, rfl, .inl rfl⟩)))
    · exact hw.quiet.tail _
    · exact Nat.succ_le_succ hes

lemma unlink_quiet {change : ManagedTree → Except Errno Unit × ManagedTree} (op : String)
    (hw : QuietEnd count w)
    (hchn : change w.state.dir = (.ok (), w.state.dir.erase name)) :
    (do (changeDirectory change).onError managedRemovalFailure
        recordChange
        syncManagedDirectory op true).Ends w (fun _ w' => QuietEnd count w') E := by
  have hca : ((change w.state.dir).1, { w.state with dir := (change w.state.dir).2 })
      = (.ok (), { w.state with dir := w.state.dir.erase name }) := by
    rw [hchn]
  refine .seq (.onError (.onError (.call_quiet hw.1 hca (.seq (.modify ?_)))))
  refine syncManagedDirectory_quiet op true (hw.1.tail w.state) ⟨?_, hw.2⟩
  exact (hw.1.tail w.state).tail _

lemma unlinkat_eq {dir entry : ManagedTree} (hent : dir.lookup name = some entry)
    (hty : entry.info.stat.type ≠ .directory) : dir.unlinkat name = (.ok (), dir.erase name) := by
  rw [ManagedTree.unlinkat, hent]
  exact if_neg hty

lemma rmdirat_eq {dir entry : ManagedTree} (hent : dir.lookup name = some entry)
    (hty : entry.info.stat.type = .directory) (hem : entry.entries = []) :
    dir.rmdirat name = (.ok (), dir.erase name) := by
  rw [ManagedTree.rmdirat, hent]
  exact (if_neg (not_not.mpr hty)).trans (if_neg (not_not.mpr hem))

/-- Between two visits when nothing fails: the rest is still within the limits. -/
structure QuietEmptying (levels mountID count' : Nat) (directory : ManagedTree) (v₀ : RemovalWorld)
    (rest : List Bytes) (v : Faulty RemovalWorld) : Prop where
  emptying : Emptying v₀ rest v
  quiet : v.Quiet
  kept : ∀ n, v.state.dir.lookup n = directory.lookup n ∨ v.state.dir.lookup n = none
  within : ∃ count, v.state.entries ≤ count ∧ rest.foldlM
    (fun count child => removable levels directory child mountID true count) count = some count'

lemma removable_lookup {levels count' : Nat} {parent : ManagedTree} {nested : Bool}
    (h : removable levels parent name mountID nested count = some count') :
    ∃ entry, parent.lookup name = some entry := by
  cases levels with
  | zero => cases h
  | succ levels =>
    obtain ⟨-, -, entry, hent, -⟩ := removable_succ h
    exact ⟨entry, hent⟩

lemma emptyDirectory_quiet {levels count' : Nat} {directory : ManagedTree}
    (ih : ∀ {name : Bytes} {entry : ManagedTree} {count count' : Nat} {w : Faulty RemovalWorld},
      removable levels directory name mountID true count = some count' →
        directory.lookup name = some entry → Accepted name entry count w →
          (removeManagedEntryAtPrevalidated levels name mountID).Ends w
            (fun _ w' => QuietEnd count' w') (fun _ _ => False))
    (hw : QuietEnd count w) (hdir : w.state.dir = directory)
    (hmnt : directory.info.mountID = some mountID)
    (hfold : directory.names.foldlM
      (fun count child => removable levels directory child mountID true count) count = some count') :
    (emptyDirectory (removeManagedEntryAtPrevalidated levels) mountID directory).Ends w
      (fun _ v => QuietEnd count' v ∧ Emptying w.state [] v) (fun _ _ => False) := by
  have hopd : (.ok w.state.dir.info.mountID : Except Errno (Option Nat)) = .ok (some mountID) := by
    rw [hdir, hmnt]
  refine .seq (managedMountIDAt_quiet hw.1 hopd (.seq (.guard (fun h => absurd rfl h) fun _ => ?_)))
  refine .bind (Fallible.forEachEntry_ends (I := QuietEmptying levels mountID count' directory w.state)
    ⟨fun _ v h => ?_, fun _ v h failure hnx => ?_⟩ ?_ ?_ fun e he => ?_) fun _ v h => ?_
  · exact ⟨(emptying_readInvariant w.state).read _ _ h.emptying, h.quiet.tail _, h.kept, h.within⟩
  · rw [h.quiet.next] at hnx
    cases hnx
  · rintro child rest v - ⟨hem, hqt, hk, n, hn, hrs⟩
    obtain ⟨n', hn', hrs⟩ := bind_eq_some_iff.mp hrs
    obtain ⟨entry, hent⟩ := removable_lookup hn'
    refine ((ih hn' hent ⟨hqt, hn, hent ▸ hk child⟩).and
      (remove_ends levels child mountID v)).mono (fun _ v' hv' => ?_) fun _ _ h => h.1
    obtain ⟨⟨hqt, hn'⟩, hends⟩ := hv'
    refine ⟨hem.visit hends, hqt, fun m => ?_, n', hn', hrs⟩
    by_cases hm : m = child
    · exact .inr (hm ▸ hends.2)
    · rw [hends.1.others m hm]
      exact hk m
  · exact ⟨(emptying_readInvariant w.state).read _ _ (.start hdir), hw.1.tail _,
      fun n => .inl (hdir ▸ rfl), count, hw.2, hfold⟩
  · cases he
  · obtain ⟨n, hn, hrs⟩ := h.within
    obtain rfl : n = count' := some.inj hrs
    exact ask_quiet h.quiet rfl ⟨⟨h.quiet.tail _, hn⟩,
      (emptying_readInvariant w.state).read _ _ h.emptying⟩

end

/-- **What the walk accepts is removed.** If no call fails, the removal of an entry within the
limits does not fail either, and counts no more entries than the walk did. -/
theorem remove_quiet : ∀ {parent entry : ManagedTree} {name : Bytes} {mountID : Nat}
    {nested : Bool} {count count' : Nat} {w : Faulty RemovalWorld},
    removable levels parent name mountID nested count = some count' →
      parent.lookup name = some entry → Accepted name entry count w →
        (removeManagedEntryAtPrevalidated levels name mountID).Ends w
          (fun _ w' => QuietEnd count' w') (fun _ _ => False) := by
  induction levels with
  | zero =>
    intro parent entry name mountID nested count count' w h
    cases h
  | succ levels ih =>
    intro parent entry name mountID nested count count' w h hpar hw
    have hlt := removable_lt _ h
    obtain ⟨hnm, hcnt, entry', hent, hmnt, hkind⟩ := removable_succ h
    obtain rfl : entry' = entry := some.inj (hent.symm.trans hpar)
    refine .bind (.onError (inspectRemoval_quiet hw hnm hcnt hmnt)) fun found w1 hfnd => ?_
    obtain ⟨hw1, hdir, rfl | ⟨rfl, hlk⟩⟩ := hfnd
    · exact .pure ⟨hw1.1, hw1.2.trans hlt⟩
    · rw [← hdir] at hlk
      rcases hkind with ⟨hty, -, rfl⟩ | ⟨hty, -, rfl⟩ | ⟨hty, hfold⟩
      · rw [hty]
        refine unlink_quiet _ hw1 (unlinkat_eq hlk ?_)
        rw [hty]
        exact fun h => by cases h
      · rw [hty]
        refine unlink_quiet _ hw1 (unlinkat_eq hlk ?_)
        rw [hty]
        exact fun h => by cases h
      · rw [hty]
        refine .seq (.onError (openAt_quiet hw1.1 (openDirectory_eq hlk hty) ?_))
        have hwork := emptyDirectory_quiet
          (w := ⟨{ w1.state with dir := entry' }, w1.faults.tail⟩) ih ⟨hw1.1.tail _, hw1.2⟩ rfl hmnt hfold
        refine .seq (.onError (.zoom (hwork.imp ?_)))
        rintro - v ⟨hqt, hem⟩
        have hset : (w1.state.dir.set name v.state.dir).lookup name = some v.state.dir :=
          FileTree.lookup_set_self (by rw [hlk]; exact some_ne_none _)
        refine unlink_quiet _ hqt (rmdirat_eq hset ?_ (FileTree.entries_eq_nil fun n => ?_))
        · rw [hem.info]
          exact hty
        · exact hem.gone n not_mem_nil

/-! ## 6. The removal of an entry of a directory -/

/-- The walk, with a budget of its own. -/
def validateRemovable (name : Bytes) (parentMountID : Nat) :
    Fallible (Faulty ManagedTree) OpError Unit := do
  let w ← Fallible.get
  zoom (fun _ => 0) (fun dir _ => dir)
    (validateManagedRemovableEntryAt managedLevels w.state name parentMountID false)

/-- The removal, with a `managedRemovalState` of its own. -/
def removePrevalidated (name : Bytes) (parentMountID : Nat) :
    Fallible (Faulty ManagedTree) OpError Unit :=
  zoom (fun dir => ⟨dir, 0, false⟩) (fun _ v => v.dir)
    (removeManagedEntryAtPrevalidated managedLevels name parentMountID)

/-- Whether the walk accepts the entry. -/
def Removable (dir : ManagedTree) (name : Bytes) (mountID : Nat) : Prop :=
  (removable managedLevels dir name mountID false 0).isSome

section

variable {name : Bytes} {mountID : Nat} {w : Faulty ManagedTree}

lemma removable_congr {dir dir' : ManagedTree} {name' : Bytes} (hent : dir'.lookup name' = dir.lookup name)
    (hnm : validatePathComponent name) (hnm' : validatePathComponent name') :
    Removable dir' name' mountID ↔ Removable dir name mountID := by
  unfold Removable managedLevels
  rw [removable, removable, hnm, hnm', hent]

lemma validateRemovable_ends : (validateRemovable name mountID).Ends w
    (fun _ w' => w'.state = w.state ∧ Removable w.state name mountID)
    (fun err w' => w'.state = w.state ∧ Simple err) := by
  refine .seq (.get (.zoom ((validate_ends _ _ _ _ _ _).mono (fun _ v h => ?_) fun _ _ h => ⟨rfl, h⟩)))
  refine ⟨rfl, ?_⟩
  rw [Removable, h]
  rfl

lemma validateRemovable_quiet {E : OpError → Faulty ManagedTree → Prop} (hw : w.Quiet)
    (h : Removable w.state name mountID) : (validateRemovable name mountID).Ends w
      (fun _ w' => w'.Quiet ∧ w'.state = w.state) E := by
  obtain ⟨count', hcnt⟩ := isSome_iff_exists.mp h
  exact .seq (.get (.zoom ((validate_quiet managedLevels (w := ⟨0, w.faults⟩) hw hcnt).mono
    (fun _ v hv => ⟨hv.1, rfl⟩) fun _ _ h => h.elim)))

/-- **The removal of an entry.** It returns normally if the entry is gone; the error reports a
change if the entry is not what it was, and nothing has changed otherwise. -/
theorem removePrevalidated_ends : (removePrevalidated name mountID).Ends w
    (fun _ w' => FileTree.TouchedAt name w.state w'.state ∧ w'.state.lookup name = none)
    (fun err w' => FileTree.TouchedAt name w.state w'.state ∧
      (Reports err → w'.state.lookup name ≠ w.state.lookup name) ∧
      (¬ Reports err → w'.state = w.state)) := by
  refine .zoom ((remove_ends _ _ _ _).mono (fun _ v h => ?_) fun err v h => ?_)
  · exact ⟨⟨h.1.info, h.1.others⟩, h.2⟩
  · refine ⟨⟨h.1.info, h.1.others⟩, fun hreps => h.1.lost rfl (h.2.mp hreps), fun hk => ?_⟩
    exact h.1.kept (Bool.eq_false_of_not_eq_true fun hchg => hk (h.2.mpr hchg))

lemma removePrevalidated_quiet {E : OpError → Faulty ManagedTree → Prop} (hw : w.Quiet)
    (h : Removable w.state name mountID) : (removePrevalidated name mountID).Ends w
      (fun _ w' => w'.Quiet ∧ FileTree.TouchedAt name w.state w'.state ∧
        w'.state.lookup name = none) E := by
  obtain ⟨count', hcnt⟩ := isSome_iff_exists.mp h
  obtain ⟨entry, hent⟩ := removable_lookup hcnt
  have hqt := remove_quiet managedLevels (w := ⟨⟨w.state, 0, false⟩, w.faults⟩) hcnt hent
    ⟨hw, le_refl 0, .inl hent⟩
  refine .zoom ((hqt.and (remove_ends _ _ _ _)).mono (fun _ v hv => ?_) fun _ _ hv => hv.1.elim)
  exact ⟨hv.1.1, ⟨hv.2.1.info, hv.2.1.others⟩, hv.2.2⟩

end

end ReCasaOS.FileSecurity
