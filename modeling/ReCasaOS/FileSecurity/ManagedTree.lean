/-
# The managed file tree and its system calls

What `pkg/filesecurity` sees of the file system: trees of files with their `stat` data, mount ids
and contents, the descriptor-relative calls on them, and the errors the package makes of theirs.
A descriptor of a directory is the directory itself; nobody else changes it.
-/
import ReCasaOS.FileSecurity.MutationError
import ReCasaOS.Lib.Fallible
import ReCasaOS.Lib.FileTree
import ReCasaOS.Lib.Path

namespace ReCasaOS.FileSecurity

open Lib List Option Fallible

variable {levels count : Nat}

/-! ## 1. Files -/

/-- `st_mode & S_IFMT`. -/
inductive FileType
  | regular
  | directory
  | symlink
  | special
  deriving DecidableEq, Repr

/-- `unix.Stat_t`, with the mode split into the type and the permission bits. -/
structure FileStat where
  dev : Nat
  ino : Nat
  type : FileType
  perm : Nat
  nlink : Nat
  uid : Nat
  gid : Nat
  rdev : Nat
  size : Nat
  blksize : Nat
  blocks : Nat
  mtim : Nat
  ctim : Nat
  deriving DecidableEq, Repr

/-- What is known about a file; `mountID` is what `statx` reports, if the kernel reports it. -/
structure FileData where
  stat : FileStat
  mountID : Option Nat
  content : Bytes
  deriving DecidableEq

abbrev ManagedTree := FileTree FileData

namespace ManagedTree

variable (dir : ManagedTree) (name : Bytes)

def stat : FileStat := dir.info.stat

/-- `unix.Fstatat(dir, name, AT_SYMLINK_NOFOLLOW)`. -/
def fstatat : Except Errno FileStat :=
  match dir.lookup name with
  | none => .error .enoent
  | some entry => .ok entry.info.stat

/-- `unix.Statx(dir, name, AT_SYMLINK_NOFOLLOW, STATX_MNT_ID)`. -/
def statx : Except Errno (Option Nat) :=
  match dir.lookup name with
  | none => .error .enoent
  | some entry => .ok entry.info.mountID

/-- `unix.Openat2(dir, name, O_DIRECTORY|O_NOFOLLOW)` without symbolic links. -/
def openDirectory : Except Errno ManagedTree :=
  match dir.lookup name with
  | none => .error .enoent
  | some entry =>
    match entry.info.stat.type with
    | .directory => .ok entry
    | .symlink => .error .eloop
    | _ => .error .enotdir

/-- `unix.Unlinkat(dir, name, 0)`. -/
def unlinkat : Except Errno Unit × ManagedTree :=
  match dir.lookup name with
  | none => (.error .enoent, dir)
  | some entry =>
    if entry.info.stat.type = .directory then (.error .eisdir, dir) else (.ok (), dir.erase name)

/-- `unix.Unlinkat(dir, name, AT_REMOVEDIR)`; `ENOTEMPTY` is 39. -/
def rmdirat : Except Errno Unit × ManagedTree :=
  match dir.lookup name with
  | none => (.error .enoent, dir)
  | some entry =>
    if entry.info.stat.type ≠ .directory then (.error .enotdir, dir)
    else if entry.entries ≠ [] then (.error (.other 39), dir)
    else (.ok (), dir.erase name)

/-- `unix.Renameat2(dir, old, dir, new, RENAME_NOREPLACE)`. -/
def renameNoReplace (new : Bytes) : Except Errno Unit × ManagedTree :=
  match dir.lookup name with
  | none => (.error .enoent, dir)
  | some entry =>
    if dir.lookup new ≠ none then (.error .eexist, dir)
    else (.ok (), (dir.erase name).insert new entry)

end ManagedTree

/-! ## 2. Errors -/

/-- What the errors of the package come down to. -/
inductive Cause
  | errno (code : Errno)
  | unsafePath
  | managedRootsUnsupported
  | managedPathOutsideRoots
  | invalidManagedRoot
  | unsafeManagedDirectoryTransfer
  | text (message : String)
  deriving DecidableEq, Repr

abbrev OpError := ManagedError Cause

def errnoError (code : Errno) : OpError := .leaf (.errno code)

def textError (message : String) : OpError := .leaf (.text message)

/-- `fmt.Errorf("%w: ..", ErrUnsafePath)`. -/
def unsafeError (message : String) : OpError := .wrapped message (.leaf .unsafePath)

def classifyManagedResolutionError (code : Errno) : OpError :=
  if code = .eloop ∨ code = .exdev ∨ code = .enotdir then unsafeError "resolve managed path"
  else if code = .enosys then .wrapped "resolve managed path" (.leaf .managedRootsUnsupported)
  else errnoError code

/-- `errors.Is(err, unix.ENOENT)`, of an error of `managedMountIDAt` or of a system call. -/
def notExist : OpError → Bool
  | .leaf (.errno code) => code == .enoent
  | _ => false

/-- `ManagedMutationChanged(err)`. -/
def Reports (err : OpError) : Prop := managedMutationChanged (managedErrors Cause) (some err)

instance instDecidableReports (err : OpError) : Decidable (Reports err) :=
  inferInstanceAs (Decidable (_ = true))

/-- `managedChangedMutationError` of an error that is not nil. -/
def changedMutationError (operation : String) (durabilityUnknown : Bool) (err : OpError) : OpError :=
  (managedChangedMutationError (managedErrors Cause) operation durabilityUnknown (some err)).getD err

lemma reports_changedMutationError (op : String) (dur : Bool) (err : OpError) :
    Reports (changedMutationError op dur err) := by
  unfold changedMutationError
  rcases managedChangedMutationError_cases (g := managedErrors Cause) op dur err
    with ⟨hsm, hchg, -⟩ | hnew
  · rw [hsm]
    exact hchg
  · rw [hnew]
    exact aggregate_new op err .changed rfl

lemma reports_mutation {op : String} {dur : Bool} {err : Option OpError} :
    Reports (.mutation op ⟨true, dur⟩ err) := by
  have hcarr : ((managedErrors Cause).carried (.mutation op ⟨true, dur⟩ err)).get .changed := rfl
  exact aggregate_of_carried .refl hcarr

variable {errs : List OpError} {err : OpError}

lemma reports_joined (hmem : err ∈ errs) (h : Reports err) : Reports (.joined errs) := by
  have hwraps : (managedErrors Cause).Wraps (.joined errs) err := mem_map_of_mem hmem
  exact aggregate_of_wraps .changed hwraps h

variable {n : OpError}

lemma contains_leaf {cause : Cause}
    (hn : (managedErrors Cause).Contains (.leaf cause) n) : n = .leaf cause := by
  rcases Relation.ReflTransGen.cases_head hn with rfl | ⟨m, hm, -⟩
  · rfl
  · cases hm

lemma mem_of_wraps_joined {m : OpError} (hm : (managedErrors Cause).Wraps (.joined errs) m) :
    m ∈ errs := by
  obtain ⟨err, herr, heq⟩ := mem_map.mp hm
  exact some.inj heq ▸ herr

lemma contains_joined (hn : (managedErrors Cause).Contains (.joined errs) n) :
    n = .joined errs ∨ ∃ err ∈ errs, (managedErrors Cause).Contains err n := by
  rcases Relation.ReflTransGen.cases_head hn with rfl | ⟨m, hm, hmn⟩
  · exact .inl rfl
  · exact .inr ⟨m, mem_of_wraps_joined hm, hmn⟩

lemma size_joined (h : ∀ err ∈ errs, (managedErrors Cause).size levels err ≤ count) :
    (managedErrors Cause).size (levels + 1) (.joined errs) ≤ 1 + errs.length * count := by
  have hsum : ((errs.map some).map fun err : Option OpError =>
      err.elim 0 ((managedErrors Cause).size levels)).sum
        ≤ ((errs.map some).map fun err : Option OpError =>
          err.elim 0 ((managedErrors Cause).size levels)).length • count := by
    refine sum_le_card_nsmul _ _ fun size hsz => ?_
    rw [List.map_map] at hsz
    obtain ⟨err, herr, rfl⟩ := List.mem_map.mp hsz
    exact h err herr
  rw [length_map, length_map, smul_eq_mul] at hsum
  exact Nat.add_le_add_left hsum 1

lemma eq_of_wraps_wrapped {text : String} {m : OpError}
    (hm : (managedErrors Cause).Wraps (.wrapped text err) m) : m = err :=
  some.inj (mem_singleton.mp hm)

lemma contains_wrapped {text : String} (hn : (managedErrors Cause).Contains (.wrapped text err) n) :
    n = .wrapped text err ∨ (managedErrors Cause).Contains err n := by
  rcases Relation.ReflTransGen.cases_head hn with rfl | ⟨m, hm, hmn⟩
  · exact .inl rfl
  · exact .inr (eq_of_wraps_wrapped hm ▸ hmn)

/-- An error behind which no record says that anything changed, at most `levels` deep and of at most
`count` errors. -/
structure Silent (levels count : Nat) (err : OpError) : Prop where
  fits : (managedErrors Cause).FitsDepth levels err
  size : (managedErrors Cause).size levels err ≤ count
  unchanged : ∀ n, (managedErrors Cause).Contains err n →
    ((managedErrors Cause).carried n).get .changed = false

lemma Silent.not_reports (h : Silent levels count err) (hlvls : levels ≤ maxMutationErrorDepth)
    (hcnt : count < maxMutationErrorNodes) : ¬ Reports err := by
  obtain ⟨hft, hsz⟩ := ErrorGraph.fits_of_le hlvls h.fits
  intro hreps
  have hwithin : (managedErrors Cause).Fits maxMutationErrorDepth maxMutationErrorNodes err :=
    ⟨hft, by have := h.size; omega, .inl (by have := h.size; omega)⟩
  obtain ⟨n, hn, hcarr⟩ := (aggregate_eq_true_iff hwithin .changed).mp hreps
  rw [h.unchanged n hn] at hcarr
  cases hcarr

lemma Silent.le {levels' count' : Nat} (h : Silent levels count err) (hlvls : levels ≤ levels')
    (hcnt : count ≤ count') : Silent levels' count' err := by
  obtain ⟨hft, hsz⟩ := ErrorGraph.fits_of_le hlvls h.fits
  exact ⟨hft, by have := h.size; omega, h.unchanged⟩

lemma Silent.joined (h : ∀ err ∈ errs, Silent levels count err) :
    Silent (levels + 1) (1 + errs.length * count) (.joined errs) := by
  refine ⟨fun m hm => (h m (mem_of_wraps_joined hm)).fits,
    size_joined fun err herr => (h err herr).size, fun n hn => ?_⟩
  rcases contains_joined hn with rfl | ⟨err, herr, hn⟩
  · rfl
  · exact (h err herr).unchanged n hn

lemma Silent.wrapped (h : Silent levels count err) (text : String) :
    Silent (levels + 1) (1 + count) (.wrapped text err) := by
  refine ⟨fun m hm => eq_of_wraps_wrapped hm ▸ h.fits, ?_, fun n hn => ?_⟩
  · have hsz : (managedErrors Cause).size (levels + 1) (.wrapped text err)
        = 1 + ((managedErrors Cause).size levels err + 0) := rfl
    have := h.size
    omega
  · rcases contains_wrapped hn with rfl | hn
    · rfl
    · exact h.unchanged n hn

/-- An error with no record behind it, at most `levels` deep and of at most `count` errors. -/
structure Plain (levels count : Nat) (err : OpError) : Prop where
  fits : (managedErrors Cause).FitsDepth levels err
  size : (managedErrors Cause).size levels err ≤ count
  blank : ∀ n, (managedErrors Cause).Contains err n → (managedErrors Cause).carried n = .none

lemma Plain.silent (h : Plain levels count err) : Silent levels count err :=
  ⟨h.fits, h.size, fun n hn => by rw [h.blank n hn]; rfl⟩

lemma Plain.not_reports (h : Plain levels count err) (hlvls : levels ≤ maxMutationErrorDepth)
    (hcnt : count < maxMutationErrorNodes) : ¬ Reports err :=
  h.silent.not_reports hlvls hcnt

lemma Plain.leaf (cause : Cause) : Plain 0 1 (.leaf cause) := by
  have hno : ∀ m, ¬ (managedErrors Cause).Wraps (.leaf cause) m := by
    intro m hm
    cases hm
  refine ⟨hno, le_refl 1, fun n hn => ?_⟩
  rw [contains_leaf hn]
  rfl

lemma Plain.joined (h : ∀ err ∈ errs, Plain levels count err) :
    Plain (levels + 1) (1 + errs.length * count) (.joined errs) := by
  have hsil := Silent.joined fun err herr => (h err herr).silent
  refine ⟨hsil.fits, hsil.size, fun n hn => ?_⟩
  rcases contains_joined hn with rfl | ⟨err, herr, hn⟩
  · rfl
  · exact (h err herr).blank n hn

lemma Plain.wrapped (h : Plain levels count err) (text : String) :
    Plain (levels + 1) (1 + count) (.wrapped text err) := by
  have hsil := h.silent.wrapped text
  refine ⟨hsil.fits, hsil.size, fun n hn => ?_⟩
  rcases contains_wrapped hn with rfl | hn
  · rfl
  · exact h.blank n hn

/-! ## 3. Calls -/

section

variable {τ α : Type}

/-- A call that changes nothing, with its error as it is. -/
def ask (answer : τ → Except Errno α) : Fallible (Faulty τ) OpError α :=
  (query answer).onError fun _ code => errnoError code

/-- `openat2`, with its error classified. -/
def openAt (answer : τ → Except Errno α) : Fallible (Faulty τ) OpError α :=
  (query answer).onError fun _ code => classifyManagedResolutionError code

/-- `managedMountIDAt`, given the answer of `statx`. -/
def managedMountIDAt (answer : τ → Except Errno (Option Nat)) : Fallible (Faulty τ) OpError Nat := do
  let reported ← (query answer).onError fun _ code =>
    if code = .enosys ∨ code = .einval then
      .wrapped "statx mount identifiers" (.leaf .managedRootsUnsupported)
    else errnoError code
  match reported with
  | none =>
    fail (.wrapped "kernel did not report a statx mount identifier"
      (.leaf .managedRootsUnsupported))
  | some mountID => pure mountID

/-- `AcquireMutation`: the error is `fs.ErrClosed`. -/
def acquireMutation (closed : Bool) : Fallible (Faulty τ) OpError Unit :=
  guard (closed) (textError "file already closed")

/-- `Close`. -/
def closing : Fallible (Faulty τ) OpError Unit := ask fun _ => .ok ()

def syncManagedDirectory (operation : String) (changed : Bool) : Fallible (Faulty τ) OpError Unit :=
  (query fun _ => .ok ()).onError fun _ code =>
    .mutation operation ⟨changed, true⟩ (some (errnoError code))

def validatePathComponent (value : Bytes) : Bool :=
  !(value == [] || value == [46] || value == [46, 46] || decide (255 < value.length)
    || containsByte value 0) && (base value == value && !containsByte value 47)

end

lemma validatePathComponent_iff {value : Bytes} : validatePathComponent value ↔
    value ≠ [] ∧ value ≠ [46] ∧ value ≠ [46, 46] ∧ value.length ≤ 255 ∧ 0 ∉ value ∧ 47 ∉ value := by
  by_cases hne : value = []
  · simp [validatePathComponent, hne]
  by_cases hsl : 47 ∈ value
  · simp [validatePathComponent, containsByte, hsl]
  · simp [validatePathComponent, containsByte, hsl, hne, base_of_no_slash hne hsl, and_assoc]

/-- The errors that are made on the spot. -/
abbrev Simple (err : OpError) : Prop := Plain 1 2 err

lemma simple_leaf (cause : Cause) : Simple (.leaf cause) := by
  have hleaf := Plain.leaf cause
  obtain ⟨hft, hsz⟩ := ErrorGraph.fits_of_le (Nat.zero_le 1) hleaf.fits
  exact ⟨hft, by have := hleaf.size; omega, hleaf.blank⟩

lemma simple_wrapped (text : String) (cause : Cause) : Simple (.wrapped text (.leaf cause)) :=
  (Plain.leaf cause).wrapped text

lemma Plain.simple_not_reports (h : Simple err) : ¬ Reports err :=
  h.not_reports (by decide) (by decide)

lemma simple_classify (code : Errno) : Simple (classifyManagedResolutionError code) := by
  unfold classifyManagedResolutionError
  split
  · exact simple_wrapped _ _
  · split
    · exact simple_wrapped _ _
    · exact simple_leaf _

/-- The error of a sync behind which nothing has changed. -/
lemma silent_mutation (op : String) (dur : Bool) (cause : Cause) :
    Silent 1 2 (.mutation op ⟨false, dur⟩ (some (.leaf cause))) := by
  have hwraps : ∀ m, (managedErrors Cause).Wraps
      (.mutation op ⟨false, dur⟩ (some (.leaf cause))) m → m = .leaf cause := by
    intro m hm
    exact some.inj (mem_singleton.mp hm)
  refine ⟨fun m hm => hwraps m hm ▸ (Plain.leaf cause).fits, le_refl 2, fun n hn => ?_⟩
  rcases Relation.ReflTransGen.cases_head hn with rfl | ⟨m, hm, hmn⟩
  · rfl
  · rw [hwraps m hm] at hmn
    exact (Plain.leaf cause).silent.unchanged n hmn

/-- `errors.Join`, with `none` for a nil error. -/
def joinErrors (errs : List (Option OpError)) : Option OpError :=
  match errs.reduceOption with
  | [] => none
  | err :: errs => some (.joined (err :: errs))

/-- The error that a call returned, if any. -/
def failureOf {α : Type} : Except OpError α → Option OpError
  | .ok _ => none
  | .error err => some err

section

variable {τ α : Type} {w : Faulty τ} {P : α → Faulty τ → Prop} {E : OpError → Faulty τ → Prop}
variable {ans : τ → Except Errno α}

section

variable (hok : ∀ a, ans w.state = .ok a → P a w.later)
include hok

/-- What a call that changes nothing may do: answer, or fail with a simple error, which says that
there is no such file only if that is the answer. -/
lemma ask_ends
    (herr : ∀ err, Simple err → (notExist err → ans w.state = .error .enoent) → E err w.later) :
    (ask ans).Ends w P E := by
  refine Ends.onError (Ends.query hok fun code hco => ?_)
  refine herr _ (simple_leaf _) fun habs => ?_
  obtain rfl : code = .enoent := beq_iff_eq.mp habs
  exact hco (.inl rfl)

lemma openAt_ends (herr : ∀ err, Simple err → E err w.later) : (openAt ans).Ends w P E :=
  Ends.onError (Ends.query hok fun code _ => herr _ (simple_classify code))

end

lemma managedMountIDAt_ends {ans : τ → Except Errno (Option Nat)} {P : Nat → Faulty τ → Prop}
    (hok : ∀ mid, ans w.state = .ok (some mid) → P mid w.later)
    (herr : ∀ err, Simple err → (notExist err → ans w.state = .error .enoent) →
      E err w.later) : (managedMountIDAt ans).Ends w P E := by
  refine Ends.bind (P := fun reported t => ans w.state = .ok reported ∧
    t = w.later) ?_ fun reported t ht => ?_
  · refine Ends.onError (Ends.query (fun _ ha => ⟨ha, rfl⟩) fun code hco => ?_)
    split
    · exact herr _ (simple_wrapped _ _) fun habs => absurd habs Bool.false_ne_true
    · refine herr _ (simple_leaf _) fun habs => ?_
      obtain rfl : code = .enoent := beq_iff_eq.mp habs
      exact hco (.inl rfl)
  · obtain ⟨ha, rfl⟩ := ht
    cases reported with
    | none =>
      exact Ends.fail (herr _ (simple_wrapped _ _) fun habs => absurd habs Bool.false_ne_true)
    | some mid => exact Ends.pure (hok mid ha)

lemma absent_ends {err : OpError} {a : α} (habs : notExist err → P a w) (herr : E err w) :
    (if notExist err then pure a else fail err : Fallible (Faulty τ) OpError α).Ends w P E := by
  split
  · exact Ends.pure (habs (by assumption))
  · exact Ends.fail herr

lemma closing_ends {P : Unit → Faulty τ → Prop} (hok : P () w.later)
    (herr : ∀ err, Simple err → E err w.later) : closing.Ends w P E :=
  ask_ends (fun _ _ => hok) fun err hsimple _ => herr err hsimple

lemma syncManagedDirectory_ends {P : Unit → Faulty τ → Prop} (op : String) (hok : P () w.later)
    (herr : ∀ err, Reports err → E err w.later) :
    (syncManagedDirectory op true).Ends w P E :=
  Ends.onError (Ends.query (fun _ _ => hok) fun _ _ => herr _ reports_mutation)

lemma ask_quiet (hw : w.Quiet) {a : α} (ha : ans w.state = .ok a)
    (h : P a w.later) : (ask ans).Ends w P E :=
  Ends.onError (Ends.query_quiet hw ha h)

lemma openAt_quiet (hw : w.Quiet) {a : α} (ha : ans w.state = .ok a)
    (h : P a w.later) : (openAt ans).Ends w P E :=
  Ends.onError (Ends.query_quiet hw ha h)

lemma managedMountIDAt_quiet {ans : τ → Except Errno (Option Nat)} {P : Nat → Faulty τ → Prop}
    (hw : w.Quiet) {mid : Nat} (ha : ans w.state = .ok (some mid))
    (h : P mid w.later) : (managedMountIDAt ans).Ends w P E :=
  Ends.seq (Ends.onError (Ends.query_quiet hw ha (Ends.pure h)))

lemma managedMountIDAt_absent {ans : τ → Except Errno (Option Nat)} {P : Nat → Faulty τ → Prop}
    (hw : w.Quiet) (ha : ans w.state = .error .enoent)
    (h : E (errnoError .enoent) w.later) : (managedMountIDAt ans).Ends w P E :=
  Ends.seq (Ends.onError (Ends.query_quiet_error hw ha h))

lemma syncManagedDirectory_quiet {P : Unit → Faulty τ → Prop} (op : String) (changed : Bool)
    (hw : w.Quiet) (h : P () w.later) :
    (syncManagedDirectory op changed).Ends w P E :=
  Ends.onError (Ends.query_quiet hw rfl h)

end

end ReCasaOS.FileSecurity
