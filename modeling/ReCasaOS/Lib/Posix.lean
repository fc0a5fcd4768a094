/-
# System calls that may fail

A directory with its names and files, and the system calls by which a program works on it,
under a script of faults. Every call takes the next outcome off the script: it succeeds, it
fails without effect, it transfers fewer bytes than asked for, or it takes effect and reports
an error all the same (which only `linkat` and `renameat2` do here). When the script is used
up every call succeeds. Nobody else writes to the directory.

`D` names the directories on the way (and the directory itself), `N` the names in it. An
`ENOENT` of `fstatat` is the answer for a name that is not bound, so a fault never reports it
for a name that is.

Programs are state transformers (`Prog`). `m.Post s Q` says that the run of `m` from `s` ends in
`Q`; `Post.bind` takes a run apart into the runs of its steps, and each call has one lemma that
says what it did to the directory (`fstat_spec`, `linkat_spec`, …).
-/
import Mathlib.Logic.Function.Basic
import ReCasaOS.Lib.Bytes

namespace ReCasaOS.Lib

open List Function

/-! ## 1. Programs -/

/-- A program that works on a state. -/
def Prog (σ α : Type) := σ → α × σ

instance instMonadProg {σ : Type} : Monad (Prog σ) where
  pure a := fun s => (a, s)
  bind m f := fun s => f (m s).1 (m s).2

namespace Prog

variable {σ α β : Type} {m : Prog σ α} {f : α → Prog σ β} {s : σ}
variable {Q P : α → σ → Prop}

/-- The run of `m` from `s` ends with a result and a state that satisfy `Q`. -/
def Post (m : Prog σ α) (s : σ) (Q : α → σ → Prop) : Prop := Q (m s).1 (m s).2

lemma Post.pure {a : α} (h : Q a s) : (pure a : Prog σ α).Post s Q := h

lemma Post.bind {Q : β → σ → Prop} (hm : m.Post s P) (hf : ∀ a t, P a t → (f a).Post t Q) :
    (m >>= f).Post s Q :=
  hf _ _ hm

lemma Post.of_eq {n : Prog σ α} (heq : m s = n s) (h : n.Post s Q) : m.Post s Q := by
  unfold Post
  rw [heq]
  exact h

lemma Post.skip {Q : β → σ → Prop} (hf : ∀ a t, (f a).Post t Q) : (m >>= f).Post s Q :=
  hf _ _

/-- A first step in common: what is said about the rest of `m >>= f` may refer to the rest of
`m >>= g`. -/
lemma Post.bind_iff {γ : Type} {g : α → Prog σ γ} {A B : β → σ → Prop} {R : γ → σ → Prop}
    (hm : m.Post s P)
    (h : ∀ a t, P a t → (f a).Post t fun b t' => A b t' ∧ (B b t' ↔ (g a).Post t R)) :
    (m >>= f).Post s fun b t' => A b t' ∧ (B b t' ↔ (m >>= g).Post s R) :=
  h _ _ hm

lemma Post.and (hP : m.Post s P) (hQ : m.Post s Q) : m.Post s fun a t => P a t ∧ Q a t :=
  ⟨hP, hQ⟩

lemma Post.mono (h : m.Post s P) (hPQ : ∀ a t, P a t → Q a t) : m.Post s Q :=
  hPQ _ _ h

end Prog

/-! ## 2. Files and directories -/

/-- The error numbers that programs tell apart. -/
inductive Errno
  | enoent | eperm | eacces | eexist | enotdir | eisdir | eloop | exdev | erofs | eintr | ebadf
  | einval | eio | enospc | enosys | eopnotsupp
  | other (code : Nat)
  deriving DecidableEq, Repr

/-- The file type of `st_mode`. -/
inductive FileKind
  | directory
  | regular
  | other
  deriving DecidableEq, Repr

/-- `struct stat`; `mode` is `st_mode` without the file type. -/
structure FileStat where
  dev : Nat
  ino : Nat
  kind : FileKind
  nlink : Nat
  uid : Nat
  gid : Nat
  mode : Nat
  size : Nat
  deriving DecidableEq

/-- A file. `synced` says that its data and attributes have reached the disk. -/
structure Inode where
  kind : FileKind
  nlink : Nat
  uid : Nat
  gid : Nat
  mode : Nat
  content : Bytes
  synced : Bool

/-- A directory and the files in it. `namesSynced` says that its names have reached the disk. -/
structure Fs (D N : Type) where
  directory : D → FileStat
  files : Nat → Inode
  next : Nat
  names : N → Option Nat
  namesSynced : Bool
  euid : Nat
  egid : Nat
  names_lt : ∀ name i, names name = some i → i < next

/-- What an open descriptor refers to. -/
inductive Target (D : Type)
  | directory (d : D)
  | file (i : Nat)
  deriving DecidableEq

structure Fd (D : Type) where
  number : Nat
  target : Target D
  deriving DecidableEq

namespace Fs

variable {D N : Type} [DecidableEq N] (fs : Fs D N)

def stat : Target D → FileStat
  | .directory d => fs.directory d
  | .file i =>
    let file := fs.files i
    ⟨0, i, file.kind, file.nlink, file.uid, file.gid, file.mode, file.content.length⟩

def setFile (i : Nat) (file : Inode) : Fs D N := { fs with files := Function.update fs.files i file }

/-- A new empty file without a name. -/
def create : Fs D N :=
  { fs with
    files := Function.update fs.files fs.next ⟨.regular, 0, fs.euid, fs.egid, 0, [], false⟩
    next := fs.next + 1
    names_lt := fun name i h => Nat.lt_succ_of_lt (fs.names_lt name i h) }

/-- The file gets another name. -/
def link (name : N) (i : Nat) (h : i < fs.next) : Fs D N :=
  { fs with
    files := Function.update fs.files i { fs.files i with nlink := (fs.files i).nlink + 1 }
    names := Function.update fs.names name (some i)
    namesSynced := false
    names_lt := fun other j hj => by
      by_cases hname : other = name
      · subst hname
        rw [Function.update_self] at hj
        exact Option.some.inj hj ▸ h
      · rw [Function.update_of_ne hname] at hj
        exact fs.names_lt other j hj }

/-- The name goes, and its file loses a link. -/
def unlink (name : N) (i : Nat) : Fs D N :=
  { fs with
    files := Function.update fs.files i { fs.files i with nlink := (fs.files i).nlink - 1 }
    names := Function.update fs.names name none
    namesSynced := false
    names_lt := fun other j hj => by
      by_cases hname : other = name
      · subst hname
        rw [Function.update_self] at hj
        cases hj
      · rw [Function.update_of_ne hname] at hj
        exact fs.names_lt other j hj }

/-- The file of `old` is now at `new`. -/
def rename (old new : N) : Fs D N :=
  { fs with
    names := Function.update (Function.update fs.names new (fs.names old)) old none
    namesSynced := false
    names_lt := fun other j hj => by
      by_cases hold : other = old
      · subst hold
        rw [Function.update_self] at hj
        cases hj
      · rw [Function.update_of_ne hold] at hj
        by_cases hnew : other = new
        · subst hnew
          rw [Function.update_self] at hj
          exact fs.names_lt old j hj
        · rw [Function.update_of_ne hnew] at hj
          exact fs.names_lt other j hj }

end Fs

/-! ## 3. The calls -/

/-- What the script says about one call. `short` moves fewer bytes than asked for, and `cut`
reports an error on top of that. -/
inductive Outcome
  | ok
  | fail (code : Errno)
  | applied (code : Errno)
  | short (count : Nat)
  | cut (count : Nat) (code : Errno)
  deriving DecidableEq, Repr

def Outcome.error : Outcome → Option Errno
  | ok => none
  | fail code => some code
  | applied code => some code
  | short _ => none
  | cut _ code => some code

/-- How many of the `available` bytes a transfer moves. -/
def Outcome.transferred (outcome : Outcome) (available : Nat) : Nat :=
  match outcome with
  | .ok => available
  | .fail _ => 0
  | .applied _ => 0
  | .short count => min count available
  | .cut count _ => min count available

/-- What happens to descriptors. -/
inductive Event
  | opened (fd : Nat)
  | used (fd : Nat)
  | closed (fd : Nat)
  deriving DecidableEq, Repr

structure World (D N : Type) where
  fs : Fs D N
  script : List Outcome
  nextFd : Nat
  log : List Event

abbrev Sys (D N α : Type) := Prog (World D N) α

section

variable {D N α : Type}
variable {i : Nat} {fd : Fd D}

/-- The outcome of the next call. -/
def World.outcome (w : World D N) : Outcome := w.script.head?.getD .ok

/-- The next outcome is taken off the script. -/
def World.answered (w : World D N) (event : Event) : World D N :=
  { w with script := w.script.tail, log := w.log ++ [event] }

/-- A call that a fault turns into an error without effect. -/
def faulty (event : Event) (effect : Sys D N (Except Errno α)) : Sys D N (Except Errno α) := fun w =>
  match w.outcome.error with
  | some code => (.error code, w.answered event)
  | none => effect (w.answered event)

/-- A call that may take effect and report an error. -/
def ambiguous (event : Event) (attempt : Fs D N → Except Errno (Fs D N)) : Sys D N (Option Errno) :=
  fun w =>
    match w.outcome, attempt w.fs with
    | .applied code, .ok fs => (some code, { w.answered event with fs })
    | outcome, result =>
      match outcome.error, result with
      | some code, _ => (some code, w.answered event)
      | none, .ok fs => (none, { w.answered event with fs })
      | none, .error code => (some code, w.answered event)

/-- Opens a descriptor on `target`. -/
def opening (target : Target D) : Sys D N (Except Errno (Fd D)) := fun w =>
  (.ok ⟨w.nextFd, target⟩, { w with nextFd := w.nextFd + 1, log := w.log ++ [.opened w.nextFd] })

/-- Changes the file behind a descriptor. -/
def changing (fd : Fd D) (f : Inode → Inode) : Sys D N (Except Errno Unit) := fun w =>
  match fd.target with
  | .file i => (.ok (), { w with fs := w.fs.setFile i (f (w.fs.files i)) })
  | .directory _ => (.error .ebadf, w)

def fstat (fd : Fd D) : Sys D N (Except Errno FileStat) :=
  faulty (.used fd.number) fun w => (.ok (w.fs.stat fd.target), w)

section

variable (dirfd : Fd D)

/-- `fstatat` of a directory on the way. -/
def fstatatDirectory (d : D) : Sys D N (Except Errno FileStat) :=
  faulty (.used dirfd.number) fun w => (.ok (w.fs.directory d), w)

/-- `fstatat` of a name, without following links. -/
def fstatat (name : N) : Sys D N (Except Errno FileStat) := fun w =>
  let found := match w.fs.names name with
    | some i => Except.ok (w.fs.stat (.file i))
    | none => .error .enoent
  match w.outcome.error with
  | some code => (if code = .enoent then found else .error code, w.answered (.used dirfd.number))
  | none => (found, w.answered (.used dirfd.number))

/-- `openat` of a directory on the way. -/
def openatDirectory (d : D) : Sys D N (Except Errno (Fd D)) :=
  faulty (.used dirfd.number) (opening (.directory d))

/-- `openat` with `O_TMPFILE`. -/
def openatTemporary : Sys D N (Except Errno (Fd D)) :=
  faulty (.used dirfd.number) fun w =>
    opening (.file w.fs.next) { w with fs := w.fs.create }

/-- `openat` with `O_CREAT|O_EXCL`. -/
def openatExclusive [DecidableEq N] (dirfd : Fd D) (name : N) : Sys D N (Except Errno (Fd D)) :=
  faulty (.used dirfd.number) fun w =>
    match w.fs.names name with
    | some _ => (.error .eexist, w)
    | none => opening (.file w.fs.next)
        { w with fs := w.fs.create.link name w.fs.next (Nat.lt_succ_self _) }

/-- `openat` of an existing file. -/
def openatExisting (name : N) : Sys D N (Except Errno (Fd D)) :=
  faulty (.used dirfd.number) fun w =>
    match w.fs.names name with
    | some i => opening (.file i) w
    | none => (.error .enoent, w)

/-- `write` at the end of the file: the number of bytes written, and the error. -/
def write (fd : Fd D) (data : Bytes) : Sys D N (Nat × Option Errno) := fun w =>
  let count := w.outcome.transferred data.length
  let append (file : Inode) : Inode :=
    { file with content := file.content ++ data.take count, synced := false }
  match changing fd append (w.answered (.used fd.number)) with
  | (.ok (), w') => ((count, w.outcome.error), w')
  | (.error code, w') => ((0, some code), w')

/-- `pread` of at most `count` bytes at `offset`: the bytes read, and the error. Without an error
no bytes are read only at the end of the file. -/
def pread (fd : Fd D) (count offset : Nat) : Sys D N (Bytes × Option Errno) := fun w =>
  match fd.target with
  | .directory _ => (([], some .eisdir), w.answered (.used fd.number))
  | .file i =>
    let available := slice (w.fs.files i).content offset (offset + count)
    let moved := match w.outcome with
      | .short count => min (max 1 count) available.length
      | outcome => outcome.transferred available.length
    ((available.take moved, w.outcome.error), w.answered (.used fd.number))

def fchown (fd : Fd D) (uid gid : Nat) : Sys D N (Except Errno Unit) :=
  faulty (.used fd.number) (changing fd fun file => { file with uid, gid, synced := false })

def fchmod (fd : Fd D) (mode : Nat) : Sys D N (Except Errno Unit) :=
  faulty (.used fd.number) (changing fd fun file => { file with mode, synced := false })

/-- `fsync` of a file, or of the directory's names. -/
def fsync (fd : Fd D) : Sys D N (Except Errno Unit) :=
  faulty (.used fd.number) fun w =>
    match fd.target with
    | .file _ => changing fd (fun file => { file with synced := true }) w
    | .directory _ => (.ok (), { w with fs := { w.fs with namesSynced := true } })

/-- `linkat` of an open file, which never replaces a name. -/
def linkat [DecidableEq N] (fd dirfd : Fd D) (name : N) : Sys D N (Option Errno) :=
  ambiguous (.used dirfd.number) fun fs =>
    match fs.names name, fd.target with
    | some _, _ => .error .eexist
    | none, .directory _ => .error .eperm
    | none, .file i => if h : i < fs.next then .ok (fs.link name i h) else .error .enoent

/-- `renameat2` with `RENAME_NOREPLACE`. -/
def renameat2 [DecidableEq N] (dirfd : Fd D) (old new : N) : Sys D N (Option Errno) :=
  ambiguous (.used dirfd.number) fun fs =>
    match fs.names old, fs.names new with
    | none, _ => .error .enoent
    | some _, some _ => .error .eexist
    | some _, none => .ok (fs.rename old new)

def unlinkat [DecidableEq N] (dirfd : Fd D) (name : N) : Sys D N (Except Errno Unit) :=
  faulty (.used dirfd.number) fun w =>
    match w.fs.names name with
    | some i => (.ok (), { w with fs := w.fs.unlink name i })
    | none => (.error .enoent, w)

end

/-- `close`, which gives the descriptor up whatever it reports. -/
def close (fd : Fd D) : Sys D N (Except Errno Unit) :=
  faulty (.closed fd.number) fun w => (.ok (), w)

/-! ## 4. What the calls do to the directory -/

variable {w : World D N}
variable {event : Event}

lemma faulty_post {eff : Sys D N (Except Errno α)}
    {Q : Except Errno α → World D N → Prop} (hflt : ∀ code, Q (.error code) (w.answered event))
    (heff : eff.Post (w.answered event) Q) : (faulty event eff).Post w Q := by
  unfold Prog.Post faulty
  split
  · exact hflt _
  · exact heff

lemma faulty_of_nil {eff : Sys D N (Except Errno α)}
    {Q : Except Errno α → World D N → Prop} (hnil : w.script = [])
    (heff : eff.Post (w.answered event) Q) : (faulty event eff).Post w Q := by
  have hok : w.outcome.error = none := by simp [World.outcome, hnil, Outcome.error]
  unfold Prog.Post faulty
  rw [hok]
  exact heff

/-- Either an error and no effect, or the effect, with or without an error. -/
lemma ambiguous_post {attempt : Fs D N → Except Errno (Fs D N)} :
    (ambiguous event attempt).Post w fun r w' =>
      (r ≠ none ∧ w'.fs = w.fs) ∨ attempt w.fs = .ok w'.fs := by
  unfold Prog.Post ambiguous
  split
  · exact .inr (by assumption)
  split
  · exact Or.inl ⟨by simp, rfl⟩
  · exact .inr (by assumption)
  · exact Or.inl ⟨by simp, rfl⟩

lemma fstat_spec (fd : Fd D) : (fstat fd).Post w fun r w' =>
    w'.fs = w.fs ∧ ∀ stat, r = .ok stat → stat = w.fs.stat fd.target :=
  faulty_post (fun _ => ⟨rfl, nofun⟩) ⟨rfl, fun _ h => (Except.ok.inj h).symm⟩

lemma fstat_of_nil (fd : Fd D) (hnil : w.script = []) :
    (fstat fd).Post w fun r w' => r = .ok (w.fs.stat fd.target) ∧ w'.fs = w.fs ∧ w'.script = [] :=
  faulty_of_nil hnil ⟨rfl, rfl, by simp [World.answered, hnil]⟩

/-- What `fstatat` says about a name is true, unless it fails. -/
lemma fstatat_spec (dirfd : Fd D) (name : N) : (fstatat dirfd name).Post w fun r w' =>
    w'.fs = w.fs ∧
      (∀ stat, r = .ok stat → ∃ i, w.fs.names name = some i ∧ stat = w.fs.stat (.file i)) ∧
      (r = .error .enoent → w.fs.names name = none) := by
  have hfnd : ∀ found, found = (match w.fs.names name with
      | some i => Except.ok (w.fs.stat (.file i))
      | none => Except.error Errno.enoent) →
      (∀ stat, found = .ok stat → ∃ i, w.fs.names name = some i ∧ stat = w.fs.stat (.file i)) ∧
        (found = .error .enoent → w.fs.names name = none) := by
    intro found hdef
    cases hnm : w.fs.names name with
    | none =>
      rw [hnm] at hdef
      subst hdef
      exact ⟨nofun, fun _ => rfl⟩
    | some i =>
      rw [hnm] at hdef
      subst hdef
      exact ⟨fun stat hstt => ⟨i, rfl, (Except.ok.inj hstt).symm⟩, nofun⟩
  unfold Prog.Post fstatat
  dsimp only
  split
  next code _ =>
    by_cases hco : code = .enoent
    · rw [if_pos hco]
      exact ⟨rfl, hfnd _ rfl⟩
    · rw [if_neg hco]
      exact ⟨rfl, nofun, fun herr => absurd (Except.error.inj herr) hco⟩
  · exact ⟨rfl, hfnd _ rfl⟩

lemma fstatat_of_nil (dirfd : Fd D) {name : N} (hnil : w.script = [])
    (hbd : w.fs.names name = some i) : (fstatat dirfd name).Post w fun r w' =>
      r = .ok (w.fs.stat (.file i)) ∧ w'.fs = w.fs ∧ w'.script = [] := by
  have hok : w.outcome.error = none := by simp [World.outcome, hnil, Outcome.error]
  unfold Prog.Post fstatat
  rw [hok, hbd]
  exact ⟨rfl, rfl, by simp [World.answered, hnil]⟩

/-- What `pread` reads stands at the offset, and it reads nothing only at the end of the file.
Without faults everything is read. -/
lemma pread_spec (hfd : fd.target = .file i) (count off : Nat) :
    (pread fd count off).Post w fun r w' => w'.fs = w.fs ∧ w'.script = w.script.tail ∧
      r.2 = w.outcome.error ∧ r.1 <+: slice (w.fs.files i).content off (off + count) ∧
      (r.2 = none → r.1 = [] → slice (w.fs.files i).content off (off + count) = []) ∧
      (w.script = [] → r.1 = slice (w.fs.files i).content off (off + count)) := by
  unfold Prog.Post pread
  rw [hfd]
  refine ⟨rfl, rfl, rfl, take_prefix _ _, fun hok hnil => ?_, fun hnil => ?_⟩
  · rw [take_eq_nil_iff] at hnil
    rcases hnil with hz | hnil
    · cases hout : w.outcome with
      | ok =>
        rw [hout] at hz
        exact length_eq_zero_iff.mp hz
      | short moved =>
        simp only [hout] at hz
        exact length_eq_zero_iff.mp (by omega)
      | fail code => simp [hout, Outcome.error] at hok
      | applied code => simp [hout, Outcome.error] at hok
      | cut count code => simp [hout, Outcome.error] at hok
    · exact hnil
  · have hok : w.outcome = .ok := by simp [World.outcome, hnil]
    rw [hok]
    exact take_length

/-- Only the file `i` may differ. -/
structure Fs.OnlyFile (i : Nat) (fs fs' : Fs D N) : Prop where
  directory : fs'.directory = fs.directory
  names : fs'.names = fs.names
  next : fs'.next = fs.next
  namesSynced : fs'.namesSynced = fs.namesSynced
  files : ∀ j, j ≠ i → fs'.files j = fs.files j

lemma Fs.OnlyFile.refl (i : Nat) (fs : Fs D N) : fs.OnlyFile i fs :=
  ⟨rfl, rfl, rfl, rfl, fun _ _ => rfl⟩

lemma Fs.OnlyFile.trans {fs fs1 fs2 : Fs D N} (h : fs.OnlyFile i fs1) (h1 : fs1.OnlyFile i fs2) :
    fs.OnlyFile i fs2 :=
  ⟨h1.directory.trans h.directory, h1.names.trans h.names, h1.next.trans h.next,
    h1.namesSynced.trans h.namesSynced, fun j hj => (h1.files j hj).trans (h.files j hj)⟩

lemma Fs.OnlyFile.setFile (fs : Fs D N) (i : Nat) (file : Inode) :
    fs.OnlyFile i (fs.setFile i file) :=
  ⟨rfl, rfl, rfl, rfl, fun _ hj => update_of_ne hj _ _⟩

section

variable (hfd : fd.target = .file i)
include hfd

lemma changing_spec (f : Inode → Inode) : (changing fd f).Post w fun _ w' =>
      w.fs.OnlyFile i w'.fs ∧ w'.fs.files i = f (w.fs.files i) := by
  unfold Prog.Post changing
  rw [hfd]
  exact ⟨.setFile _ _ _, update_self _ _ _⟩

lemma write_spec (data : Bytes) : (write fd data).Post w fun r w' =>
      r = (w.outcome.transferred data.length, w.outcome.error) ∧ w'.script = w.script.tail ∧
      w.fs.OnlyFile i w'.fs ∧ (w'.fs.files i).content = (w.fs.files i).content ++ data.take r.1 := by
  unfold Prog.Post write changing
  rw [hfd]
  exact ⟨rfl, rfl, .setFile _ _ _, by simp [Fs.setFile, World.answered]⟩

lemma fchown_spec (uid gid : Nat) : (fchown fd uid gid).Post w fun _ w' => w.fs.OnlyFile i w'.fs :=
  faulty_post (fun _ => .refl _ _) ((changing_spec hfd _).mono fun _ _ h => h.1)

lemma fchmod_spec (mode : Nat) : (fchmod fd mode).Post w fun _ w' => w.fs.OnlyFile i w'.fs :=
  faulty_post (fun _ => .refl _ _) ((changing_spec hfd _).mono fun _ _ h => h.1)

lemma fsync_file_spec : (fsync fd).Post w fun r w' =>
      w.fs.OnlyFile i w'.fs ∧ (r = .ok () → (w'.fs.files i).synced) := by
  refine faulty_post (fun _ => ⟨.refl _ _, nofun⟩) ?_
  simp only [hfd]
  refine (changing_spec hfd _).mono ?_
  rintro r w' ⟨honly, hfi⟩
  exact ⟨honly, fun _ => by rw [hfi]⟩

end

/-- The directory is the same, up to whether its names have reached the disk. -/
structure Fs.SameNames (fs fs' : Fs D N) : Prop where
  directory : fs'.directory = fs.directory
  names : fs'.names = fs.names
  next : fs'.next = fs.next
  files : fs'.files = fs.files

lemma Fs.SameNames.refl (fs : Fs D N) : fs.SameNames fs := ⟨rfl, rfl, rfl, rfl⟩

lemma fsync_directory_spec {d : D} (hfd : fd.target = .directory d) : (fsync fd).Post w fun r w' =>
      w.fs.SameNames w'.fs ∧ (r = .ok () → w'.fs.namesSynced) := by
  refine faulty_post (fun _ => ⟨.refl _, nofun⟩) ?_
  simp only [hfd]
  exact ⟨⟨rfl, rfl, rfl, rfl⟩, fun _ => rfl⟩

lemma openatDirectory_spec (dirfd : Fd D) (d : D) : (openatDirectory dirfd d).Post w fun r w' =>
    w'.fs = w.fs ∧ ∀ fd, r = .ok fd → fd.target = .directory d :=
  faulty_post (fun _ => ⟨rfl, nofun⟩) ⟨rfl, fun _ h => by rw [← Except.ok.inj h]⟩

lemma openatTemporary_spec (dirfd : Fd D) : (openatTemporary dirfd).Post w fun r w' =>
    (∃ code, r = .error code ∧ w'.fs = w.fs) ∨
      ∃ fd, r = .ok fd ∧ fd.target = .file w.fs.next ∧ w'.fs = w.fs.create :=
  faulty_post (fun code => .inl ⟨code, rfl, rfl⟩) (.inr ⟨_, rfl, rfl, rfl⟩)

lemma openatExisting_of_nil (dirfd : Fd D) {name : N} (hnil : w.script = [])
    (hbd : w.fs.names name = some i) : (openatExisting dirfd name).Post w fun r w' =>
      (∃ fd, r = .ok fd ∧ fd.target = .file i) ∧ w'.fs = w.fs ∧ w'.script = [] := by
  have hbd' : (w.answered (.used dirfd.number)).fs.names name = some i := hbd
  refine faulty_of_nil hnil ?_
  unfold Prog.Post
  simp only [hbd']
  exact ⟨⟨_, rfl, rfl⟩, rfl, by simp [World.answered, opening, hnil]⟩

section

variable [DecidableEq N]

lemma openatExclusive_spec (dirfd : Fd D) (name : N) :
    (openatExclusive dirfd name).Post w fun r w' =>
      (∃ code, r = .error code ∧ w'.fs = w.fs) ∨
        ∃ fd, r = .ok fd ∧ fd.target = .file w.fs.next ∧ w.fs.names name = none ∧
          w'.fs = w.fs.create.link name w.fs.next (Nat.lt_succ_self _) := by
  refine faulty_post (fun code => .inl ⟨code, rfl, rfl⟩) ?_
  unfold Prog.Post
  dsimp only
  split
  · exact .inl ⟨_, rfl, rfl⟩
  · exact .inr ⟨_, rfl, rfl, by assumption, rfl⟩

/-- A name that is taken cannot be reserved; the answer is `EEXIST` unless a fault says otherwise. -/
lemma openatExclusive_of_bound (dirfd : Fd D) {name : N} (hbd : w.fs.names name ≠ none) :
    (openatExclusive dirfd name).Post w fun r w' => w'.fs = w.fs ∧ ∃ code, r = .error code ∧
      (code = .eexist ↔ ∀ fault, w.outcome.error = some fault → fault = .eexist) := by
  obtain ⟨i, hi⟩ := Option.ne_none_iff_exists'.mp hbd
  unfold Prog.Post openatExclusive faulty
  cases herr : w.outcome.error with
  | some code =>
    refine ⟨rfl, code, rfl, fun hco fault hflt => ?_, fun hall => hall code rfl⟩
    exact (Option.some.inj hflt).symm.trans hco
  | none =>
    have hi' : (w.answered (.used dirfd.number)).fs.names name = some i := hi
    simp only [hi']
    exact ⟨rfl, .eexist, rfl, iff_of_true rfl nofun⟩

lemma linkat_spec {fd : Fd D} {i : Nat} (hfd : fd.target = .file i) (dirfd : Fd D) (name : N) :
    (linkat fd dirfd name).Post w fun r w' =>
      (r ≠ none ∧ w'.fs = w.fs) ∨ (w.fs.names name = none ∧ ∃ hi, w'.fs = w.fs.link name i hi) := by
  refine ambiguous_post.mono ?_
  rintro r w' (hno | hdn)
  · exact .inl hno
  · right
    simp only [hfd] at hdn
    cases hnm : w.fs.names name with
    | some j =>
      rw [hnm] at hdn
      cases hdn
    | none =>
      rw [hnm] at hdn
      by_cases hi : i < w.fs.next
      · simp only [dif_pos hi] at hdn
        exact ⟨rfl, hi, (Except.ok.inj hdn).symm⟩
      · simp only [dif_neg hi] at hdn
        cases hdn

lemma renameat2_spec (dirfd : Fd D) (old new : N) : (renameat2 dirfd old new).Post w fun r w' =>
    (r ≠ none ∧ w'.fs = w.fs) ∨
      (∃ i, w.fs.names old = some i ∧ w.fs.names new = none ∧ w'.fs = w.fs.rename old new) := by
  refine ambiguous_post.mono ?_
  rintro r w' (hno | hdn)
  · exact .inl hno
  · right
    split at hdn
    · cases hdn
    · cases hdn
    · exact ⟨_, by assumption, by assumption, (Except.ok.inj hdn).symm⟩

/-- A rename that is possible takes effect and reports an error just when the script says so. -/
lemma renameat2_outcome (dirfd : Fd D) {old new : N} {i : Nat} (hold : w.fs.names old = some i)
    (hnew : w.fs.names new = none) : (renameat2 dirfd old new).Post w fun r w' =>
      (r = none → w'.fs = w.fs.rename old new ∧ ∀ code, w.outcome ≠ .applied code) ∧
      (r ≠ none → (w'.fs = w.fs ∧ ∀ code, w.outcome ≠ .applied code) ∨
        (w'.fs = w.fs.rename old new ∧ ∃ code, w.outcome = .applied code)) := by
  unfold Prog.Post renameat2 ambiguous
  simp only [hold, hnew]
  cases hout : w.outcome with
  | ok => exact ⟨fun _ => ⟨rfl, nofun⟩, fun h => absurd rfl h⟩
  | fail code => exact ⟨nofun, fun _ => .inl ⟨rfl, nofun⟩⟩
  | applied code => exact ⟨nofun, fun _ => .inr ⟨rfl, code, rfl⟩⟩
  | short count => exact ⟨fun _ => ⟨rfl, nofun⟩, fun h => absurd rfl h⟩
  | cut count code => exact ⟨nofun, fun _ => .inl ⟨rfl, nofun⟩⟩

lemma unlinkat_spec (dirfd : Fd D) (name : N) : (unlinkat dirfd name).Post w fun r w' =>
    (∃ code, r = .error code ∧ w'.fs = w.fs) ∨
      ∃ i, r = .ok () ∧ w.fs.names name = some i ∧ w'.fs = w.fs.unlink name i := by
  refine faulty_post (fun code => .inl ⟨code, rfl, rfl⟩) ?_
  unfold Prog.Post
  dsimp only
  split
  · exact .inr ⟨_, rfl, by assumption, rfl⟩
  · exact .inl ⟨_, rfl, rfl⟩

end

/-- The files below `n` are as they were: a program that only works on files it has created keeps
all that were there before. -/
def Fs.KeptBelow (n : Nat) (fs fs' : Fs D N) : Prop := ∀ i, i < n → fs'.files i = fs.files i

namespace Fs.KeptBelow

variable {n i : Nat} {fs fs₁ fs₂ : Fs D N}

lemma refl (n : Nat) (fs : Fs D N) : fs.KeptBelow n fs := fun _ _ => rfl

lemma trans (h : fs.KeptBelow n fs1) (h1 : fs1.KeptBelow n fs2) : fs.KeptBelow n fs2 :=
  fun j hj => (h1 j hj).trans (h j hj)

lemma onlyFile (hi : n ≤ i) (h : fs.OnlyFile i fs1) : fs.KeptBelow n fs1 :=
  fun j hj => h.files j (Nat.ne_of_lt (Nat.lt_of_lt_of_le hj hi))

lemma sameNames (h : fs.SameNames fs1) : fs.KeptBelow n fs1 := fun j _ => congrFun h.files j

lemma create [DecidableEq N] (hn : n ≤ fs.next) : fs.KeptBelow n fs.create :=
  fun _ hj => update_of_ne (Nat.ne_of_lt (Nat.lt_of_lt_of_le hj hn)) _ _

lemma link [DecidableEq N] {name : N} (hn : n ≤ i) (hi : i < fs.next) :
    fs.KeptBelow n (fs.link name i hi) :=
  fun _ hj => update_of_ne (Nat.ne_of_lt (Nat.lt_of_lt_of_le hj hn)) _ _

lemma unlink [DecidableEq N] {name : N} (hn : n ≤ i) : fs.KeptBelow n (fs.unlink name i) :=
  fun _ hj => update_of_ne (Nat.ne_of_lt (Nat.lt_of_lt_of_le hj hn)) _ _

end Fs.KeptBelow

/-! ## 5. Programs that only look -/

/-- A program that leaves the directory as it is, and only takes outcomes off the script. -/
def ReadOnly (m : Sys D N α) : Prop :=
  ∀ w : World D N, m.Post w fun _ w' => w'.fs = w.fs ∧ w'.script <:+ w.script

namespace ReadOnly

variable {β : Type}

lemma pure (a : α) : ReadOnly (Pure.pure a : Sys D N α) := fun w => ⟨rfl, suffix_refl w.script⟩

lemma bind {m : Sys D N α} {f : α → Sys D N β} (hm : ReadOnly m) (hf : ∀ a, ReadOnly (f a)) :
    ReadOnly (m >>= f) := fun w =>
  (hm w).bind fun a t ht => ((hf a) t).mono fun _ _ h => ⟨h.1.trans ht.1, h.2.trans ht.2⟩

lemma answered (w : World D N) (event : Event) :
    (w.answered event).fs = w.fs ∧ (w.answered event).script <:+ w.script :=
  ⟨rfl, tail_suffix w.script⟩

lemma faulty (event : Event) {eff : Sys D N (Except Errno α)} (heff : ReadOnly eff) :
    ReadOnly (faulty event eff) := fun w =>
  faulty_post (fun _ => answered w event) <|
    (heff _).mono fun _ _ h => ⟨h.1, h.2.trans (answered w event).2⟩

lemma fstat (fd : Fd D) : ReadOnly (fstat fd : Sys D N _) :=
  .faulty _ fun w => ⟨rfl, suffix_refl w.script⟩

lemma fstatatDirectory (dirfd : Fd D) (d : D) : ReadOnly (fstatatDirectory dirfd d : Sys D N _) :=
  .faulty _ fun w => ⟨rfl, suffix_refl w.script⟩

lemma opening (target : Target D) : ReadOnly (opening target : Sys D N _) := fun w =>
  ⟨rfl, suffix_refl w.script⟩

lemma openatDirectory (dirfd : Fd D) (d : D) : ReadOnly (openatDirectory dirfd d : Sys D N _) :=
  .faulty _ (.opening _)

lemma close (fd : Fd D) : ReadOnly (close fd : Sys D N _) :=
  .faulty _ fun w => ⟨rfl, suffix_refl w.script⟩

end ReadOnly

/-! ## 6. When a sequence of calls succeeds

A program that looks and checks succeeds just when none of its calls is faulty and the directory
is as it demands. Read from the last call to the first, `succeeds_faulty` adds a call and
`succeeds_check` a check. -/

/-- The next `n` calls are not faulty. -/
def World.Clear (n : Nat) (w : World D N) : Prop := ∀ outcome ∈ w.script.take n, outcome.error = none

lemma World.clear_zero (w : World D N) : w.Clear 0 := by simp [World.Clear]

lemma World.clear_of_nil {w : World D N} (h : w.script = []) (n : Nat) : w.Clear n := by
  simp [World.Clear, h]

lemma World.clear_succ {n : Nat} (event : Event) :
    w.Clear (n + 1) ↔ w.outcome.error = none ∧ (w.answered event).Clear n := by
  unfold World.Clear World.outcome World.answered
  cases w.script with
  | nil => simp [Outcome.error]
  | cons outcome script => simp

lemma World.clear_add {m n : Nat} {w' : World D N} (h : w'.script = w.script.drop m) :
    w.Clear (m + n) ↔ w.Clear m ∧ w'.Clear n := by
  unfold World.Clear
  rw [h, take_add, forall_mem_append]

section

variable {β : Type} {n : Nat} {P : Prop}
variable {Q : β → World D N → Prop}

lemma succeeds_faulty {event : Event} {eff : Sys D N (Except Errno α)}
    {f : Except Errno α → Sys D N β}
    (hflt : ∀ code, ¬ (f (.error code)).Post (w.answered event) Q)
    (hok : (eff >>= f).Post (w.answered event) Q ↔ (w.answered event).Clear n ∧ P) :
    (faulty event eff >>= f).Post w Q ↔ w.Clear (n + 1) ∧ P := by
  have hrun : (faulty event eff >>= f).Post w Q ↔ match w.outcome.error with
      | some code => (f (.error code)).Post (w.answered event) Q
      | none => (eff >>= f).Post (w.answered event) Q := by
    change Q (f (faulty event eff w).1 (faulty event eff w).2).1
      (f (faulty event eff w).1 (faulty event eff w).2).2 ↔ _
    unfold faulty
    cases w.outcome.error <;> exact Iff.rfl
  rw [hrun, World.clear_succ event]
  cases herr : w.outcome.error with
  | some code => simp [hflt code]
  | none => simp [hok]

lemma succeeds_fstat {fd : Fd D} {f : Except Errno FileStat → Sys D N β}
    (hflt : ∀ code, ¬ (f (.error code)).Post (w.answered (.used fd.number)) Q)
    (hok : (f (.ok (w.fs.stat fd.target))).Post (w.answered (.used fd.number)) Q ↔
      (w.answered (.used fd.number)).Clear n ∧ P) :
    (fstat fd >>= f).Post w Q ↔ w.Clear (n + 1) ∧ P :=
  succeeds_faulty hflt hok

lemma succeeds_fstatatDirectory {dirfd : Fd D} {d : D} {f : Except Errno FileStat → Sys D N β}
    (hflt : ∀ code, ¬ (f (.error code)).Post (w.answered (.used dirfd.number)) Q)
    (hok : (f (.ok (w.fs.directory d))).Post (w.answered (.used dirfd.number)) Q ↔
      (w.answered (.used dirfd.number)).Clear n ∧ P) :
    (fstatatDirectory dirfd d >>= f).Post w Q ↔ w.Clear (n + 1) ∧ P :=
  succeeds_faulty hflt hok

lemma succeeds_openatDirectory {dirfd : Fd D} {d : D} {f : Except Errno (Fd D) → Sys D N β}
    (hflt : ∀ code, ¬ (f (.error code)).Post (w.answered (.used dirfd.number)) Q)
    (hok : ∀ fd w', fd.target = .directory d → w'.fs = w.fs →
      w'.script = (w.answered (.used dirfd.number)).script → ((f (.ok fd)).Post w' Q ↔ w'.Clear n ∧ P)) :
    (openatDirectory dirfd d >>= f).Post w Q ↔ w.Clear (n + 1) ∧ P :=
  succeeds_faulty hflt (hok _ _ rfl rfl rfl)

lemma succeeds_check {b : Bool} {bad good : Sys D N β} (hbad : ¬ bad.Post w Q)
    (hg : b → (good.Post w Q ↔ w.Clear n ∧ P)) :
    (if b = false then bad else good).Post w Q ↔ w.Clear n ∧ b ∧ P := by
  cases b with
  | false => simpa using hbad
  | true => simpa using hg rfl

end

end

end ReCasaOS.Lib
