/-
# The public root and its listings

`secureRoot.open`, `secureRoot.list` and `secureRoot.openRegular` of
`pkg/publicfiles/fs_linux.go`, the path and name checks of `portal.go`, and the hand-over of a
root descriptor to a worker.

The file system is a parameter: a `SecureRoot` holds what `openat2` answers for each path, and a
`Descriptor` what an open file answers. What the kernel promises about it is carried by the
types: a `FileName` has one to 255 bytes, none of them a slash or zero, and the size of a file is
below `2^63`. Errors keep the wrapping that `fmt.Errorf` and package `os` give them.
-/
import ReCasaOS.Lib.Path
import ReCasaOS.PublicFiles.Protocol

namespace ReCasaOS.PublicFiles

open Lib List Option

/-! ## 1. Names and paths -/

def isSafeVisibleName (value : Bytes) : Bool :=
  decide (value ≠ []) && validString value
    && (runes value).all fun character =>
      match character with
      | some r => !(isControl r || isFormat r)
      | none => true

/-- The errors of `validateRelativePath`. -/
inductive PathError
  | filePathRequired
  | notRelative
  | forbiddenComponent
  | notClean
  deriving DecidableEq, Repr

def PathError.message : PathError → String
  | filePathRequired => "a file path is required"
  | notRelative => "path must be relative"
  | forbiddenComponent => "path contains a forbidden component"
  | notClean => "path must already be clean"

/-- A component that `validateRelativePath` refuses. -/
def forbiddenComponent (part : Bytes) : Bool :=
  !isSafeVisibleName part || part == [46] || part == [46, 46] || hasPrefix part [46]

def validateRelativePath (value : Bytes) (allowRoot : Bool) : Except PathError Bytes :=
  if value = [] then
    if allowRoot then .ok [] else .error .filePathRequired
  else do
    check (4096 < value.length ∨ containsByte value 0 ∨ containsByte value 92
      ∨ hasPrefix value [47]) .notRelative
    check ((splitByte 47 value).any forbiddenComponent) .forbiddenComponent
    check (clean value ≠ value) .notClean
    pure value

/-! ## 2. Errors -/

/-- An error: a value that `errors.Is` looks for, a text made on the spot, or an error that wraps
another one. -/
inductive FileError
  | value (err : StorageError)
  | text (message : String)
  | wrapped (message : String) (err : FileError)
  deriving DecidableEq, Repr

/-- A system call's error, as package `unix` returns it. -/
abbrev FileError.errno (code : Errno) : FileError := .value (.errno code)

def FileError.is (target : StorageError) : FileError → Bool
  | .value err => err == target
  | .text _ => false
  | .wrapped _ err => err.is target

def isHiddenFilesystemError (err : FileError) : Bool :=
  err.is (.errno .enoent) || err.is (.errno .enotdir) || err.is (.errno .eloop)
    || err.is (.errno .exdev) || err.is (.errno .eacces) || err.is (.errno .eperm)

/-- An error that comes from the file system alone, in any wrapping: of the package's own values it
can hold only `ErrUnsupported`. -/
def FileError.FromFilesystem : FileError → Prop
  | .value (.errno _) => True
  | .value .unsupported => True
  | .value _ => False
  | .text _ => True
  | .wrapped _ err => err.FromFilesystem

/-! ## 3. The file system -/

/-- A name in a directory, other than `.` and `..`, which `Readdirnames` leaves out. -/
structure FileName where
  bytes : Bytes
  length : 1 ≤ bytes.length ∧ bytes.length ≤ 255
  noSlash : 47 ∉ bytes
  noNul : 0 ∉ bytes
  notDots : bytes ≠ [46] ∧ bytes ≠ [46, 46]

structure Stat where
  dev : Nat
  ino : Nat
  kind : FileKind
  nlink : Nat
  size : Nat
  size_lt : size < 9223372036854775808

/-- A directory: its names in the order the kernel lists them, and the error at which reading
them stops, if there is one. -/
structure Directory where
  names : List FileName
  fault : Option Errno

inductive ReadError
  | eof
  | errno (code : Errno)
  deriving DecidableEq, Repr

/-- `Readdirnames`: at most `n` names for a positive `n`, else all of them; an empty directory
answers a positive `n` with `io.EOF`. -/
def Directory.readdirnames (directory : Directory) (n : Int) : List FileName × Option ReadError :=
  match directory.fault with
  | some code => ([], some (.errno code))
  | none =>
    if 0 < n then
      if directory.names.isEmpty then ([], some .eof) else (directory.names.take n.toNat, none)
    else (directory.names, none)

/-- What a file that was opened again for reading answers: `stat` to `unix.Fstat`, `info` to
`os.File.Stat`. -/
structure DataDescriptor where
  fd : Int
  stat : Except Errno Stat
  info : Except Errno Stat
  modTimeUnixNano : Int64

/-- What an open file answers. `statx` holds the mount id, if the kernel reports one; `reopened`
is what opening `/proc/self/fd` again gives. -/
structure Descriptor where
  fd : Int
  statx : Except Errno (Option UInt64)
  stat : Except Errno Stat
  directory : Directory
  reopened : Except Errno DataDescriptor

/-- The two sets of flags that `list` opens files with. -/
inductive OpenMode
  | directory
  | path
  deriving DecidableEq, Repr

structure SecureRoot where
  closed : Bool
  mountID : UInt64
  filesystemType : UInt32
  openat2 : Bytes → OpenMode → Except Errno Descriptor

def publicRootMountID : (statx : Except Errno (Option UInt64)) → Except FileError UInt64
  | .error code =>
    if code = .enosys ∨ code = .einval then
      .error (.wrapped "statx mount identifiers" (.value .unsupported))
    else .error (.wrapped "inspect mount identity from pinned root" (.errno code))
  | .ok mountID =>
    if mountID.getD 0 = 0 then
      .error (.wrapped "kernel did not report a statx mount identifier" (.value .unsupported))
    else .ok (mountID.getD 0)

def SecureRoot.open (root : SecureRoot) (relative : Bytes) (mode : OpenMode) :
    Except FileError Descriptor := do
  check (root.closed) (.errno .ebadf)
  let file ← (root.openat2 relative mode).mapError .errno
  let mountID ← publicRootMountID file.statx
  check (mountID ≠ root.mountID) (.errno .exdev)
  pure file

/-- A directory descriptor that one process hands to another. -/
structure RootDescriptor where
  fd : Int
  stat : Except Errno Stat
  filesystem : Except Errno Int
  statx : Except Errno (Option UInt64)
  openat2 : Bytes → OpenMode → Except Errno Descriptor

/-- `uint32(value)`. -/
def toUint32 (value : Int) : UInt32 := UInt32.ofNat (value % 4294967296).toNat

/-- `int64(int32(value))`. -/
def signExtend (value : UInt32) : Int :=
  if value < 2147483648 then value.toNat else (value.toNat : Int) - 4294967296

def publicRootFilesystemName (magic : Int) : Option String :=
  let normalized := toUint32 magic
  if magic ≠ normalized.toNat ∧ magic ≠ signExtend normalized then none
  else if normalized = 0xEF53 then some "ext2/3/4"
  else if normalized = 0x58465342 then some "XFS"
  else if normalized = 0x9123683E then some "Btrfs"
  else if normalized = 0x01021994 then some "tmpfs"
  else if normalized = 0xF2F52010 then some "F2FS"
  else none

/-- `inspectPublicRootFilesystem`: the magic number and the mount id. -/
def inspectPublicRootFilesystem (root : RootDescriptor) : Except FileError (Int × UInt64) := do
  let magic ← root.filesystem.mapError fun code =>
    .wrapped "inspect filesystem type from pinned root" (.errno code)
  let mountID ← publicRootMountID root.statx
  pure (magic, mountID)

/-- `stat.Mode&unix.S_IFMT == unix.S_IFDIR`, of a successful `Fstat`. -/
def isDirectory : Except Errno Stat → Bool
  | .ok stat => stat.kind == .directory
  | .error _ => false

def secureRootFromWorkerFD (root : RootDescriptor) (expectedMountID : UInt64)
    (expectedFilesystemType : UInt32) : Except StorageError SecureRoot := do
  check (root.fd < 0 ∨ expectedMountID = 0) .storageProtocol
  check (isDirectory root.stat = false) .storageProtocol
  let (magic, mountID) ← (inspectPublicRootFilesystem root).mapError fun _ => .storageProtocol
  check (mountID ≠ expectedMountID ∨ toUint32 magic ≠ expectedFilesystemType) .storageProtocol
  check (publicRootFilesystemName magic = none) .storageProtocol
  pure ⟨false, expectedMountID, expectedFilesystemType, root.openat2⟩

/-! ## 4. Listings -/

/-- An entry of a listing, with the type as the text it has on the wire. -/
structure Entry where
  name : Bytes
  type : Bytes
  size : Int
  deriving DecidableEq

/-- `file`. -/
def typeFile : Bytes := [102, 105, 108, 101]

/-- `directory`. -/
def typeDirectory : Bytes := [100, 105, 114, 101, 99, 116, 111, 114, 121]

/-- The entry of a file, or `none` where `list` leaves it out. -/
def entryOf (name : Bytes) (stat : Stat) : Option Entry :=
  match stat.kind with
  | .directory => some ⟨name, typeDirectory, 0⟩
  | .regular => if stat.nlink = 1 then some ⟨name, typeFile, stat.size⟩ else none
  | .other => none

/-- A name that `list` skips before it looks at the file. -/
def skipsName (name : Bytes) : Bool :=
  !isSafeVisibleName name || hasPrefix name [46] || containsByte name 47 || containsByte name 92

/-- The loop of `list`. -/
def SecureRoot.listNames (root : SecureRoot) (relative : Bytes) :
    List FileName → (entries : List Entry) → Except FileError (List Entry)
  | [], entries => .ok entries
  | name :: names, entries =>
    if skipsName name.bytes then root.listNames relative names entries
    else
      let childPath := if relative = [] then name.bytes else joinPath [relative, name.bytes]
      match root.open childPath .path with
      | .error err =>
        if isHiddenFilesystemError err then root.listNames relative names entries
        else .error err
      | .ok child =>
        match child.stat with
        | .error _ => root.listNames relative names entries
        | .ok stat => root.listNames relative names (entries ++ (entryOf name.bytes stat).toList)

def SecureRoot.list (root : SecureRoot) (relative : Bytes) (maxEntries : Int) :
    Except FileError (List Entry) :=
  let openPath := if relative = [] then [46] else relative
  match root.open openPath .directory with
  | .error err => .error err
  | .ok file =>
    match file.directory.readdirnames (maxEntries + 1) with
    | (_, some (.errno code)) => .error (.wrapped "readdirent public-file-directory" (.errno code))
    | (names, _) =>
      if maxEntries < names.length then .error (.value .entryLimit)
      else root.listNames relative names []

/-! ## 5. Regular files -/

def isSingleLinkRegular (stat : Stat) : Bool := stat.kind == .regular && stat.nlink == 1

/-- `openPinnedRegularValidated` without validators: the file is looked at, opened again for
reading, and looked at once more. -/
def openPinnedRegular (pin : Except FileError Descriptor)
    (reopen : Option (Descriptor → Except Errno DataDescriptor)) :
    Except FileError DataDescriptor := do
  let pinned ← pin
  let before ← pinned.stat.mapError fun code => .wrapped "inspect pinned file" (.errno code)
  check (isSingleLinkRegular before = false) (.value .pinnedObjectNotRegular)
  let reopen ← orError reopen (.text "pinned regular file reopener is unavailable")
  let data ← (reopen pinned).mapError fun code =>
    .wrapped "reopen pinned regular file" (.errno code)
  check (data.fd < 0 ∨ data.fd = pinned.fd)
    (.text "pinned regular file reopener returned an invalid descriptor")
  let after ← data.stat.mapError fun code =>
    .wrapped "inspect reopened regular file" (.errno code)
  check (isSingleLinkRegular after = false) (.value .pinnedObjectNotRegular)
  check (before.dev ≠ after.dev ∨ before.ino ≠ after.ino) (.value .pinnedIdentityChanged)
  pure data

/-- The part of `os.FileInfo` that the portal and the worker use. -/
structure FileInfo where
  size : Nat
  modTimeUnixNano : Int64
  size_lt : size < 9223372036854775808

def SecureRoot.openRegularWith (root : SecureRoot) (relative : Bytes)
    (reopen : Option (Descriptor → Except Errno DataDescriptor)) : Except FileError FileInfo :=
  match openPinnedRegular (root.open relative .path) reopen with
  | .error err =>
    if err.is .pinnedObjectNotRegular || err.is .pinnedIdentityChanged then .error (.errno .eperm)
    else .error err
  | .ok data =>
    match data.info with
    | .error code => .error (.wrapped "stat public-file" (.errno code))
    | .ok info =>
      if info.kind ≠ .regular then .error (.errno .eperm)
      else .ok ⟨info.size, data.modTimeUnixNano, info.size_lt⟩

def reopenPinnedRegular (pinned : Descriptor) : Except Errno DataDescriptor := pinned.reopened

def SecureRoot.openRegular (root : SecureRoot) (relative : Bytes) : Except FileError FileInfo :=
  root.openRegularWith relative (some reopenPinnedRegular)

/-! ## 6. What a listing holds -/

/-- A visible, single-component name with a legal type and size. -/
structure LegalEntry (entry : Entry) : Prop where
  visible : isSafeVisibleName entry.name
  notHidden : hasPrefix entry.name [46] = false
  component : 47 ∉ entry.name ∧ 92 ∉ entry.name
  typed : (entry.type = typeFile ∧ 0 ≤ entry.size) ∨
    (entry.type = typeDirectory ∧ entry.size = 0)

/-- An entry that comes from a directory: its name and size have the kernel's bounds too. -/
structure ListedEntry (entry : Entry) : Prop extends LegalEntry entry where
  nameLength : entry.name.length ≤ 255
  sizeBound : entry.size < 9223372036854775808

lemma skipsName_eq_false {name : Bytes} :
    skipsName name = false ↔ isSafeVisibleName name ∧ hasPrefix name [46] = false ∧
      47 ∉ name ∧ 92 ∉ name := by
  simp [skipsName, and_assoc]

lemma entryOf_listed {name : FileName} {stat : Stat} (h : skipsName name.bytes = false)
    {entry : Entry} (hent : entryOf name.bytes stat = some entry) : ListedEntry entry := by
  obtain ⟨hvisi, hhid, hsl, hback⟩ := skipsName_eq_false.mp h
  have hlen := name.length.2
  have hsz := stat.size_lt
  unfold entryOf at hent
  cases hkind : stat.kind with
  | directory =>
    rw [hkind] at hent
    cases hent
    exact ⟨⟨hvisi, hhid, ⟨hsl, hback⟩, .inr ⟨rfl, rfl⟩⟩, hlen, Int.ofNat_lt.mpr (by decide)⟩
  | regular =>
    rw [hkind] at hent
    obtain ⟨-, hso⟩ := ite_none_right_eq_some.mp hent
    cases hso
    exact ⟨⟨hvisi, hhid, ⟨hsl, hback⟩, .inl ⟨rfl, Int.natCast_nonneg _⟩⟩, hlen,
      Int.ofNat_lt.mpr hsz⟩
  | other =>
    rw [hkind] at hent
    cases hent

/-- One file adds at most one entry, and that one is legal. -/
lemma entryOf_step {name : FileName} (h : skipsName name.bytes = false) (stat : Stat) :
    (entryOf name.bytes stat).toList.length ≤ 1 ∧
      ∀ entry ∈ (entryOf name.bytes stat).toList, ListedEntry entry := by
  cases hent : entryOf name.bytes stat with
  | none => simp
  | some entry =>
    refine ⟨by simp, fun e he => ?_⟩
    rw [toList_some, mem_singleton] at he
    exact he ▸ entryOf_listed h hent

/-- The loop keeps its entries legal, and appends at most one for each name. -/
lemma listNames_listed {root : SecureRoot} {rel : Bytes} {result : List Entry} :
    ∀ {names : List FileName} {entries : List Entry},
      root.listNames rel names entries = .ok result →
      (∀ entry ∈ entries, ListedEntry entry) →
      (∀ entry ∈ result, ListedEntry entry) ∧ result.length ≤ entries.length + names.length
  | [], entries, h, hes => by
    cases h
    exact ⟨hes, Nat.le_refl _⟩
  | name :: names, entries, h, hes => by
    have hskip : root.listNames rel names entries = .ok result →
        (∀ entry ∈ result, ListedEntry entry) ∧
          result.length ≤ entries.length + (name :: names).length := by
      intro hrs
      obtain ⟨hall, hlen⟩ := listNames_listed hrs hes
      exact ⟨hall, by rw [length_cons]; omega⟩
    rw [SecureRoot.listNames] at h
    by_cases hnm : skipsName name.bytes
    · rw [if_pos hnm] at h
      exact hskip h
    rw [if_neg hnm] at h
    simp only at h
    split at h
    · split at h
      · exact hskip h
      · cases h
    · split at h
      · exact hskip h
      next stat _ =>
        have hst := entryOf_step (Bool.eq_false_iff.mpr hnm) stat
        obtain ⟨hall, hlen⟩ := listNames_listed h (fun entry hent =>
          (mem_append.mp hent).elim (hes entry) (hst.2 entry))
        rw [length_append] at hlen
        exact ⟨hall, by rw [length_cons]; omega⟩

/-- **A listing is legal and within its limit**, whatever the directory holds. -/
theorem list_listed {root : SecureRoot} {rel : Bytes} {maxEntries : Int}
    {entries : List Entry} (h : root.list rel maxEntries = .ok entries) :
    (∀ entry ∈ entries, ListedEntry entry) ∧ (entries.length : Int) ≤ maxEntries := by
  unfold SecureRoot.list at h
  simp only at h
  split at h
  · cases h
  · split at h
    · cases h
    next names _ _ _ =>
      split at h
      · cases h
      next hlimit =>
        obtain ⟨hall, hlen⟩ := listNames_listed h (by simp)
        rw [length_nil] at hlen
        exact ⟨hall, by omega⟩

/-! ## 7. What fails -/

/-- `errors.Is` finds none of the package's other values in an error of the file system. -/
lemma FileError.FromFilesystem.is_eq_false {err : FileError} {target : StorageError}
    (h : err.FromFilesystem) (htgt : ¬ (FileError.value target).FromFilesystem) :
    err.is target = false := by
  induction err with
  | value err =>
    rw [FileError.is, beq_eq_false_iff_ne]
    rintro rfl
    exact htgt h
  | text message => rfl
  | wrapped message err ih => exact ih h

lemma publicRootMountID_error (statx : Except Errno (Option UInt64)) :
    FailsIn FileError.FromFilesystem (publicRootMountID statx) := by
  cases statx with
  | error code =>
    rw [publicRootMountID]
    split
    · exact FailsIn.error trivial
    · exact FailsIn.error trivial
  | ok mountID =>
    rw [publicRootMountID]
    split
    · exact FailsIn.error trivial
    · exact FailsIn.pure _

variable (root : SecureRoot)

lemma open_error (rel : Bytes) (mode : OpenMode) :
    FailsIn FileError.FromFilesystem (root.open rel mode) := by
  refine FailsIn.bind (FailsIn.check trivial) fun _ => ?_
  refine FailsIn.bind (FailsIn.mapError fun _ => trivial) fun file => ?_
  refine FailsIn.bind (publicRootMountID_error file.statx) fun _ => ?_
  exact FailsIn.bind (FailsIn.check trivial) fun _ => FailsIn.pure _

lemma listNames_error (rel : Bytes) (names : List FileName) :
    ∀ entries, FailsIn FileError.FromFilesystem (root.listNames rel names entries) := by
  induction names with
  | nil =>
    intro entries
    exact FailsIn.pure entries
  | cons name names ih =>
    intro entries
    rw [SecureRoot.listNames]
    split
    · exact ih entries
    · simp only
      split
      next err hop =>
        split
        · exact ih entries
        · exact FailsIn.error (open_error _ _ _ err hop)
      · split
        · exact ih entries
        · exact ih _

/-- **A listing fails** with the entry limit, or with an error of the file system. -/
theorem list_error (rel : Bytes) (max : Int) :
    FailsIn (fun err => err = .value .entryLimit ∨ err.FromFilesystem)
      (root.list rel max) := by
  unfold SecureRoot.list
  simp only
  split
  next err hop =>
    exact FailsIn.error (.inr (open_error _ _ _ err hop))
  · split
    · exact FailsIn.error (.inr trivial)
    · split
      · exact FailsIn.error (.inl rfl)
      · intro err herr
        exact .inr (listNames_error root rel _ [] err herr)

/-- Opening a pinned file fails with one of its two own values, or with an error of the file
system. -/
lemma openPinnedRegular_error {pin : Except FileError Descriptor}
    (reopen : Option (Descriptor → Except Errno DataDescriptor))
    (hpin : FailsIn FileError.FromFilesystem pin) :
    FailsIn (fun err => err = .value .pinnedObjectNotRegular ∨ err = .value .pinnedIdentityChanged
      ∨ err.FromFilesystem) (openPinnedRegular pin reopen) := by
  refine FailsIn.bind (fun err herr => .inr (.inr (hpin err herr))) fun _ => ?_
  refine FailsIn.bind (FailsIn.mapError fun _ => .inr (.inr trivial)) fun _ => ?_
  refine FailsIn.bind (FailsIn.check (.inl rfl)) fun _ => ?_
  refine FailsIn.bind (FailsIn.orError (.inr (.inr trivial))) fun _ => ?_
  refine FailsIn.bind (FailsIn.mapError fun _ => .inr (.inr trivial)) fun _ => ?_
  refine FailsIn.bind (FailsIn.check (.inr (.inr trivial))) fun _ => ?_
  refine FailsIn.bind (FailsIn.mapError fun _ => .inr (.inr trivial)) fun _ => ?_
  refine FailsIn.bind (FailsIn.check (.inl rfl)) fun _ => ?_
  exact FailsIn.bind (FailsIn.check (.inr (.inl rfl))) fun _ => FailsIn.pure _

/-- **Opening a file fails** with an error of the file system. -/
theorem openRegular_error (rel : Bytes) :
    FailsIn FileError.FromFilesystem (root.openRegular rel) := by
  unfold SecureRoot.openRegular SecureRoot.openRegularWith
  split
  next err hpinned =>
    split
    · exact FailsIn.error trivial
    next hpl =>
      rcases openPinnedRegular_error _ (open_error _ _ _) err hpinned with rfl | rfl | hfi
      · exact absurd rfl hpl
      · exact absurd rfl hpl
      · exact FailsIn.error hfi
  · split
    · exact FailsIn.error trivial
    · split
      · exact FailsIn.error trivial
      · exact FailsIn.pure _

end ReCasaOS.PublicFiles
