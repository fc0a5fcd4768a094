/-
# Mounts and the paths that lead through them

`/proc/self/mountinfo` lists a mount by its id, the id of the mount that it lies on, and the path
where it does. A descriptor is on one mount. A lookup that starts at a descriptor takes one name
after the other, and where something is mounted on the mount it is on it goes over to that
(`cross`), as often as mounts are stacked there. A mount at the same path on some other mount is
not seen.

What a directory holds depends on the mount: `nodes` says it for every mount and path, apart from
the root of a mount, which is `contents`.

A lookup asks for nothing but what is mounted on the way (`resolve_congr`), so a change elsewhere in
the table does not touch it.
-/
import ReCasaOS.Lib.Path
import ReCasaOS.Lib.Posix

namespace ReCasaOS.Lib

open List

/-! ## 1. The table -/

/-- A line of `mountinfo`. -/
structure MountEntry where
  id : Int
  parent : Int
  mountpoint : Bytes
  fsType : Bytes
  source : Bytes
  deriving DecidableEq, Repr

/-- The mounts at a path, whatever they lie on. -/
def entriesAt (table : List MountEntry) (path : Bytes) : List MountEntry :=
  table.filter fun entry => decide (entry.mountpoint = path)

/-- The mounts away from some paths. -/
def awayFrom (paths : List Bytes) (table : List MountEntry) : List MountEntry :=
  table.filter fun entry => decide (entry.mountpoint ∉ paths)

/-- From a mount up to what is stacked on it, at most as often as there are mounts `here`. -/
def climb (here : List MountEntry) : (fuel : Nat) → Int → Int
  | 0, mount => mount
  | fuel + 1, mount =>
    match here.find? fun entry => decide (entry.parent = mount) with
    | none => mount
    | some entry => climb here fuel entry.id

/-- Where a lookup on `mount` that has come to `path` goes on. -/
def cross (table : List MountEntry) (path : Bytes) (mount : Int) : Int :=
  climb (entriesAt table path) (entriesAt table path).length mount

section

variable {table : List MountEntry} {path other : Bytes} {entry : MountEntry}
variable {paths : List Bytes}

lemma mem_entriesAt : entry ∈ entriesAt table path ↔ entry ∈ table ∧ entry.mountpoint = path := by
  simp [entriesAt]

lemma entriesAt_eq_nil : entriesAt table path = [] ↔ ∀ entry ∈ table, entry.mountpoint ≠ path := by
  simp [entriesAt]

@[simp] lemma entriesAt_append (s t : List MountEntry) (path : Bytes) :
    entriesAt (s ++ t) path = entriesAt s path ++ entriesAt t path :=
  filter_append ..

lemma entriesAt_singleton (entry : MountEntry) (path : Bytes) :
    entriesAt [entry] path = if entry.mountpoint = path then [entry] else [] := by
  by_cases h : entry.mountpoint = path <;> simp [entriesAt, h]

lemma mem_awayFrom : entry ∈ awayFrom paths table ↔ entry ∈ table ∧ entry.mountpoint ∉ paths := by
  simp [awayFrom]

lemma entriesAt_awayFrom (h : path ∉ paths) :
    entriesAt (awayFrom paths table) path = entriesAt table path := by
  rw [entriesAt, awayFrom, filter_filter, entriesAt]
  refine filter_congr fun e _ => ?_
  by_cases hpa : e.mountpoint = path
  · simp [hpa, h]
  · simp [hpa]

lemma awayFrom_congr {more : List Bytes} {table' : List MountEntry} (hsub : paths ⊆ more)
    (h : awayFrom paths table = awayFrom paths table') :
    awayFrom more table = awayFrom more table' := by
  have htwice : ∀ table, awayFrom more (awayFrom paths table) = awayFrom more table := by
    intro table
    rw [awayFrom, awayFrom, filter_filter, awayFrom]
    refine filter_congr fun e _ => ?_
    by_cases hmore : e.mountpoint ∈ more
    · simp [hmore]
    · have hpaths : e.mountpoint ∉ paths := fun hmem => hmore (hsub hmem)
      simp [hmore, hpaths]
  rw [← htwice table, h, htwice]

lemma awayFrom_eq_self (h : ∀ path ∈ paths, entriesAt table path = []) :
    awayFrom paths table = table :=
  filter_eq_self.mpr fun e he => decide_eq_true fun hmem =>
    entriesAt_eq_nil.mp (h e.mountpoint hmem) e he rfl

/-- A lone mount is seen from the mount that it lies on. -/
lemma cross_of_singleton {mount : Int} (h : entriesAt table path = [entry])
    (hpar : entry.parent = mount) : cross table path mount = entry.id := by
  simp [cross, h, climb, hpar]

lemma cross_congr {table' : List MountEntry} (h : entriesAt table path = entriesAt table' path)
    (mount : Int) : cross table path mount = cross table' path mount := by
  rw [cross, cross, h]

lemma cross_singleton_cases (h : entriesAt table path = [entry]) (mount : Int) :
    cross table path mount = mount ∨ cross table path mount = entry.id := by
  by_cases hpar : entry.parent = mount
  · exact .inr (cross_of_singleton h hpar)
  · left
    simp [cross, h, climb, hpar]

end

/-! ## 2. Lookups -/

/-- An entry of a directory, as `ReadDir` lists it; a symbolic link is no directory. -/
structure DirEntry where
  name : Bytes
  isDir : Bool
  deriving DecidableEq, Repr

inductive Node
  | directory (entries : List DirEntry)
  | regular (nlink : Nat)
  | other
  deriving DecidableEq, Repr

structure MountedTree where
  table : List MountEntry
  nodes : Int → Bytes → Option Node
  /-- What the root of a mount holds. -/
  contents : Int → List DirEntry

namespace MountedTree

variable (fs : MountedTree)

/-- What is at a path of a mount. -/
def nodeAt (mount : Int) (path : Bytes) : Option Node :=
  if (entriesAt fs.table path).any (fun entry => decide (entry.id = mount)) then
    some (.directory (fs.contents mount))
  else fs.nodes mount path

/-- The next step of a lookup: the mount that it comes to, and what is there. -/
def step (mount : Int) (path : Bytes) : Except Errno (Int × Node) :=
  match fs.nodeAt (cross fs.table path mount) path with
  | none => .error .enoent
  | some node => .ok (cross fs.table path mount, node)

/-- The next step into a directory. -/
def enter (mount : Int) (path : Bytes) : Except Errno Int :=
  match fs.step mount path with
  | .error code => .error code
  | .ok (next, .directory _) => .ok next
  | .ok (_, .regular _) => .error .enotdir
  | .ok (_, .other) => .error .eloop

/-- `openat2` of a directory, from the descriptor of `dir` on `mount`: the mount of the new one. -/
def resolve : (dir rest : List Bytes) → (mount : Int) → Except Errno Int
  | _, [], mount => .ok mount
  | dir, name :: rest, mount =>
    match fs.enter mount (absolutePath (dir ++ [name])) with
    | .error code => .error code
    | .ok next => resolve (dir ++ [name]) rest next

/-- `ReadDir`, of a directory that is open. -/
def listing (mount : Int) (path : Bytes) : Option (List DirEntry) :=
  match fs.nodeAt mount path with
  | some (.directory entries) => some entries
  | _ => none

/-- `mkdirat` in the directory `dir` of a mount. -/
def mkdirAt (mount : Int) (dir : List Bytes) (name : Bytes) : Except Errno Unit × MountedTree :=
  match fs.nodeAt mount (absolutePath (dir ++ [name])) with
  | some _ => (.error .eexist, fs)
  | none =>
    (.ok (), { fs with
      nodes := fun m path =>
        if m = mount ∧ path = absolutePath (dir ++ [name]) then some (.directory [])
        else if m = mount ∧ path = absolutePath dir then
          match fs.nodes m path with
          | some (.directory entries) => some (.directory (entries ++ [⟨name, true⟩]))
          | node => node
        else fs.nodes m path })

end MountedTree

/-- The ids that new mounts get. -/
structure MountIDs where
  next : List MountEntry → Int
  positive : ∀ table, 0 < next table
  fresh : ∀ table, ∀ entry ∈ table, entry.id ≠ next table

namespace MountedTree

variable (ids : MountIDs) (fs : MountedTree)

def newEntry (mount : Int) (path fsType source : Bytes) : MountEntry :=
  ⟨ids.next fs.table, cross fs.table path mount, path, fsType, source⟩

/-- `mount` on the directory at `path` of a mount. -/
def mountOn (mount : Int) (path fsType source : Bytes) : MountedTree :=
  { fs with table := fs.table ++ [fs.newEntry ids mount path fsType source] }

/-- `umount` of what a lookup on `mount` finds at `path`. -/
def unmountAt (mount : Int) (path : Bytes) : Except Errno Unit × MountedTree :=
  if cross fs.table path mount = mount then (.error .einval, fs)
  else
    (.ok (), { fs with
      table := fs.table.filter fun entry => !(decide (entry.mountpoint = path)
        && decide (entry.id = cross fs.table path mount)) })

end MountedTree

/-! ## 3. What a lookup depends on -/

section

variable {fs fs' : MountedTree} {path : Bytes} {mount : Int}

/-- Two trees that agree on what is at a path. -/
structure AgreeAt (fs fs' : MountedTree) (path : Bytes) : Prop where
  entries : entriesAt fs.table path = entriesAt fs'.table path
  nodes : ∀ mount, fs.nodes mount path = fs'.nodes mount path
  contents : fs.contents = fs'.contents

lemma nodeAt_congr (h : AgreeAt fs fs' path) (mount : Int) :
    fs.nodeAt mount path = fs'.nodeAt mount path := by
  simp only [MountedTree.nodeAt, h.entries, h.nodes, h.contents]

lemma step_congr (h : AgreeAt fs fs' path) (mount : Int) :
    fs.step mount path = fs'.step mount path := by
  simp only [MountedTree.step, cross_congr h.entries, nodeAt_congr h]

/-- **A lookup asks only for what is on the way.** -/
theorem resolve_congr {dir rest : List Bytes}
    (h : ∀ names, names <+: rest → names ≠ [] → AgreeAt fs fs' (absolutePath (dir ++ names)))
    (mount : Int) : fs.resolve dir rest mount = fs'.resolve dir rest mount := by
  induction rest generalizing dir mount with
  | nil => rfl
  | cons name rest ih =>
    have hhere := h [name] (cons_prefix_cons.mpr ⟨rfl, nil_prefix⟩) (cons_ne_nil _ _)
    have hrs : ∀ names, names <+: rest → names ≠ [] →
        AgreeAt fs fs' (absolutePath (dir ++ [name] ++ names)) := by
      intro names hnms hne
      rw [append_assoc, singleton_append]
      exact h _ (cons_prefix_cons.mpr ⟨rfl, hnms⟩) (cons_ne_nil _ _)
    simp only [MountedTree.resolve, MountedTree.enter, step_congr hhere, ih hrs]

end

/-! ## 4. What a change does to the table -/

section

variable {fs : MountedTree} {ids : MountIDs} {mount : Int} {path other fsType src : Bytes}

lemma entriesAt_mountOn_ne (hne : other ≠ path) :
    entriesAt (fs.mountOn ids mount path fsType src).table other = entriesAt fs.table other := by
  have hpa : (fs.newEntry ids mount path fsType src).mountpoint ≠ other := Ne.symm hne
  rw [MountedTree.mountOn, entriesAt_append, entriesAt_singleton, if_neg hpa, append_nil]

lemma awayFrom_mountOn {paths : List Bytes} (h : entriesAt fs.table path = []) :
    awayFrom (paths ++ [path]) (fs.mountOn ids mount path fsType src).table
      = awayFrom paths fs.table := by
  rw [MountedTree.mountOn, awayFrom, filter_append, awayFrom]
  have hnew : [fs.newEntry ids mount path fsType src].filter
      (fun entry => decide (entry.mountpoint ∉ paths ++ [path])) = [] := by
    simp [MountedTree.newEntry]
  rw [hnew, append_nil]
  refine filter_congr fun e he => ?_
  have hpa := entriesAt_eq_nil.mp h e he
  simp [hpa]

lemma awayFrom_unmountAt {paths : List Bytes} (h : path ∈ paths) :
    awayFrom paths (fs.unmountAt mount path).2.table = awayFrom paths fs.table := by
  unfold MountedTree.unmountAt
  split
  · rfl
  · rw [awayFrom, filter_filter, awayFrom]
    refine filter_congr fun e _ => ?_
    by_cases hpa : e.mountpoint = path
    · simp [hpa, h]
    · simp [hpa]

lemma unmountAt_nodes : (fs.unmountAt mount path).2.nodes = fs.nodes := by
  unfold MountedTree.unmountAt
  split <;> rfl

lemma unmountAt_contents : (fs.unmountAt mount path).2.contents = fs.contents := by
  unfold MountedTree.unmountAt
  split <;> rfl

lemma unmountAt_sublist : (fs.unmountAt mount path).2.table.Sublist fs.table := by
  unfold MountedTree.unmountAt
  split
  · exact List.Sublist.refl _
  · exact filter_sublist

lemma unmountAt_of_singleton {entry : MountEntry} (h : entriesAt fs.table path = [entry])
    (hse : cross fs.table path mount ≠ mount) :
    (fs.unmountAt mount path).1 = .ok () ∧ entriesAt (fs.unmountAt mount path).2.table path = [] := by
  have htop : cross fs.table path mount = entry.id :=
    (cross_singleton_cases h mount).resolve_left hse
  rw [MountedTree.unmountAt, if_neg hse, htop]
  refine ⟨rfl, entriesAt_eq_nil.mpr fun e he hpa => ?_⟩
  obtain ⟨hmem, hk⟩ := mem_filter.mp he
  have hone : e = entry := by
    have := mem_entriesAt.mpr ⟨hmem, hpa⟩
    rw [h] at this
    exact mem_singleton.mp this
  simp [hone ▸ hpa, hone] at hk

end

end ReCasaOS.Lib
