/-
# Trees of files

A directory holds named entries in the order in which it lists them; an entry is a tree of its own.
`info` is whatever is known about a file besides that. A directory is changed by erasing an entry
(`erase`), by adding one under a free name (`insert`) and by changing one in place (`set`); deep in
a tree, by changing the directory at a path (`updateAt`).

The lemmas say what is found after a change, under the same name and under others, and what is
found at one path after a change at another.
-/
import Mathlib
import ReCasaOS.Lib.Bytes

namespace ReCasaOS.Lib

open List Option

inductive FileTree (μ : Type)
  | node (info : μ) (entries : List (Bytes × FileTree μ))

namespace FileTree

variable {μ : Type}

def info : FileTree μ → μ
  | node info _ => info

def entries : FileTree μ → List (Bytes × FileTree μ)
  | node _ entries => entries

/-- The names in a directory, in the order in which it lists them. -/
def names (dir : FileTree μ) : List Bytes := dir.entries.map Prod.fst

def lookup (dir : FileTree μ) (name : Bytes) : Option (FileTree μ) := dir.entries.lookup name

/-! ## 1. Changes in a directory -/

def erase (dir : FileTree μ) (name : Bytes) : FileTree μ :=
  node dir.info (dir.entries.filter (·.1 != name))

/-- A new entry, at the end. -/
def insert (dir : FileTree μ) (name : Bytes) (entry : FileTree μ) : FileTree μ :=
  node dir.info (dir.entries ++ [(name, entry)])

/-- The first entry of that name, changed. -/
def setEntry (name : Bytes) (entry : FileTree μ) :
    List (Bytes × FileTree μ) → List (Bytes × FileTree μ)
  | [] => []
  | head :: rest =>
    if name == head.1 then (head.1, entry) :: rest else head :: setEntry name entry rest

def set (dir : FileTree μ) (name : Bytes) (entry : FileTree μ) : FileTree μ :=
  node dir.info (setEntry name entry dir.entries)

section

variable {dir entry : FileTree μ} {name n : Bytes} {list : List (Bytes × FileTree μ)}

lemma lookup_cons_ne {head : Bytes × FileTree μ} (h : name ≠ head.1) :
    (head :: list).lookup name = list.lookup name := by
  rw [lookup_cons, beq_eq_false_iff_ne.mpr h]

lemma entries_eq_nil (h : ∀ name, dir.lookup name = none) : dir.entries = [] := by
  cases hes : dir.entries with
  | nil => rfl
  | cons head entries =>
    have hhd := h head.1
    rw [lookup, hes, lookup_cons_self] at hhd
    cases hhd

lemma lookup_eq_none (h : name ∉ dir.names) : dir.lookup name = none := by
  rw [lookup, lookup_eq_none_iff]
  intro entry hent
  rw [bne_iff_ne]
  rintro rfl
  exact h (List.mem_map_of_mem hent)

@[simp] lemma lookup_erase_self : (dir.erase name).lookup name = none := by
  refine lookup_eq_none fun hnm => ?_
  obtain ⟨entry, hent, rfl⟩ := mem_map.mp hnm
  have hk := (mem_filter.mp hent).2
  simp at hk

lemma lookup_filter_ne (h : n ≠ name) (list : List (Bytes × FileTree μ)) :
    (list.filter (·.1 != name)).lookup n = list.lookup n := by
  induction list with
  | nil => rfl
  | cons head list ih =>
    by_cases hhd : head.1 = name
    · rw [filter_cons_of_neg (by simp [hhd]), lookup_cons_ne (hhd ▸ h), ih]
    · rw [filter_cons_of_pos (by simpa using hhd), lookup_cons, lookup_cons, ih]

lemma lookup_erase_ne (h : n ≠ name) : (dir.erase name).lookup n = dir.lookup n :=
  lookup_filter_ne h dir.entries

lemma lookup_setEntry_self (entry : FileTree μ) :
    (setEntry name entry list).lookup name = (list.lookup name).map fun _ => entry := by
  induction list with
  | nil => rfl
  | cons head list ih =>
    by_cases hhd : name = head.1
    · simp [setEntry, hhd, List.lookup]
    · simp [setEntry, hhd, lookup_cons_ne, ih]

lemma lookup_setEntry_ne (h : n ≠ name) (entry : FileTree μ) :
    (setEntry name entry list).lookup n = list.lookup n := by
  induction list with
  | nil => rfl
  | cons head list ih =>
    by_cases hhd : name = head.1
    · simp [setEntry, ← hhd, lookup_cons_ne, h]
    · simp [setEntry, hhd, List.lookup, ih]

lemma setEntry_self (h : list.lookup name = some entry) : setEntry name entry list = list := by
  induction list with
  | nil => rfl
  | cons head list ih =>
    by_cases hhd : name = head.1
    · rw [hhd, lookup_cons_self, some.injEq] at h
      simp [setEntry, hhd, ← h]
    · rw [lookup_cons_ne hhd] at h
      simp [setEntry, hhd, ih h]

lemma lookup_set_self (h : dir.lookup name ≠ none) :
    (dir.set name entry).lookup name = some entry := by
  obtain ⟨old, hold⟩ := ne_none_iff_exists'.mp h
  have hset : (dir.set name entry).lookup name = (dir.lookup name).map fun _ => entry :=
    lookup_setEntry_self entry
  rw [hset, hold]
  rfl

lemma lookup_set_ne (h : n ≠ name) : (dir.set name entry).lookup n = dir.lookup n :=
  lookup_setEntry_ne h entry

lemma set_self (h : dir.lookup name = some entry) : dir.set name entry = dir := by
  rw [set, setEntry_self h]
  cases dir
  rfl

lemma lookup_insert_self (h : dir.lookup name = none) :
    (dir.insert name entry).lookup name = some entry := by
  have hno : dir.entries.lookup name = none := h
  show (dir.entries ++ [(name, entry)]).lookup name = some entry
  rw [lookup_append, hno, none_or, lookup_cons_self]

lemma lookup_insert_ne (h : n ≠ name) : (dir.insert name entry).lookup n = dir.lookup n := by
  show (dir.entries ++ [(name, entry)]).lookup n = dir.entries.lookup n
  rw [lookup_append, lookup_cons_ne h, lookup_nil, or_none]

end

/-! ## 2. Paths -/

/-- The file at a path. -/
def get : List Bytes → FileTree μ → Option (FileTree μ)
  | [], tree => some tree
  | name :: path, tree => (tree.lookup name).bind (get path)

/-- The tree with the file at a path changed, if there is one. -/
def updateAt (f : FileTree μ → FileTree μ) : List Bytes → FileTree μ → FileTree μ
  | [], tree => f tree
  | name :: path, tree =>
    ((tree.lookup name).map fun entry => tree.set name (updateAt f path entry)).getD tree

section

variable {f : FileTree μ → FileTree μ} {tree dir : FileTree μ} {p q : List Bytes} {name : Bytes}
variable {entry : FileTree μ}

lemma get_cons (h : tree.lookup name = some entry) : get (name :: p) tree = get p entry := by
  rw [get, h]
  rfl

lemma updateAt_cons (h : tree.lookup name = some entry) :
    updateAt f (name :: p) tree = tree.set name (updateAt f p entry) := by
  rw [updateAt, h]
  rfl

lemma updateAt_cons_none (h : tree.lookup name = none) : updateAt f (name :: p) tree = tree := by
  rw [updateAt, h]
  rfl

lemma get_updateAt_cons (h : tree.lookup name = some entry) :
    get (name :: q) (updateAt f (name :: p) tree) = get q (updateAt f p entry) := by
  rw [updateAt_cons h, get_cons (lookup_set_self (by simp [h]))]

lemma get_append (p q : List Bytes) (tree : FileTree μ) :
    get (p ++ q) tree = (get p tree).bind (get q) := by
  induction p generalizing tree with
  | nil => rfl
  | cons name p ih =>
    cases h : tree.lookup name with
    | none =>
      rw [cons_append, get, get, h]
      rfl
    | some entry => rw [cons_append, get_cons h, get_cons h, ih]

lemma get_updateAt_append (p q : List Bytes) (tree : FileTree μ) :
    get (p ++ q) (updateAt f p tree) = (get p tree).bind fun dir => get q (f dir) := by
  induction p generalizing tree with
  | nil => rfl
  | cons name p ih =>
    cases h : tree.lookup name with
    | none =>
      rw [updateAt_cons_none h, cons_append, get, get, h]
      rfl
    | some entry => rw [cons_append, get_updateAt_cons h, get_cons h, ih]

lemma get_updateAt_of_apart (hpq : ¬ p <+: q) (hqp : ¬ q <+: p) :
    get q (updateAt f p tree) = get q tree := by
  induction p generalizing tree q with
  | nil => exact absurd nil_prefix hpq
  | cons name p ih =>
    cases q with
    | nil => exact absurd nil_prefix hqp
    | cons n q =>
      cases h : tree.lookup name with
      | none => rw [updateAt_cons_none h]
      | some entry =>
        by_cases hn : n = name
        · subst hn
          rw [get_updateAt_cons h, get_cons h]
          refine ih (fun hpre => hpq ?_) (fun hpre => hqp ?_)
          · exact cons_prefix_cons.mpr ⟨rfl, hpre⟩
          · exact cons_prefix_cons.mpr ⟨rfl, hpre⟩
        · rw [updateAt_cons h, get, get, lookup_set_ne hn]

/-- A change that keeps what is known about its directory keeps what is known about the
directories above it. -/
lemma info_get_updateAt (hf : ∀ dir, get p tree = some dir → (f dir).info = dir.info) (hqp : q <+: p) :
    (get q (updateAt f p tree)).map info = (get q tree).map info := by
  induction q generalizing tree p with
  | nil =>
    cases p with
    | nil => exact congrArg some (hf tree rfl)
    | cons name p =>
      cases h : tree.lookup name with
      | none => rw [updateAt_cons_none h]
      | some entry => rw [updateAt_cons h]; rfl
  | cons n q ih =>
    cases p with
    | nil => exact absurd (eq_nil_of_prefix_nil hqp) (cons_ne_nil n q)
    | cons name p =>
      obtain ⟨rfl, hpre⟩ := cons_prefix_cons.mp hqp
      cases h : tree.lookup n with
      | none => rw [updateAt_cons_none h]
      | some entry =>
        have hent : ∀ dir, get p entry = some dir → (f dir).info = dir.info :=
          fun dir hdir => hf dir ((get_cons h).trans hdir)
        rw [get_updateAt_cons h, get_cons h, ih hent hpre]

lemma updateAt_self (h : ∀ dir, get p tree = some dir → f dir = dir) :
    updateAt f p tree = tree := by
  induction p generalizing tree with
  | nil => exact h tree rfl
  | cons name p ih =>
    cases hnm : tree.lookup name with
    | none => exact updateAt_cons_none hnm
    | some entry =>
      have hent : updateAt f p entry = entry := by
        refine ih fun dir hdir => h dir ?_
        rw [get_cons hnm, hdir]
      rw [updateAt_cons hnm, hent, set_self hnm]

end

/-! ## 3. Changes at one place -/

/-- A directory in which nothing but one entry has been touched. -/
structure TouchedAt (name : Bytes) (dir dir' : FileTree μ) : Prop where
  info : dir'.info = dir.info
  others : ∀ n, n ≠ name → dir'.lookup n = dir.lookup n

/-- A tree in which nothing has been touched but what is at a path or below. -/
structure TouchedBelow (p : List Bytes) (tree tree' : FileTree μ) : Prop where
  info : ∀ q, ¬ p <+: q → (get q tree').map FileTree.info = (get q tree).map FileTree.info
  others : ∀ q, ¬ p <+: q → ¬ q <+: p → get q tree' = get q tree

section

variable {tree tree' dir dir' : FileTree μ} {p q : List Bytes} {name : Bytes}

lemma TouchedBelow.refl (p : List Bytes) (tree : FileTree μ) : TouchedBelow p tree tree :=
  ⟨fun _ _ => rfl, fun _ _ _ => rfl⟩

/-- What is found through another entry of the directory. -/
lemma TouchedAt.get (h : TouchedAt name dir dir') (hdir : FileTree.get p tree = some dir) {n : Bytes}
    (hn : n ≠ name) : FileTree.get (p ++ n :: q) (updateAt (fun _ => dir') p tree)
      = FileTree.get (p ++ n :: q) tree := by
  rw [get_updateAt_append, get_append, hdir, bind_some, bind_some, FileTree.get,
    FileTree.get, h.others n hn]

/-- What is not at the entry or below is above it, elsewhere, or behind another entry. -/
lemma not_prefix_cases (h : ¬ p ++ [name] <+: q) :
    q <+: p ∨ (¬ p <+: q ∧ ¬ q <+: p) ∨ ∃ n rest, n ≠ name ∧ q = p ++ n :: rest := by
  by_cases hqp : q <+: p
  · exact .inl hqp
  by_cases hpq : p <+: q
  · obtain ⟨rest, rfl⟩ := hpq
    cases rest with
    | nil => exact absurd ⟨[], by rw [append_nil, append_nil]⟩ hqp
    | cons n rest =>
      refine .inr (.inr ⟨n, rest, ?_, rfl⟩)
      rintro rfl
      exact h ⟨rest, by rw [append_assoc]; rfl⟩
  · exact .inr (.inl ⟨hpq, hqp⟩)

/-- **A change of one entry of a directory** deep in the tree. -/
theorem TouchedAt.below (h : TouchedAt name dir dir') (hdir : FileTree.get p tree = some dir) :
    TouchedBelow (p ++ [name]) tree (updateAt (fun _ => dir') p tree) := by
  constructor
  · intro q hq
    rcases not_prefix_cases hq with habove | ⟨hpq, hqp⟩ | ⟨n, rest, hn, rfl⟩
    · refine info_get_updateAt (fun dir0 hdir0 => ?_) habove
      rw [some.inj (hdir0.symm.trans hdir)]
      exact h.info
    · rw [get_updateAt_of_apart hpq hqp]
    · rw [h.get hdir hn]
  · intro q hq hq'
    rcases not_prefix_cases hq with habove | ⟨hpq, hqp⟩ | ⟨n, rest, hn, rfl⟩
    · exact absurd (habove.trans (prefix_append p [name])) hq'
    · exact get_updateAt_of_apart hpq hqp
    · exact h.get hdir hn

lemma get_updateAt_entry (hdir : FileTree.get p tree = some dir) :
    FileTree.get (p ++ [name]) (updateAt (fun _ => dir') p tree) = dir'.lookup name := by
  rw [get_updateAt_append, hdir, bind_some, FileTree.get]
  cases dir'.lookup name <;> rfl

lemma get_entry (hdir : FileTree.get p tree = some dir) :
    FileTree.get (p ++ [name]) tree = dir.lookup name := by
  rw [get_append, hdir, bind_some, FileTree.get]
  cases dir.lookup name <;> rfl

end

end FileTree

end ReCasaOS.Lib
