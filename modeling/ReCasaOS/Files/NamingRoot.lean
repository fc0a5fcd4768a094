/-
# The naming root of a download

A download of several paths names the members of its archive relative to `CommonPrefix` of the paths
(`pkg/utils/file/file.go`, `managed_archive.go`): the first path is truncated byte by byte, and then
what stands behind the last separator is dropped, and the separator.
-/
import ReCasaOS.FileSecurity.RootMatching

namespace ReCasaOS.Files

open Lib FileSecurity List

variable {roots : ManagedRoots}

/-! ## 1. The code -/

/-- The loop body of `CommonPrefix`: `c` up to the first byte that is not in `v`. -/
def truncate : (c v : Bytes) → Bytes
  | b :: c, b' :: v => if b' ≠ b then [] else b :: truncate c v
  | _, _ => []

/-- The last loop: what stands before the final separator. -/
def dropElement (sep : UInt8) (c : Bytes) : Bytes :=
  match c.reverse.dropWhile (· != sep) with
  | [] => c
  | _ :: rest => rest.reverse

def commonPrefix (sep : UInt8) : (paths : List Bytes) → Bytes
  | [] => []
  | [path] => clean path
  | first :: paths => dropElement sep
    (paths.foldl (fun c v => truncate c (clean v ++ [sep])) (clean first ++ [sep]))

/-- `AddManagedFile` before it walks: the name of the path in the archive. No location is `/`. -/
def memberName (roots : ManagedRoots) (path commonPath : Bytes) : Except OpError Bytes := do
  check (trimSpace commonPath = [] ∨ commonPath.head? ≠ some 47)
    (textError "managed archive name root is invalid")
  let location ← roots.matchPath path
  let nameRoot := clean commonPath
  orError (relativeTo (if nameRoot = [47] then [] else nameRoot) location.canonical)
    (textError "managed archive member is outside its naming root")

/-- The deepest directory that contains or equals every path. -/
structure Deepest (dir : Bytes) (paths : List Bytes) : Prop where
  spelled : dir = absolutePath (components dir)
  contains : ∀ path ∈ paths, AtOrBelow dir path
  deepest : ∀ other, (∀ path ∈ paths, AtOrBelow other path) → AtOrBelow other dir

/-! ## 2. Common beginnings -/

variable {d c path : Bytes}

lemma isPrefix_truncate {v : Bytes} : d <+: truncate c v ↔ d <+: c ∧ d <+: v := by
  induction d generalizing c v with
  | nil => simp
  | cons b d ih =>
    cases c <;> cases v <;> simp only [truncate, cons_prefix_cons, prefix_nil] <;> grind

lemma isPrefix_foldl_truncate {paths : List Bytes} {f : Bytes → Bytes} :
    d <+: paths.foldl (fun c v => truncate c (f v)) c ↔ d <+: c ∧ ∀ v ∈ paths, d <+: f v := by
  induction paths generalizing c with
  | nil => simp
  | cons v paths ih => simp [ih, isPrefix_truncate, and_assoc]

lemma splitByte_dropElement {sep : UInt8} (h : sep ∈ c) :
    splitByte sep (dropElement sep c) = (splitByte sep c).dropLast := by
  obtain ⟨tail, hc, htail⟩ : ∃ tail, c = dropElement sep c ++ sep :: tail ∧ sep ∉ tail := by
    have hspt := takeWhile_append_dropWhile (p := (· != sep)) (l := c.reverse)
    unfold dropElement
    cases hdr : c.reverse.dropWhile (· != sep) with
    | nil => simpa using dropWhile_eq_nil_iff.mp hdr sep (mem_reverse.mpr h)
    | cons b rest =>
      obtain rfl : b = sep := by simpa [hdr] using head?_dropWhile_not (· != sep) c.reverse
      refine ⟨(c.reverse.takeWhile (· != b)).reverse, ?_, fun hmem => ?_⟩
      · simpa [hdr] using (congrArg reverse hspt).symm
      · simpa using mem_takeWhile_imp (mem_reverse.mp hmem)
  conv_rhs => rw [hc, splitByte_append, splitByte_of_not_mem htail, dropLast_concat]

/-- What begins a string and is followed by a separator there consists of its first elements. -/
lemma concat_isPrefix_iff : d ++ [47] <+: c ↔ splitByte 47 d <+: (splitByte 47 c).dropLast := by
  constructor
  · rintro ⟨t, rfl⟩
    rw [append_assoc, singleton_append, splitByte_append,
      dropLast_append_of_ne_nil (splitByte_ne_nil 47 t)]
    exact prefix_append _ _
  · rintro ⟨rest, hrs⟩
    have hla := dropLast_append_getLast (splitByte_ne_nil 47 c)
    rw [← hrs, append_assoc] at hla
    rw [← intercalate_splitByte 47 c, ← hla, intercalate_append (splitByte_ne_nil 47 d) (by simp),
      intercalate_splitByte]
    exact ⟨_, append_assoc _ _ _⟩

lemma splitByte_absolutePath {names : List Bytes} (hne : names ≠ [])
    (h : ∀ name ∈ names, IsComponent name) : splitByte 47 (absolutePath names) = [] :: names := by
  rw [absolutePath, ← nil_append (47 :: _), splitByte_append,
    splitByte_intercalate hne fun name hnm => (h name hnm).2.2]
  rfl

/-! ## 3. The naming root -/

/-- A clean path that is managed. -/
def Managed (roots : ManagedRoots) (path : Bytes) : Prop :=
  ∃ location, roots.matchPath path = .ok location ∧ location.canonical = path

lemma Managed.canonical (h : Managed roots path) :
    canonicalAbsoluteManagedPath path = .ok path ∧ components path ≠ [] := by
  obtain ⟨loc, hmat, rfl⟩ := h
  unfold ManagedRoots.matchPath at hmat
  split at hmat
  · cases hmat
  · obtain ⟨hv, -, -⟩ := matchManagementPath_ok hmat
    exact ⟨hv.canonical, hv.names_ne_nil⟩

lemma concat_isPrefix_clean (h : Managed roots path) :
    d ++ [47] <+: clean path ++ [47] ↔ splitByte 47 d <+: [] :: components path := by
  obtain ⟨hcan, hne⟩ := h.canonical
  rw [concat_isPrefix_iff, (canonicalAbsoluteManagedPath_ok hcan).2.1, splitByte_append,
    absolutePath_of_canonical hcan, splitByte_absolutePath hne
      fun name hnm => isComponent_of_mem_components hnm, ← absolutePath_of_canonical hcan]
  exact Iff.of_eq (congrArg _ dropLast_concat)

/-- **The elements of the common prefix** are the longest list that begins every path. -/
theorem commonPrefix_elements {paths : List Bytes} (hlen : 2 ≤ paths.length)
    (hpaths : ∀ path ∈ paths, Managed roots path) :
    ∃ top, splitByte 47 (commonPrefix 47 paths) = [] :: top ∧
      ∀ names, names <+: top ↔ ∀ path ∈ paths, names <+: components path := by
  rcases paths with _ | ⟨first, _ | ⟨second, paths⟩⟩
  · simp at hlen
  · simp at hlen
  let c := (second :: paths).foldl (fun c v => truncate c (clean v ++ [47])) (clean first ++ [47])
  have hc (d : Bytes) : splitByte 47 d <+: (splitByte 47 c).dropLast ↔
      ∀ path ∈ first :: second :: paths, splitByte 47 d <+: [] :: components path := by
    rw [← concat_isPrefix_iff, isPrefix_foldl_truncate, forall_mem_cons (a := first),
      concat_isPrefix_clean (hpaths first (.head _))]
    exact and_congr_right fun _ => forall₂_congr fun path hpa =>
      concat_isPrefix_clean (hpaths path (.tail _ hpa))
  have hsl : 47 ∈ c := by
    refine (concat_isPrefix_iff.mpr ((hc []).mpr fun path _ => ?_)).subset (mem_append_right [] ?_)
    · exact ⟨_, rfl⟩
    · exact (.head _)
  rw [← splitByte_dropElement hsl] at hc
  obtain ⟨top, htop⟩ := (hc []).mpr fun path _ => ⟨_, rfl⟩
  have hbegins : ∀ path ∈ first :: second :: paths, top <+: components path := fun path hpa => by
    have hself := (hc _).mp prefix_rfl path hpa
    rw [← htop] at hself
    exact (cons_prefix_cons.mp hself).2
  refine ⟨top, htop.symm, fun names => ⟨fun h path hpa => h.trans (hbegins path hpa), fun h => ?_⟩⟩
  have hno : ∀ name ∈ [] :: names, 47 ∉ name := by
    simpa using fun name hnm =>
      (isComponent_of_mem_components ((h first (.head _)).subset hnm)).2.2
  have hjoined := (hc (intercalate [47] ([] :: names))).mpr
  rw [splitByte_intercalate (cons_ne_nil _ _) hno, ← htop] at hjoined
  exact (cons_prefix_cons.mp (hjoined fun path hpa => cons_prefix_cons.mpr ⟨rfl, h path hpa⟩)).2

/-- A directory at or above a managed path is accepted as its naming root. -/
lemma memberName_ok {dir : Bytes} (hpa : Managed roots path)
    (hdir : dir = absolutePath (components dir)) (hne : components dir ≠ [])
    (hbw : AtOrBelow dir path) : ∃ name, memberName roots path dir = .ok name := by
  obtain ⟨hcan, -⟩ := hpa.canonical
  obtain ⟨loc, hmat, rfl⟩ := hpa
  have hhd : dir.head? = some 47 := by rw [hdir]; rfl
  have htrim : trimSpace dir ≠ [] :=
    ne_nil_of_mem (mem_trimSpace (by decide) (mem_of_head? hhd))
  have hcln : clean dir = dir := by
    rw [clean_of_plain fun hmem => dotdot_notMem_canonical hcan (hbw.subset hmem), if_pos hhd, ← hdir]
  have hprop : dir ≠ [47] := fun h => hne (by rw [h]; decide)
  have hcont := (pathContains_iff hdir (absolutePath_of_canonical hcan) hne).mpr hbw
  simp only [memberName, check_bind_of_not (not_or.mpr ⟨htrim, not_not.mpr hhd⟩), hmat, ok_bind, hcln,
    if_neg hprop]
  rw [pathContains, Bool.or_eq_true, beq_iff_eq] at hcont
  unfold relativeTo
  rcases hcont with rfl | h
  · exact ⟨_, by rw [if_pos rfl]; rfl⟩
  · rw [if_pos h]
    split <;> exact ⟨_, rfl⟩

/-- **The naming root is the deepest common directory**, and no member is refused because of it,
exactly when the paths share their first element. -/
theorem naming_root_iff (roots : ManagedRoots) (paths : List Bytes) (hlength : 2 ≤ paths.length)
    (hpaths : ∀ path ∈ paths, Managed roots path) :
    (Deepest (commonPrefix 47 paths) paths ∧
        ∀ path ∈ paths, ∃ name, memberName roots path (commonPrefix 47 paths) = .ok name) ↔
      ∃ first, ∀ path ∈ paths, (components path).head? = some first := by
  obtain ⟨top, hsplit, htop⟩ := commonPrefix_elements hlength hpaths
  have hbegins := (htop top).mp prefix_rfl
  have hdir := intercalate_splitByte 47 (commonPrefix 47 paths)
  have hcomponents : components (commonPrefix 47 paths) = top := by
    have hpath := getElem_mem (lt_of_lt_of_le Nat.two_pos hlength)
    rw [components, hsplit, filter_cons_of_neg (by decide), filter_eq_self]
    intro name hname
    obtain ⟨hne, hdot, -⟩ := isComponent_of_mem_components ((hbegins _ hpath).subset hname)
    exact decide_eq_true ⟨hne, hdot⟩
  rw [hsplit] at hdir
  constructor
  · rintro ⟨⟨hspelled, -, -⟩, -⟩
    cases top with
    | nil => rw [hcomponents, ← hdir] at hspelled; cases hspelled
    | cons first top =>
      refine ⟨first, fun path hpath => ?_⟩
      obtain ⟨rest, hrest⟩ := hbegins path hpath
      rw [← hrest]
      rfl
  · rintro ⟨first, hfirst⟩
    obtain ⟨rest, rfl⟩ := (htop [first]).mpr fun path hpath => by
      obtain ⟨rest, hrest⟩ := head?_eq_some_iff.mp (hfirst path hpath)
      exact ⟨rest, hrest.symm⟩
    have hspelled : commonPrefix 47 paths = absolutePath (components (commonPrefix 47 paths)) := by
      rw [hcomponents, ← hdir]
      rfl
    have hbelow : ∀ path ∈ paths, AtOrBelow (commonPrefix 47 paths) path := fun path hpath => by
      rw [AtOrBelow, hcomponents]
      exact hbegins path hpath
    refine ⟨⟨hspelled, hbelow, fun other hother => ?_⟩, fun path hpath => ?_⟩
    · rw [AtOrBelow, hcomponents]
      exact (htop _).mpr hother
    · exact memberName_ok (hpaths path hpath) hspelled (by simp [hcomponents]) (hbelow path hpath)

/-- The roots `/D` and `/m`. -/
def twoRoots : ManagedRoots where
  closed := false
  roots := [[47, 68], [47, 109]]
  normalized := by
    intro root hroot
    rcases List.mem_pair.mp hroot with rfl | rfl <;> exact ⟨rfl, by decide⟩

/-- `/D/a/x` and `/D/a` are named below `/D/a`. -/
theorem twoRoots_shared : Deepest [47, 68, 47, 97] [[47, 68, 47, 97, 47, 120], [47, 68, 47, 97]] :=
  ((naming_root_iff twoRoots [[47, 68, 47, 97, 47, 120], [47, 68, 47, 97]] (by decide) (by
    intro path hpath
    rcases mem_pair.mp hpath with rfl | rfl <;> exact ⟨_, rfl, rfl⟩)).mpr
    ⟨[68], by decide⟩).1

/-- `/D/a` and `/m/b` have no naming root. -/
theorem twoRoots_apart : (∀ path ∈ [[47, 68, 47, 97], [47, 109, 47, 98]], Managed twoRoots path) ∧
      memberName twoRoots [47, 68, 47, 97] (commonPrefix 47 [[47, 68, 47, 97], [47, 109, 47, 98]]) =
        .error (textError "managed archive name root is invalid") := by
  refine ⟨fun path hpath => ?_, rfl⟩
  rcases mem_pair.mp hpath with rfl | rfl <;> exact ⟨_, rfl, rfl⟩

end ReCasaOS.Files
