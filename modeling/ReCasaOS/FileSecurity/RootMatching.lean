/-
# Which root a path belongs to

The operator lists the roots in one setting, `ParseManagementFileRoots` reads it, and
`MatchManagementPath` and `MatchManagementChild` map a path to a root by its spelling
(`managed_paths.go`).

To be below a root is a relation of components (`AtOrBelow`), so that `/DATA2` is not below `/DATA`.
The loop of `MatchManagementPath` stops at the first root that contains the path. What makes it the
longest one is the order of the list, in which no root stands before a root below it (`Configured`):
the sort brings it about for a setting, and the default roots do not lie below each other. The child
resolver keeps the root of its base, whatever lies below.
-/
import ReCasaOS.FileSecurity.ManagedRoots

namespace ReCasaOS.FileSecurity

open Lib List

/-! ## 1. The setting -/

/-- The default roots `/DATA`, `/mnt` and `/media`. -/
def defaultManagementFileRoots : List Bytes :=
  [[47, 68, 65, 84, 65], [47, 109, 110, 116], [47, 109, 101, 100, 105, 97]]

/-- The order of `sort.Slice`: longer roots first, and then by bytes. -/
def rootLess (a b : Bytes) : Prop := if a.length = b.length then a < b else b.length < a.length

instance (a b : Bytes) : Decidable (rootLess a b) := inferInstanceAs (Decidable (ite _ _ _))

/-- Not after, in the order of `rootLess`. -/
def rootLe (a b : Bytes) : Prop := ¬rootLess b a

instance (a b : Bytes) : Decidable (rootLe a b) := inferInstanceAs (Decidable (¬_))

def sortRoots (roots : List Bytes) : List Bytes := roots.insertionSort rootLe

def invalidRoot (message : String) : OpError := .wrapped message (.leaf .invalidManagedRoot)

/-- One entry of the setting. -/
def parseEntry (item : Bytes) : Except OpError Bytes := do
  check (trimSpace item = []) (invalidRoot "empty entry")
  let root ← (canonicalAbsoluteManagedPath (trimSpace item)).mapError fun _ => invalidRoot "configured root"
  check (root = [47]) (invalidRoot "filesystem root is forbidden")
  pure root

/-- The loop of `ParseManagementFileRoots`, with the roots it has seen. -/
def parseEntries : (roots items : List Bytes) → Except OpError (List Bytes)
  | roots, [] => .ok roots
  | roots, item :: items => do
    let root ← parseEntry item
    parseEntries (if root ∈ roots then roots else roots ++ [root]) items

def parseManagementFileRoots (value : Bytes) : Except OpError (List Bytes) :=
  if trimSpace value = [] then .ok defaultManagementFileRoots
  else do
    let roots ← parseEntries [] (splitByte 44 value)
    check (roots = []) (invalidRoot "no roots configured")
    pure (sortRoots roots)

/-- The entries of a setting; a blank one has none. -/
def settingEntries (value : Bytes) : List Bytes :=
  if trimSpace value = [] then [] else (splitByte 44 value).map trimSpace

/-- The root that an entry names. -/
def NamesRoot (entry root : Bytes) : Prop :=
  entry ≠ [] ∧ canonicalAbsoluteManagedPath entry = .ok root ∧ root ≠ [47]

section

variable {roots : List Bytes}

lemma parseEntry_eq_ok {item root : Bytes} :
    parseEntry item = .ok root ↔ NamesRoot (trimSpace item) root := by
  simp only [parseEntry, check_bind_eq_ok, NamesRoot]
  rw [bind_eq_ok]
  simp only [mapError_eq_ok, check_bind_eq_ok, pure_eq_ok]
  constructor
  · rintro ⟨hne, _, hrt, hprop, rfl⟩
    exact ⟨hne, hrt, hprop⟩
  · rintro ⟨hne, hrt, hprop⟩
    exact ⟨hne, root, hrt, hprop, rfl⟩

/-- **What the loop collects.** -/
theorem parseEntries_ok {items res : List Bytes} (h : parseEntries roots items = .ok res) :
    (∀ root, root ∈ res ↔ root ∈ roots ∨ ∃ item ∈ items, parseEntry item = .ok root) ∧
    (roots.Nodup → res.Nodup) ∧ ∀ item ∈ items, ∃ root, parseEntry item = .ok root := by
  induction items generalizing roots with
  | nil =>
    cases h
    exact ⟨fun root => by simp, fun hnd => hnd, nofun⟩
  | cons item items ih =>
    obtain ⟨root, hrt, hrs⟩ := bind_eq_ok.mp h
    obtain ⟨hmem, hnd, hall⟩ := ih hrs
    refine ⟨fun other => ?_, fun hrts => hnd ?_, ?_⟩
    · have hadded : other ∈ (if root ∈ roots then roots else roots ++ [root]) ↔
          other ∈ roots ∨ other = root := by
        split
        case isTrue hse => exact ⟨.inl, fun h => h.elim id fun heq => heq ▸ hse⟩
        case isFalse => rw [mem_append, mem_singleton]
      have hit : parseEntry item = .ok other ↔ other = root := by
        rw [hrt, Except.ok.injEq, eq_comm]
      rw [hmem, hadded, or_assoc, exists_mem_cons_iff, hit]
    · split
      case isTrue => exact hrts
      case isFalse hnew =>
        exact nodup_append.mpr ⟨hrts, nodup_singleton root, fun a ha b hb hab =>
          hnew (mem_singleton.mp hb ▸ hab ▸ ha)⟩
    · intro other hoth
      rcases mem_cons.mp hoth with rfl | hoth
      · exact ⟨root, hrt⟩
      · exact hall other hoth

lemma parseEntries_accepts {items : List Bytes} (h : ∀ item ∈ items, ∃ root, parseEntry item = .ok root)
    (roots : List Bytes) : ∃ result, parseEntries roots items = .ok result := by
  induction items generalizing roots with
  | nil => exact ⟨roots, rfl⟩
  | cons item items ih =>
    obtain ⟨root, hrt⟩ := h item (.head _)
    obtain ⟨result, hres⟩ := ih (fun item hit => h item (.tail _ hit)) _
    exact ⟨result, bind_eq_ok.mpr ⟨root, hrt, hres⟩⟩

lemma rootLe_iff {a b : Bytes} :
    rootLe a b ↔ b.length < a.length ∨ a.length = b.length ∧ a ≤ b := by
  unfold rootLe rootLess
  by_cases hlen : b.length = a.length
  · rw [if_pos hlen, not_lt]
    exact ⟨fun h => .inr ⟨hlen.symm, h⟩, fun h => (h.resolve_left (by omega)).2⟩
  · rw [if_neg hlen]
    omega

instance rootLe_total : Std.Total rootLe where
  total a b := by
    rw [rootLe_iff, rootLe_iff]
    rcases lt_trichotomy a.length b.length with hless | heq | hless
    · exact .inr (.inl hless)
    · exact (le_total a b).imp (fun h => .inr ⟨heq, h⟩) fun h => .inr ⟨heq.symm, h⟩
    · exact .inl (.inl hless)

instance rootLe_trans : IsTrans Bytes rootLe where
  trans a b c hab hbc := by
    rw [rootLe_iff] at *
    rcases hab with hab | ⟨hab, hle⟩ <;> rcases hbc with hbc | ⟨hbc, hle'⟩
    · exact .inl (hbc.trans hab)
    · exact .inl (hbc ▸ hab)
    · exact .inl (hab ▸ hbc)
    · exact .inr ⟨hab.trans hbc, hle.trans hle'⟩

instance rootLe_antisymm : Std.Antisymm rootLe where
  antisymm a b hab hba := by
    rw [rootLe_iff] at *
    rcases hab with hab | ⟨hab, hle⟩ <;> rcases hba with hba | ⟨hba, hle'⟩
    · omega
    · omega
    · omega
    · exact le_antisymm hle hle'

lemma mem_sortRoots {root : Bytes} : root ∈ sortRoots roots ↔ root ∈ roots :=
  mem_insertionSort rootLe

lemma sortRoots_congr {others : List Bytes} (hrts : roots.Nodup) (hoth : others.Nodup)
    (h : ∀ root, root ∈ roots ↔ root ∈ others) : sortRoots roots = sortRoots others := by
  have hpm : roots.Perm others := (perm_ext_iff_of_nodup hrts hoth).mpr h
  have hsorted : (sortRoots roots).Perm (sortRoots others) :=
    (perm_insertionSort rootLe roots).trans (hpm.trans (perm_insertionSort rootLe others).symm)
  exact hsorted.eq_of_pairwise' (pairwise_insertionSort rootLe roots)
    (pairwise_insertionSort rootLe others)

lemma parseManagementFileRoots_ok {value : Bytes} (h : parseManagementFileRoots value = .ok roots) :
    (settingEntries value = [] ∧ roots = defaultManagementFileRoots) ∨
    (settingEntries value ≠ [] ∧ ∃ collected, collected.Nodup ∧ roots = sortRoots collected ∧
      (∀ root, root ∈ collected ↔ ∃ entry ∈ settingEntries value, NamesRoot entry root) ∧
      ∀ entry ∈ settingEntries value, ∃ root, NamesRoot entry root) := by
  unfold parseManagementFileRoots at h
  unfold settingEntries
  split at h
  case isTrue hblank =>
    rw [if_pos hblank]
    exact .inl ⟨rfl, (Except.ok.inj h).symm⟩
  case isFalse hblank =>
    rw [if_neg hblank]
    obtain ⟨collected, hcoll, hrs⟩ := bind_eq_ok.mp h
    obtain ⟨-, hrts⟩ := check_bind_eq_ok.mp hrs
    obtain ⟨hmem, hnd, hall⟩ := parseEntries_ok hcoll
    refine .inr ⟨by simpa using splitByte_ne_nil 44 value, collected, hnd nodup_nil,
      (pure_eq_ok.mp hrts).symm, fun root => ?_, fun entry hent => ?_⟩
    · rw [hmem]
      simp [parseEntry_eq_ok]
    · obtain ⟨item, hit, rfl⟩ := mem_map.mp hent
      obtain ⟨root, hrt⟩ := hall item hit
      exact ⟨root, parseEntry_eq_ok.mp hrt⟩

/-- **The order and the repetition of the entries do not matter.** -/
theorem parseManagementFileRoots_congr {value other : Bytes}
    (h : parseManagementFileRoots value = .ok roots)
    (hsm : ∀ entry, entry ∈ settingEntries other ↔ entry ∈ settingEntries value) :
    parseManagementFileRoots other = .ok roots := by
  rcases parseManagementFileRoots_ok h with ⟨hno, rfl⟩ | ⟨hso, collected, hnd, rfl, hmem, hall⟩
  · have hblank : trimSpace other = [] := by
      by_contra hne
      have hes : settingEntries other = [] := by
        rw [eq_nil_iff_forall_not_mem]
        intro entry hent
        rw [hsm, hno] at hent
        cases hent
      rw [settingEntries, if_neg hne, map_eq_nil_iff] at hes
      exact splitByte_ne_nil 44 other hes
    exact if_pos hblank
  · have hne : ¬trimSpace other = [] := by
      intro hblank
      obtain ⟨entry, hent⟩ := exists_mem_of_ne_nil _ hso
      rw [← hsm, settingEntries, if_pos hblank] at hent
      cases hent
    have hes : settingEntries other = (splitByte 44 other).map trimSpace := if_neg hne
    have hitems : ∀ item ∈ splitByte 44 other, ∃ root, parseEntry item = .ok root := by
      intro item hit
      have hent : trimSpace item ∈ settingEntries other := hes ▸ mem_map_of_mem hit
      obtain ⟨root, hrt⟩ := hall _ ((hsm _).mp hent)
      exact ⟨root, parseEntry_eq_ok.mpr hrt⟩
    obtain ⟨found, hfnd⟩ := parseEntries_accepts hitems []
    obtain ⟨hmem', hnd', -⟩ := parseEntries_ok hfnd
    have hset : ∀ root, root ∈ found ↔ root ∈ collected := by
      intro root
      rw [hmem', hmem]
      simp only [not_mem_nil, false_or, parseEntry_eq_ok, ← hsm, hes, mem_map,
        exists_exists_and_eq_and]
    have hnemp : found ≠ [] := by
      obtain ⟨entry, hent⟩ := exists_mem_of_ne_nil _ hso
      obtain ⟨root, hrt⟩ := hall entry hent
      exact ne_nil_of_mem ((hset root).mpr ((hmem root).mpr ⟨entry, hent, hrt⟩))
    rw [parseManagementFileRoots, if_neg hne, hfnd, ok_bind, check_bind_of_not hnemp,
      sortRoots_congr (hnd' nodup_nil) hnd hset]
    rfl

end

/-! ## 2. Matching -/

/-- The path is the root or below it, component by component. -/
def AtOrBelow (root path : Bytes) : Prop := components root <+: components path

instance (root path : Bytes) : Decidable (AtOrBelow root path) :=
  inferInstanceAs (Decidable (_ <+: _))

/-- The path without its trailing slashes. -/
def dropSlashes (path : Bytes) : Bytes :=
  let trimmed := (path.reverse.dropWhile (· == 47)).reverse
  if trimmed = [] then [47] else trimmed

/-- The roots as a setting leaves them: clean absolute paths, none of them before a root below it. -/
structure Configured (roots : List Bytes) : Prop where
  canonical : ∀ root ∈ roots, canonicalAbsoluteManagedPath root = .ok root ∧ root ≠ [47]
  ordered : roots.Pairwise fun a b => AtOrBelow a b → a = b

section

variable {roots : List Bytes} {location : ManagedLocation}
variable {path canonical : Bytes}

lemma canonicalAbsoluteManagedPath_eq_ok (habso : path.head? = some 47) :
    canonicalAbsoluteManagedPath path = .ok canonical ↔
      clean (dropSlashes path) = dropSlashes path ∧ 0 ∉ path ∧ canonical = dropSlashes path := by
  have hne : path ≠ [] := by
    rintro rfl
    cases habso
  unfold canonicalAbsoluteManagedPath
  by_cases hz : (0 : UInt8) ∈ path
  · rw [if_pos (.inr (.inl (decide_eq_true hz)))]
    exact iff_of_false nofun fun h => h.2.1 hz
  · have hv : ¬(path = [] ∨ containsByte path 0 ∨ path.head? ≠ some 47) := by
      simp [hne, habso, containsByte, hz]
    rw [if_neg hv]
    change (if clean (dropSlashes path) ≠ dropSlashes path then
      (.error (.leaf .managedPathOutsideRoots) : Except OpError Bytes) else .ok (dropSlashes path)) = _ ↔ _
    by_cases hcln : clean (dropSlashes path) = dropSlashes path
    · rw [if_neg (not_not.mpr hcln), Except.ok.injEq, eq_comm]
      exact ⟨fun h => ⟨hcln, hz, h⟩, fun h => h.2.2⟩
    · rw [if_pos hcln]
      exact iff_of_false nofun fun h => hcln h.1

/-- The relative path exists for the paths at or below the root. -/
lemma relativeTo_eq_none {root : Bytes} (hrt : canonicalAbsoluteManagedPath root = .ok root)
    (hprop : root ≠ [47]) (hcan : canonicalAbsoluteManagedPath canonical = .ok canonical) :
    relativeTo root canonical = none ↔ ¬AtOrBelow root canonical := by
  have hcont := pathContains_iff (absolutePath_of_canonical hrt) (absolutePath_of_canonical hcan)
    (components_ne_nil hrt hprop)
  rw [AtOrBelow, ← hcont, pathContains, Bool.or_eq_true, beq_iff_eq]
  unfold relativeTo
  split
  case isTrue heq => simp [heq]
  case isFalse hne =>
    split
    case isTrue hpre => simp [hpre]
    case isFalse hpre => simp [hpre, Ne.symm hne]

/-- Roots that contain the same path contain each other. -/
lemma AtOrBelow.total {a b : Bytes} (ha : AtOrBelow a path) (hb : AtOrBelow b path) :
    AtOrBelow a b ∨ AtOrBelow b a :=
  prefix_or_prefix_of_prefix ha hb

lemma AtOrBelow.length_le {a b : Bytes} (ha : canonicalAbsoluteManagedPath a = .ok a) (hprop : a ≠ [47])
    (hb : canonicalAbsoluteManagedPath b = .ok b) (h : AtOrBelow a b) : a = b ∨ a.length < b.length := by
  have hcont := (pathContains_iff (absolutePath_of_canonical ha) (absolutePath_of_canonical hb)
    (components_ne_nil ha hprop)).mpr h
  rw [pathContains, Bool.or_eq_true, beq_iff_eq] at hcont
  rcases hcont with heq | hpre
  · exact .inl heq
  · have hlen := (List.isPrefixOf_iff_prefix.mp hpre).length_le
    rw [length_append, length_singleton] at hlen
    exact .inr (by omega)

/-- **The loop stops at the longest root.** -/
theorem matchRoots_longest (hrts : Configured roots)
    (hcan : canonicalAbsoluteManagedPath canonical = .ok canonical) :
    (∃ location, matchRoots canonical roots = .ok location ∧ location.root ∈ roots ∧
      AtOrBelow location.root canonical ∧ location.canonical = canonical ∧
      relativeTo location.root canonical = some location.relative ∧
      ∀ root ∈ roots, AtOrBelow root canonical → AtOrBelow root location.root) ∨
    (matchRoots canonical roots = .error (.leaf .managedPathOutsideRoots) ∧
      ∀ root ∈ roots, ¬AtOrBelow root canonical) := by
  induction roots with
  | nil => exact .inr ⟨rfl, nofun⟩
  | cons first roots ih =>
    obtain ⟨hfst, hprop⟩ := hrts.canonical first (.head _)
    obtain ⟨hbef, hrs⟩ := pairwise_cons.mp hrts.ordered
    have hno := relativeTo_eq_none hfst hprop hcan
    simp only [matchRoots, hfst, if_neg hprop]
    cases hrelative : relativeTo first canonical with
    | some relative =>
      have hbw : AtOrBelow first canonical := by
        by_contra hnot
        rw [hno.mpr hnot] at hrelative
        cases hrelative
      refine .inl ⟨_, rfl, (.head _), hbw, rfl, hrelative, fun root hrt hcont => ?_⟩
      rcases mem_cons.mp hrt with rfl | hrt
      · exact prefix_rfl
      · rcases hbw.total hcont with hnest | hnest
        · exact hbef root hrt hnest ▸ prefix_rfl
        · exact hnest
    | none =>
      have hnot := hno.mp hrelative
      have hlater : Configured roots :=
        ⟨fun root hrt => hrts.canonical root (.tail _ hrt), hrs⟩
      rcases ih hlater with ⟨location, hmat, hmem, hbw, heq, hrel, hlgst⟩ | ⟨hmat, houts⟩
      · refine .inl ⟨location, hmat, .tail _ hmem, hbw, heq, hrel, ?_⟩
        intro root hrt hcont
        rcases mem_cons.mp hrt with rfl | hrt
        · exact absurd hcont hnot
        · exact hlgst root hrt hcont
      · refine .inr ⟨hmat, fun root hrt => ?_⟩
        rcases mem_cons.mp hrt with rfl | hrt
        · exact hnot
        · exact houts root hrt

/-- **An accepted setting leaves the roots in order.** -/
theorem configured_of_parse {value : Bytes} (h : parseManagementFileRoots value = .ok roots) :
    Configured roots := by
  rcases parseManagementFileRoots_ok h with ⟨-, rfl⟩ | ⟨-, collected, -, rfl, hmem, -⟩
  · have hspell : ∀ root ∈ defaultManagementFileRoots, root.head? = some 47 ∧ root ≠ [47] ∧
        clean (dropSlashes root) = dropSlashes root ∧ 0 ∉ root ∧ root = dropSlashes root := by
      decide
    refine ⟨fun root hrt => ?_, by decide⟩
    obtain ⟨habso, hprop, hcln⟩ := hspell root hrt
    exact ⟨(canonicalAbsoluteManagedPath_eq_ok habso).mpr hcln, hprop⟩
  · have hcan : ∀ root ∈ sortRoots collected,
        canonicalAbsoluteManagedPath root = .ok root ∧ root ≠ [47] := by
      intro root hrt
      obtain ⟨entry, -, hnms⟩ := (hmem root).mp (mem_sortRoots.mp hrt)
      exact ⟨(canonicalAbsoluteManagedPath_ok hnms.2.1).2.2, hnms.2.2⟩
    refine ⟨hcan, ?_⟩
    refine (pairwise_insertionSort rootLe collected).imp_of_mem fun ha hb hle hbw => ?_
    have hlen := hbw.length_le (hcan _ ha).1 (hcan _ ha).2 (hcan _ hb).1
    rcases rootLe_iff.mp hle with hshorter | ⟨hsm, -⟩
    · exact hlen.resolve_right (by omega)
    · exact hlen.resolve_right (by omega)

lemma matchManagementPath_of_canonical
    (h : canonicalAbsoluteManagedPath path = .ok canonical) :
    matchManagementPath roots path = matchRoots canonical roots := by
  rw [matchManagementPath, h]

lemma matchManagementPath_longest (hrts : Configured roots)
    (h : matchManagementPath roots path = .ok location) :
    location.root ∈ roots ∧ AtOrBelow location.root location.canonical ∧
    ∀ root ∈ roots, AtOrBelow root location.canonical → AtOrBelow root location.root := by
  obtain ⟨hv, -, hagain⟩ := matchManagementPath_ok h
  rw [matchManagementPath_of_canonical hv.canonical] at hagain
  rcases matchRoots_longest hrts hv.canonical with
    ⟨found, hmat, hmem, hbw, -, -, hlgst⟩ | ⟨hmat, -⟩
  · obtain rfl : found = location := Except.ok.inj (hmat.symm.trans hagain)
    exact ⟨hmem, hbw, hlgst⟩
  · rw [hmat] at hagain
    cases hagain

/-- What is left of a clean absolute path below a root. -/
lemma absolutePath_append {names rest : List Bytes} (hnms : names ≠ []) (hrs : rest ≠ []) :
    absolutePath (names ++ rest) = absolutePath names ++ 47 :: intercalate [47] rest := by
  rw [absolutePath, absolutePath, intercalate_append hnms hrs, cons_append]

lemma relativeTo_absolutePath {names rest : List Bytes} (hnms : names ≠ []) (hrs : rest ≠ []) :
    relativeTo (absolutePath names) (absolutePath (names ++ rest)) = some (intercalate [47] rest) := by
  rw [absolutePath_append hnms hrs]
  unfold relativeTo
  rw [if_neg, if_pos]
  · simp
  · exact isPrefixOf_iff_prefix.mpr ⟨intercalate [47] rest, by simp⟩
  · simp

/-- **The relative path** is a dot, or what the components below the root spell. -/
theorem ManagedLocation.Valid.relative_eq (h : location.Valid roots) :
    location.relative = [46] ∨ (components location.relative ≠ [] ∧
      location.relative = intercalate [47] (components location.relative)) := by
  have hrt := absolutePath_of_canonical h.root_canonical
  have hcan := absolutePath_of_canonical h.canonical
  have hspt := h.components_eq
  by_cases hnil : components location.relative = []
  · rw [hnil, append_nil] at hspt
    rw [hspt, ← hrt] at hcan
    have hrel := h.relative
    rw [relativeTo, if_pos hcan] at hrel
    exact .inl (Option.some.inj hrel).symm
  · refine .inr ⟨hnil, ?_⟩
    have hrel := h.relative
    rw [hcan, hspt] at hrel
    nth_rewrite 1 [hrt] at hrel
    rw [relativeTo_absolutePath (components_ne_nil h.root_canonical h.proper) hnil] at hrel
    exact (Option.some.inj hrel).symm

lemma dotdot_notMem_relative (h : location.Valid roots) :
    [46, 46] ∉ components location.relative := by
  have hcan := dotdot_notMem_canonical h.canonical
  rw [h.components_eq] at hcan
  exact fun hmem => hcan (mem_append_right _ hmem)

lemma head_intercalate_ne {names : List Bytes} (h : ∀ name ∈ names, IsComponent name) :
    (intercalate [47] names).head? ≠ some 47 := by
  cases names with
  | nil => exact nofun
  | cons name names =>
    obtain ⟨hne, -, hsl⟩ := h name (.head _)
    have hhd : name.head? ≠ some 47 := fun hhd => hsl (mem_of_head? hhd)
    cases names with
    | nil => rwa [intercalate_singleton]
    | cons next names =>
      rw [intercalate_cons_cons, append_assoc, head?_append_of_ne_nil _ hne]
      exact hhd

/-- The relative path is clean and stays below its root. -/
lemma ManagedLocation.Valid.relative_clean (h : location.Valid roots) :
    location.relative = [46] ∨ (clean location.relative = location.relative ∧
      location.relative.head? ≠ some 47 ∧ [46, 46] ∉ splitByte 47 location.relative) := by
  have hup := dotdot_notMem_relative h
  rcases h.relative_eq with hdot | ⟨hne, heq⟩
  · exact .inl hdot
  · have hhd : location.relative.head? ≠ some 47 := by
      rw [heq]
      exact head_intercalate_ne fun name hnm => isComponent_of_mem_components hnm
    refine .inr ⟨?_, hhd, fun hmem => hup (mem_filter.mpr ⟨hmem, by decide⟩)⟩
    rw [clean_of_plain hup, if_neg hhd, if_neg hne, ← heq]

lemma ManagedLocation.Valid.join_eq (h : location.Valid roots) :
    joinPath [location.root, location.relative] = location.canonical := by
  have hhd := (canonicalAbsoluteManagedPath_ok h.root_canonical).1
  rw [joinPath_rooted hhd (dotdot_notMem_canonical h.root_canonical) (dotdot_notMem_relative h),
    ← h.components_eq, ← absolutePath_of_canonical h.canonical]

/-- **Management paths match the longest root.** With the roots of an accepted setting, an absolute path
matches exactly if it is clean but for trailing slashes, holds no zero byte and is at or below one of
the roots. The root is then the longest such one, the relative path is a dot or a clean path without
`..`, and both together spell the canonical path, which matches again with the same result. The roots
are those that the entries name, and entries in another order or repeated leave the same roots. -/
theorem management_path_matches_longest_root (value path : Bytes) (roots : List Bytes)
    (hparse : parseManagementFileRoots value = .ok roots) (habsolute : path.head? = some 47) :
    ((∃ location, matchManagementPath roots path = .ok location) ↔
      clean (dropSlashes path) = dropSlashes path ∧ 0 ∉ path ∧
      ∃ root ∈ roots, AtOrBelow root (dropSlashes path)) ∧
    (∀ location, matchManagementPath roots path = .ok location →
      location.canonical = dropSlashes path ∧
      (location.root ∈ roots ∧ AtOrBelow location.root (dropSlashes path) ∧
        ∀ root ∈ roots, AtOrBelow root (dropSlashes path) →
          root = location.root ∨ root.length < location.root.length) ∧
      (location.relative = [46] ∨ (clean location.relative = location.relative ∧
        location.relative.head? ≠ some 47 ∧ [46, 46] ∉ splitByte 47 location.relative)) ∧
      joinPath [location.root, location.relative] = location.canonical ∧
      matchManagementPath roots location.canonical = .ok location) ∧
    (∀ root, root ∈ roots ↔ if settingEntries value = [] then root ∈ defaultManagementFileRoots
      else ∃ entry ∈ settingEntries value, NamesRoot entry root) ∧
    ∀ other, (∀ entry, entry ∈ settingEntries other ↔ entry ∈ settingEntries value) →
      parseManagementFileRoots other = .ok roots := by
  have hroots := configured_of_parse hparse
  refine ⟨⟨?_, ?_⟩, fun location hmatch => ?_, fun root => ?_, fun other => ?_⟩
  · rintro ⟨location, hmatch⟩
    obtain ⟨-, hcanonical, -⟩ := matchManagementPath_ok hmatch
    obtain ⟨hclean, hzero, heq⟩ := (canonicalAbsoluteManagedPath_eq_ok habsolute).mp hcanonical
    obtain ⟨hmem, hbelow, -⟩ := matchManagementPath_longest hroots hmatch
    exact ⟨hclean, hzero, location.root, hmem, heq ▸ hbelow⟩
  · rintro ⟨hclean, hzero, root, hmem, hbelow⟩
    have hcanonical := (canonicalAbsoluteManagedPath_eq_ok habsolute).mpr ⟨hclean, hzero, rfl⟩
    obtain ⟨-, -, hsame⟩ := canonicalAbsoluteManagedPath_ok hcanonical
    rw [matchManagementPath_of_canonical hcanonical]
    rcases matchRoots_longest hroots hsame with ⟨location, hmatch, -⟩ | ⟨-, houtside⟩
    · exact ⟨location, hmatch⟩
    · exact absurd hbelow (houtside root hmem)
  · obtain ⟨hvalid, hcanonical, hagain⟩ := matchManagementPath_ok hmatch
    obtain ⟨-, -, heq⟩ := (canonicalAbsoluteManagedPath_eq_ok habsolute).mp hcanonical
    obtain ⟨hmem, hbelow, hlongest⟩ := matchManagementPath_longest hroots hmatch
    refine ⟨heq, ⟨hmem, heq ▸ hbelow, fun root hroot hcontains => ?_⟩, hvalid.relative_clean,
      hvalid.join_eq,
      hagain⟩
    have hnested := hlongest root hroot (heq.symm ▸ hcontains)
    exact hnested.length_le (hroots.canonical root hroot).1 (hroots.canonical root hroot).2
      hvalid.root_canonical
  · rcases parseManagementFileRoots_ok hparse with ⟨hnone, rfl⟩ | ⟨hsome, collected, -, rfl, hmem, -⟩
    · rw [if_pos hnone]
    · rw [if_neg hsome, mem_sortRoots, hmem]
  · exact parseManagementFileRoots_congr hparse

/-- The settings `/D, /D/m` and `/D/m,/D,/D`, and the path `/D/m/x/`. -/
theorem management_path_matches_nested_root :
    parseManagementFileRoots [47, 68, 44, 32, 47, 68, 47, 109] = .ok [[47, 68, 47, 109], [47, 68]] ∧
    matchManagementPath [[47, 68, 47, 109], [47, 68]] [47, 68, 47, 109, 47, 120, 47]
      = .ok ⟨[47, 68, 47, 109], [120], [47, 68, 47, 109, 47, 120]⟩ ∧
    parseManagementFileRoots [47, 68, 47, 109, 44, 47, 68, 44, 47, 68]
      = .ok [[47, 68, 47, 109], [47, 68]] := by
  have hparse : parseManagementFileRoots [47, 68, 44, 32, 47, 68, 47, 109]
      = .ok [[47, 68, 47, 109], [47, 68]] := rfl
  have hentries : settingEntries [47, 68, 44, 32, 47, 68, 47, 109] = [[47, 68], [47, 68, 47, 109]] := by
    decide
  have hrepeated : settingEntries [47, 68, 47, 109, 44, 47, 68, 44, 47, 68]
      = [[47, 68, 47, 109], [47, 68], [47, 68]] := by
    decide
  have hpath := management_path_matches_longest_root _ [47, 68, 47, 109, 47, 120, 47] _ hparse rfl
  refine ⟨hparse, rfl, hpath.2.2.2 _ fun entry => ?_⟩
  rw [hentries, hrepeated]
  simp [or_comm]

end

/-! ## 3. Children -/

section

variable {roots : List Bytes} {base relative : Bytes} {location child : ManagedLocation}

section

variable (hbase : matchManagementPath roots base = .ok location)
include hbase

variable (h : matchManagementChild roots base relative = .ok child)
include h

end

end

end ReCasaOS.FileSecurity
