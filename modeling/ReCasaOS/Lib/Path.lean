/-
# Slash-separated paths, as the `path` package handles them

`clean`, `joinPath` and `base` are `path.Clean`, `path.Join` and `path.Base`. The first lemmas are
about the test `name != path.Base(name)`, by which programs recognize a single component: it
accepts every name without a slash, and one name with a slash, the root `/` itself
(`base_eq_self_iff`). The rest is about `components`: a clean absolute path is given by its
components (`absolutePath_components`), and contains another one exactly if its components are the
first ones of the other (`pathContains_iff`).
-/
import Mathlib.Data.List.TakeWhile
import ReCasaOS.Lib.Strings

namespace ReCasaOS.Lib

open List

variable {path : Bytes}

/-- The elements of a path that `path.Clean` keeps; `kept` holds those before, last first. -/
def cleanElements (rooted : Bool) : (elements kept : List Bytes) → List Bytes
  | [], kept => kept.reverse
  | element :: elements, kept =>
    if element = [] ∨ element = [46] then cleanElements rooted elements kept
    else if element = [46, 46] then
      match kept with
      | [] => cleanElements rooted elements (if rooted then [] else [element])
      | last :: before =>
        if last = [46, 46] then cleanElements rooted elements (element :: kept)
        else cleanElements rooted elements before
    else cleanElements rooted elements (element :: kept)

def clean (path : Bytes) : Bytes :=
  let rooted := path.head? = some 47
  let out := List.intercalate [47] (cleanElements rooted (splitByte 47 path) [])
  if rooted then 47 :: out
  else if out = [] then [46]
  else out

/-- `path.Join`. -/
def joinPath (elements : List Bytes) : Bytes :=
  match elements.filter (· ≠ []) with
  | [] => []
  | nonempty => clean (List.intercalate [47] nonempty)

def base (path : Bytes) : Bytes :=
  if path = [] then [46]
  else
    let stripped := path.reverse.dropWhile (· == 47)
    let last := (stripped.takeWhile (· != 47)).reverse
    if last = [] then [47] else last

lemma slash_notMem_takeWhile (s : Bytes) : 47 ∉ (s.takeWhile (· != 47)).reverse := by
  intro h
  have hbyte := mem_takeWhile_imp (mem_reverse.mp h)
  simp at hbyte

variable {name : Bytes}

lemma base_of_no_slash (hne : name ≠ []) (h : 47 ∉ name) : base name = name := by
  have hall : ∀ b ∈ name.reverse, (b != 47) := by
    intro b hb
    rw [bne_iff_ne]
    rintro rfl
    exact h (mem_reverse.mp hb)
  have hstrip : name.reverse.dropWhile (· == 47) = name.reverse := by
    cases hrev : name.reverse with
    | nil => rfl
    | cons b rest =>
      have hb := hall b (by rw [hrev]; exact mem_cons_self)
      simpa using hb
  have htake : name.reverse.takeWhile (· != 47) = name.reverse := takeWhile_eq_self_iff.mpr hall
  simp only [base, if_neg hne, hstrip, htake, reverse_reverse]

/-- **The names that `path.Base` returns unchanged** have no slash, except for the root. -/
theorem base_eq_self_iff (hne : name ≠ []) : base name = name ↔ 47 ∉ name ∨ name = [47] := by
  constructor
  · intro h
    simp only [base, if_neg hne] at h
    split_ifs at h with hla
    · exact .inr h.symm
    · exact .inl (h ▸ slash_notMem_takeWhile _)
  · rintro (h | rfl)
    · exact base_of_no_slash hne h
    · rfl

example : clean [97, 47, 46, 46, 47, 98, 47, 47, 46, 47, 99] = [98, 47, 99] := by decide

example : base [97, 47, 98, 47] = [98] ∧ base [] = [46] := by decide

/-! ### Components

The names that are looked up along a path. A clean absolute path is given by them. -/

def components (path : Bytes) : List Bytes :=
  (splitByte 47 path).filter fun name => decide (name ≠ [] ∧ name ≠ [46])

/-- The clean absolute path with these components. -/
def absolutePath (names : List Bytes) : Bytes := 47 :: List.intercalate [47] names

/-- A name that is a component of its own. -/
def IsComponent (name : Bytes) : Prop := name ≠ [] ∧ name ≠ [46] ∧ 47 ∉ name

lemma components_append (a b : Bytes) : components (a ++ 47 :: b) = components a ++ components b := by
  rw [components, splitByte_append, filter_append]
  rfl

lemma components_of_isComponent (h : IsComponent name) : components name = [name] := by
  rw [components, splitByte_of_not_mem h.2.2, filter_cons_of_pos, filter_nil]
  exact decide_eq_true ⟨h.1, h.2.1⟩

lemma intercalate_append {a b : List Bytes} (ha : a ≠ []) (hb : b ≠ []) :
    intercalate [47] (a ++ b) = intercalate [47] a ++ 47 :: intercalate [47] b := by
  induction a with
  | nil => exact absurd rfl ha
  | cons name a ih =>
    cases a with
    | nil =>
      obtain ⟨other, b, rfl⟩ := exists_cons_of_ne_nil hb
      rw [cons_append, nil_append, intercalate_cons_cons, intercalate_singleton,
        append_assoc, singleton_append]
    | cons next a =>
      have hrs := ih (cons_ne_nil next a)
      rw [cons_append, cons_append, intercalate_cons_cons, ← cons_append, hrs,
        intercalate_cons_cons]
      simp only [append_assoc]

lemma components_intercalate {names : List Bytes} (h : ∀ name ∈ names, IsComponent name) :
    components (intercalate [47] names) = names := by
  induction names with
  | nil => rfl
  | cons name names ih =>
    have hnm := components_of_isComponent (h name (.head _))
    cases names with
    | nil => rw [intercalate_singleton, hnm]
    | cons next names =>
      have hjoin := intercalate_append (cons_ne_nil name []) (cons_ne_nil next names)
      rw [cons_append, nil_append, intercalate_singleton] at hjoin
      rw [hjoin, components_append, hnm, ih fun n hn => h n (mem_cons_of_mem _ hn)]
      rfl

lemma components_absolutePath {names : List Bytes} (h : ∀ name ∈ names, IsComponent name) :
    components (absolutePath names) = names := by
  have hem : components [] = [] := by decide
  have hsl := components_append [] (intercalate [47] names)
  rw [hem, components_intercalate h] at hsl
  exact hsl

variable {elements kept : List Bytes}

lemma mem_cleanElements {rooted : Bool} (h : name ∈ cleanElements rooted elements kept) :
    name ∈ kept ∨ name ∈ elements ∧ name ≠ [] ∧ name ≠ [46] := by
  induction elements generalizing kept with
  | nil => exact .inl (mem_reverse.mp h)
  | cons element elements ih =>
    have hlater : ∀ kept, name ∈ cleanElements rooted elements kept →
        name ∈ kept ∨ name ∈ element :: elements ∧ name ≠ [] ∧ name ≠ [46] := fun kept hk =>
      (ih hk).imp id fun hmem => ⟨.tail _ hmem.1, hmem.2⟩
    have hhd : ∀ kept, element ≠ [] → element ≠ [46] →
      name ∈ cleanElements rooted elements (element :: kept) →
        name ∈ kept ∨ name ∈ element :: elements ∧ name ≠ [] ∧ name ≠ [46] := by
      intro kept hne hdot hk
      rcases hlater _ hk with hmem | hmem
      · rcases mem_cons.mp hmem with rfl | hmem
        · exact .inr ⟨.head _, hne, hdot⟩
        · exact .inl hmem
      · exact .inr hmem
    unfold cleanElements at h
    split at h
    · exact hlater kept h
    next hpl =>
      obtain ⟨hne, hdot⟩ := not_or.mp hpl
      split at h
      · split at h
        · split at h
          · exact hlater [] h
          · exact hhd [] hne hdot h
        next last before =>
          split at h
          · exact hhd _ hne hdot h
          · exact (hlater before h).imp (mem_cons_of_mem _) id
      · exact hhd kept hne hdot h

/-- A clean absolute path is made of the elements that cleaning keeps. -/
lemma eq_absolutePath_cleanElements (hrt : path.head? = some 47) (hcln : clean path = path) :
    path = absolutePath (cleanElements true (splitByte 47 path) []) ∧
      ∀ name ∈ cleanElements true (splitByte 47 path) [], IsComponent name := by
  constructor
  · conv_lhs => rw [← hcln]
    simp only [clean, hrt, decide_true, if_true]
    rfl
  · intro name hnm
    rcases mem_cleanElements hnm with hnil | ⟨hmem, hne, hdot⟩
    · cases hnil
    · exact ⟨hne, hdot, sep_not_mem_of_mem_splitByte hmem⟩

/-- **A clean absolute path** is given by its components. -/
theorem absolutePath_components (hrt : path.head? = some 47) (hcln : clean path = path) :
    path = absolutePath (components path) ∧ ∀ name ∈ components path, IsComponent name := by
  obtain ⟨hk, hnms⟩ := eq_absolutePath_cleanElements hrt hcln
  have hcps : components path = cleanElements true (splitByte 47 path) [] := by
    conv_lhs => rw [hk]
    exact components_absolutePath hnms
  exact ⟨hcps ▸ hk, hcps ▸ hnms⟩

/-- `parent == child || strings.HasPrefix(child, parent+"/")`. -/
def pathContains (parent child : Bytes) : Bool := parent == child || hasPrefix child (parent ++ [47])

lemma pathContains_iff {parent child : Bytes} (hpar : parent = absolutePath (components parent))
    (hch : child = absolutePath (components child)) (hne : components parent ≠ []) :
    pathContains parent child ↔ components parent <+: components child := by
  constructor
  · intro h
    rcases Bool.or_eq_true_iff.mp h with h | h
    · exact beq_iff_eq.mp h ▸ prefix_rfl
    · obtain ⟨rest, rfl⟩ := isPrefixOf_iff_prefix.mp h
      rw [append_assoc, singleton_append, components_append]
      exact prefix_append _ _
  · rintro ⟨rest, hrs⟩
    refine Bool.or_eq_true_iff.mpr ?_
    by_cases hnil : rest = []
    · rw [hnil, append_nil] at hrs
      exact Or.inl (beq_iff_eq.mpr (by rw [hpar, hch, hrs]))
    · refine .inr (List.isPrefixOf_iff_prefix.mpr ⟨intercalate [47] rest, ?_⟩)
      conv_rhs => rw [hch, ← hrs, absolutePath, intercalate_append hne hnil]
      conv_lhs => rw [hpar]
      simp [absolutePath]

/-! ### Joining

Without a `..` in it, a path is cleaned by dropping what is not a component. -/

lemma isComponent_of_mem_components (h : name ∈ components path) : IsComponent name := by
  obtain ⟨hmem, hnm⟩ := mem_filter.mp h
  obtain ⟨hne, hdot⟩ := of_decide_eq_true hnm
  exact ⟨hne, hdot, sep_not_mem_of_mem_splitByte hmem⟩

lemma cleanElements_of_plain {rooted : Bool} (h : [46, 46] ∉ elements) :
    cleanElements rooted elements kept
      = kept.reverse ++ elements.filter fun name => decide (name ≠ [] ∧ name ≠ [46]) := by
  induction elements generalizing kept with
  | nil => simp [cleanElements]
  | cons element elements ih =>
    obtain ⟨hne, hrs⟩ := not_or.mp (mt mem_cons.mpr h)
    unfold cleanElements
    by_cases hskip : element = [] ∨ element = [46]
    · rw [if_pos hskip, ih hrs, filter_cons_of_neg]
      rw [decide_eq_true_eq, ← not_or]
      exact not_not_intro hskip
    · rw [if_neg hskip, if_neg (Ne.symm hne), ih hrs, filter_cons_of_pos]
      · simp
      · exact decide_eq_true (not_or.mp hskip)

lemma clean_of_plain (h : [46, 46] ∉ components path) :
    clean path = if path.head? = some 47 then absolutePath (components path)
      else if components path = [] then [46] else intercalate [47] (components path) := by
  have hpl : [46, 46] ∉ splitByte 47 path := fun hmem =>
    h (mem_filter.mpr ⟨hmem, by decide⟩)
  have hk : ∀ rooted, cleanElements rooted (splitByte 47 path) [] = components path := fun rooted =>
    (cleanElements_of_plain hpl).trans (nil_append _)
  have hnil : intercalate [47] (components path) = [] ↔ components path = [] := by
    constructor
    · intro hem
      rw [← components_intercalate fun name hnm => isComponent_of_mem_components hnm, hem]
      rfl
    · intro hem
      rw [hem]
      rfl
  simp only [clean, hk, absolutePath, hnil]

lemma components_clean (h : [46, 46] ∉ components path) :
    components (clean path) = components path := by
  have hnms : ∀ name ∈ components path, IsComponent name :=
    fun name hnm => isComponent_of_mem_components hnm
  rw [clean_of_plain h]
  split
  · exact components_absolutePath hnms
  · split
    next hem =>
      rw [hem]
      decide
    · exact components_intercalate hnms

lemma dotdot_notMem_cleanElements (h : [46, 46] ∉ kept) :
    [46, 46] ∉ cleanElements true elements kept := by
  induction elements generalizing kept with
  | nil => exact fun hmem => h (mem_reverse.mp hmem)
  | cons element elements ih =>
    have hcons : element ≠ [46, 46] → [46, 46] ∉ element :: kept := by
      intro hne hmem
      rcases mem_cons.mp hmem with heq | hmem
      · exact hne heq.symm
      · exact h hmem
    unfold cleanElements
    split
    · exact ih h
    · split
      · split
        · exact ih (by simp)
        next last before =>
          split
          next hla =>
            exact absurd (hla ▸ (.head _)) h
          · exact ih fun hmem => h (.tail _ hmem)
      next hne =>
        exact ih (hcons hne)

lemma dotdot_notMem_components (hrt : path.head? = some 47) (hcln : clean path = path) :
    [46, 46] ∉ components path := by
  obtain ⟨hk, hnms⟩ := eq_absolutePath_cleanElements hrt hcln
  rw [hk, components_absolutePath hnms]
  exact dotdot_notMem_cleanElements (by simp)

lemma joinPath_pair (a b : Bytes) :
    joinPath [a, b] = if a = [] then (if b = [] then [] else clean b)
      else if b = [] then clean a else clean (a ++ 47 :: b) := by
  by_cases ha : a = [] <;> by_cases hb : b = [] <;>
    simp [joinPath, intercalate_cons_cons, ha, hb]

lemma components_nil : components [] = [] := by decide

/-- `path.Join` of two paths puts their components together. -/
lemma components_joinPath {a b : Bytes} (ha : [46, 46] ∉ components a)
    (hb : [46, 46] ∉ components b) :
    components (joinPath [a, b]) = components a ++ components b := by
  rw [joinPath_pair]
  split
  next hnil =>
    rw [hnil, components_nil, nil_append]
    split
    next hnil' =>
      rw [hnil']
    · exact components_clean hb
  · split
    next hnil =>
      rw [hnil, components_nil, append_nil]
      exact components_clean ha
    · rw [components_clean, components_append]
      rw [components_append]
      exact fun hmem => (mem_append.mp hmem).elim ha hb

lemma joinPath_rooted {a b : Bytes} (hrt : a.head? = some 47) (ha : [46, 46] ∉ components a)
    (hb : [46, 46] ∉ components b) :
    joinPath [a, b] = absolutePath (components a ++ components b) := by
  have hne : a ≠ [] := by
    rintro rfl
    cases hrt
  rw [joinPath_pair, if_neg hne]
  split
  next hnil =>
    rw [clean_of_plain ha, if_pos hrt, hnil, components_nil, append_nil]
  · rw [clean_of_plain, if_pos, components_append]
    · rw [head?_append_of_ne_nil _ hne]
      exact hrt
    · rw [components_append]
      exact fun hmem => (mem_append.mp hmem).elim ha hb

end ReCasaOS.Lib
