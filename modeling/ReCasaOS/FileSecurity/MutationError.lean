/-
# What an error says about a mutation

`pkg/filesecurity/managed_copy.go`: `ManagedMutationError` records that a namespace mutation
happened before the operation failed. Such errors are wrapped, joined and passed up, and callers
ask `ManagedMutationChanged` and `ManagedMutationDurabilityUnknown` whether any error behind the
one they got carries the record; `aggregateManagedMutationState` looks for it with a stack, on a
budget of nodes and of depth.
-/
import ReCasaOS.Lib.ErrorGraph

namespace ReCasaOS.FileSecurity

open Lib List Option

/-! ## 1. Errors -/

/-- The record of a `ManagedMutationError`, and the answer of a search for it. -/
structure MutationFlags where
  changed : Bool
  durabilityUnknown : Bool
  deriving DecidableEq, Repr

inductive MutationField
  | changed
  | durabilityUnknown
  deriving DecidableEq, Repr

namespace MutationFlags

def get (flags : MutationFlags) : MutationField → Bool
  | .changed => flags.changed
  | .durabilityUnknown => flags.durabilityUnknown

def none : MutationFlags := ⟨false, false⟩

def or (a b : MutationFlags) : MutationFlags :=
  ⟨a.changed || b.changed, a.durabilityUnknown || b.durabilityUnknown⟩

@[simp] lemma get_or (a b : MutationFlags) (field : MutationField) :
    (a.or b).get field = (a.get field || b.get field) := by
  cases field <;> rfl

@[simp] lemma get_none (field : MutationField) : none.get field = false := by
  cases field <;> rfl

end MutationFlags

/-- The error values of a program: what they wrap, which of them are a `*ManagedMutationError`
(not a nil one), and how a new one is made. -/
structure ErrorValues (ν : Type) extends ErrorGraph ν where
  mutation : ν → Option MutationFlags
  /-- `&ManagedMutationError{Operation: .., Err: err}`. -/
  managedMutationError : (operation : String) → MutationFlags → (err : ν) → ν
  unwrap_new : ∀ operation flags err,
    unwrap (managedMutationError operation flags err) = .one (some err)
  mutation_new : ∀ operation flags err,
    mutation (managedMutationError operation flags err) = some flags

/-! ## 2. The search -/

def maxMutationErrorNodes : Nat := 256
def maxMutationErrorDepth : Nat := 64

structure PendingError (ν : Type) where
  err : Option ν
  depth : Nat

/-- The variables of the loop; the top of the stack comes first. -/
structure Aggregation (ν : Type) where
  stack : List (PendingError ν)
  visited : Nat
  truncated : Bool
  flags : MutationFlags

section

variable {ν : Type} (g : ErrorValues ν)
variable {a : Aggregation ν} {current : PendingError ν} {stack : List (PendingError ν)} {err : ν}
  {field : MutationField}

/-- What an error itself carries. -/
def ErrorValues.carried (err : ν) : MutationFlags := (g.mutation err).getD .none

/-- The errors wrapped by a visited one are pushed in their order, so the last is on top. -/
def pushWrapped (err : ν) (depth : Nat) (stack : List (PendingError ν)) : List (PendingError ν) :=
  (g.unwrap err).errors.reverse.map (⟨·, depth⟩) ++ stack

/-- The body of the loop. -/
def Aggregation.next (a : Aggregation ν) (current : PendingError ν) (stack : List (PendingError ν)) :
    Aggregation ν :=
  match current.err with
  | none => { a with stack }
  | some err =>
    if maxMutationErrorDepth < current.depth then { a with stack, truncated := true }
    else
      { stack := pushWrapped g err (current.depth + 1) stack
        visited := a.visited + 1
        truncated := a.truncated
        flags := a.flags.or (g.carried err) }

/-- A turn visits one more error, or has one entry less on the stack. -/
lemma Aggregation.next_decreases (a : Aggregation ν) (current : PendingError ν)
    (stack : List (PendingError ν)) :
    (a.next g current stack).visited = a.visited + 1 ∨
      (a.next g current stack).visited = a.visited ∧ (a.next g current stack).stack = stack := by
  unfold next
  split
  · exact .inr ⟨rfl, rfl⟩
  · split
    · exact .inr ⟨rfl, rfl⟩
    · exact .inl rfl

def Aggregation.loop (a : Aggregation ν) : Aggregation ν :=
  match _hstack : a.stack with
  | [] => a
  | current :: stack =>
    if _hbudget : a.visited < maxMutationErrorNodes then (a.next g current stack).loop else a
termination_by (maxMutationErrorNodes - a.visited, a.stack.length)
decreasing_by
  rcases a.next_decreases g current stack with hvisited | ⟨hvisited, hrest⟩
  · rw [hvisited]
    exact Prod.Lex.left _ _ (by omega)
  · rw [hvisited, hrest, _hstack]
    exact Prod.Lex.right _ (by simp)

def Aggregation.start (err : Option ν) : Aggregation ν := ⟨[⟨err, 0⟩], 0, false, .none⟩

def aggregateManagedMutationState (err : Option ν) : MutationFlags :=
  let a := (Aggregation.start err).loop g
  if a.truncated ∨ a.stack ≠ [] then ⟨true, true⟩ else a.flags

def managedMutationChanged (err : Option ν) : Bool :=
  (aggregateManagedMutationState g err).changed

def managedMutationDurabilityUnknown (err : Option ν) : Bool :=
  (aggregateManagedMutationState g err).durabilityUnknown

def managedChangedMutationError (operation : String) (durabilityUnknown : Bool) (err : Option ν) :
    Option ν :=
  match err with
  | none => none
  | some cause =>
    if managedMutationChanged g err
        && (!durabilityUnknown || managedMutationDurabilityUnknown g err) then
      err
    else
      some (g.managedMutationError operation
        ⟨true, durabilityUnknown || managedMutationDurabilityUnknown g err⟩ cause)

/-! ## 3. Nothing is lost -/

variable {g}

lemma Aggregation.loop_next (hstk : a.stack = current :: stack)
    (hbud : a.visited < maxMutationErrorNodes) : a.loop g = (a.next g current stack).loop g := by
  rw [loop]
  split
  next hnil =>
    cases hstk.symm.trans hnil
  next hcons =>
    cases hstk.symm.trans hcons
    rw [dif_pos hbud]

lemma Aggregation.loop_end (hend : a.stack = [] ∨ maxMutationErrorNodes ≤ a.visited) :
    a.loop g = a := by
  rw [loop]
  split
  · rfl
  next hcons =>
    rcases hend with hnil | hspent
    · cases hnil.symm.trans hcons
    · rw [dif_neg (not_lt.mpr hspent)]

/-- **The loop rule**: what a turn keeps holds at the end, where nothing is left to visit or the
budget is used up. -/
theorem Aggregation.loop_invariant {inv : Aggregation ν → Prop}
    (hnx : ∀ a current stack, a.stack = current :: stack → a.visited < maxMutationErrorNodes →
      inv a → inv (a.next g current stack)) (a : Aggregation ν) (ha : inv a) :
    inv (a.loop g) ∧ ((a.loop g).stack = [] ∨ maxMutationErrorNodes ≤ (a.loop g).visited) := by
  induction a using Aggregation.loop.induct g with
  | case1 a hstk =>
    rw [loop_end (Or.inl hstk)]
    exact ⟨ha, .inl hstk⟩
  | case2 a current stack hstk hbud ih =>
    rw [loop_next hstk hbud]
    exact ih (hnx a current stack hstk hbud ha)
  | case3 a current stack hstk hbud =>
    rw [loop_end (Or.inr (not_lt.mp hbud))]
    exact ⟨ha, .inr (not_lt.mp hbud)⟩

/-- What is behind `err` has been counted, or is still to come, or was cut off. -/
def Aggregation.Covers (g : ErrorValues ν) (err : ν) (field : MutationField) (a : Aggregation ν) :
    Prop :=
  a.truncated ∨ ∀ n, g.Contains err n → (g.carried n).get field →
    a.flags.get field ∨ ∃ p ∈ a.stack, ∃ m, p.err = some m ∧ g.Contains m n

variable {n m : ν}

lemma mem_pushWrapped (h : g.Wraps n m) (depth : Nat) (stack : List (PendingError ν)) :
    ⟨some m, depth⟩ ∈ pushWrapped g n depth stack :=
  mem_append_left _ (List.mem_map_of_mem (mem_reverse.mpr h))

lemma Aggregation.Covers.next (hstk : a.stack = current :: stack) (h : a.Covers g err field) :
    (a.next g current stack).Covers g err field := by
  unfold Aggregation.next
  split
  · -- a nil error covers nothing
    rename_i hnil
    refine h.imp id fun h n hn hcarr => ?_
    refine (h n hn hcarr).imp id ?_
    rintro ⟨p, hp, m, hm, hmn⟩
    rw [hstk, mem_cons] at hp
    rcases hp with rfl | hp
    · cases hnil.symm.trans hm
    · exact ⟨p, hp, m, hm, hmn⟩
  next e he =>
    split
    · exact .inl rfl
    refine h.imp id fun h n hn hcarr => ?_
    simp only [MutationFlags.get_or, Bool.or_eq_true]
    rcases h n hn hcarr with hflag | ⟨p, hp, m, hm, hmn⟩
    · exact .inl (.inl hflag)
    rw [hstk, mem_cons] at hp
    rcases hp with rfl | hp
    · -- behind the visited error: the error itself, or behind one that was pushed
      obtain rfl : e = m := some.inj (he.symm.trans hm)
      rcases Relation.ReflTransGen.cases_head hmn with rfl | ⟨child, hch, hrs⟩
      · exact .inl (.inr hcarr)
      · exact .inr ⟨_, mem_pushWrapped hch _ _, child, rfl, hrs⟩
    · exact .inr ⟨p, mem_append_right _ hp, m, hm, hmn⟩

/-- **The search never misses a record**, on any graph. -/
theorem aggregate_of_carried (hn : g.Contains err n) (hcarr : (g.carried n).get field) :
    (aggregateManagedMutationState g (some err)).get field := by
  have hsrt : (Aggregation.start (some err)).Covers g err field :=
    .inr fun n hn _ => .inr ⟨_, mem_singleton_self _, err, rfl, hn⟩
  have hcov := (Aggregation.loop_invariant (fun _ _ _ hstk _ h => h.next hstk) _ hsrt).1
  unfold aggregateManagedMutationState
  dsimp only
  split
  · cases field <;> rfl
  next hwhole =>
    rw [not_or, not_not] at hwhole
    rcases hcov with htrunc | hcov
    · exact absurd htrunc hwhole.1
    rcases hcov n hn hcarr with hflag | ⟨p, hp, -⟩
    · exact hflag
    · rw [hwhole.2] at hp
      cases hp

/-! ## 4. Within its budget the search is exact

The unfolding of an error is within the budget if it is at most 64 levels deep and has at most 256
errors. There is one more thing that counts: a nil error is popped but not visited, so a nil one
that is still on the stack when the 256th error has been visited looks like an error that was left
out. An error that fits has to have fewer than 256 errors, or no nil ones among them. -/

/-- What an entry of the stack still has to contribute to the count. -/
def PendingError.size (g : ErrorValues ν) (p : PendingError ν) : Nat :=
  p.err.elim 0 (g.size (maxMutationErrorDepth - p.depth))

/-- The search of an error that fits the depth. -/
structure Aggregation.Within (g : ErrorValues ν) (err : ν) (field : MutationField)
    (a : Aggregation ν) : Prop where
  whole : a.truncated = false
  sound : a.flags.get field → ∃ n, g.Contains err n ∧ (g.carried n).get field
  behind : ∀ p ∈ a.stack, ∀ m, p.err = some m → g.Contains err m ∧
    p.depth ≤ maxMutationErrorDepth ∧ g.FitsDepth (maxMutationErrorDepth - p.depth) m
  count : a.visited + (a.stack.map (PendingError.size g)).sum = g.size maxMutationErrorDepth err

lemma mem_pushWrapped_iff {depth : Nat} {p : PendingError ν} : p ∈ pushWrapped g n depth stack ↔
      (p.err ∈ (g.unwrap n).errors ∧ p.depth = depth) ∨ p ∈ stack := by
  simp only [pushWrapped, mem_append, List.mem_map, mem_reverse]
  constructor
  · rintro (⟨e, he, rfl⟩ | hp)
    · exact .inl ⟨he, rfl⟩
    · exact .inr hp
  · rintro (⟨he, rfl⟩ | hp)
    · exact .inl ⟨p.err, he, rfl⟩
    · exact .inr hp

/-- What is pushed counts as much as what was popped, less the error that was visited. -/
lemma sum_pushWrapped {depth : Nat} (stack : List (PendingError ν))
    (hft : g.FitsDepth (maxMutationErrorDepth - depth) n) :
    ((pushWrapped g n (depth + 1) stack).map (PendingError.size g)).sum + 1
      = g.size (maxMutationErrorDepth - depth) n + (stack.map (PendingError.size g)).sum := by
  have hpushed : ((g.unwrap n).errors.reverse.map (PendingError.mk · (depth + 1))).map
      (PendingError.size g) = ((g.unwrap n).errors.map fun err =>
        err.elim 0 (g.size (maxMutationErrorDepth - depth - 1))).reverse := by
    rw [List.map_map, ← map_reverse]
    rfl
  rw [pushWrapped, map_append, sum_append, hpushed, sum_reverse, ErrorGraph.size_eq hft]
  omega

lemma Aggregation.Within.next (hstk : a.stack = current :: stack) (h : a.Within g err field) :
    (a.next g current stack).Within g err field := by
  obtain ⟨hwhole, hsound, hbeh, hcnt⟩ := h
  rw [hstk, map_cons, sum_cons, PendingError.size] at hcnt
  rw [hstk] at hbeh
  have hrs := fun p hp => hbeh p (.tail _ hp)
  unfold Aggregation.next
  split
  next hnil =>
    rw [hnil, elim_none, zero_add] at hcnt
    exact ⟨hwhole, hsound, hrs, hcnt⟩
  next e he =>
    rw [he, elim_some] at hcnt
    obtain ⟨hcont, hdepth, hft⟩ := hbeh current (.head _) e he
    rw [if_neg (not_lt.mpr hdepth)]
    refine ⟨hwhole, ?_, ?_, ?_⟩
    · simp only [MutationFlags.get_or, Bool.or_eq_true]
      rintro (hflag | hcarr)
      · exact hsound hflag
      · exact ⟨e, hcont, hcarr⟩
    · intro p hp m hm
      rcases mem_pushWrapped_iff.mp hp with ⟨hmem, hlevel⟩ | hp
      · have hwraps : g.Wraps e m := by rwa [hm] at hmem
        obtain ⟨hpos, hft'⟩ := hft.wrapped hwraps
        refine ⟨hcont.tail hwraps, by omega, ?_⟩
        rwa [hlevel, Nat.sub_add_eq]
      · exact hrs p hp m hm
    · have hsum := sum_pushWrapped stack hft
      dsimp only
      omega

/-- Without nil errors every entry of the stack is an error. -/
lemma Aggregation.next_noNil (hnil : g.NoNil err) (hstk : a.stack = current :: stack)
    (h : ∀ p ∈ a.stack, ∃ m, p.err = some m ∧ g.Contains err m) :
    ∀ p ∈ (a.next g current stack).stack, ∃ m, p.err = some m ∧ g.Contains err m := by
  rw [hstk] at h
  have hrs := fun p hp => h p (.tail _ hp)
  obtain ⟨e, he, hcont⟩ := h current (.head _)
  rw [Aggregation.next, he]
  dsimp only
  split
  · exact hrs
  · intro p hp
    rcases mem_pushWrapped_iff.mp hp with ⟨hmem, -⟩ | hp
    · cases hm : p.err with
      | none =>
        rw [hm] at hmem
        exact absurd hmem (hnil e hcont)
      | some m =>
        rw [hm] at hmem
        exact ⟨m, rfl, hcont.tail hmem⟩
    · exact hrs p hp

/-- An error that is within a budget of depth and nodes. -/
structure ErrorValues.Fits (g : ErrorValues ν) (depth nodes : Nat) (err : ν) : Prop where
  levels : g.FitsDepth depth err
  errors : g.size depth err ≤ nodes
  last : g.size depth err < nodes ∨ g.NoNil err

/-- **Within its budget the search reports exactly what the errors carry.** -/
theorem aggregate_eq_true_iff (hft : g.Fits maxMutationErrorDepth maxMutationErrorNodes err)
    (field : MutationField) :
    (aggregateManagedMutationState g (some err)).get field ↔
      ∃ n, g.Contains err n ∧ (g.carried n).get field := by
  constructor
  swap
  · rintro ⟨n, hn, hcarr⟩
    exact aggregate_of_carried hn hcarr
  have hsrt : (Aggregation.start (some err)).Within g err field := by
    refine ⟨rfl, by simp [Aggregation.start], ?_, by simp [Aggregation.start, PendingError.size]⟩
    intro p hp m hm
    obtain rfl := mem_singleton.mp hp
    cases hm
    exact ⟨.refl, Nat.zero_le _, hft.levels⟩
  obtain ⟨⟨hwhole, hsound, hbeh, hcnt⟩, hend⟩ :=
    Aggregation.loop_invariant (fun _ _ _ hstk _ h => h.next hstk) _ hsrt
  have hem : ((Aggregation.start (some err)).loop g).stack = [] := by
    rcases hend with hem | hspent
    · exact hem
    rcases hft.last with hfewer | hnil
    · omega
    · -- every entry that is left would be one error too many
      have hso := (Aggregation.loop_invariant (fun _ _ _ hstk _ h =>
        Aggregation.next_noNil hnil hstk h) (Aggregation.start (some err)) (by
          intro p hp
          obtain rfl := mem_singleton.mp hp
          exact ⟨err, rfl, .refl⟩)).1
      have hnodes := hft.errors
      cases hstk : ((Aggregation.start (some err)).loop g).stack with
      | nil => rfl
      | cons p rest =>
        obtain ⟨m, hm, -⟩ := hso p (by rw [hstk]; exact mem_cons_self)
        have hone : 1 ≤ p.size g := by
          rw [PendingError.size, hm]
          exact ErrorGraph.one_le_size _ _
        rw [hstk, map_cons, sum_cons] at hcnt
        omega
  unfold aggregateManagedMutationState
  rw [if_neg (by simp [hwhole, hem])]
  exact hsound

/-! ## 5. Wrapping keeps the record

A search that reports nothing has seen everything: had it been cut off it would have reported a
change. So an error that reports nothing fits the budget, and so does every error it wraps. -/

/-- A search that ends with nothing left over was within the budget from where it started. -/
lemma Aggregation.loop_clean (a : Aggregation ν) (hwhole : (a.loop g).truncated = false)
    (hem : (a.loop g).stack = []) :
    a.truncated = false ∧ (∀ p ∈ a.stack, ∀ m, p.err = some m → p.depth ≤ maxMutationErrorDepth ∧
        g.FitsDepth (maxMutationErrorDepth - p.depth) m) ∧
      a.visited + (a.stack.map (PendingError.size g)).sum = (a.loop g).visited := by
  induction a using Aggregation.loop.induct g with
  | case1 a hstk =>
    rw [loop_end (Or.inl hstk)] at hwhole ⊢
    rw [hstk]
    refine ⟨hwhole, fun p hp => ?_, rfl⟩
    cases hp
  | case3 a current stack hstk hbud =>
    rw [loop_end (Or.inr (not_lt.mp hbud)), hstk] at hem
    cases hem
  | case2 a current stack hstk hbud ih =>
    rw [loop_next hstk hbud] at hwhole hem ⊢
    obtain ⟨hnx, hbeh, hcnt⟩ := ih hwhole hem
    rw [hstk, map_cons, sum_cons, PendingError.size, ← hcnt]
    unfold Aggregation.next at hnx hbeh ⊢
    cases herr : current.err with
    | none =>
      rw [herr] at hnx hbeh
      refine ⟨hnx, fun p hp m hm => ?_, by simp⟩
      rcases mem_cons.mp hp with rfl | hp
      · cases herr.symm.trans hm
      · exact hbeh p hp m hm
    | some err =>
      rw [herr] at hnx hbeh
      dsimp only at hnx hbeh ⊢
      by_cases hdepth : maxMutationErrorDepth < current.depth
      · rw [if_pos hdepth] at hnx
        cases hnx
      rw [if_neg hdepth] at hnx hbeh ⊢
      have hft : g.FitsDepth (maxMutationErrorDepth - current.depth) err := by
        have hch : ∀ m, g.Wraps err m → current.depth + 1 ≤ maxMutationErrorDepth ∧
            g.FitsDepth (maxMutationErrorDepth - (current.depth + 1)) m :=
          fun m hm => hbeh _ (mem_pushWrapped hm _ _) m rfl
        cases hlvls : maxMutationErrorDepth - current.depth with
        | zero =>
          intro m hm
          have hle := (hch m hm).1
          omega
        | succ levels =>
          intro m hm
          have hm := (hch m hm).2
          rwa [Nat.sub_add_eq, hlvls] at hm
      refine ⟨hnx, fun p hp m hm => ?_, ?_⟩
      · rcases mem_cons.mp hp with rfl | hp
        · rw [← some.inj (herr.symm.trans hm)]
          exact ⟨not_lt.mp hdepth, hft⟩
        · exact hbeh p (mem_pushWrapped_iff.mpr (.inr hp)) m hm
      · have hsum := sum_pushWrapped stack hft
        dsimp only [elim_some]
        omega

/-- The search visits no more errors than its budget allows. -/
lemma Aggregation.loop_visited_le (a : Aggregation ν) (ha : a.visited ≤ maxMutationErrorNodes) :
    (a.loop g).visited ≤ maxMutationErrorNodes := by
  have hnx : ∀ (a : Aggregation ν) current stack, a.stack = current :: stack →
      a.visited < maxMutationErrorNodes → a.visited ≤ maxMutationErrorNodes →
      (a.next g current stack).visited ≤ maxMutationErrorNodes := by
    intro a current stack _ hbud _
    rcases a.next_decreases g current stack with hvis | ⟨hvis, -⟩
    · omega
    · omega
  exact (Aggregation.loop_invariant hnx a ha).1

/-- An error that reports nothing is within the budget. -/
lemma fits_of_not_reported (h : (aggregateManagedMutationState g (some err)).get field = false) :
    g.FitsDepth maxMutationErrorDepth err ∧
      g.size maxMutationErrorDepth err ≤ maxMutationErrorNodes := by
  have hcln : ¬ (((Aggregation.start (some err)).loop g).truncated ∨
      ((Aggregation.start (some err)).loop g).stack ≠ []) := by
    intro hcut
    rw [aggregateManagedMutationState, if_pos hcut] at h
    cases field <;> cases h
  rw [not_or, Bool.not_eq_true, not_not] at hcln
  obtain ⟨-, hbeh, hcnt⟩ := Aggregation.loop_clean _ hcln.1 hcln.2
  have hvis := Aggregation.loop_visited_le (g := g) (Aggregation.start (some err)) (Nat.zero_le _)
  refine ⟨(hbeh ⟨some err, 0⟩ (mem_singleton_self _) err rfl).2, ?_⟩
  have hsz : ((Aggregation.start (some err)).stack.map (PendingError.size g)).sum
      = g.size maxMutationErrorDepth err := by
    simp [Aggregation.start, PendingError.size]
  omega

/-- **What a wrapped error reports is reported**, also when its search was cut off. -/
theorem aggregate_of_wraps (field : MutationField) (hm : g.Wraps n m)
    (h : (aggregateManagedMutationState g (some m)).get field) :
    (aggregateManagedMutationState g (some n)).get field := by
  by_contra hnot
  rw [Bool.not_eq_true] at hnot
  obtain ⟨hlvls, hsz⟩ := fits_of_not_reported hnot
  have hlevel : g.FitsDepth (maxMutationErrorDepth - 1) m := (hlvls.wrapped hm).2
  have hsmaller : g.size (maxMutationErrorDepth - 1) m < g.size maxMutationErrorDepth n :=
    ErrorGraph.size_lt_of_wraps hm
  have hsm : g.size maxMutationErrorDepth m = g.size (maxMutationErrorDepth - 1) m :=
    ErrorGraph.size_succ hlevel
  have hft : g.Fits maxMutationErrorDepth maxMutationErrorNodes m :=
    ⟨hlevel.succ, by omega, .inl (by omega)⟩
  obtain ⟨e, he, hcarr⟩ := (aggregate_eq_true_iff hft field).mp h
  rw [aggregate_of_carried (he.head hm) hcarr] at hnot
  cases hnot

/-! ## 6. Recording a change -/

variable (op : String)

lemma ErrorValues.wraps_new (flags : MutationFlags) :
    g.Wraps (g.managedMutationError op flags err) m ↔ m = err := by
  rw [ErrorGraph.Wraps, g.unwrap_new]
  simp [Unwrapped.errors]

lemma ErrorValues.carried_new (flags : MutationFlags) (err : ν) :
    g.carried (g.managedMutationError op flags err) = flags := by
  rw [ErrorValues.carried, g.mutation_new, getD_some]

/-- What is behind a new error is the error itself or behind the one it wraps. -/
lemma ErrorValues.contains_new {op : String} {flags : MutationFlags}
    (h : g.Contains (g.managedMutationError op flags err) n) :
    n = g.managedMutationError op flags err ∨ g.Contains err n := by
  rcases Relation.ReflTransGen.cases_head h with rfl | ⟨m, hm, hrs⟩
  · exact .inl rfl
  · obtain rfl := (g.wraps_new op flags).mp hm
    exact .inr hrs

/-- A new error needs one level and one node more than the error it wraps. -/
lemma ErrorValues.Fits.new {depth nodes : Nat} (h : g.Fits depth nodes err) (op : String)
    (flags : MutationFlags) :
    g.Fits (depth + 1) (nodes + 1) (g.managedMutationError op flags err) := by
  have hsz : g.size (depth + 1) (g.managedMutationError op flags err) = 1 + g.size depth err := by
    rw [ErrorGraph.size, g.unwrap_new]
    rfl
  refine ⟨?_, ?_, ?_⟩
  · intro m hm
    rw [(g.wraps_new op flags).mp hm]
    exact h.levels
  · have herrors := h.errors
    omega
  · refine h.last.imp (fun hfewer => by omega) fun hnil m hm => ?_
    rcases g.contains_new hm with rfl | hm
    · rw [g.unwrap_new]
      simp [Unwrapped.errors]
    · exact hnil m hm

lemma aggregate_new {flags : MutationFlags} (err : ν) (field : MutationField)
    (h : flags.get field) :
    (aggregateManagedMutationState g (some (g.managedMutationError op flags err))).get field :=
  aggregate_of_carried .refl ((g.carried_new op flags err).symm ▸ h)

/-- What `managedChangedMutationError` returns: the error it was given, when that says all there is
to say, or a new one with the record. -/
lemma managedChangedMutationError_cases (dur : Bool) (err : ν) :
    (managedChangedMutationError g op dur (some err) = some err ∧
      managedMutationChanged g (some err) ∧
      managedMutationDurabilityUnknown g (some err)
        = (dur || managedMutationDurabilityUnknown g (some err))) ∨
    managedChangedMutationError g op dur (some err) = some (g.managedMutationError op
        ⟨true, dur || managedMutationDurabilityUnknown g (some err)⟩ err) := by
  unfold managedChangedMutationError
  dsimp only
  split
  next hsm =>
    rw [Bool.and_eq_true] at hsm
    refine .inl ⟨rfl, hsm.1, ?_⟩
    cases dur <;> simp_all
  · exact .inr rfl

/-- The record of a new error is what it reports, if the wrapped error leaves it room. -/
lemma durabilityUnknown_new (dur : Bool) (hft : g.Fits 63 255 err) :
    managedMutationDurabilityUnknown g (some (g.managedMutationError op
        ⟨true, dur || managedMutationDurabilityUnknown g (some err)⟩ err))
      = (dur || managedMutationDurabilityUnknown g (some err)) := by
  rw [Bool.eq_iff_iff]
  constructor
  · intro hrptd
    obtain ⟨n, hn, hcarr⟩ :=
      (aggregate_eq_true_iff (hft.new op _) .durabilityUnknown).mp hrptd
    rcases g.contains_new hn with rfl | hn
    · rwa [g.carried_new] at hcarr
    · exact Bool.or_eq_true _ _ ▸ .inr (aggregate_of_carried hn hcarr)
  · intro hrcd
    exact aggregate_new op err .durabilityUnknown hrcd

/-- **Mutation metadata is never lost.** On any graph of errors, cyclic or not, whatever an error
behind `err` carries is reported. An error that fits the budget reports exactly what the errors
behind it carry. `managedChangedMutationError` turns any error into one that reports the change
and at least the given uncertainty about durability, and exactly that if the error it is given
leaves one level and one node of the budget. -/
theorem mutation_metadata_kept (g : ErrorValues ν) (err : ν) :
    (∀ n field, g.Contains err n → (g.carried n).get field = true →
      (aggregateManagedMutationState g (some err)).get field = true) ∧
    (g.Fits maxMutationErrorDepth maxMutationErrorNodes err → ∀ field,
      ((aggregateManagedMutationState g (some err)).get field = true ↔
        ∃ n, g.Contains err n ∧ (g.carried n).get field = true)) ∧
    (∀ operation durabilityUnknown, ∃ result,
      managedChangedMutationError g operation durabilityUnknown (some err) = some result ∧
      managedMutationChanged g (some result) = true ∧
      ((durabilityUnknown || managedMutationDurabilityUnknown g (some err)) = true →
        managedMutationDurabilityUnknown g (some result) = true) ∧
      (g.Fits 63 255 err → managedMutationDurabilityUnknown g (some result)
        = (durabilityUnknown || managedMutationDurabilityUnknown g (some err)))) := by
  refine ⟨fun _ _ => aggregate_of_carried, fun hfits => aggregate_eq_true_iff hfits, ?_⟩
  intro operation durabilityUnknown
  rcases managedChangedMutationError_cases (g := g) operation durabilityUnknown err with
    ⟨hsame, hchanged, hdurability⟩ | hnew
  · exact ⟨err, hsame, hchanged, hdurability.trans, fun _ => hdurability⟩
  · refine ⟨_, hnew, aggregate_new operation err .changed rfl, ?_, ?_⟩
    · intro hrecord
      exact aggregate_new operation err .durabilityUnknown hrecord
    · exact durabilityUnknown_new operation durabilityUnknown

end

/-! ## 7. The error values of the package -/

/-- Errors as the package makes them: leaves, `fmt.Errorf("%w")`, `errors.Join` and
`ManagedMutationError`. -/
inductive ManagedError (σ : Type)
  | leaf (err : σ)
  | wrapped (text : String) (err : ManagedError σ)
  | joined (errs : List (ManagedError σ))
  | mutation (operation : String) (flags : MutationFlags) (err : Option (ManagedError σ))

/-- Their methods. -/
def managedErrors (σ : Type) : ErrorValues (ManagedError σ) where
  unwrap
    | .leaf _ => .leaf
    | .wrapped _ err => .one (some err)
    | .joined errs => .many (errs.map some)
    | .mutation _ _ err => .one err
  mutation
    | .mutation _ flags _ => some flags
    | _ => none
  managedMutationError operation flags err := .mutation operation flags (some err)
  unwrap_new _ _ _ := rfl
  mutation_new _ _ _ := rfl

/-- An error without anything behind it fits any budget. -/
lemma fits_leaf {σ : Type} (err : σ) (depth nodes : Nat) :
    (managedErrors σ).Fits (depth + 1) (nodes + 1) (.leaf err) := by
  have hno : ∀ m, ¬ (managedErrors σ).Wraps (.leaf err) m := by
    intro m hm
    cases hm
  refine ⟨fun m hm => absurd hm (hno m), Nat.le_add_left 1 nodes, .inr ?_⟩
  intro m hm
  rcases Relation.ReflTransGen.cases_head hm with rfl | ⟨n, hn, -⟩
  · exact not_mem_nil
  · exact absurd hn (hno n)

/-- A failed close becomes a record of the change, and of nothing else. -/
theorem mutation_metadata_kept_leaf :
    ∃ result, managedChangedMutationError (managedErrors Unit) "close" false (some (.leaf ()))
        = some result ∧ managedMutationChanged (managedErrors Unit) (some result) = true ∧
      managedMutationDurabilityUnknown (managedErrors Unit) (some result)
        = managedMutationDurabilityUnknown (managedErrors Unit) (some (.leaf ())) := by
  obtain ⟨-, -, hrecorded⟩ := mutation_metadata_kept (managedErrors Unit) (.leaf ())
  obtain ⟨result, hresult, hchanged, -, hexact⟩ := hrecorded "close" false
  exact ⟨result, hresult, hchanged, hexact (fits_leaf () 62 254)⟩

/-! ## 8. At the edge of the budget -/

/-- A record that nothing changed, with no cause. -/
def blankMutation : ManagedError Unit := .mutation "" .none none

/-- `k` of them, joined. -/
def blankJoin (k : Nat) : ManagedError Unit := .joined (List.replicate k blankMutation)

lemma wraps_blankJoin {k : Nat} {m : ManagedError Unit}
    (h : (managedErrors Unit).Wraps (blankJoin k) m) : m = blankMutation := by
  obtain ⟨n, hn, hnm⟩ := mem_map.mp h
  rw [← some.inj hnm]
  exact eq_of_mem_replicate hn

lemma not_wraps_blankMutation (m : ManagedError Unit) :
    ¬ (managedErrors Unit).Wraps blankMutation m := by
  intro hm
  cases mem_singleton.mp hm

lemma fitsDepth_blankJoin (k depth : Nat) :
    (managedErrors Unit).FitsDepth (depth + 2) (blankJoin k) := by
  intro m hm
  rw [wraps_blankJoin hm]
  exact fun n hn => absurd hn (not_wraps_blankMutation n)

lemma size_blankJoin (k depth : Nat) :
    (managedErrors Unit).size (depth + 2) (blankJoin k) = 1 + k := by
  have herrors : ((managedErrors Unit).unwrap (blankJoin k)).errors
      = replicate k (some blankMutation) := map_replicate
  rw [ErrorGraph.size, herrors, map_replicate, sum_replicate]
  show 1 + k * 1 = 1 + k
  omega

lemma carried_blankJoin {k : Nat} {n : ManagedError Unit}
    (h : (managedErrors Unit).Contains (blankJoin k) n) : (managedErrors Unit).carried n = .none := by
  rcases Relation.ReflTransGen.cases_head h with rfl | ⟨m, hm, hmn⟩
  · rfl
  obtain rfl := wraps_blankJoin hm
  rcases Relation.ReflTransGen.cases_head hmn with rfl | ⟨m, hm, -⟩
  · rfl
  · exact absurd hm (not_wraps_blankMutation m)

/-- The search of `k` blank records; each is visited and then its nil cause is dropped. -/
def blankSearch (nilOnTop : Bool) (k depth visited : Nat) (flags : MutationFlags) :
    Aggregation (ManagedError Unit) :=
  ⟨(if nilOnTop then [⟨none, depth + 1⟩] else []) ++ List.replicate k ⟨some blankMutation, depth⟩,
    visited, false, flags⟩

section

variable {k depth visited : Nat} {flags : MutationFlags}

lemma blankSearch_join (hdepth : depth ≤ maxMutationErrorDepth)
    (hbud : visited < maxMutationErrorNodes) :
    Aggregation.loop (managedErrors Unit) ⟨[⟨some (blankJoin k), depth⟩], visited, false, flags⟩
      = (blankSearch false k (depth + 1) (visited + 1) flags).loop (managedErrors Unit) := by
  have herrors : ((managedErrors Unit).unwrap (blankJoin k)).errors
      = replicate k (some blankMutation) := map_replicate
  have hfl : flags.or ((managedErrors Unit).carried (blankJoin k)) = flags := by
    rw [carried_blankJoin .refl]
    simp [MutationFlags.or, MutationFlags.none]
  rw [Aggregation.loop_next rfl hbud, Aggregation.next]
  dsimp only
  rw [if_neg (not_lt.mpr hdepth), pushWrapped, herrors, reverse_replicate,
    map_replicate, append_nil, hfl]
  rfl

lemma blankSearch_visit (hdepth : depth ≤ maxMutationErrorDepth)
    (hbud : visited < maxMutationErrorNodes) :
    (blankSearch false (k + 1) depth visited flags).loop (managedErrors Unit)
      = (blankSearch true k depth (visited + 1) flags).loop (managedErrors Unit) := by
  have hstk : (blankSearch false (k + 1) depth visited flags).stack
      = ⟨some blankMutation, depth⟩ :: replicate k ⟨some blankMutation, depth⟩ := rfl
  have hfl : flags.or ((managedErrors Unit).carried blankMutation) = flags := by
    simp [ErrorValues.carried, managedErrors, blankMutation, MutationFlags.or, MutationFlags.none]
  rw [Aggregation.loop_next hstk hbud, Aggregation.next]
  dsimp only
  rw [if_neg (not_lt.mpr hdepth)]
  simp only [blankSearch, hfl]
  rfl

lemma blankSearch_drop (hbud : visited < maxMutationErrorNodes) :
    (blankSearch true k depth visited flags).loop (managedErrors Unit)
      = (blankSearch false k depth visited flags).loop (managedErrors Unit) := by
  have hstk : (blankSearch true k depth visited flags).stack
      = ⟨none, depth + 1⟩ :: replicate k ⟨some blankMutation, depth⟩ := rfl
  rw [Aggregation.loop_next hstk hbud]
  rfl

/-- When the budget ends with the last record, its cause is left on the stack. -/
lemma blankSearch_loop (hdepth : depth ≤ maxMutationErrorDepth) (k : Nat) :
    ∀ visited, visited + k + 1 = maxMutationErrorNodes →
      (blankSearch false (k + 1) depth visited flags).loop (managedErrors Unit)
        = blankSearch true 0 depth maxMutationErrorNodes flags := by
  induction k with
  | zero =>
    intro visited hvis
    rw [blankSearch_visit hdepth (by omega), hvis]
    exact Aggregation.loop_end (.inr (le_refl _))
  | succ k ih =>
    intro visited hvis
    rw [blankSearch_visit hdepth (by omega), blankSearch_drop (by omega)]
    exact ih (visited + 1) (by omega)

end

/-- **A tree of exactly 256 errors can be reported as cut off.** It is two levels deep, no error of
it carries anything, and the search still answers that something changed. With two records less,
the search answers that nothing is known to have changed, and `managedChangedMutationError` makes
of it an error that reports unknown durability, although it was not asked to. -/
theorem blank_join_reported_changed :
    (managedErrors Unit).FitsDepth maxMutationErrorDepth (blankJoin 255) ∧
    (managedErrors Unit).size maxMutationErrorDepth (blankJoin 255) = maxMutationErrorNodes ∧
    (∀ n, (managedErrors Unit).Contains (blankJoin 255) n →
      (managedErrors Unit).carried n = .none) ∧
    managedMutationChanged (managedErrors Unit) (some (blankJoin 255)) = true ∧
    managedMutationDurabilityUnknown (managedErrors Unit) (some (blankJoin 254)) = false ∧
    ∃ result, managedChangedMutationError (managedErrors Unit) "" false (some (blankJoin 254))
        = some result ∧
      managedMutationDurabilityUnknown (managedErrors Unit) (some result) = true := by
  have hfits : (managedErrors Unit).Fits maxMutationErrorDepth maxMutationErrorNodes
      (blankJoin 254) :=
    ⟨fitsDepth_blankJoin 254 62, (size_blankJoin 254 62).trans_le (by decide),
      .inl ((size_blankJoin 254 62).trans_lt (by decide))⟩
  have hnone : ∀ field,
      (aggregateManagedMutationState (managedErrors Unit) (some (blankJoin 254))).get field
        = false := by
    intro field
    rw [← Bool.not_eq_true, aggregate_eq_true_iff hfits]
    rintro ⟨n, hn, hcarried⟩
    rw [carried_blankJoin hn, MutationFlags.get_none] at hcarried
    cases hcarried
  have hchanged : managedMutationChanged (managedErrors Unit) (some (blankJoin 254)) = false :=
    hnone .changed
  have hdurability :
      managedMutationDurabilityUnknown (managedErrors Unit) (some (blankJoin 254)) = false :=
    hnone .durabilityUnknown
  refine ⟨fitsDepth_blankJoin 255 62, size_blankJoin 255 62, fun _ => carried_blankJoin, ?_,
    hdurability, .mutation "" ⟨true, false⟩ (some (blankJoin 254)), ?_, ?_⟩
  · rw [managedMutationChanged, aggregateManagedMutationState, Aggregation.start,
      blankSearch_join (by decide) (by decide), blankSearch_loop (by decide) 254 1 rfl]
    rfl
  · rw [managedChangedMutationError, hchanged, hdurability]
    rfl
  · have hstack : (Aggregation.start (some (ManagedError.mutation "" ⟨true, false⟩
        (some (blankJoin 254))))).stack = [⟨some (.mutation "" ⟨true, false⟩
          (some (blankJoin 254))), 0⟩] := rfl
    have hroot : (Aggregation.start (some (.mutation "" ⟨true, false⟩ (some (blankJoin 254))))).loop
        (managedErrors Unit) = Aggregation.loop (managedErrors Unit)
          ⟨[⟨some (blankJoin 254), 1⟩], 1, false, ⟨true, false⟩⟩ :=
      Aggregation.loop_next hstack (Nat.zero_lt_succ 255)
    rw [managedMutationDurabilityUnknown, aggregateManagedMutationState, hroot,
      blankSearch_join (by decide) (by decide), blankSearch_loop (by decide) 253 2 rfl]
    rfl

end ReCasaOS.FileSecurity
