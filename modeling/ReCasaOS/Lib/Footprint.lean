/-
# Operations that keep to their part of the state

A state assigns a value to every index, and an operation returns a result and a new state. It is
confined if it looks at one set of indices only and changes another one only. Operations of which
none changes what another looks at do not see one another: run in any order, each returns what it
would have returned at the start, and the state they leave is the same (`runAll_apart`,
`runAll_perm`).
-/
import Mathlib.Data.Set.Basic
import Mathlib.Data.List.Perm.Basic

namespace ReCasaOS.Lib

open List

section

variable {ι β α κ : Type}

/-- `run` looks at `reads` and changes `writes`. -/
structure Confined (run : (ι → β) → α × (ι → β)) (reads writes : Set ι) : Prop where
  subset : writes ⊆ reads
  frame : ∀ s i, i ∉ writes → (run s).2 i = s i
  agrees : ∀ s t, (∀ i ∈ reads, s i = t i) →
    (run s).1 = (run t).1 ∧ ∀ i ∈ writes, (run s).2 i = (run t).2 i

variable {run : κ → (ι → β) → α × (ι → β)} {reads writes : κ → Set ι}

/-- Neither operation changes what the other one looks at. -/
def Apart (reads writes : κ → Set ι) (a b : κ) : Prop :=
  (∀ i ∈ writes a, i ∉ reads b) ∧ ∀ i ∈ writes b, i ∉ reads a

lemma Apart.symm {a b : κ} (h : Apart reads writes a b) : Apart reads writes b a := ⟨h.2, h.1⟩

/-- The operations one after another, with their results. -/
def runAll (run : κ → (ι → β) → α × (ι → β)) : List κ → (ι → β) → List α × (ι → β)
  | [], s => ([], s)
  | k :: ks, s => ((run k s).1 :: (runAll run ks (run k s).2).1, (runAll run ks (run k s).2).2)

/-- **Operations that are apart** act as if each was run at the start. -/
theorem runAll_apart {ks : List κ} (hconf : ∀ k ∈ ks, Confined (run k) (reads k) (writes k))
    (hap : ks.Pairwise (Apart reads writes)) (s : ι → β) :
    (runAll run ks s).1 = ks.map (fun k => (run k s).1) ∧
      (∀ k ∈ ks, ∀ i ∈ writes k, (runAll run ks s).2 i = (run k s).2 i) ∧
      ∀ i, (∀ k ∈ ks, i ∉ writes k) → (runAll run ks s).2 i = s i := by
  induction ks generalizing s with
  | nil => exact ⟨rfl, by simp, fun _ _ => rfl⟩
  | cons k ks ih =>
    obtain ⟨hfst, hrs⟩ := pairwise_cons.mp hap
    have hk := hconf k (.head _)
    -- the first operation is not seen by the later ones
    have hunseen : ∀ j ∈ ks, (run j (run k s).2).1 = (run j s).1 ∧
        ∀ i ∈ writes j, (run j (run k s).2).2 i = (run j s).2 i := by
      intro j hj
      refine (hconf j (.tail _ hj)).agrees _ _ fun i hi => hk.frame s i ?_
      exact fun hwrt => (hfst j hj).1 i hwrt hi
    obtain ⟨hresults, hwr, hkept⟩ :=
      ih (fun j hj => hconf j (.tail _ hj)) hrs (run k s).2
    refine ⟨?_, ?_, ?_⟩
    · rw [runAll, hresults, map_cons]
      exact congrArg _ (map_congr_left fun j hj => (hunseen j hj).1)
    · intro j hj i hi
      rcases mem_cons.mp hj with rfl | hj
      · refine hkept i fun j' hj' hwrt => ?_
        exact (hfst j' hj').2 i hwrt (hk.subset hi)
      · exact (hwr j hj i hi).trans ((hunseen j hj).2 i hi)
    · intro i hi
      have hlater := hkept i fun j hj => hi j (.tail _ hj)
      exact hlater.trans (hk.frame s i (hi k (.head _)))

/-- The state they leave does not depend on the order. -/
lemma runAll_perm {ks ks' : List κ} (hconf : ∀ k ∈ ks, Confined (run k) (reads k) (writes k))
    (hap : ks.Pairwise (Apart reads writes)) (hpm : ks'.Perm ks) (s : ι → β) :
    (runAll run ks' s).2 = (runAll run ks s).2 := by
  have hconf' : ∀ k ∈ ks', Confined (run k) (reads k) (writes k) :=
    fun k hk => hconf k (hpm.mem_iff.mp hk)
  have hap' := (hpm.pairwise_iff fun h => Apart.symm h).mpr hap
  obtain ⟨-, hwr, hkept⟩ := runAll_apart hconf hap s
  obtain ⟨-, hwr', hkept'⟩ := runAll_apart hconf' hap' s
  funext i
  by_cases hi : ∃ k ∈ ks, i ∈ writes k
  · obtain ⟨k, hk, hi⟩ := hi
    rw [hwr k hk i hi, hwr' k (hpm.mem_iff.mpr hk) i hi]
  · have hno : ∀ k ∈ ks, i ∉ writes k := fun k hk hik => hi ⟨k, hk, hik⟩
    rw [hkept i hno, hkept' i fun k hk => hno k (hpm.mem_iff.mp hk)]

end

end ReCasaOS.Lib
