/-
# Slices that share an array

A Go slice is a window on an array, and `append` writes into that array while it has room. Code
that filters a slice in place, `kept := s[:0]` and then `kept = append(kept, a)` in a loop over
`s`, overwrites the array it is still reading. It never overtakes itself, so what it keeps is
what it would have kept in a new slice (`toList_compact`).
-/
import Mathlib.Data.List.Basic

namespace ReCasaOS.Lib

open List

/-- A slice that starts at the first element of its array. -/
structure Slice (α : Type) where
  array : List α
  len : Nat
  len_le : len ≤ array.length

namespace Slice

variable {α : Type}

def toList (s : Slice α) : List α := s.array.take s.len

/-- `nil`. -/
def empty : Slice α := ⟨[], 0, Nat.le_refl 0⟩

/-- `s[:0]`. -/
def truncate (s : Slice α) : Slice α := ⟨s.array, 0, Nat.zero_le _⟩

/-- `append(s, a)`, in the same array if it has room. -/
def append (s : Slice α) (a : α) : Slice α :=
  if h : s.len < s.array.length then
    ⟨s.array.set s.len a, s.len + 1, by rw [List.length_set]; exact h⟩
  else
    ⟨s.toList ++ [a], s.len + 1, by simp [toList, Nat.min_eq_left s.len_le]⟩

/-- The loop of `compact`: `todo` elements are left to read, from index `i` on. -/
def compactFrom (keep : α → Bool) : (todo i : Nat) → (kept : Slice α) → Slice α
  | 0, _, kept => kept
  | todo + 1, i, kept =>
    match kept.array[i]? with
    | none => kept
    | some a => compactFrom keep todo (i + 1) (if keep a then kept.append a else kept)

/-- `kept := s[:0]; for _, a := range s { if keep(a) { kept = append(kept, a) } }`. -/
def compact (keep : α → Bool) (s : Slice α) : Slice α := compactFrom keep s.len 0 s.truncate

@[simp] lemma toList_empty : (empty : Slice α).toList = [] := rfl

@[simp] lemma toList_append (s : Slice α) (a : α) : (s.append a).toList = s.toList ++ [a] := by
  unfold append
  split
  · rename_i h
    simp only [toList]
    rw [take_add_one, take_set_of_le (Nat.le_refl _)]
    simp [h]
  · have hlen : s.toList.length = s.len := by simp [toList, Nat.min_eq_left s.len_le]
    exact take_of_length_le (by simp [hlen])

/-- An append into the array leaves what comes later in it as it was. -/
lemma drop_append_array {s : Slice α} {a : α} {i : Nat} (hlen : s.len ≤ i)
    (hi : i < s.array.length) : (s.append a).array.drop (i + 1) = s.array.drop (i + 1) := by
  have hrm : s.len < s.array.length := by omega
  rw [append, dif_pos hrm]
  exact drop_set_of_lt (by omega)

lemma length_append_array {s : Slice α} {a : α} (h : s.len < s.array.length) :
    (s.append a).array.length = s.array.length := by
  rw [append, dif_pos h]
  exact length_set

lemma len_append (s : Slice α) (a : α) : (s.append a).len = s.len + 1 := by
  unfold append
  split <;> rfl

lemma toList_compactFrom (keep : α → Bool) :
    ∀ {todo i : Nat} {kept : Slice α}, kept.len ≤ i → i + todo ≤ kept.array.length →
      (compactFrom keep todo i kept).toList
        = kept.toList ++ ((kept.array.drop i).take todo).filter keep
  | 0, i, kept, _, _ => by simp [compactFrom]
  | todo + 1, i, kept, hlen, hle => by
    have hi : i < kept.array.length := by omega
    have hrd : kept.array[i]? = some kept.array[i] := getElem?_eq_getElem hi
    rw [compactFrom, hrd, drop_eq_getElem_cons hi, take_succ_cons, filter_cons]
    by_cases hkeep : keep kept.array[i]
    · have hlength : (kept.append kept.array[i]).array.length = kept.array.length :=
        length_append_array (by omega)
      have hlen' : (kept.append kept.array[i]).len ≤ i + 1 := by
        rw [len_append]
        omega
      simp only [hkeep, if_true]
      rw [toList_compactFrom keep hlen' (by omega), toList_append, drop_append_array hlen hi,
        append_assoc, singleton_append]
    · simp only [hkeep, if_false, Bool.false_eq_true]
      exact toList_compactFrom keep (by omega) (by omega)

/-- **Filtering a slice in place keeps what a new slice would.** -/
@[simp] theorem toList_compact (keep : α → Bool) (s : Slice α) :
    (s.compact keep).toList = s.toList.filter keep := by
  have hle : 0 + s.len ≤ s.truncate.array.length := by
    rw [Nat.zero_add]
    exact s.len_le
  exact toList_compactFrom keep (Nat.le_refl 0) hle

end Slice

end ReCasaOS.Lib
