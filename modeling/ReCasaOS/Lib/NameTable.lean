/-
# Names and what they stand for

A directory binds names to files, and a file keeps its number while it moves from name to name. A
table is changed by binding a name, by letting one go, by moving what is behind a name to a free one
(`move`) and by exchanging two names (`exchange`).

The lemmas say what is behind a name after a change, and where a file has gone: `move` and `exchange`
lose nothing (`lookup_moveName`, `lookup_exchangeName`).

Any Go map is such a table. A loop over a map that deletes what fails a test is `keep`.
-/
import Mathlib

namespace ReCasaOS.Lib

open List AList

abbrev NameTable (ν ι : Type) := AList fun _ : ν => ι

namespace NameTable

variable {ν ι : Type} [DecidableEq ν]

/-- `RENAME_NOREPLACE`. -/
def move (t : NameTable ν ι) (old new : ν) : NameTable ν ι :=
  match t.lookup old with
  | none => t
  | some i => (t.erase old).insert new i

/-- `RENAME_EXCHANGE`. -/
def exchange (t : NameTable ν ι) (a b : ν) : NameTable ν ι :=
  match t.lookup a, t.lookup b with
  | some i, some j => (t.insert a j).insert b i
  | _, _ => t

/-- `for name, i := range t { if !p(name, i) { delete(t, name) } }`. -/
def keep (t : NameTable ν ι) (p : ν → ι → Bool) : NameTable ν ι :=
  ⟨t.entries.filter fun e => p e.1 e.2, t.nodupKeys.sublist List.filter_sublist⟩

/-- `len(t)`. -/
def size (t : NameTable ν ι) : Nat := t.entries.length

/-- Where `move` puts the file that was behind a name. -/
def moveName (old new name : ν) : ν := if name = old then new else name

/-- Where `exchange` puts the file that was behind a name. -/
def exchangeName (a b name : ν) : ν := if name = a then b else if name = b then a else name

section

variable {t : NameTable ν ι} {a b name old new : ν} {i j k : ι}

@[grind =]
lemma lookup_bind (t : NameTable ν ι) (a name : ν) (i : ι) :
    (t.insert a i).lookup name = if name = a then some i else t.lookup name := by
  split_ifs with h
  · rw [h, lookup_insert]
  · exact lookup_insert_ne h

@[grind =]
lemma lookup_release (t : NameTable ν ι) (a name : ν) :
    (t.erase a).lookup name = if name = a then none else t.lookup name := by
  split_ifs with h
  · rw [h, lookup_erase]
  · exact lookup_erase_ne h

lemma lookup_insert_eq_some :
    (t.insert a i).lookup name = some j ↔ name = a ∧ i = j ∨ name ≠ a ∧ t.lookup name = some j := by
  grind

lemma lookup_erase_eq_some :
    (t.erase a).lookup name = some i ↔ name ≠ a ∧ t.lookup name = some i := by
  grind

lemma mem_entries_iff {i : ι} : ⟨a, i⟩ ∈ t.entries ↔ t.lookup a = some i :=
  (mem_lookup_iff (s := t)).symm

lemma lookup_keep (t : NameTable ν ι) (p : ν → ι → Bool) (a : ν) :
    (t.keep p).lookup a = (t.lookup a).filter (p a) := by
  apply Option.ext
  intro i
  rw [← mem_entries_iff, Option.filter_eq_some_iff, ← mem_entries_iff]
  exact mem_filter

omit [DecidableEq ν] in
lemma size_keep_le (t : NameTable ν ι) (p : ν → ι → Bool) : (t.keep p).size ≤ t.size :=
  length_filter_le _ _

lemma size_erase_le (t : NameTable ν ι) (a : ν) : NameTable.size (t.erase a) ≤ t.size :=
  (kerase_sublist a t.entries).length_le

lemma size_insert_le (t : NameTable ν ι) (a : ν) (i : ι) :
    NameTable.size (t.insert a i) ≤ t.size + 1 := by
  have h := (kerase_sublist a t.entries).length_le
  change (kinsert a i t.entries).length ≤ _
  exact Nat.succ_le_succ h

lemma lookup_move (hold : t.lookup old = some i) : (t.move old new).lookup name
      = if name = new then some i else if name = old then none else t.lookup name := by
  unfold move
  rw [hold]
  simp only [lookup_bind, lookup_release]

lemma lookup_exchange (ha : t.lookup a = some i) (hb : t.lookup b = some j) :
    (t.exchange a b).lookup name
      = if name = b then some i else if name = a then some j else t.lookup name := by
  unfold exchange
  rw [ha, hb]
  simp only [lookup_bind]

/-- **A move loses nothing**, if the new name is free. -/
theorem lookup_moveName (hold : t.lookup old = some i) (hnew : t.lookup new = none)
    (hnm : t.lookup name = some k) : (t.move old new).lookup (moveName old new name) = some k := by
  rw [lookup_move hold, moveName]
  grind

/-- **An exchange loses nothing.** -/
theorem lookup_exchangeName (ha : t.lookup a = some i) (hb : t.lookup b = some j)
    (hnm : t.lookup name = some k) :
    (t.exchange a b).lookup (exchangeName a b name) = some k := by
  rw [lookup_exchange ha hb, exchangeName]
  grind

end

end NameTable

end ReCasaOS.Lib
