/-
# Creating, rotating and destroying keyrings, and the state they share

`newKeyring`, `rotate` and `Destroy` of `pkg/smbcredentials/keyring.go`, the first two at two levels.

A Go map is a reference, and a `Keyring` is a pointer to a state that holds one. Whether
`rotate` leaves its receiver alone is therefore a question about aliasing: the new state must not
share its map with the old one. Section 2 has `rotate` on an explicit heap of maps and states,
with `cloneKeyMap` allocating and copying as the source does. Section 1 has the same function on
keyrings as values, which is what the rest of the development reasons with. `heapRotate_spec`
connects them: on the heap the function returns what the value-level one returns, and every
keyring that was readable before reads the same after.
-/
import ReCasaOS.Smb.Keyring

namespace ReCasaOS.Smb

open Lib

/-! ## 1. `newKeyring` and `rotate` on values -/

/-- `cloneKeyMap`: the entries, inserted one by one into a new map. -/
def cloneKeyMap (source : KeyMap) : KeyMap :=
  source.entries.foldl (fun result e => result.insert e.1 e.2) ∅

section

variable (deriveKeyID : KeyMaterial → KeyID)

def newKeyring (random : Bytes) : Except KeyringError Keyring :=
  match readFull keySize random with
  | none => .error .invalidKeyring
  | some (key, _) =>
    let key : KeyMaterial := toArr 32 key
    let id := deriveKeyID key
    .ok ⟨id, (∅ : KeyMap).insert id key⟩

/-- The loop of `rotate`, with the attempts that are left. -/
def Keyring.rotateAttempts (k : Keyring) : (attempts : Nat) → Bytes → Except KeyringError Keyring
  | 0, _ => .error .invalidKeyring
  | attempts + 1, random =>
    match readFull keySize random with
    | none => .error .invalidKeyring
    | some (key, random) =>
      let key : KeyMaterial := toArr 32 key
      let id := deriveKeyID key
      if k.validateLocked deriveKeyID = false then
        .error .invalidKeyring
      else if maxKeys ≤ k.keys.entries.length then
        .error .keyringFull
      else if (k.keys.lookup id).isSome then
        k.rotateAttempts attempts random
      else
        .ok ⟨id, (cloneKeyMap k.keys).insert id key⟩

def Keyring.rotate (k : Keyring) (random : Bytes) : Except KeyringError Keyring :=
  k.rotateAttempts deriveKeyID 4 random

/-- Inserting entries that are new to the map, one by one. -/
lemma entries_foldl_insert :
    ∀ {es : List KeyEntry} {m : KeyMap}, (es.map Sigma.fst).Nodup → (∀ e ∈ es, e.1 ∉ m) →
      (es.foldl (fun res e => res.insert e.1 e.2) m).entries = es.reverse ++ m.entries
  | [], m, _, _ => rfl
  | e :: es, m, hnd, hnew => by
    rw [List.map_cons, List.nodup_cons] at hnd
    have hnew' : ∀ e' ∈ es, e'.1 ∉ m.insert e.1 e.2 := by
      intro e' he' hmem
      rcases (AList.mem_insert m).mp hmem with heq | hmem
      · exact hnd.1 (heq ▸ List.mem_map_of_mem he')
      · exact hnew e' (.tail _ he') hmem
    rw [List.foldl_cons, entries_foldl_insert hnd.2 hnew',
      AList.entries_insert_of_notMem (hnew e (.head _))]
    simp

lemma cloneKeyMap_perm (src : KeyMap) : (cloneKeyMap src).entries.Perm src.entries := by
  rw [cloneKeyMap, entries_foldl_insert src.keys_nodup fun _ _ => AList.notMem_empty _,
    AList.empty_entries, List.append_nil]
  exact List.reverse_perm _

@[simp] lemma lookup_cloneKeyMap (src : KeyMap) (id : KeyID) :
    (cloneKeyMap src).lookup id = src.lookup id :=
  AList.perm_lookup (cloneKeyMap_perm src)

variable {deriveKeyID}

lemma newKeyring_eq_ok {rnd : Bytes} {k : Keyring} (h : newKeyring deriveKeyID rnd = .ok k) :
    ∃ key, k = ⟨deriveKeyID key, (∅ : KeyMap).insert (deriveKeyID key) key⟩ := by
  unfold newKeyring at h
  split at h
  · cases h
  next key _ _ =>
    exact ⟨toArr 32 key, (Except.ok.inj h).symm⟩

/-- What a successful `rotate` has checked, and what it returns. -/
lemma rotateAttempts_eq_ok {k k' : Keyring} :
    ∀ {attempts : Nat} {rnd : Bytes}, k.rotateAttempts deriveKeyID attempts rnd = .ok k' →
      k.validateLocked deriveKeyID ∧ k.keys.entries.length < maxKeys ∧
      ∃ key, deriveKeyID key ∉ k.keys ∧
        k' = ⟨deriveKeyID key, (cloneKeyMap k.keys).insert (deriveKeyID key) key⟩
  | 0, _, h => by cases h
  | attempts + 1, rnd, h => by
    unfold Keyring.rotateAttempts at h
    split at h
    · cases h
    · dsimp only at h
      split at h
      · cases h
      rename_i hv
      split at h
      · cases h
      rename_i hrm
      split at h
      · exact rotateAttempts_eq_ok h
      next key _ _ hnew =>
        refine ⟨by simpa using hv, Nat.lt_of_not_le hrm, toArr 32 key, ?_,
          (Except.ok.inj h).symm⟩
        exact fun hmem => hnew (AList.lookup_isSome.mpr hmem)

end

/-! ## 2. The same on a heap of maps and states -/

/-- `keyringState`: the map is a reference. -/
structure KeyringCell where
  active : KeyID
  keys : Nat

/-- The maps and the states allocated so far; a reference is an index. -/
structure Heap where
  maps : List KeyMap
  states : List KeyringCell

/-- The keyring a pointer leads to. -/
def Heap.keyring? (h : Heap) (ref : Nat) : Option Keyring :=
  h.states[ref]?.bind fun cell => h.maps[cell.keys]?.map fun keys => ⟨cell.active, keys⟩

/-- `make(map[keyID]keyMaterial)`. -/
def Heap.makeMap (h : Heap) : Nat × Heap := (h.maps.length, { h with maps := h.maps ++ [∅] })

/-- `keys[id] = key`, through the reference. -/
def Heap.assign (h : Heap) (keys : Nat) (id : KeyID) (key : KeyMaterial) : Heap :=
  { h with maps := h.maps.set keys ((h.maps.getD keys ∅).insert id key) }

/-- `&keyringState{active: active, keys: keys}`. -/
def Heap.newState (h : Heap) (active : KeyID) (keys : Nat) : Nat × Heap :=
  (h.states.length, { h with states := h.states ++ [⟨active, keys⟩] })

/-- `cloneKeyMap` by reference: allocate, then copy entry by entry. -/
def Heap.cloneKeyMap (h : Heap) (source : Nat) : Nat × Heap :=
  let (result, h) := h.makeMap
  (result, (h.maps.getD source ∅).entries.foldl (fun h e => h.assign result e.1 e.2) h)

section

variable (deriveKeyID : KeyMaterial → KeyID)

/-- `rotate` on the heap: the error or the new pointer, and the heap it leaves. -/
def Heap.rotateAttempts (receiver : KeyringCell) :
    (attempts : Nat) → Heap → Bytes → Except KeyringError Nat × Heap
  | 0, h, _ => (.error .invalidKeyring, h)
  | attempts + 1, h, random =>
    match readFull keySize random with
    | none => (.error .invalidKeyring, h)
    | some (key, random) =>
      let key : KeyMaterial := toArr 32 key
      let id := deriveKeyID key
      let k : Keyring := ⟨receiver.active, h.maps.getD receiver.keys ∅⟩
      if k.validateLocked deriveKeyID = false then
        (.error .invalidKeyring, h)
      else if maxKeys ≤ k.keys.entries.length then
        (.error .keyringFull, h)
      else if (k.keys.lookup id).isSome then
        Heap.rotateAttempts receiver attempts h random
      else
        let (keys, h) := h.cloneKeyMap receiver.keys
        let h := h.assign keys id key
        let (rotated, h) := h.newState id keys
        (.ok rotated, h)

def Heap.rotate (h : Heap) (receiver : Nat) (random : Bytes) : Except KeyringError Nat × Heap :=
  match h.states[receiver]? with
  | none => (.error .invalidKeyring, h)
  | some cell => Heap.rotateAttempts deriveKeyID cell 4 h random

/-- Writing through the reference that was allocated last. -/
lemma Heap.assign_last (maps : List KeyMap) (m : KeyMap) (states : List KeyringCell)
    (id : KeyID) (key : KeyMaterial) :
    Heap.assign ⟨maps ++ [m], states⟩ maps.length id key = ⟨maps ++ [m.insert id key], states⟩ := by
  simp [Heap.assign]

lemma Heap.foldl_assign_last (maps : List KeyMap) (states : List KeyringCell) :
    ∀ (es : List KeyEntry) (m : KeyMap),
      es.foldl (fun h e => Heap.assign h maps.length e.1 e.2) ⟨maps ++ [m], states⟩ =
        ⟨maps ++ [es.foldl (fun res e => res.insert e.1 e.2) m], states⟩
  | [], _ => rfl
  | e :: es, m => by
    rw [List.foldl_cons, List.foldl_cons, Heap.assign_last, foldl_assign_last]

/-- Cloning allocates one map, which holds the clone, and writes nowhere else. -/
lemma Heap.cloneKeyMap_eq {h : Heap} {src : Nat} (hs : src < h.maps.length) :
    h.cloneKeyMap src = (h.maps.length,
      { h with maps := h.maps ++ [Smb.cloneKeyMap (h.maps.getD src ∅)] }) := by
  have hrd : (h.maps ++ [∅]).getD src ∅ = h.maps.getD src ∅ := by
    simp [List.getD_eq_getElem?_getD, List.getElem?_append_left hs]
  simp only [Heap.cloneKeyMap, Heap.makeMap, hrd, Heap.foldl_assign_last, Smb.cloneKeyMap]

variable {deriveKeyID}

/-- The heap grew: what was allocated is as it was. -/
structure Heap.Extends (h h' : Heap) : Prop where
  maps : ∀ i < h.maps.length, h'.maps[i]? = h.maps[i]?
  states : ∀ i < h.states.length, h'.states[i]? = h.states[i]?

lemma Heap.Extends.refl (h : Heap) : h.Extends h := ⟨fun _ _ => rfl, fun _ _ => rfl⟩

/-- A keyring that could be read before reads the same in a heap that grew. -/
lemma Heap.Extends.keyring {h h' : Heap} (hext : h.Extends h') {ref : Nat} {k : Keyring}
    (hk : h.keyring? ref = some k) : h'.keyring? ref = some k := by
  obtain ⟨cell, hcell, hmap⟩ := Option.bind_eq_some_iff.mp hk
  obtain ⟨keys, hkeys, hval⟩ := Option.map_eq_some_iff.mp hmap
  obtain ⟨hlt, -⟩ := List.getElem?_eq_some_iff.mp hcell
  obtain ⟨hlt', -⟩ := List.getElem?_eq_some_iff.mp hkeys
  refine Option.bind_eq_some_iff.mpr ⟨cell, (hext.states ref hlt).trans hcell, ?_⟩
  exact Option.map_eq_some_iff.mpr ⟨keys, (hext.maps _ hlt').trans hkeys, hval⟩

/-- The results of the two levels agree: the same error, or a pointer to the same keyring. -/
def Heap.Agrees (h : Heap) : Except KeyringError Nat → Except KeyringError Keyring → Prop
  | .error e, .error e' => e = e'
  | .ok ref, .ok k => h.keyring? ref = some k
  | _, _ => False

lemma Heap.rotateAttempts_spec {cell : KeyringCell} {keys : KeyMap} {h : Heap}
    (hkeys : h.maps[cell.keys]? = some keys) :
    ∀ {attempts : Nat} {rnd : Bytes} {res : Except KeyringError Nat} {h' : Heap},
      Heap.rotateAttempts deriveKeyID cell attempts h rnd = (res, h') →
      h.Extends h' ∧
        h'.Agrees res (Keyring.rotateAttempts deriveKeyID ⟨cell.active, keys⟩ attempts rnd)
  | 0, _, _, _, heq => by
    cases heq
    exact ⟨Heap.Extends.refl h, rfl⟩
  | attempts + 1, rnd, res, h', heq => by
    have hrd : h.maps.getD cell.keys ∅ = keys := by
      rw [List.getD_eq_getElem?_getD, hkeys, Option.getD_some]
    obtain ⟨hlt, -⟩ := List.getElem?_eq_some_iff.mp hkeys
    unfold Heap.rotateAttempts at heq
    unfold Keyring.rotateAttempts
    rw [hrd] at heq
    split at heq
    · cases heq
      exact ⟨Heap.Extends.refl h, rfl⟩
    · dsimp only at heq ⊢
      split at heq
      next hv =>
        cases heq
        rw [if_pos hv]
        exact ⟨Heap.Extends.refl h, rfl⟩
      rename_i hv
      rw [if_neg hv]
      split at heq
      next hfull =>
        cases heq
        rw [if_pos hfull]
        exact ⟨Heap.Extends.refl h, rfl⟩
      rename_i hrm
      rw [if_neg hrm]
      split at heq
      next hknown =>
        rw [if_pos hknown]
        exact Heap.rotateAttempts_spec hkeys heq
      next hnew =>
        rw [if_neg hnew]
        rw [Heap.cloneKeyMap_eq hlt, hrd] at heq
        simp only [Heap.assign_last, Heap.newState] at heq
        cases heq
        refine ⟨⟨fun i hi => List.getElem?_append_left hi, fun i hi => List.getElem?_append_left hi⟩,
          ?_⟩
        simp [Heap.Agrees, Heap.keyring?]

/-- **On the heap, `rotate` returns what it returns on values and changes no keyring.** The new
pointer leads to the rotated keyring, and every pointer that led to a keyring before, the
receiver among them, leads to the same keyring after. -/
theorem heapRotate_spec {h h' : Heap} {receiver : Nat} {k : Keyring} {rnd : Bytes}
    {res : Except KeyringError Nat} (hk : h.keyring? receiver = some k)
    (heq : h.rotate deriveKeyID receiver rnd = (res, h')) :
    h'.Agrees res (k.rotate deriveKeyID rnd) ∧
      ∀ ref k0, h.keyring? ref = some k0 → h'.keyring? ref = some k0 := by
  obtain ⟨cell, hcell, hmap⟩ := Option.bind_eq_some_iff.mp hk
  obtain ⟨keys, hkeys, rfl⟩ := Option.map_eq_some_iff.mp hmap
  simp only [Heap.rotate, hcell] at heq
  obtain ⟨hext, hagrees⟩ := Heap.rotateAttempts_spec hkeys heq
  exact ⟨hagrees, fun ref k0 hk0 => hext.keyring hk0⟩

end

/-! ## 3. Keyrings that are destroyed -/

/-- `destroyKeyMap`: every key is overwritten with zeros, then its entry goes. -/
def destroyKeyMap (keys : KeyMap) : KeyMap :=
  keys.entries.foldl (fun keys e => (keys.insert e.1 (zeroArr 32)).erase e.1) keys

/-- `Destroy`. The map is emptied in place; nobody writes to the nil map that the state gets instead,
so that it is a new empty one here. -/
def Heap.destroy (h : Heap) (ref : Nat) : Heap :=
  match h.states[ref]? with
  | none => h
  | some cell =>
    let h := { h with maps := h.maps.set cell.keys (destroyKeyMap (h.maps.getD cell.keys ∅)) }
    let (nilMap, h) := h.makeMap
    { h with states := h.states.set ref ⟨zeroArr 32, nilMap⟩ }

inductive HeapCall
  | create (random : Bytes)
  | rotate (receiver : Nat) (random : Bytes)
  | destroy (ref : Nat)
  deriving DecidableEq

section

open List

variable (deriveKeyID : KeyMaterial → KeyID)

/-- `newKeyring` on the heap. -/
def Heap.newKeyring (h : Heap) (random : Bytes) : Except KeyringError Nat × Heap :=
  match readFull keySize random with
  | none => (.error .invalidKeyring, h)
  | some (key, _) =>
    let key : KeyMaterial := toArr 32 key
    let id := deriveKeyID key
    let (keys, h) := h.makeMap
    let (made, h) := (h.assign keys id key).newState id keys
    (.ok made, h)

def Heap.call (h : Heap) : HeapCall → Heap
  | .create random => (h.newKeyring deriveKeyID random).2
  | .rotate receiver random => (h.rotate deriveKeyID receiver random).2
  | .destroy ref => h.destroy ref

/-- The heap after some calls, which begin without any keyring. -/
def Heap.after (calls : List HeapCall) : Heap := calls.foldl (Heap.call deriveKeyID) ⟨[], []⟩

variable {deriveKeyID} {h h' : Heap} {cell : KeyringCell} {ref : Nat} {k : Keyring}

lemma destroyKeyMap_eq (keys : KeyMap) : destroyKeyMap keys = ∅ := by
  unfold destroyKeyMap
  generalize hes : keys.entries = es
  induction es generalizing keys with
  | nil => exact AList.ext hes
  | cons e es ih =>
    refine ih _ ?_
    change kerase e.1 (⟨e.1, _⟩ :: kerase e.1 keys.entries) = es
    simp [hes]

lemma Heap.destroy_eq (hcell : h.states[ref]? = some cell) :
    h.destroy ref = ⟨h.maps.set cell.keys ∅ ++ [∅], h.states.set ref ⟨zeroArr 32, h.maps.length⟩⟩ := by
  simp [Heap.destroy, hcell, Heap.makeMap, destroyKeyMap_eq]

/-- Nothing happened, or a state was allocated with a map of its own. -/
def Heap.Grows (h h' : Heap) : Prop :=
  h' = h ∨ ∃ keys id, h' = ⟨h.maps ++ [keys], h.states ++ [⟨id, h.maps.length⟩]⟩

lemma Heap.Grows.extends (hg : h.Grows h') : h.Extends h' := by
  rcases hg with rfl | ⟨keys, id, rfl⟩
  · exact .refl _
  · exact ⟨fun i hi => getElem?_append_left hi, fun i hi => getElem?_append_left hi⟩

lemma Heap.newKeyring_grows (random : Bytes) : h.Grows (h.newKeyring deriveKeyID random).2 := by
  unfold Heap.newKeyring
  split
  · exact .inl rfl
  · simp only [Heap.makeMap, Heap.assign_last]
    exact .inr ⟨_, _, rfl⟩

lemma Heap.rotateAttempts_grows (hlt : cell.keys < h.maps.length) : ∀ {attempts : Nat} {random : Bytes},
    h.Grows (Heap.rotateAttempts deriveKeyID cell attempts h random).2
  | 0, _ => .inl rfl
  | attempts + 1, random => by
    unfold Heap.rotateAttempts
    split
    · exact .inl rfl
    dsimp only
    split
    · exact .inl rfl
    split
    · exact .inl rfl
    split
    · exact rotateAttempts_grows hlt
    · rw [Heap.cloneKeyMap_eq hlt]
      simp only [Heap.assign_last]
      exact .inr ⟨_, _, rfl⟩

/-- No two states share a map. -/
structure Heap.Apart (h : Heap) : Prop where
  bound : ∀ cell ∈ h.states, cell.keys < h.maps.length
  nodup : (h.states.map KeyringCell.keys).Nodup

namespace Heap.Apart

section

variable (hh : h.Apart)
include hh

lemma fresh : h.maps.length ∉ h.states.map KeyringCell.keys := by
  intro hmem
  obtain ⟨cell, hcell, heq⟩ := mem_map.mp hmem
  exact (hh.bound cell hcell).ne heq

lemma grows (hg : h.Grows h') : h'.Apart := by
  rcases hg with rfl | ⟨keys, id, rfl⟩
  · exact hh
  · refine ⟨fun cell hcell => ?_, ?_⟩
    · rw [length_append, length_singleton]
      rcases mem_append.mp hcell with hcell | hcell
      · exact Nat.lt_succ_of_lt (hh.bound cell hcell)
      · rw [mem_singleton.mp hcell]
        exact Nat.lt_succ_self _
    · rw [map_append, map_singleton, ← concat_eq_append]
      exact hh.nodup.concat hh.fresh

lemma rotate_grows (receiver : Nat) (random : Bytes) :
    h.Grows (h.rotate deriveKeyID receiver random).2 := by
  unfold Heap.rotate
  split
  · exact .inl rfl
  next cell hcell => exact Heap.rotateAttempts_grows (hh.bound cell (mem_of_getElem? hcell))

lemma destroy (ref : Nat) : (h.destroy ref).Apart := by
  cases hcell : h.states[ref]? with
  | none => simpa only [Heap.destroy, hcell] using hh
  | some cell =>
    rw [Heap.destroy_eq hcell]
    refine ⟨fun other hmem => ?_, ?_⟩
    · rw [length_append, length_set, length_singleton]
      rcases mem_or_eq_of_mem_set hmem with hmem | rfl
      · exact Nat.lt_succ_of_lt (hh.bound other hmem)
      · exact Nat.lt_succ_self _
    · rw [map_set]
      exact hh.nodup.set hh.fresh

lemma call (c : HeapCall) : (h.call deriveKeyID c).Apart := by
  cases c with
  | create random => exact hh.grows (Heap.newKeyring_grows random)
  | rotate receiver random => exact hh.grows (hh.rotate_grows receiver random)
  | destroy ref => exact hh.destroy ref

/-- The others do not have the map that is emptied. -/
lemma keyring_destroy {other : Nat} (hk : h.keyring? ref = some k) :
    (h.destroy other).keyring? ref = some (if other = ref then ⟨zeroArr 32, ∅⟩ else k) := by
  obtain ⟨cell, hcell, hmap⟩ := Option.bind_eq_some_iff.mp hk
  have hlt := hh.bound cell (mem_of_getElem? hcell)
  cases hother : h.states[other]? with
  | none =>
    have hne : other ≠ ref := by
      rintro rfl
      cases hother.symm.trans hcell
    simpa only [Heap.destroy, hother, if_neg hne] using hk
  | some dead =>
    rw [Heap.destroy_eq hother]
    split
    next heq =>
      subst heq
      have href := (List.getElem?_eq_some_iff.mp hcell).1
      simp [Heap.keyring?, getElem?_set_self href]
    next hne =>
      -- A map that both had would be emptied for both.
      have hkeys : dead.keys ≠ cell.keys := by
        intro heq
        refine hne ((getElem?_inj ?_ hh.nodup).mp ?_)
        · simpa using (List.getElem?_eq_some_iff.mp hother).1
        · simp [hother, hcell, heq]
      have hmaps : (h.maps.set dead.keys ∅ ++ [∅])[cell.keys]? = h.maps[cell.keys]? := by
        rw [getElem?_append_left (by simpa using hlt), getElem?_set_ne hkeys]
      simp only [Heap.keyring?, getElem?_set_ne hne, hcell, Option.bind_some, hmaps]
      exact hmap

lemma keyring_call (c : HeapCall) (hk : h.keyring? ref = some k) :
    (h.call deriveKeyID c).keyring? ref = some (if c = .destroy ref then ⟨zeroArr 32, ∅⟩ else k) := by
  cases c with
  | create random => exact (Heap.newKeyring_grows random).extends.keyring hk
  | rotate receiver random => exact (hh.rotate_grows receiver random).extends.keyring hk
  | destroy other => simpa [Heap.call] using hh.keyring_destroy hk

end

/-- What a run leaves of a keyring. -/
lemma keyring_run : ∀ (calls : List HeapCall) {h : Heap} {k : Keyring}, h.Apart → h.keyring? ref = some k →
    (calls.foldl (Heap.call deriveKeyID) h).keyring? ref
      = some (if .destroy ref ∈ calls then ⟨zeroArr 32, ∅⟩ else k)
  | [], _, _, _, hk => hk
  | c :: calls, h, k, hh, hk => by
    rw [foldl_cons, keyring_run calls (hh.call c) (hh.keyring_call c hk)]
    split_ifs <;> simp_all

end Heap.Apart

/-- **A keyring is lost by its own `Destroy` only.** In every run, whoever rotates or destroys other
keyrings in between, old or new, a pointer leads to the keyring it led to, until `Destroy` is called
through it; then its keyring can neither be written out nor rotated. -/
theorem keyring_lost_by_destroy_only (before calls : List HeapCall)
    (hk : (Heap.after deriveKeyID before).keyring? ref = some k) :
    ∃ k', (Heap.after deriveKeyID (before ++ calls)).keyring? ref = some k' ∧
      (.destroy ref ∉ calls → k' = k) ∧
      (.destroy ref ∈ calls → k'.marshal deriveKeyID = .error .invalidKeyring ∧
        ∀ random, k'.rotate deriveKeyID random = .error .invalidKeyring) := by
  have hh : (Heap.after deriveKeyID before).Apart :=
    foldlRecOn before _ ⟨nofun, nodup_nil⟩ fun _ hh c _ => hh.call c
  refine ⟨_, by rw [Heap.after, foldl_append]; exact hh.keyring_run calls hk, ?_, ?_⟩
  · intro hno
    exact if_neg hno
  · intro hin
    rw [if_pos hin]
    refine ⟨rfl, fun random => ?_⟩
    unfold Keyring.rotate Keyring.rotateAttempts
    split
    · rfl
    · rfl

end

/-- A keyring and its rotation. -/
def sampleCalls : List HeapCall := [.create (List.replicate 32 0), .rotate 0 (List.replicate 32 1)]

theorem rotated_survives_destroy : ∃ k, (Heap.after id sampleCalls).keyring? 1 = some k ∧
    (Heap.after id (sampleCalls ++ [.destroy 0])).keyring? 1 = some k := by
  have hsome : ((Heap.after id sampleCalls).keyring? 1).isSome := by decide +kernel
  obtain ⟨k, hk⟩ := Option.isSome_iff_exists.mp hsome
  obtain ⟨_, hkept, hsame, -⟩ := keyring_lost_by_destroy_only _ [.destroy 0] hk
  exact ⟨k, hk, hsame (by decide) ▸ hkept⟩

end ReCasaOS.Smb

