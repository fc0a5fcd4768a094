/-
# The SMB keyring and its canonical binary form

`pkg/smbcredentials/keyring.go`. A keyring is an active key id and a map from key ids to
32-byte keys. The Go map has no order; `AList` stands for it, and the position of an entry in
it stands for whatever order the runtime iterates in, so every theorem below holds for every
iteration order. SHA-256 is the section variable `deriveKeyID`, an arbitrary function: nothing
here needs more of it than that it is a function.

The format `RCSMBKEY` v1 is

    magic (8) | version 1 | count | active id (32) | count × (id (32) | key (32))

with the entries in strictly ascending order of their ids. The file proves that `Marshal` and
`ParseKeyring` are inverse to each other, in both directions and byte for byte.

A nil `*Keyring` is refused by every method before any state is read and has no value here.
-/
import Mathlib.Data.List.AList
import ReCasaOS.Lib.Bytes

namespace ReCasaOS.Smb

open Lib

/-! ## 1. The data model -/

def keySize : Nat := 32
def keyIDSize : Nat := 32
def maxKeys : Nat := 8

abbrev KeyID := Arr 32
abbrev KeyMaterial := Arr 32

/-- One entry of the key map, and of the format. -/
abbrev KeyEntry := Σ _ : KeyID, KeyMaterial

/-- `map[keyID]keyMaterial`, in some iteration order. -/
abbrev KeyMap := AList (fun _ : KeyID => KeyMaterial)

/-- `keyringState`, without its lock: the methods are atomic under it. -/
structure Keyring where
  active : KeyID
  keys : KeyMap
  deriving DecidableEq

inductive KeyringError
  | invalidKeyring
  | keyringFull
  deriving DecidableEq, Repr

/-- `RCSMBKEY`. -/
def keyringMagic : Bytes := [82, 67, 83, 77, 66, 75, 69, 89]

/-- Magic, version, count and active id. -/
def keyringFixedSize : Nat := keyringMagic.length + 1 + 1 + keyIDSize

/-! ## 2. `validateLocked`, `sortedIDs` and `Marshal` -/

section

variable (deriveKeyID : KeyMaterial → KeyID)
variable {data : Bytes} {k : Keyring} {es : List KeyEntry}

def Keyring.validateLocked (k : Keyring) : Bool :=
  decide (1 ≤ k.keys.entries.length) && decide (k.keys.entries.length ≤ maxKeys)
    && (k.keys.lookup k.active).isSome
    && k.keys.entries.all (fun entry => entry.1 == deriveKeyID entry.2)

/-- The ids in the order of `bytes.Compare`, whatever the order of the map. -/
def Keyring.sortedIDs (k : Keyring) : List KeyID := sortAsc k.keys.keys

/-- One entry of the format: the id, then the key the map holds for it. -/
def marshalEntry (keys : KeyMap) (id : KeyID) : Bytes :=
  id.1 ++ ((keys.lookup id).getD (zeroArr 32)).1

def Keyring.marshal (k : Keyring) : Except KeyringError Bytes :=
  if k.validateLocked deriveKeyID then
    let ids := k.sortedIDs
    .ok (keyringMagic ++ [1] ++ [UInt8.ofNat ids.length] ++ k.active.1
      ++ ids.flatMap (marshalEntry k.keys))
  else
    .error .invalidKeyring

/-! ## 3. `ParseKeyring` -/

/-- The entry loop: `remaining` entries are still to be read at `offset`. -/
def parseEntries (data : Bytes) :
    (remaining index offset : Nat) → (previous : KeyID) → KeyMap → Except KeyringError KeyMap
  | 0, _, _, _, keys => .ok keys
  | remaining + 1, index, offset, previous, keys =>
    let id : KeyID := toArr 32 (slice data offset (offset + keyIDSize))
    let offset := offset + keyIDSize
    let key : KeyMaterial := toArr 32 (slice data offset (offset + keySize))
    let offset := offset + keySize
    if id ≠ deriveKeyID key ∨ (0 < index ∧ id ≤ previous) then
      .error .invalidKeyring
    else if (keys.lookup id).isSome then
      .error .invalidKeyring
    else
      parseEntries data remaining (index + 1) offset id (keys.insert id key)

def parseKeyring (data : Bytes) : Except KeyringError Keyring :=
  if data.length < keyringFixedSize ∨ slice data 0 keyringMagic.length ≠ keyringMagic
      ∨ data.getD keyringMagic.length 0 ≠ 1 then
    .error .invalidKeyring
  else
    let count := (data.getD (keyringMagic.length + 1) 0).toNat
    if count < 1 ∨ maxKeys < count
        ∨ data.length ≠ keyringFixedSize + count * (keyIDSize + keySize) then
      .error .invalidKeyring
    else
      let active : KeyID := toArr 32 (slice data (keyringMagic.length + 2) keyringFixedSize)
      match parseEntries deriveKeyID data count 0 keyringFixedSize (zeroArr 32) ∅ with
      | .error e => .error e
      | .ok keys =>
        if (keys.lookup active).isSome then .ok ⟨active, keys⟩ else .error .invalidKeyring

/-! ## 4. What the entry loop reads

The loop walks `data` by offset. Both directions are stated on the list `es` of entries that
stands at the offset: `parseEntries_ok` says that a run that succeeds has read such a list, and
`parseEntries_of_entries` that a run over such a list succeeds. The map comes out in reverse
file order, which nothing later depends on. -/

/-- The bytes of a list of entries. -/
def entriesBytes (es : List KeyEntry) : Bytes :=
  es.flatMap fun e => e.1.1 ++ e.2.1

@[simp] lemma entriesBytes_nil : entriesBytes [] = [] := rfl

@[simp] lemma entriesBytes_cons (e : KeyEntry) (es : List KeyEntry) :
    entriesBytes (e :: es) = e.1.1 ++ (e.2.1 ++ entriesBytes es) := by
  simp [entriesBytes]

lemma length_entriesBytes (es : List KeyEntry) : (entriesBytes es).length = es.length * 64 := by
  induction es with
  | nil => simp
  | cons e es ih =>
    simp only [entriesBytes_cons, List.length_append, length_arr, ih, List.length_cons]
    omega

/-- What the loop demands of the entries at its offset: derived ids, strictly ascending, above
`previous` once an entry has been read, and new to the map. -/
structure EntriesFit (index : Nat) (previous : KeyID) (keys : KeyMap)
    (es : List KeyEntry) : Prop where
  derived : ∀ e ∈ es, e.1 = deriveKeyID e.2
  ascending : (es.map Sigma.fst).Pairwise (· < ·)
  above : 0 < index → ∀ e ∈ es, previous < e.1
  fresh : ∀ e ∈ es, e.1 ∉ keys

variable {deriveKeyID}
variable {keys : KeyMap}

/-- One turn of the loop, with the two fields it reads named. -/
lemma parseEntries_succ {remaining index off : Nat} {previous : KeyID}
    {id : KeyID} {key : KeyMaterial} (hid : toArr 32 (slice data off (off + 32)) = id)
    (hkey : toArr 32 (slice data (off + 32) (off + 64)) = key) :
    parseEntries deriveKeyID data (remaining + 1) index off previous keys =
      if id ≠ deriveKeyID key ∨ (0 < index ∧ id ≤ previous) then .error .invalidKeyring
      else if (keys.lookup id).isSome then .error .invalidKeyring
      else parseEntries deriveKeyID data remaining (index + 1) (off + 64) id
        (keys.insert id key) := by
  subst hid hkey
  rfl

/-- A successful run of the loop has read a list of entries that fits. -/
lemma parseEntries_ok : ∀ {remaining index off : Nat} {previous : KeyID} {keys keys' : KeyMap},
      parseEntries deriveKeyID data remaining index off previous keys = .ok keys' →
      off + remaining * 64 ≤ data.length →
      ∃ es, es.length = remaining ∧ EntriesFit deriveKeyID index previous keys es ∧
        data.drop off = entriesBytes es ++ data.drop (off + remaining * 64) ∧
        keys'.entries = es.reverse ++ keys.entries
  | 0, index, off, previous, keys, keys', h, _ => by
    simp only [parseEntries, Except.ok.injEq] at h
    subst h
    exact ⟨[], rfl, ⟨by simp, by simp, by simp, by simp⟩, by simp, by simp⟩
  | remaining + 1, index, off, previous, keys, keys', h, hlen => by
    obtain ⟨id, hid⟩ : ∃ id, toArr 32 (slice data off (off + 32)) = id := ⟨_, rfl⟩
    obtain ⟨key, hkey⟩ : ∃ key, toArr 32 (slice data (off + 32) (off + 64)) = key :=
      ⟨_, rfl⟩
    rw [parseEntries_succ hid hkey] at h
    split at h
    · cases h
    rename_i hg
    split at h
    · cases h
    rename_i hdup
    have hnew : id ∉ keys := fun hmem => hdup (AList.lookup_isSome.mpr hmem)
    have hder : id = deriveKeyID key := by
      by_contra hne
      exact hg (.inl hne)
    have habove : 0 < index → previous < id := fun hpos =>
      lt_of_not_ge fun hle => hg (.inr ⟨hpos, hle⟩)
    obtain ⟨es, hes, hfit, hdr, hents⟩ := parseEntries_ok h (by omega)
    refine ⟨⟨id, key⟩ :: es, by simp [hes], ⟨?_, ?_, ?_, ?_⟩, ?_, ?_⟩
    · intro e he
      rcases List.mem_cons.mp he with rfl | he
      · exact hder
      · exact hfit.derived e he
    · rw [List.map_cons, List.pairwise_cons]
      refine ⟨?_, hfit.ascending⟩
      intro id' hid'
      obtain ⟨e, he, rfl⟩ := List.mem_map.mp hid'
      exact hfit.above (Nat.succ_pos index) e he
    · intro hpos e he
      rcases List.mem_cons.mp he with rfl | he
      · exact habove hpos
      · exact (habove hpos).trans (hfit.above (Nat.succ_pos index) e he)
    · intro e he
      rcases List.mem_cons.mp he with rfl | he
      · exact hnew
      · exact fun hmem => hfit.fresh e he ((AList.mem_insert keys).mpr (.inr hmem))
    · have hidv : id.1 = slice data off (off + 32) := by
        rw [← hid, toArr_val (by rw [length_slice (by omega)]; omega)]
      have hkeyv : key.1 = slice data (off + 32) (off + 64) := by
        rw [← hkey, toArr_val (by rw [length_slice (by omega)]; omega)]
      have hadd : off + 64 + remaining * 64 = off + (remaining + 1) * 64 := by omega
      rw [entriesBytes_cons, hidv, hkeyv, List.append_assoc, List.append_assoc, ← hadd, ← hdr,
        ← drop_eq_slice_append (by omega), ← drop_eq_slice_append (by omega)]
    · rw [hents, AList.entries_insert_of_notMem hnew]
      simp

/-- A run of the loop over a list of entries that fits succeeds. -/
lemma parseEntries_of_entries : ∀ {es : List KeyEntry} {index off : Nat} {previous : KeyID}
      {keys : KeyMap} {rest : Bytes}, EntriesFit deriveKeyID index previous keys es →
      data.drop off = entriesBytes es ++ rest →
      ∃ keys', parseEntries deriveKeyID data es.length index off previous keys = .ok keys' ∧
        keys'.entries = es.reverse ++ keys.entries
  | [], index, off, previous, keys, rest, _, _ => ⟨keys, rfl, by simp⟩
  | e :: es, index, off, previous, keys, rest, hfit, hdr => by
    rw [entriesBytes_cons, List.append_assoc, List.append_assoc] at hdr
    have hdr1 : data.drop (off + 32) = e.2.1 ++ (entriesBytes es ++ rest) :=
      drop_of_drop hdr (by simp)
    have hdr2 : data.drop (off + 64) = entriesBytes es ++ rest :=
      drop_of_drop hdr1 (by simp)
    have hid : toArr 32 (slice data off (off + 32)) = e.1 := by
      rw [slice_of_drop hdr (by simp), toArr_arr]
    have hkey : toArr 32 (slice data (off + 32) (off + 64)) = e.2 := by
      rw [slice_of_drop hdr1 (by simp), toArr_arr]
    have hnew : e.1 ∉ keys := hfit.fresh e (.head _)
    have hg : ¬ (e.1 ≠ deriveKeyID e.2 ∨ (0 < index ∧ e.1 ≤ previous)) := by
      rintro (hne | ⟨hpos, hle⟩)
      · exact hne (hfit.derived e (.head _))
      · exact absurd (hfit.above hpos e (.head _)) (not_lt_of_ge hle)
    have hasc := hfit.ascending
    rw [List.map_cons, List.pairwise_cons] at hasc
    have habove : ∀ e' ∈ es, e.1 < e'.1 := fun e' he' =>
      hasc.1 e'.1 (List.mem_map_of_mem he')
    have hfit' : EntriesFit deriveKeyID (index + 1) e.1 (keys.insert e.1 e.2) es := by
      refine ⟨fun e' he' => hfit.derived e' (.tail _ he'), hasc.2,
        fun _ => habove, ?_⟩
      intro e' he' hmem
      rcases (AList.mem_insert keys).mp hmem with heq | hmem
      · exact absurd (habove e' he') (by rw [heq]; exact lt_irrefl _)
      · exact hfit.fresh e' (.tail _ he') hmem
    obtain ⟨keys', hrun, hes⟩ := parseEntries_of_entries hfit' hdr2
    refine ⟨keys', ?_, ?_⟩
    · rw [List.length_cons, parseEntries_succ hid hkey, if_neg hg,
        if_neg (by simpa [AList.lookup_isSome] using hnew)]
      exact hrun
    · rw [hes, AList.entries_insert_of_notMem hnew]
      simp

/-! ## 5. `Marshal` in terms of an ascending list of entries -/

lemma validateLocked_iff : k.validateLocked deriveKeyID ↔
      1 ≤ k.keys.entries.length ∧ k.keys.entries.length ≤ maxKeys ∧ k.active ∈ k.keys ∧
        ∀ e ∈ k.keys.entries, e.1 = deriveKeyID e.2 := by
  simp only [Keyring.validateLocked, Bool.and_eq_true, decide_eq_true_eq, AList.lookup_isSome,
    List.all_eq_true, beq_iff_eq, and_assoc]

lemma lookup_of_mem_entries {e : KeyEntry} (h : e ∈ keys.entries) : keys.lookup e.1 = some e.2 :=
  AList.mem_lookup_iff.mpr h

/-- Every map has its entries in ascending order of their ids. -/
lemma exists_ascending (keys : KeyMap) :
    ∃ es : List KeyEntry, es.Perm keys.entries ∧ (es.map Sigma.fst).Pairwise (· < ·) := by
  let withKey : KeyID → KeyEntry := fun id => ⟨id, (keys.lookup id).getD (zeroArr 32)⟩
  have hself : ∀ e ∈ keys.entries, withKey e.1 = e := by
    intro e he
    simp only [withKey, lookup_of_mem_entries he, Option.getD_some]
  have hes : keys.keys.map withKey = keys.entries := by
    rw [AList.keys, List.keys, List.map_map]
    exact (List.map_congr_left (f := withKey ∘ Sigma.fst) (g := id) hself).trans (List.map_id _)
  refine ⟨(sortAsc keys.keys).map withKey, ?_, ?_⟩
  · rw [← hes]
    exact (sortAsc_perm keys.keys).map withKey
  · have hfst : ((sortAsc keys.keys).map withKey).map Sigma.fst = sortAsc keys.keys := by
      rw [List.map_map]
      exact List.map_id'' (fun _ => rfl) _
    rw [hfst]
    exact sortAsc_strict keys.keys_nodup

/-- `sortedIDs` lists the ids of the ascending entries. -/
lemma sortedIDs_of_perm (hpm : es.Perm k.keys.entries)
    (hasc : (es.map Sigma.fst).Pairwise (· < ·)) : k.sortedIDs = es.map Sigma.fst :=
  sortAsc_eq_of_perm hasc (hpm.map Sigma.fst).symm

/-- Encoding the ids of some entries of the map encodes these entries. -/
lemma flatMap_marshalEntry : ∀ {es : List KeyEntry}, (∀ e ∈ es, e ∈ keys.entries) →
      (es.map Sigma.fst).flatMap (marshalEntry keys) = entriesBytes es
  | [], _ => rfl
  | e :: es, h => by
    have hkey : keys.lookup e.1 = some e.2 := lookup_of_mem_entries (h e (.head _))
    have ih : (es.map Sigma.fst).flatMap (marshalEntry keys) = entriesBytes es :=
      flatMap_marshalEntry fun e' he' => h e' (.tail _ he')
    rw [List.map_cons, List.flatMap_cons, ih, marshalEntry, hkey, Option.getD_some,
      entriesBytes_cons, List.append_assoc]

/-- The byte string of an active id and a list of entries. -/
def keyringBytes (active : KeyID) (es : List KeyEntry) : Bytes :=
  keyringMagic ++ [1] ++ [UInt8.ofNat es.length] ++ active.1 ++ entriesBytes es

/-- **`Marshal` writes the ascending entries**, whatever order the map is iterated in. -/
theorem marshal_eq (hv : k.validateLocked deriveKeyID) (hpm : es.Perm k.keys.entries)
    (hasc : (es.map Sigma.fst).Pairwise (· < ·)) :
    k.marshal deriveKeyID = .ok (keyringBytes k.active es) := by
  have hbody : (es.map Sigma.fst).flatMap (marshalEntry k.keys) = entriesBytes es :=
    flatMap_marshalEntry fun e he => hpm.mem_iff.mp he
  simp only [Keyring.marshal, hv, if_true, sortedIDs_of_perm hpm hasc, hbody,
    List.length_map, keyringBytes]

/-! ## 6. The round trip, in both directions -/

/-- The header of an accepted byte string, field by field. -/
lemma keyring_header (hlen : 42 ≤ data.length) (hmag : slice data 0 8 = keyringMagic)
    (hver : data.getD 8 0 = 1) :
    data = keyringMagic ++ [1] ++ [data.getD 9 0] ++ slice data 10 42 ++ data.drop 42 := by
  have h0 : data = slice data 0 8 ++ data.drop 8 := drop_eq_slice_append (Nat.zero_le 8)
  have h8 : data.drop 8 = data.getD 8 0 :: data.drop 9 := drop_eq_getD_cons (by omega)
  have h9 : data.drop 9 = data.getD 9 0 :: data.drop 10 := drop_eq_getD_cons (by omega)
  have h10 : data.drop 10 = slice data 10 42 ++ data.drop 42 := drop_eq_slice_append (by omega)
  calc data = slice data 0 8 ++ data.drop 8 := h0
    _ = keyringMagic ++ (1 :: data.getD 9 0 :: (slice data 10 42 ++ data.drop 42)) := by
        rw [hmag, h8, hver, h9, h10]
    _ = _ := by simp

/-- A parsed keyring is the keyring of the bytes it was parsed from. -/
lemma parseKeyring_bytes (h : parseKeyring deriveKeyID data = .ok k) :
    ∃ es, data = keyringBytes k.active es ∧ es.Perm k.keys.entries ∧
      (es.map Sigma.fst).Pairwise (· < ·) ∧ k.validateLocked deriveKeyID := by
  unfold parseKeyring at h
  split at h
  · cases h
  rename_i hhd
  simp only [not_or, not_lt, not_not] at hhd
  obtain ⟨hlen, hmag, hver⟩ := hhd
  dsimp only at h
  split at h
  · cases h
  rename_i hcnt
  simp only [not_or, not_lt, not_not] at hcnt
  obtain ⟨hone, hmax, hexact⟩ := hcnt
  split at h
  · cases h
  rename_i keys hrun
  split at h
  next hact =>
    simp only [Except.ok.injEq] at h
    subst h
    obtain ⟨es, hes, hfit, hdr, hents⟩ := parseEntries_ok hrun (by
      rw [hexact]
      exact le_of_eq rfl)
    have hpm : es.Perm keys.entries := by
      rw [hents, AList.empty_entries, List.append_nil]
      exact es.reverse_perm.symm
    refine ⟨es, ?_, hpm, hfit.ascending, ?_⟩
    · have hend : data.drop (keyringFixedSize + (data.getD 9 0).toNat * 64) = [] :=
        List.drop_of_length_le (le_of_eq hexact)
      have hact' : (toArr 32 (slice data 10 42)).1 = slice data 10 42 :=
        toArr_val (length_slice hlen)
      have hcnt : UInt8.ofNat es.length = data.getD 9 0 := by
        rw [hes]
        exact UInt8.ofNat_toNat
      have hbody : data.drop 42 = entriesBytes es := by
        rw [← List.append_nil (entriesBytes es), ← hend]
        exact hdr
      calc data = keyringMagic ++ [1] ++ [data.getD 9 0] ++ slice data 10 42 ++ data.drop 42 :=
            keyring_header hlen hmag hver
        _ = keyringMagic ++ [1] ++ [UInt8.ofNat es.length] ++ (toArr 32 (slice data 10 42)).1
              ++ entriesBytes es := by rw [hcnt, hact', hbody]
    · rw [validateLocked_iff]
      refine ⟨by rw [← hpm.length_eq, hes]; exact hone, by rw [← hpm.length_eq, hes]; exact hmax,
        AList.lookup_isSome.mp hact, ?_⟩
      intro e he
      exact hfit.derived e (hpm.mem_iff.mpr he)
  · cases h

/-- The byte string of a valid keyring is parsed back to its entries. -/
lemma parseKeyring_keyringBytes {active : KeyID} (hone : 1 ≤ es.length)
    (hmax : es.length ≤ maxKeys) (hasc : (es.map Sigma.fst).Pairwise (· < ·))
    (hder : ∀ e ∈ es, e.1 = deriveKeyID e.2) (hact : active ∈ es.map Sigma.fst) :
    ∃ keys : KeyMap, parseKeyring deriveKeyID (keyringBytes active es) = .ok ⟨active, keys⟩ ∧
      keys.entries = es.reverse := by
  obtain ⟨data, hda⟩ : ∃ data, keyringBytes active es = data := ⟨_, rfl⟩
  have hcnt : (UInt8.ofNat es.length).toNat = es.length := by
    rw [UInt8.toNat_ofNat']
    simp only [maxKeys] at hmax
    omega
  have hflds : data =
      keyringMagic ++ (1 :: UInt8.ofNat es.length :: (active.1 ++ entriesBytes es)) := by
    rw [← hda, keyringBytes]
    simp
  have hlen : data.length = 42 + es.length * 64 := by
    rw [hflds]
    simp only [keyringMagic, List.length_append, List.length_cons, List.length_nil, length_arr,
      length_entriesBytes]
    omega
  have hmag : slice data 0 8 = keyringMagic := by
    rw [hflds]
    rfl
  have hver : data.getD 8 0 = 1 := by
    rw [hflds]
    rfl
  have hcountByte : data.getD 9 0 = UInt8.ofNat es.length := by
    rw [hflds]
    rfl
  have hdr10 : data.drop 10 = active.1 ++ entriesBytes es := by
    rw [hflds]
    rfl
  have hdr42 : data.drop 42 = entriesBytes es ++ [] := by
    rw [List.append_nil]
    exact drop_of_drop hdr10 (by simp)
  have hid : toArr 32 (slice data 10 42) = active := by
    rw [slice_of_drop hdr10 (by simp), toArr_arr]
  have hfit : EntriesFit deriveKeyID 0 (zeroArr 32) ∅ es :=
    ⟨hder, hasc, fun h0 => absurd h0 (lt_irrefl 0), fun _ _ => AList.notMem_empty _⟩
  obtain ⟨keys, hrun, hes⟩ := parseEntries_of_entries hfit hdr42
  rw [AList.empty_entries, List.append_nil] at hes
  have hmem : active ∈ keys := by
    rw [AList.mem_keys, AList.keys, List.keys, hes, List.map_reverse]
    exact List.mem_reverse.mpr hact
  have hhd : ¬ (data.length < keyringFixedSize ∨ slice data 0 keyringMagic.length ≠ keyringMagic
      ∨ data.getD keyringMagic.length 0 ≠ 1) := by
    rintro (hsh | hbad | hbad)
    · rw [hlen] at hsh
      exact absurd hsh (not_lt_of_ge (Nat.le_add_right 42 _))
    · exact hbad hmag
    · exact hbad hver
  have hexact : ¬ ((data.getD (keyringMagic.length + 1) 0).toNat < 1
      ∨ maxKeys < (data.getD (keyringMagic.length + 1) 0).toNat
      ∨ data.length ≠ keyringFixedSize
          + (data.getD (keyringMagic.length + 1) 0).toNat * (keyIDSize + keySize)) := by
    rw [show data.getD (keyringMagic.length + 1) 0 = _ from hcountByte, hcnt]
    rintro (hno | hmany | hbad)
    · omega
    · omega
    · exact hbad hlen
  have hloop : parseEntries deriveKeyID data (data.getD (keyringMagic.length + 1) 0).toNat 0
      keyringFixedSize (zeroArr 32) ∅ = .ok keys := by
    rw [show data.getD (keyringMagic.length + 1) 0 = _ from hcountByte, hcnt]
    exact hrun
  refine ⟨keys, ?_, hes⟩
  rw [hda, parseKeyring, if_neg hhd, if_neg hexact]
  simp only [hloop]
  rw [show toArr 32 (slice data (keyringMagic.length + 2) keyringFixedSize) = active from hid,
    if_pos (AList.lookup_isSome.mpr hmem)]

/-- Parsing the bytes of a valid keyring gives that keyring, up to the order of its map. -/
lemma parseKeyring_of_valid (hv : k.validateLocked deriveKeyID)
    (hpm : es.Perm k.keys.entries) (hasc : (es.map Sigma.fst).Pairwise (· < ·)) :
    ∃ k', parseKeyring deriveKeyID (keyringBytes k.active es) = .ok k' ∧ k'.active = k.active ∧
      ∀ id, k'.keys.lookup id = k.keys.lookup id := by
  obtain ⟨hone, hmax, hact, hder⟩ := validateLocked_iff.mp hv
  have hact' : k.active ∈ es.map Sigma.fst := (hpm.map Sigma.fst).mem_iff.mpr hact
  obtain ⟨keys, hprs, hes⟩ := parseKeyring_keyringBytes
    (hpm.length_eq ▸ hone) (hpm.length_eq ▸ hmax) hasc
    (fun e he => hder e (hpm.mem_iff.mp he)) hact'
  refine ⟨⟨k.active, keys⟩, hprs, rfl, fun id => ?_⟩
  refine AList.perm_lookup ?_
  rw [hes]
  exact es.reverse_perm.trans hpm

/-- What `Marshal` returns is the byte string of the ascending entries of a valid keyring. -/
lemma marshal_eq_ok (h : k.marshal deriveKeyID = .ok data) :
    ∃ es, data = keyringBytes k.active es ∧ es.Perm k.keys.entries ∧
      (es.map Sigma.fst).Pairwise (· < ·) ∧ k.validateLocked deriveKeyID := by
  have hv : k.validateLocked deriveKeyID := by
    unfold Keyring.marshal at h
    split at h
    · assumption
    · cases h
  obtain ⟨es, hpm, hasc⟩ := exists_ascending k.keys
  rw [marshal_eq hv hpm hasc] at h
  exact ⟨es, (Except.ok.inj h).symm, hpm, hasc, hv⟩

/-- **Keyring v1 is a bijection between valid keyrings and accepted byte strings.** A valid
keyring is marshalled to bytes that parse back to the same active id and the same map, and the
bytes of an accepted string are the marshalled form of what was parsed. -/
theorem keyring_marshal_parse_bijection (deriveKeyID : KeyMaterial → KeyID) :
    (∀ k : Keyring, k.validateLocked deriveKeyID = true → ∃ data, k.marshal deriveKeyID = .ok data ∧
        ∃ k', parseKeyring deriveKeyID data = .ok k' ∧ k'.active = k.active ∧
          ∀ id, k'.keys.lookup id = k.keys.lookup id) ∧
    (∀ (data : Bytes) (k : Keyring), parseKeyring deriveKeyID data = .ok k →
      k.marshal deriveKeyID = .ok data) := by
  constructor
  · intro k hvalid
    obtain ⟨es, hperm, hasc⟩ := exists_ascending k.keys
    exact ⟨keyringBytes k.active es, marshal_eq hvalid hperm hasc,
      parseKeyring_of_valid hvalid hperm hasc⟩
  · intro data k h
    obtain ⟨es, rfl, hperm, hasc, hvalid⟩ := parseKeyring_bytes h
    exact marshal_eq hvalid hperm hasc

/-- A keyring of two keys, held in descending order and filed under their own bytes. -/
def twoKeyKeyring : Keyring where
  active := zeroArr 32
  keys := ((∅ : KeyMap).insert (zeroArr 32) (zeroArr 32)).insert
    (toArr 32 [1]) (toArr 32 [1])

theorem keyring_bijection_two_keys : twoKeyKeyring.validateLocked id = true ∧
      ∃ data, twoKeyKeyring.marshal id = .ok data ∧
        ∃ k', parseKeyring id data = .ok k' ∧ k'.active = twoKeyKeyring.active ∧
          ∀ i, k'.keys.lookup i = twoKeyKeyring.keys.lookup i :=
  ⟨by decide, (keyring_marshal_parse_bijection id).1 twoKeyKeyring (by decide)⟩

end

end ReCasaOS.Smb
