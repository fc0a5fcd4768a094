/-
# A password survives every rotation

The keyring of a system changes over time: it is created once, rotated, written out and read
back. Envelopes sealed along the way are kept in rows and rewrapped from time to time. This
file has the transition system of all that, and proves by induction over its runs that every
envelope opens, under the keyring at the end, to the password that was sealed into it.

The proof rests on one relation. `k.Retains k'` says that `k'` still has every key of `k` under
its id; `rotate` and a round trip through the format keep it, and an envelope that opens under
`k` opens to the same password under any keyring that retains `k`.

The cipher is assumed to be correct (`Aead.Lawful`). Nothing is assumed of `deriveKeyID`: a
rotation whose new key collides with an old id draws another key.
-/
import ReCasaOS.Lib.Transition
import ReCasaOS.Smb.KeyringHeap
import ReCasaOS.Smb.Seal

namespace ReCasaOS.Smb

open Lib List AList

variable {P : Primitives} {k k' : Keyring} {context : Context}

/-! ## 1. What a seal and a rewrap produce -/

lemma lookup_active (hv : k.validateLocked P.deriveKeyID) :
    k.keys.lookup k.active = some k.activeKey := by
  obtain ⟨-, -, hact, -⟩ := validateLocked_iff.mp hv
  obtain ⟨key, hkey⟩ := Option.isSome_iff_exists.mp (lookup_isSome.mpr hact)
  rw [Keyring.activeKey, hkey, Option.getD_some]

section

variable (hA : P.aead.Lawful overhead)
include hA

/-- The data key of an envelope whose outer layer `k` has just sealed. -/
lemma unwrapDEK_of_wrapped (hv : k.validateLocked P.deriveKeyID) {id : Arr 16}
    (hacc : context.Accepted P id) {p : ParsedEnvelope} {dek : KeyMaterial}
    (hid : p.keyID = k.active)
    (hwrpd : p.wrappedDEK = P.aead.encrypt k.activeKey p.wrapNonce dek.1
      (aadBytes context id aadPurposeWrappedDEK k.active)) :
    k.unwrapDEK P context p = .ok dek := by
  refine unwrapDEK_eq_ok.mpr ⟨k.activeKey, id, hid ▸ lookup_active hv, hacc, ?_⟩
  rw [hwrpd, hid]
  exact hA.decrypt_encrypt ..

variable {rnd envelope : Bytes}

/-- A sealed envelope opens to its password under the keyring that sealed it. -/
lemma open_of_seal {password : Bytes} (h : k.seal P context password rnd = .ok envelope) :
    k.openLocked P context envelope = .ok password := by
  obtain ⟨hlen, hv, dek, wrapNonce, dataNonce, rest, id, -, -, -, hacc, hft, rfl⟩ :=
    seal_eq_ok.mp h
  refine openLocked_eq_ok.mpr ⟨_, dek, id, parseEnvelope_bytes hft,
    unwrapDEK_of_wrapped hA hv hacc rfl rfl, hacc, hlen, ?_⟩
  exact hA.decrypt_encrypt ..

lemma open_of_rewrap {res password : Bytes} (h : k.rewrap P context envelope rnd = .ok res)
    (hop : k.openLocked P context envelope = .ok password) :
    k.openLocked P context res = .ok password := by
  obtain ⟨hv, p, _, hprs, -, ⟨-, rfl⟩ |
    ⟨-, newNonce, rest, dek, id, -, -, hdek, hacc, hft, rfl⟩⟩ := rewrap_eq_ok.mp h
  · exact hop
  · obtain ⟨p', dek', id', hprs', hdek', hacc', hlen, hda⟩ := openLocked_eq_ok.mp hop
    obtain rfl : p = p' := Except.ok.inj (hprs.symm.trans hprs')
    obtain rfl : dek = dek' := Except.ok.inj (hdek.symm.trans hdek')
    exact openLocked_eq_ok.mpr ⟨_, dek, id', parseEnvelope_bytes hft,
      unwrapDEK_of_wrapped hA hv hacc rfl rfl, hacc', hlen, hda⟩

/-- With enough randomness, sealing succeeds for every accepted context and short password. -/
lemma seal_succeeds (hv : k.validateLocked P.deriveKeyID) {id : Arr 16}
    (hacc : context.Accepted P id) {pwd : Bytes}
    (hpwd : pwd.length ≤ maxPasswordBytes) (hrnd : 80 ≤ rnd.length) :
    ∃ envelope, k.seal P context pwd rnd = .ok envelope := by
  refine ⟨_, seal_eq_ok.mpr ⟨hpwd, hv, toArr 32 (rnd.take 32), slice rnd 32 56,
    slice rnd 56 80, rnd.drop 80, id, ?_, length_slice (by omega),
    length_slice (by omega), hacc, ?_, rfl⟩⟩
  · rw [toArr_val (by simp; omega), ← drop_eq_slice_append (by omega),
      ← drop_eq_slice_append (by omega), take_append_drop]
  · refine ⟨length_slice (by omega), ?_, length_slice (by omega), ?_, ?_⟩ <;>
      simp only [sealedFields, hA.length_encrypt, length_arr, overhead]
    · omega
    · exact Nat.add_le_add_right hpwd 16

/-- With enough randomness, rewrapping succeeds for every envelope that opens. -/
lemma rewrap_succeeds (hv : k.validateLocked P.deriveKeyID)
    {pwd : Bytes} (hop : k.openLocked P context envelope = .ok pwd)
    (hrnd : 24 ≤ rnd.length) : ∃ result, k.rewrap P context envelope rnd = .ok result := by
  obtain ⟨p, dek, id, hprs, hdek, hacc, -, -⟩ := openLocked_eq_ok.mp hop
  by_cases hact : p.keyID = k.active
  · exact ⟨envelope, rewrap_eq_ok.mpr ⟨hv, p, pwd, hprs, hop, .inl ⟨hact, rfl⟩⟩⟩
  · obtain ⟨hft, -⟩ := parseEnvelope_eq_ok.mp hprs
    refine ⟨_, rewrap_eq_ok.mpr ⟨hv, p, pwd, hprs, hop, .inr ⟨hact,
      rnd.take 24, rnd.drop 24, dek, id, (take_append_drop _ _).symm, ?_, hdek,
      hacc, ⟨?_, ?_, hft.dataNonce, hft.ciphertextMin, hft.ciphertextMax⟩, rfl⟩⟩⟩
    · rw [length_take]
      omega
    · simp only [rewrappedFields, length_take]
      omega
    · simp only [rewrappedFields, hA.length_encrypt, length_arr, overhead]

/-- **What every successful rewrap does**: the data nonce and the password ciphertext stay, the
envelope authenticates under the active key, and one that already did is returned unchanged. -/
theorem rewrap_result {res : Bytes} (h : k.rewrap P context envelope rnd = .ok res) :
    ∃ p p', parseEnvelope envelope = .ok p ∧ parseEnvelope res = .ok p' ∧
      p'.dataNonce = p.dataNonce ∧ p'.ciphertext = p.ciphertext ∧
      k.envelopeKeyID P context res = .ok (k.activeID P) ∧
      (p.keyID = k.active → res = envelope) := by
  obtain ⟨hv, p, password, hprs, hop, hcs⟩ := rewrap_eq_ok.mp h
  have hop' : k.open P context res = .ok password :=
    open_eq_ok.mpr ⟨hv, open_of_rewrap hA h hop⟩
  have hactiveID : k.activeID P = encodeKeyID k.active := if_pos hv
  rcases hcs with ⟨hact, rfl⟩ | ⟨hoth, newNonce, rest, dek, id, -, -, hdek, hacc, hft, rfl⟩
  · refine ⟨p, p, hprs, hprs, rfl, rfl, ?_, fun _ => rfl⟩
    exact envelopeKeyID_eq_ok.mpr ⟨password, p, hop', hprs, by rw [hactiveID, hact]⟩
  · refine ⟨p, _, hprs, parseEnvelope_bytes hft, rfl, rfl, ?_, fun hact => absurd hact hoth⟩
    exact envelopeKeyID_eq_ok.mpr ⟨password, _, hop', parseEnvelope_bytes hft, hactiveID⟩

end

/-! ## 2. Keyrings that retain the keys of another -/

/-- Every key of `k` is in `k'`, under the same id. -/
def Keyring.Retains (k k' : Keyring) : Prop :=
  ∀ id key, k.keys.lookup id = some key → k'.keys.lookup id = some key

lemma Keyring.Retains.refl (k : Keyring) : k.Retains k := fun _ _ h => h

lemma Keyring.Retains.trans {k1 k2 k3 : Keyring} (h1 : k1.Retains k2) (h2 : k2.Retains k3) :
    k1.Retains k3 := fun id key h => h2 id key (h1 id key h)

/-- An envelope that opens under `k` opens to the same password under every keyring that
retains `k`. -/
lemma Keyring.Retains.openLocked (hret : k.Retains k') {envelope password : Bytes}
    (hop : k.openLocked P context envelope = .ok password) :
    k'.openLocked P context envelope = .ok password := by
  obtain ⟨p, dek, id, hprs, hdek, hacc, hlen, hda⟩ := openLocked_eq_ok.mp hop
  obtain ⟨key, id', hkey, hacc', hwrap⟩ := unwrapDEK_eq_ok.mp hdek
  exact openLocked_eq_ok.mpr ⟨p, dek, id, hprs,
    unwrapDEK_eq_ok.mpr ⟨key, id', hret _ _ hkey, hacc', hwrap⟩, hacc, hlen, hda⟩

variable {rnd : Bytes}

lemma newKeyring_valid (h : newKeyring P.deriveKeyID rnd = .ok k) :
    k.validateLocked P.deriveKeyID := by
  obtain ⟨key, rfl⟩ := newKeyring_eq_ok h
  refine validateLocked_iff.mpr ⟨le_rfl, Nat.succ_le_succ (Nat.zero_le 7),
    (mem_insert _).mpr (.inl rfl), ?_⟩
  intro e he
  rw [entries_insert_of_notMem (notMem_empty _), empty_entries, mem_singleton] at he
  rw [he]

/-- **`rotate` drops no key, stays within eight keys and returns a valid keyring.** -/
theorem rotate_result (h : k.rotate P.deriveKeyID rnd = .ok k') :
    k.Retains k' ∧ k'.keys.entries.length ≤ maxKeys ∧ k'.validateLocked P.deriveKeyID := by
  obtain ⟨hv, hrm, key, hnew, rfl⟩ := rotateAttempts_eq_ok h
  obtain ⟨hone, -, -, hder⟩ := validateLocked_iff.mp hv
  have hpm := cloneKeyMap_perm k.keys
  have hnew' : P.deriveKeyID key ∉ cloneKeyMap k.keys := by
    rw [← lookup_eq_none, lookup_cloneKeyMap, lookup_eq_none]
    exact hnew
  have hes : ((cloneKeyMap k.keys).insert (P.deriveKeyID key) key).entries
      = ⟨P.deriveKeyID key, key⟩ :: (cloneKeyMap k.keys).entries :=
    entries_insert_of_notMem hnew'
  have hlen : ((cloneKeyMap k.keys).insert (P.deriveKeyID key) key).entries.length
      = k.keys.entries.length + 1 := by
    rw [hes, length_cons, hpm.length_eq]
  refine ⟨?_, ?_, validateLocked_iff.mpr ⟨?_, ?_, (mem_insert _).mpr (.inl rfl), ?_⟩⟩
  · intro id key' hkey'
    have hne : id ≠ P.deriveKeyID key := by
      rintro rfl
      exact hnew (lookup_isSome.mp (hkey' ▸ rfl))
    rw [lookup_insert_ne hne, lookup_cloneKeyMap]
    exact hkey'
  · exact hlen ▸ hrm
  · exact hlen ▸ Nat.succ_le_succ (Nat.zero_le _)
  · exact hlen ▸ hrm
  · intro e he
    rw [hes, mem_cons] at he
    rcases he with rfl | he
    · rfl
    · exact hder e (hpm.mem_iff.mp he)

/-- Writing a keyring out and reading it back keeps every key. -/
lemma reload_result {data : Bytes} (hmar : k.marshal P.deriveKeyID = .ok data)
    (hprs : parseKeyring P.deriveKeyID data = .ok k') :
    k.Retains k' ∧ k'.validateLocked P.deriveKeyID := by
  have hv : k.validateLocked P.deriveKeyID := by
    by_contra hbad
    rw [Keyring.marshal, if_neg hbad] at hmar
    cases hmar
  obtain ⟨es, hpm, hasc⟩ := exists_ascending k.keys
  obtain ⟨k'', hprs', -, hlk⟩ := parseKeyring_of_valid hv hpm hasc
  have hda : keyringBytes k.active es = data :=
    Except.ok.inj ((marshal_eq hv hpm hasc).symm.trans hmar)
  obtain rfl : k'' = k' := Except.ok.inj ((hda ▸ hprs').symm.trans hprs)
  obtain ⟨-, -, -, -, hv'⟩ := parseKeyring_bytes hprs
  exact ⟨fun id key hkey => (hlk id).trans hkey, hv'⟩

/-! ## 3. Runs -/

/-- A stored envelope, with the password that was sealed into it. -/
structure Row where
  context : Context
  password : Bytes
  envelope : Bytes

/-- The keyring in use, every keyring of the run so far, and every envelope made so far. -/
structure World where
  current : Keyring
  history : List Keyring
  rows : List Row

def World.start (k : Keyring) : World := ⟨k, [k], []⟩

/-- One operation of a run. Envelopes may be sealed and rewrapped under any keyring of the
run, as a process that has not reloaded yet would do; an envelope stays in `rows` after it has
been rewrapped, since the row may be restored from a backup. -/
inductive Step (P : Primitives) : World → World → Prop
  | rotate {w : World} {random : Bytes} {k : Keyring}
      (h : w.current.rotate P.deriveKeyID random = .ok k) :
      Step P w ⟨k, k :: w.history, w.rows⟩
  | reload {w : World} {data : Bytes} {k : Keyring}
      (hmarshal : w.current.marshal P.deriveKeyID = .ok data)
      (hparse : parseKeyring P.deriveKeyID data = .ok k) :
      Step P w ⟨k, k :: w.history, w.rows⟩
  | sealRow {w : World} {k : Keyring} (hk : k ∈ w.history) {context : Context}
      {password random envelope : Bytes}
      (h : k.seal P context password random = .ok envelope) :
      Step P w ⟨w.current, w.history, ⟨context, password, envelope⟩ :: w.rows⟩
  | rewrapRow {w : World} {k : Keyring} (hk : k ∈ w.history) {row : Row} (hrow : row ∈ w.rows)
      {random envelope : Bytes}
      (h : k.rewrap P row.context row.envelope random = .ok envelope) :
      Step P w ⟨w.current, w.history, ⟨row.context, row.password, envelope⟩ :: w.rows⟩

/-- What every run keeps. -/
structure World.Good (P : Primitives) (w : World) : Prop where
  valid : w.current.validateLocked P.deriveKeyID
  retained : ∀ k ∈ w.history, k.Retains w.current
  opens : ∀ row ∈ w.rows, w.current.openLocked P row.context row.envelope = .ok row.password

variable {w : World}

/-- A new keyring that retains the current one takes its place. -/
lemma World.Good.replace (hw : w.Good P) (hret : w.current.Retains k)
    (hv : k.validateLocked P.deriveKeyID) :
    World.Good P ⟨k, k :: w.history, w.rows⟩ := by
  refine ⟨hv, ?_, fun row hrow => hret.openLocked (hw.opens row hrow)⟩
  intro k0 hk0
  rcases mem_cons.mp hk0 with rfl | hk0
  · exact Keyring.Retains.refl _
  · exact (hw.retained k0 hk0).trans hret

lemma World.Good.addRow (hw : w.Good P) {row : Row}
    (hop : w.current.openLocked P row.context row.envelope = .ok row.password) :
    World.Good P ⟨w.current, w.history, row :: w.rows⟩ := by
  refine ⟨hw.valid, hw.retained, ?_⟩
  intro row' hrow'
  rcases mem_cons.mp hrow' with rfl | hrow'
  · exact hop
  · exact hw.opens row' hrow'

lemma World.Good.step (hA : P.aead.Lawful overhead) {w' : World} (hw : w.Good P)
    (hst : Step P w w') : w'.Good P := by
  cases hst with
  | rotate h =>
    obtain ⟨hret, -, hv⟩ := rotate_result h
    exact hw.replace hret hv
  | reload hmar hprs =>
    obtain ⟨hret, hv⟩ := reload_result hmar hprs
    exact hw.replace hret hv
  | sealRow hk h => exact hw.addRow ((hw.retained _ hk).openLocked (open_of_seal hA h))
  | rewrapRow hk hrow h =>
    -- Under the older keyring the envelope opens as well, and so to the same password.
    obtain ⟨-, -, pwd, -, hop, -⟩ := rewrap_eq_ok.mp h
    have hret := hw.retained _ hk
    obtain rfl := Except.ok.inj ((hret.openLocked hop).symm.trans (hw.opens _ hrow))
    exact hw.addRow (hret.openLocked (open_of_rewrap hA h hop))

lemma World.good_of_run (hA : P.aead.Lawful overhead) (hnew : newKeyring P.deriveKeyID rnd = .ok k)
    (hrun : Reaches (Step P) (World.start k) w) : w.Good P := by
  refine hrun.invariant ⟨newKeyring_valid hnew, ?_, by simp [World.start]⟩
    fun _ _ hw hst => hw.step hA hst
  intro k0 hk0
  obtain rfl := mem_singleton.mp hk0
  exact Keyring.Retains.refl _

/-- **A password survives every rotation run.** At the end of every run from a new keyring,
every envelope made along the way opens, under the keyring of that moment, to the password that
was sealed into it, and can be rewrapped; sealing works for every accepted context and password.
Every successful rewrap, of whatever envelope under whatever keyring, keeps the inner layer,
authenticates under the active key and is the identity on an envelope already there. And a
rotation, with the keyrings behind pointers, retains every key, stays within eight keys and
leaves its receiver as it was. -/
theorem password_survives_rotation (P : Primitives) (hA : P.aead.Lawful overhead)
    {random : Bytes} {k₀ : Keyring} (hnew : newKeyring P.deriveKeyID random = .ok k₀) {w : World}
    (hrun : Reaches (Step P) (World.start k₀) w) :
    (∀ row ∈ w.rows, w.current.open P row.context row.envelope = .ok row.password ∧
      ∀ random : Bytes, 24 ≤ random.length →
        ∃ result, w.current.rewrap P row.context row.envelope random = .ok result) ∧
    (∀ (context : Context) (parsedID : Arr 16) (password random : Bytes),
      context.Accepted P parsedID → password.length ≤ maxPasswordBytes → 80 ≤ random.length →
        ∃ envelope, w.current.seal P context password random = .ok envelope) ∧
    (∀ (k : Keyring) (context : Context) (envelope random result : Bytes),
      k.rewrap P context envelope random = .ok result →
        ∃ p p', parseEnvelope envelope = .ok p ∧ parseEnvelope result = .ok p' ∧
          p'.dataNonce = p.dataNonce ∧ p'.ciphertext = p.ciphertext ∧
          k.envelopeKeyID P context result = .ok (k.activeID P) ∧
          (p.keyID = k.active → result = envelope)) ∧
    (∀ (h h' : Heap) (receiver rotated : Nat) (k : Keyring) (random : Bytes),
      h.keyring? receiver = some k →
      h.rotate P.deriveKeyID receiver random = (.ok rotated, h') →
        ∃ k', h'.keyring? rotated = some k' ∧ k.rotate P.deriveKeyID random = .ok k' ∧
          k.Retains k' ∧ k'.keys.entries.length ≤ maxKeys ∧ h'.keyring? receiver = some k) := by
  have hgood := World.good_of_run hA hnew hrun
  refine ⟨fun row hrow => ⟨?_, fun random hrandom => ?_⟩, ?_, ?_, ?_⟩
  · exact open_eq_ok.mpr ⟨hgood.valid, hgood.opens row hrow⟩
  · exact rewrap_succeeds hA hgood.valid (hgood.opens row hrow) hrandom
  · intro context parsedID password random hacc hpassword hrandom
    exact seal_succeeds hA hgood.valid hacc hpassword hrandom
  · intro k context envelope random result h
    exact rewrap_result hA h
  · intro h h' receiver rotated k random hk heq
    obtain ⟨hagrees, hframe⟩ := heapRotate_spec hk heq
    obtain ⟨k', hpure⟩ : ∃ k', k.rotate P.deriveKeyID random = .ok k' := by
      cases hpure : k.rotate P.deriveKeyID random with
      | ok k' => exact ⟨k', rfl⟩
      | error e =>
        rw [hpure] at hagrees
        exact hagrees.elim
    rw [hpure] at hagrees
    obtain ⟨hret, hmax, -⟩ := rotate_result hpure
    exact ⟨k', hagrees, hpure, hret, hmax, hframe receiver k hk⟩

lemma plainPrimitives_lawful : plainPrimitives.aead.Lawful overhead :=
  ⟨fun _ _ _ _ => by simp [plainPrimitives], fun _ _ _ _ => by simp [plainPrimitives, overhead]⟩

/-- The run that creates a keyring, seals a password, rotates and rewraps. -/
theorem password_survives_one_rotation :
    ∃ k₀ w, newKeyring plainPrimitives.deriveKeyID (replicate 32 0) = .ok k₀ ∧
      Reaches (Step plainPrimitives) (World.start k₀) w ∧ w.rows.length = 2 ∧
      ∀ row ∈ w.rows,
        w.current.open plainPrimitives row.context row.envelope = .ok row.password := by
  have hA := plainPrimitives_lawful
  obtain ⟨k₀, hnew⟩ : ∃ k₀, newKeyring plainPrimitives.deriveKeyID (replicate 32 0) = .ok k₀ :=
    ⟨_, rfl⟩
  have hvalid := newKeyring_valid (P := plainPrimitives) hnew
  obtain ⟨e0, hseal⟩ :
      ∃ e0, k₀.seal plainPrimitives plainContext [1, 2, 3] (replicate 80 0) = .ok e0 :=
    seal_succeeds hA hvalid plainContext_accepted (by decide) (by decide)
  obtain ⟨k1, hrotate⟩ : ∃ k1, k₀.rotate plainPrimitives.deriveKeyID (replicate 32 1) = .ok k1 := by
    cases hnew
    exact ⟨_, rfl⟩
  obtain ⟨hret, -, hvalid1⟩ := rotate_result hrotate
  obtain ⟨e1, hrewrap⟩ :
      ∃ e1, k1.rewrap plainPrimitives plainContext e0 (replicate 24 0) = .ok e1 :=
    rewrap_succeeds hA hvalid1 (hret.openLocked (open_of_seal hA hseal)) (by decide)
  let row0 : Row := ⟨plainContext, [1, 2, 3], e0⟩
  have hrow0 : row0 ∈ [row0] := mem_singleton_self row0
  have hlast : Step plainPrimitives ⟨k1, [k1, k₀], [row0]⟩
      ⟨k1, [k1, k₀], [⟨plainContext, [1, 2, 3], e1⟩, row0]⟩ :=
    Step.rewrapRow (w := ⟨k1, [k1, k₀], [row0]⟩) (.head _) hrow0 hrewrap
  have hrun := ((Relation.ReflTransGen.single
    (Step.sealRow (w := World.start k₀) (mem_singleton_self k₀) hseal)).tail
      (Step.rotate hrotate)).tail hlast
  exact ⟨k₀, _, hnew, hrun, rfl, fun row hrow =>
    ((password_survives_rotation plainPrimitives hA hnew hrun).1 row hrow).1⟩

end ReCasaOS.Smb
