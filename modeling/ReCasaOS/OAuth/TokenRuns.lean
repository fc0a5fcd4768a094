/-
# Runs of the token keyring

Every method of the keyring is atomic under its lock, so a run is a list of calls. Beside the keyring
a run keeps the envelopes that were handed out (`issued`, which the ideal cipher needs) and those that
were revoked or rotated away (`retired`, which no method reads).

Keys come and go, and an id may come back with another key. What decides is therefore not the id
but the key that an envelope was sealed with. `TokenStore.open_eq_ok` says exactly which envelopes
open; everything else is an invariant of the calls that change something.
-/
import ReCasaOS.OAuth.TokenKeyring

namespace ReCasaOS.OAuth

open Lib List Option AList

/-! ## 1. Calls -/

structure TokenStore (δ : Type) where
  ring : TokenKeyring δ
  issued : List Issue
  retired : List Bytes

inductive TokenCall
  | sealToken (provider : Bytes) (principalID : Int) (refresh random : Bytes)
  | openToken (provider : Bytes) (principalID : Int) (envelope : Bytes)
  | revoke (provider : Bytes) (principalID : Int) (envelope : Bytes)
  | rotateToken (provider : Bytes) (principalID : Int) (envelope random : Bytes)
  | rotateKey (random : Bytes)
  | addRetainedKey (id : TokenKeyID) (material : TokenKey)

section

variable {δ : Type} [DecidableEq δ] (P : TokenPrimitives δ)
variable {k ring : TokenKeyring δ} {id : TokenKeyID}

namespace TokenStore

/-- `Open`, in a store. -/
def opened (s : TokenStore δ) (provider : Bytes) (principalID : Int) (envelope : Bytes) :
    Except TokenError Bytes :=
  s.ring.open P s.issued provider principalID envelope

/-- A sealed token is handed out, with a lineage of its own. -/
def issue (s : TokenStore δ) (provider : Bytes) (principalID : Int) (t : SealedToken) : TokenStore δ :=
  { s with issued := s.issued ++ [⟨t, provider, principalID, s.issued.length⟩] }

/-- The store after a call; a call that fails changes nothing. -/
def call (s : TokenStore δ) : TokenCall → TokenStore δ
  | .sealToken provider principalID refresh random =>
    match s.ring.seal P provider principalID refresh random with
    | .error _ => s
    | .ok t => s.issue provider principalID t
  | .openToken .. => s
  | .revoke provider principalID envelope =>
    match s.ring.revoke P s.issued provider principalID envelope with
    | .error _ => s
    | .ok ring => { s with ring := ring, retired := envelope :: s.retired }
  | .rotateToken provider principalID envelope random =>
    match s.ring.rotateToken P s.issued provider principalID envelope random with
    | .error _ => s
    | .ok (i, ring) => ⟨ring, s.issued ++ [i], envelope :: s.retired⟩
  | .rotateKey random =>
    match s.ring.rotateKey P random with
    | .error _ => s
    | .ok (_, ring) => { s with ring := ring }
  | .addRetainedKey id material =>
    match s.ring.addRetainedKey id material with
    | .error _ => s
    | .ok ring => { s with ring := ring }

def run (s : TokenStore δ) (calls : List TokenCall) : TokenStore δ := calls.foldl (call P) s

end TokenStore

/-! ## 2. Keys -/

/-- The retention order lists the keys, each once. -/
structure TokenKeyring.Listed (k : TokenKeyring δ) : Prop where
  nodup : k.order.Nodup
  length_le : k.order.length ≤ maxTokenKeys
  mem_iff : ∀ id, id ∈ k.order ↔ (k.keys.lookup id).isSome

/-- And the active key is one of them. -/
structure TokenKeyring.Ordered (k : TokenKeyring δ) : Prop extends k.Listed where
  active : k.active ∈ k.order

/-- What a rotation does to the order and to the keys: at most the front key goes. -/
structure TokenKeyring.Rotated (k : TokenKeyring δ) (id : TokenKeyID) (ring : TokenKeyring δ) : Prop where
  fresh : id ∉ k.order
  order : ring.order = (if k.order.length < maxTokenKeys then k.order else k.order.tail) ++ [id]
  active : ring.active = id
  own : (ring.keys.lookup id).isSome
  others : ∀ other, other ≠ id → ring.keys.lookup other
    = if k.order.length = maxTokenKeys ∧ k.order.head? = some other then none
      else k.keys.lookup other
  revoked : ring.revoked = k.revoked

omit [DecidableEq δ]

lemma TokenKeyring.evict_short {active : TokenKeyID} {keys : NameTable TokenKeyID TokenKey}
    {order : List TokenKeyID} (h : order.length ≤ maxTokenKeys) :
    TokenKeyring.evict active keys order = (keys, order) := by
  cases order with
  | nil => rfl
  | cons victim order =>
    rw [TokenKeyring.evict, if_neg (not_lt.mpr h)]

/-- The new key is admitted, and the front of a full order makes room for it. -/
lemma TokenKeyring.Listed.activate (h : k.Listed) {material : TokenKey}
    (hfh : k.keys.lookup id = none) : k.Rotated id (k.activate id material) := by
  have hid : id ∉ k.order := by
    intro hmem
    have hso := (h.mem_iff id).mp hmem
    rw [hfh] at hso
    cases hso
  by_cases hrm : k.order.length < maxTokenKeys
  · have hsh : (k.order ++ [id]).length ≤ maxTokenKeys := by
      rw [length_append]
      exact hrm
    unfold TokenKeyring.activate
    rw [evict_short hsh]
    refine ⟨hid, by rw [if_pos hrm], rfl, ?_, fun other hoth => ?_, rfl⟩
    · rw [lookup_insert]
      rfl
    · rw [if_neg fun hfull => absurd hfull.1 (ne_of_lt hrm)]
      exact lookup_insert_ne hoth
  · have hfull : k.order.length = maxTokenKeys := le_antisymm h.length_le (not_lt.mp hrm)
    obtain ⟨front, rest, horder⟩ : ∃ front rest, k.order = front :: rest := by
      cases hk : k.order with
      | nil =>
        rw [hk] at hfull
        cases hfull
      | cons front rest => exact ⟨front, rest, rfl⟩
    have hfro : front ≠ id := by
      rintro rfl
      exact hid (horder ▸ (.head _))
    have hrs : (rest ++ [id]).length = maxTokenKeys := by
      rw [length_append, ← hfull, horder]
      rfl
    have hevict : TokenKeyring.evict id (k.keys.insert id material) (k.order ++ [id])
        = ((k.keys.insert id material).erase front, rest ++ [id]) := by
      rw [horder, cons_append, TokenKeyring.evict, if_pos, if_pos hfro, evict_short hrs.le]
      rw [length_cons, hrs]
      exact Nat.lt_succ_self _
    unfold TokenKeyring.activate
    rw [hevict]
    refine ⟨hid, by rw [if_neg hrm, horder, tail_cons], rfl, ?_, fun other hoth => ?_, rfl⟩
    · rw [lookup_erase_ne hfro.symm, lookup_insert]
      rfl
    · rw [horder, head?_cons, NameTable.lookup_release, NameTable.lookup_bind, if_neg hoth]
      have hlen : (front :: rest).length = maxTokenKeys := horder ▸ hfull
      simp only [hlen, true_and, some.injEq, eq_comm (a := front)]

lemma TokenKeyring.Rotated.ordered (h : k.Listed) (hrot : k.Rotated id ring) : ring.Ordered := by
  have hsub : ∀ other ∈ (if k.order.length < maxTokenKeys then k.order else k.order.tail),
      other ∈ k.order := by
    intro other hoth
    split at hoth
    · exact hoth
    · exact mem_of_mem_tail hoth
  have hlen := h.length_le
  refine ⟨⟨?_, ?_, fun other => ?_⟩, ?_⟩
  · rw [hrot.order, ← concat_eq_append]
    refine .concat (fun hmem => hrot.fresh (hsub id hmem)) ?_
    split
    · exact h.nodup
    · exact h.nodup.sublist (tail_sublist _)
  · rw [hrot.order, length_append, length_singleton]
    split
    · assumption
    · rw [length_tail]
      unfold maxTokenKeys at *
      omega
  · rw [hrot.order, mem_append, mem_singleton]
    by_cases hoth : other = id
    · subst hoth
      exact iff_of_true (.inr rfl) hrot.own
    · rw [hrot.others other hoth]
      simp only [hoth, or_false]
      by_cases hrm : k.order.length < maxTokenKeys
      · rw [if_pos hrm, if_neg fun hfull => absurd hfull.1 (ne_of_lt hrm)]
        exact h.mem_iff other
      · have hfull : k.order.length = maxTokenKeys := le_antisymm hlen (not_lt.mp hrm)
        cases hk : k.order with
        | nil =>
          rw [hk] at hfull
          cases hfull
        | cons front rest =>
          have hnd := nodup_cons.mp (hk ▸ h.nodup)
          have hmem := h.mem_iff other
          rw [hk] at hmem hfull
          simp only [hfull, tail_cons, head?_cons, some.injEq, true_and]
          by_cases hfro : front = other
          · rw [if_pos hfro, ← hfro]
            exact iff_of_false hnd.1 Bool.false_ne_true
          · rw [if_neg hfro, ← hmem, mem_cons]
            exact ⟨Or.inr, fun hor => hor.resolve_left (Ne.symm hfro)⟩
  · rw [hrot.active, hrot.order]
    exact mem_append_right _ (mem_singleton.mpr rfl)

variable {P}

lemma TokenKeyring.Listed.drawKey (h : k.Listed) :
    ∀ {attempts : Nat} {random : Bytes}, k.drawKey P attempts random = .ok (id, ring) →
      k.Rotated id ring
  | 0, _, hdraw => by cases hdraw
  | attempts + 1, random, hdraw => by
    obtain ⟨⟨buffer, rest⟩, -, hdraw⟩ := bind_eq_ok.mp hdraw
    dsimp only at hdraw
    split at hdraw
    · exact h.drawKey hdraw
    split at hdraw
    · exact h.drawKey hdraw
    next hno =>
      obtain ⟨rfl, rfl⟩ := Prod.mk.inj (Except.ok.inj hdraw)
      exact h.activate (not_isSome_iff_eq_none.mp hno)

variable {random : Bytes}

/-- **A rotation drops at most the key at the front.** -/
theorem TokenKeyring.Listed.rotateKey (h : k.Listed)
    (hrot : k.rotateKey P random = .ok (id, ring)) : k.Rotated id ring :=
  h.drawKey hrot

/-- A key that is imported goes to the end of the order, and nothing goes. -/
lemma TokenKeyring.Ordered.addRetainedKey (h : k.Ordered) {material : TokenKey}
    (hadd : k.addRetainedKey id material = .ok ring) : ring.Ordered ∧ ring.revoked = k.revoked := by
  obtain ⟨-, hadd⟩ := check_bind_eq_ok.mp hadd
  obtain ⟨hfh, hadd⟩ := check_bind_eq_ok.mp hadd
  obtain ⟨hrm, hadd⟩ := check_bind_eq_ok.mp hadd
  obtain rfl := pure_eq_ok.mp hadd
  have hid : id ∉ k.order := fun hmem => hfh ((h.mem_iff id).mp hmem)
  -- The order has no more entries than the map has keys.
  have hlen : k.order.length ≤ k.keys.size := by
    have hsub : k.order ⊆ k.keys.keys := by
      intro other hoth
      exact lookup_isSome.mp ((h.mem_iff other).mp hoth)
    have hle := (subperm_of_subset h.nodup hsub).length_le
    rwa [AList.keys, List.keys, length_map] at hle
  refine ⟨⟨⟨?_, ?_, fun other => ?_⟩, mem_append_left _ h.active⟩, rfl⟩
  · rw [← concat_eq_append]
    exact h.nodup.concat hid
  · rw [length_append, length_singleton]
    exact hlen.trans_lt (Nat.lt_of_not_le hrm)
  · rw [mem_append, mem_singleton, h.mem_iff, NameTable.lookup_bind]
    split
    next hoth =>
      exact iff_of_true (.inr hoth) rfl
    next hoth =>
      exact ⟨fun hor => hor.resolve_right hoth, Or.inl⟩

/-! ## 3. Which envelopes open -/

/-- What is assumed of the cipher: it adds a tag of 16 bytes, and different tokens have different
ciphertexts. -/
structure TokenPrimitives.Lawful (P : TokenPrimitives δ) : Prop where
  length_encrypt : ∀ key nonce plaintext aad,
    (P.encrypt key nonce plaintext aad).length = plaintext.length + 16
  encrypt_inj : ∀ key nonce plaintext plaintext' aad,
    P.encrypt key nonce plaintext aad = P.encrypt key nonce plaintext' aad → plaintext = plaintext'

/-- An envelope as the keyring makes them. -/
structure Issue.Made (P : TokenPrimitives δ) (i : Issue) : Prop where
  aad : tokenAAD i.provider i.principalID i.keyID = .ok i.sealing.aad
  nonce : i.sealing.nonce.length = 24
  token : 1 ≤ i.token.length ∧ i.token.length ≤ maxTokenFieldBytes
  ciphertext : i.sealing.ciphertext
    = P.encrypt i.sealing.key i.sealing.nonce i.token i.sealing.aad

lemma Issue.Made.fits (hP : P.Lawful) {i : Issue} (h : i.Made P) :
    ParsedTokenEnvelope.Fits ⟨i.keyID, i.sealing.nonce, i.sealing.ciphertext⟩ := by
  obtain ⟨hmin, hmax⟩ := h.token
  unfold maxTokenFieldBytes at hmax
  refine ⟨h.nonce, ?_⟩
  rw [h.ciphertext, hP.length_encrypt]
  omega

lemma opens_eq_some {issued : List Issue} {key : TokenKey} {nonce ciphertext aad : Bytes} {i : Issue}
    (h : opens issued key nonce ciphertext aad = some i) :
    i ∈ issued ∧ i.sealing.key = key ∧ i.sealing.nonce = nonce ∧ i.sealing.ciphertext = ciphertext ∧
      i.sealing.aad = aad :=
  ⟨mem_of_find?_eq_some h, by simpa using find?_some h⟩

lemma opens_of_mem {issued : List Issue} {i : Issue} (h : i ∈ issued) :
    ∃ j, opens issued i.sealing.key i.sealing.nonce i.sealing.ciphertext i.sealing.aad = some j := by
  rw [← isSome_iff_exists, opens, find?_isSome]
  exact ⟨i, h, by simp⟩

/-- What holds between two calls. -/
structure TokenStore.Good (P : TokenPrimitives δ) (s : TokenStore δ) : Prop where
  ordered : s.ring.Ordered
  made : ∀ i ∈ s.issued, i.Made P
  revoked_iff : ∀ envelope, P.sha256 envelope ∈ s.ring.revoked ↔ envelope ∈ s.retired
  lineage_lt : ∀ i ∈ s.issued, i.lineage < s.issued.length
  same_token : ∀ i ∈ s.issued, ∀ j ∈ s.issued, i.lineage = j.lineage →
    i.provider = j.provider ∧ i.principalID = j.principalID ∧ i.token = j.token
  one_live : ∀ i ∈ s.issued, ∀ j ∈ s.issued, i.lineage = j.lineage →
    i.envelope ∉ s.retired → j.envelope ∉ s.retired → i.envelope = j.envelope

/-- The envelope of the issue may be opened now. -/
structure TokenStore.Live (s : TokenStore δ) (i : Issue) : Prop where
  issued : i ∈ s.issued
  retained : s.ring.keys.lookup i.keyID = some i.sealing.key
  current : i.envelope ∉ s.retired

section

variable [DecidableEq δ] {s : TokenStore δ} {prov envelope : Bytes} {principalID : Int}

lemma TokenStore.Good.openLocked_eq_ok (h : s.Good P) {i : Issue}
    (hop : s.ring.openLocked P s.issued prov principalID envelope = .ok i) :
    s.Live i ∧ i.envelope = envelope ∧ i.provider = prov ∧ i.principalID = principalID := by
  obtain ⟨-, hop⟩ := check_bind_eq_ok.mp hop
  obtain ⟨parsed, hprs, hop⟩ := bind_eq_ok.mp hop
  obtain ⟨hrvkd, hop⟩ := check_bind_eq_ok.mp hop
  obtain ⟨key, hkey, hop⟩ := bind_eq_ok.mp hop
  obtain ⟨aad, haad, hop⟩ := bind_eq_ok.mp hop
  obtain ⟨hmem, rfl, hnon, hct, rfl⟩ := opens_eq_some (orError_eq_ok.mp hop)
  obtain ⟨hprov, hprin, hid⟩ := tokenAAD_inj (h.made i hmem).aad haad
  obtain ⟨-, hbs⟩ := parseTokenEnvelope_eq_ok.mp hprs
  have henv : i.envelope = envelope := by
    rw [hbs, SealedToken.envelope, hid, hnon, hct]
  refine ⟨⟨hmem, hid ▸ orError_eq_ok.mp hkey, ?_⟩, henv, hprov, hprin⟩
  rw [henv, ← h.revoked_iff]
  exact hrvkd

/-- A live envelope opens, to an issue with the same token. -/
lemma TokenStore.Good.openLocked_of_live (hP : P.Lawful) (h : s.Good P) {i : Issue} (hi : s.Live i) :
    ∃ j, s.ring.openLocked P s.issued i.provider i.principalID i.envelope = .ok j ∧
      j.token = i.token := by
  have hmade := h.made i hi.issued
  obtain ⟨j, hj⟩ := opens_of_mem hi.issued
  obtain ⟨hmem, hkey, hnon, hct, haad⟩ := opens_eq_some hj
  refine ⟨j, ?_, ?_⟩
  · have hbdg := (tokenAAD_eq_ok.mp hmade.aad).1
    have hrvkd : P.sha256 i.envelope ∉ s.ring.revoked :=
      fun hmem => hi.current ((h.revoked_iff _).mp hmem)
    unfold TokenKeyring.openLocked
    rw [check_bind_of_not (by rw [hbdg]; exact Bool.noConfusion), SealedToken.envelope,
      parseTokenEnvelope_bytes (hmade.fits hP), ok_bind, ← SealedToken.envelope,
      check_bind_of_not hrvkd, hi.retained, orError_eq_ok.mpr rfl, ok_bind, hmade.aad, ok_bind, hj]
    rfl
  · have hmade' := h.made j hmem
    refine hP.encrypt_inj i.sealing.key i.sealing.nonce _ _ i.sealing.aad ?_
    rw [← hmade.ciphertext, ← hct, hmade'.ciphertext, hkey, hnon, haad]

/-- **Which envelopes open**: those that were handed out for this provider and principal, are not
retired, and whose key is there. -/
theorem TokenStore.open_eq_ok (hP : P.Lawful) (h : s.Good P) {token : Bytes} :
    s.opened P prov principalID envelope = .ok token ↔
      ∃ i, s.Live i ∧ i.envelope = envelope ∧ i.provider = prov ∧ i.principalID = principalID ∧
        i.token = token := by
  constructor
  · intro hop
    cases hlkd : s.ring.openLocked P s.issued prov principalID envelope with
    | error err =>
      rw [TokenStore.opened, TokenKeyring.open, hlkd] at hop
      cases hop
    | ok i =>
      rw [TokenStore.opened, TokenKeyring.open, hlkd] at hop
      obtain ⟨hlv, henv, hprov, hprin⟩ := h.openLocked_eq_ok hlkd
      exact ⟨i, hlv, henv, hprov, hprin, Except.ok.inj hop⟩
  · rintro ⟨i, hlv, rfl, rfl, rfl, rfl⟩
    obtain ⟨j, hlkd, htoken⟩ := h.openLocked_of_live hP hlv
    rw [TokenStore.opened, TokenKeyring.open, hlkd, ← htoken]
    rfl

end

/-! ## 4. Calls keep the invariant -/

section

variable {s : TokenStore δ} {prov envelope rnd : Bytes} {prin : Int}
variable {k ring : TokenKeyring δ}

lemma TokenKeyring.sealLocked_made {refresh : Bytes} {t : SealedToken} (lineage : Nat)
    (htoken : 1 ≤ refresh.length ∧ refresh.length ≤ maxTokenFieldBytes)
    (h : k.sealLocked P prov prin refresh rnd = .ok t) :
    t.sealing.plaintext = refresh ∧ Issue.Made P ⟨t, prov, prin, lineage⟩ := by
  obtain ⟨⟨nonce, rest⟩, hrd, h⟩ := bind_eq_ok.mp h
  obtain ⟨key, -, h⟩ := bind_eq_ok.mp h
  obtain ⟨aad, haad, h⟩ := bind_eq_ok.mp h
  obtain rfl := pure_eq_ok.mp h
  exact ⟨rfl, haad, (readFull_eq_some.mp (orError_eq_ok.mp hrd)).2, htoken, rfl⟩

lemma TokenStore.Good.seal (h : s.Good P) {refresh : Bytes} {t : SealedToken}
    (hseal : s.ring.seal P prov prin refresh rnd = .ok t) :
    (s.issue prov prin t).Good P := by
  obtain ⟨-, hseal⟩ := check_bind_eq_ok.mp hseal
  obtain ⟨hfield, hseal⟩ := check_bind_eq_ok.mp hseal
  rw [not_or, not_or, not_lt, not_lt] at hfield
  have hmade := fun lineage =>
    (TokenKeyring.sealLocked_made lineage ⟨hfield.1, hfield.2.1⟩ hseal).2
  have hcs : ∀ i ∈ (s.issue prov prin t).issued,
      i ∈ s.issued ∧ i.lineage < s.issued.length ∨ i = ⟨t, prov, prin, s.issued.length⟩ := by
    intro i hi
    rcases mem_append.mp hi with hi | hi
    · exact .inl ⟨hi, h.lineage_lt i hi⟩
    · exact .inr (mem_singleton.mp hi)
  refine ⟨h.ordered, fun i hi => ?_, h.revoked_iff, fun i hi => ?_, fun i hi j hj hij => ?_,
    fun i hi j hj hij hicur hjcur => ?_⟩
  · rcases hcs i hi with ⟨hi, -⟩ | rfl
    · exact h.made i hi
    · exact hmade _
  · rw [TokenStore.issue, length_append, length_singleton]
    rcases hcs i hi with ⟨-, hlt⟩ | rfl
    · exact Nat.lt_succ_of_lt hlt
    · exact Nat.lt_succ_self _
  · rcases hcs i hi with ⟨hi, hilt⟩ | rfl <;> rcases hcs j hj with ⟨hj, hjlt⟩ | rfl
    · exact h.same_token i hi j hj hij
    · exact absurd hij (ne_of_lt hilt)
    · exact absurd hij.symm (ne_of_lt hjlt)
    · exact ⟨rfl, rfl, rfl⟩
  · rcases hcs i hi with ⟨hi, hilt⟩ | rfl <;> rcases hcs j hj with ⟨hj, hjlt⟩ | rfl
    · exact h.one_live i hi j hj hij hicur hjcur
    · exact absurd hij (ne_of_lt hilt)
    · exact absurd hij.symm (ne_of_lt hjlt)
    · rfl

/-- Retiring an envelope in the ring and in the history. -/
lemma TokenStore.Good.retired_iff (hsha : Function.Injective P.sha256) (h : s.Good P)
    (other : Bytes) : P.sha256 other ∈ P.sha256 envelope :: s.ring.revoked ↔
      other ∈ envelope :: s.retired := by
  rw [mem_cons, mem_cons, h.revoked_iff, hsha.eq_iff]

lemma TokenKeyring.retire_eq_ok (h : k.retire P envelope = .ok ring) :
    ring = { k with revoked := P.sha256 envelope :: k.revoked } := by
  obtain ⟨-, h⟩ := check_bind_eq_ok.mp h
  exact (pure_eq_ok.mp h).symm

/-- More envelopes are retired, and nothing else happens. -/
lemma TokenStore.Good.retire (h : s.Good P) (hring : ring.Ordered)
    (hrvkd : ∀ other, P.sha256 other ∈ ring.revoked ↔ other ∈ envelope :: s.retired) :
    TokenStore.Good P { s with ring := ring, retired := envelope :: s.retired } :=
  ⟨hring, h.made, hrvkd, h.lineage_lt, h.same_token, fun i hi j hj hij hicur hjcur =>
    h.one_live i hi j hj hij (fun hmem => hicur (.tail _ hmem))
      fun hmem => hjcur (.tail _ hmem)⟩

lemma TokenKeyring.Ordered.retire (h : k.Ordered) (hretire : k.retire P envelope = .ok ring) :
    ring.Ordered := by
  rw [TokenKeyring.retire_eq_ok hretire]
  exact ⟨⟨h.nodup, h.length_le, h.mem_iff⟩, h.active⟩

variable [DecidableEq δ]

/-- `ErrRevokedToken` is the answer for a revoked envelope only. -/
lemma TokenKeyring.mem_of_revoked {issued : List Issue}
    (h : k.openLocked P issued prov prin envelope = .error .revokedToken) :
    P.sha256 envelope ∈ k.revoked := by
  by_contra hnot
  have hprs : FailsIn (· ≠ .revokedToken) (parseTokenEnvelope envelope) :=
    .bind (.check (by decide)) fun _ => .bind (.check (by decide)) fun _ => .pure _
  have hoth : FailsIn (· ≠ .revokedToken) (k.openLocked P issued prov prin envelope) := by
    refine .bind (.check (by decide)) fun _ => .bind hprs fun parsed => ?_
    rw [check_bind_of_not hnot]
    refine .bind (.orError (by decide)) fun key => .bind ?_ fun aad => .orError (by decide)
    exact .bind (.check (by decide)) fun _ => .pure _
  exact hoth _ h rfl

lemma TokenStore.Good.revoke (hsha : Function.Injective P.sha256) (h : s.Good P)
    (hrvk : s.ring.revoke P s.issued prov prin envelope = .ok ring) :
    TokenStore.Good P { s with ring := ring, retired := envelope :: s.retired } := by
  unfold TokenKeyring.revoke at hrvk
  cases hlkd : s.ring.openLocked P s.issued prov prin envelope with
  | error err =>
    rw [hlkd] at hrvk
    dsimp only at hrvk
    split at hrvk
    next herr =>
      cases hrvk
      -- The envelope was revoked before.
      have hmem := TokenKeyring.mem_of_revoked (herr ▸ hlkd)
      refine h.retire h.ordered fun other => ?_
      rw [h.revoked_iff, mem_cons]
      refine ⟨Or.inr, fun hor => hor.elim ?_ id⟩
      rintro rfl
      exact (h.revoked_iff _).mp hmem
    · cases hrvk
  | ok i =>
    rw [hlkd] at hrvk
    refine h.retire (h.ordered.retire hrvk) ?_
    rw [TokenKeyring.retire_eq_ok hrvk]
    exact h.retired_iff hsha

/-- The new envelope takes the place of the old one in its lineage. -/
lemma TokenStore.Good.rotateToken (hsha : Function.Injective P.sha256) (h : s.Good P) {new : Issue}
    (hrot : s.ring.rotateToken P s.issued prov prin envelope rnd = .ok (new, ring)) :
    TokenStore.Good P ⟨ring, s.issued ++ [new], envelope :: s.retired⟩ := by
  obtain ⟨old, hlkd, hrot⟩ := bind_eq_ok.mp hrot
  obtain ⟨resealed, hseal, hrot⟩ := bind_eq_ok.mp hrot
  obtain ⟨ring', hretire, hrot⟩ := bind_eq_ok.mp hrot
  obtain ⟨rfl, rfl⟩ := Prod.mk.inj (pure_eq_ok.mp hrot)
  obtain ⟨hlv, rfl, rfl, rfl⟩ := h.openLocked_eq_ok hlkd
  obtain ⟨htoken, hmade⟩ := TokenKeyring.sealLocked_made old.lineage
    (h.made old hlv.issued).token hseal
  have hcs : ∀ i ∈ s.issued ++ [⟨resealed, old.provider, old.principalID, old.lineage⟩],
      i ∈ s.issued ∨ i = ⟨resealed, old.provider, old.principalID, old.lineage⟩ := by
    intro i hi
    exact (mem_append.mp hi).imp id mem_singleton.mp
  -- Whatever else was live in the lineage was the old envelope.
  have hla : ∀ i ∈ s.issued, i.lineage = old.lineage → i.envelope ∉ old.envelope :: s.retired →
      False := by
    intro i hi hij hicur
    rw [mem_cons, not_or] at hicur
    exact hicur.1 (h.one_live i hi old hlv.issued hij hicur.2 hlv.current)
  refine ⟨h.ordered.retire hretire, fun i hi => ?_, ?_, fun i hi => ?_, fun i hi j hj hij => ?_,
    fun i hi j hj hij hicur hjcur => ?_⟩
  · rcases hcs i hi with hi | rfl
    · exact h.made i hi
    · exact hmade
  · rw [TokenKeyring.retire_eq_ok hretire]
    exact h.retired_iff hsha
  · have hlt := h.lineage_lt old hlv.issued
    rw [length_append, length_singleton]
    rcases hcs i hi with hi | rfl
    · exact Nat.lt_succ_of_lt (h.lineage_lt i hi)
    · exact Nat.lt_succ_of_lt hlt
  · rcases hcs i hi with hi | rfl <;> rcases hcs j hj with hj | rfl
    · exact h.same_token i hi j hj hij
    · obtain ⟨hprov, hprin, hsm⟩ := h.same_token i hi old hlv.issued hij
      exact ⟨hprov, hprin, hsm.trans htoken.symm⟩
    · obtain ⟨hprov, hprin, hsm⟩ := h.same_token old hlv.issued j hj hij
      exact ⟨hprov, hprin, htoken.trans hsm⟩
    · exact ⟨rfl, rfl, rfl⟩
  · rcases hcs i hi with hi | rfl <;> rcases hcs j hj with hj | rfl
    · exact h.one_live i hi j hj hij (fun hmem => hicur (.tail _ hmem))
        fun hmem => hjcur (.tail _ hmem)
    · exact (hla i hi hij hicur).elim
    · exact (hla j hj hij.symm hjcur).elim
    · rfl

omit [DecidableEq δ] in
lemma TokenStore.Good.rekey (h : s.Good P) (hring : ring.Ordered)
    (hrvkd : ring.revoked = s.ring.revoked) : TokenStore.Good P { s with ring := ring } :=
  ⟨hring, h.made, fun other => by rw [hrvkd, h.revoked_iff], h.lineage_lt, h.same_token, h.one_live⟩

lemma TokenStore.Good.call (hsha : Function.Injective P.sha256) (h : s.Good P) (c : TokenCall) :
    (s.call P c).Good P := by
  cases c with
  | sealToken prov prin refresh rnd =>
    rw [TokenStore.call]
    split
    · exact h
    next t hseal =>
      exact h.seal hseal
  | openToken prov prin envelope => exact h
  | revoke prov prin envelope =>
    rw [TokenStore.call]
    split
    · exact h
    next ring hrvk =>
      exact h.revoke hsha hrvk
  | rotateToken prov prin envelope rnd =>
    rw [TokenStore.call]
    split
    · exact h
    next i ring hrotate =>
      exact h.rotateToken hsha hrotate
  | rotateKey rnd =>
    rw [TokenStore.call]
    split
    · exact h
    next id ring hrotate =>
      have hrot := h.ordered.rotateKey hrotate
      exact h.rekey (hrot.ordered h.ordered.toListed) hrot.revoked
  | addRetainedKey id material =>
    rw [TokenStore.call]
    split
    · exact h
    next ring hadd =>
      obtain ⟨hring, hrvkd⟩ := h.ordered.addRetainedKey hadd
      exact h.rekey hring hrvkd

end

lemma TokenStore.good_of_run [DecidableEq δ] (hsha : Function.Injective P.sha256)
    (calls : List TokenCall) {s : TokenStore δ} (h : s.Good P) : (s.run P calls).Good P := by
  induction calls generalizing s with
  | nil => exact h
  | cons c calls ih => exact ih (h.call hsha c)

end

end ReCasaOS.OAuth
