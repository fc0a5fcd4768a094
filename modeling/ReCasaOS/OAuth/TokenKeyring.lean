/-
# Sealed refresh tokens

`pkg/oauthsecurity/tokenstore.go`. A keyring holds up to eight keys, of which the active one seals.
A sealed token is the envelope

    RCOAUTH1 | 1 | key id (16) | nonce (24) | ciphertext

and the provider, the principal and the key id are associated data of the encryption. The keyring
remembers which envelopes were revoked, by their digests.

The cipher is an ideal one. `opens` looks a ciphertext up among the envelopes that were handed out,
and finds it if it was sealed with exactly this key, nonce and associated data. An envelope that
`RotateToken` makes and clears again, because it cannot revoke the old one, was never handed out:
nobody can present it.

Errors of the random source come from its end: it is the byte string that it delivers.
-/
import ReCasaOS.Lib.Aead
import ReCasaOS.OAuth.StateStore

namespace ReCasaOS.OAuth

open Lib List

/-! ## 1. The keyring -/

def maxTokenKeys : Nat := 8

def maxRevocations : Nat := 8192

def maxPrincipalID : Int := 2147483647

def maxTokenFieldBytes : Nat := 4096

abbrev TokenKeyID := Arr 16
abbrev TokenKey := Arr 32

inductive TokenError
  | invalidTokenEnvelope
  | unknownTokenKey
  | revokedToken
  deriving DecidableEq, Repr

/-- `tokenKeyringState`, without its lock. -/
structure TokenKeyring (δ : Type) where
  keys : NameTable TokenKeyID TokenKey
  active : TokenKeyID
  order : List TokenKeyID
  revoked : List δ

/-- The functions that the keyring is built on. -/
structure TokenPrimitives (δ : Type) where
  /-- `Seal` of XChaCha20-Poly1305: key, nonce, plaintext and associated data. -/
  encrypt : TokenKey → Bytes → Bytes → Bytes → Bytes
  deriveTokenKeyID : TokenKey → TokenKeyID
  sha256 : Bytes → δ

section

variable {δ : Type} (P : TokenPrimitives δ)

namespace TokenKeyring

/-- `for len(order) > maxTokenKeys`. -/
def evict (active : TokenKeyID) : NameTable TokenKeyID TokenKey → List TokenKeyID →
    NameTable TokenKeyID TokenKey × List TokenKeyID
  | keys, [] => (keys, [])
  | keys, victim :: order =>
    if maxTokenKeys < (victim :: order).length then
      evict active (if victim ≠ active then keys.erase victim else keys) order
    else (keys, victim :: order)

/-- A new key is active and the last in the order. -/
def activate (k : TokenKeyring δ) (id : TokenKeyID) (material : TokenKey) : TokenKeyring δ :=
  let kept := evict id (k.keys.insert id material) (k.order ++ [id])
  { k with keys := kept.1, active := id, order := kept.2 }

/-- The loop of `rotateKey`, with the attempts that are left. -/
def drawKey (k : TokenKeyring δ) : (attempts : Nat) → (random : Bytes) →
    Except TokenError (TokenKeyID × TokenKeyring δ)
  | 0, _ => .error .invalidTokenEnvelope
  | attempts + 1, random => do
    let (buffer, random) ← orError (readFull 32 random) .invalidTokenEnvelope
    let material := toArr 32 buffer
    let id := P.deriveTokenKeyID material
    if material = zeroArr 32 then drawKey k attempts random
    else if (k.keys.lookup id).isSome then drawKey k attempts random
    else .ok (id, k.activate id material)

def rotateKey (k : TokenKeyring δ) (random : Bytes) : Except TokenError (TokenKeyID × TokenKeyring δ) :=
  k.drawKey P 4 random

def new (random : Bytes) : Except TokenError (TokenKeyring δ) := do
  let (_, ring) ← rotateKey P ⟨∅, zeroArr 16, [], []⟩ random
  pure ring

def addRetainedKey (k : TokenKeyring δ) (id : TokenKeyID) (material : TokenKey) :
    Except TokenError (TokenKeyring δ) := do
  check (id = zeroArr 16 ∨ material = zeroArr 32) .invalidTokenEnvelope
  check ((k.keys.lookup id).isSome) .invalidTokenEnvelope
  check (maxTokenKeys ≤ k.keys.size) .invalidTokenEnvelope
  pure { k with keys := k.keys.insert id material, order := k.order ++ [id] }

end TokenKeyring

/-! ## 2. Envelopes and associated data -/

/-- `RCOAUTH1`. -/
def tokenEnvelopeMagic : Bytes := [82, 67, 79, 65, 85, 84, 72, 49]

/-- `RCOAUAAD`. -/
def tokenAADMagic : Bytes := [82, 67, 79, 65, 85, 65, 65, 68]

/-- Magic, version, key id and nonce. -/
def tokenHeaderSize : Nat := 8 + 1 + 16 + 24

structure ParsedTokenEnvelope where
  keyID : TokenKeyID
  nonce : Bytes
  ciphertext : Bytes
  deriving DecidableEq

/-- The format. -/
def ParsedTokenEnvelope.bytes (p : ParsedTokenEnvelope) : Bytes :=
  tokenEnvelopeMagic ++ 1 :: (p.keyID.1 ++ (p.nonce ++ p.ciphertext))

def parseTokenEnvelope (envelope : Bytes) : Except TokenError ParsedTokenEnvelope := do
  check (envelope.length < tokenHeaderSize + 16 + 1
    ∨ tokenHeaderSize + maxTokenFieldBytes + 16 < envelope.length) .invalidTokenEnvelope
  check (slice envelope 0 8 ≠ tokenEnvelopeMagic ∨ envelope.getD 8 0 ≠ 1) .invalidTokenEnvelope
  pure ⟨toArr 16 (slice envelope 9 25), slice envelope 25 49, envelope.drop 49⟩

/-- The binding of a token to a provider and a principal. -/
def validBinding (provider : Bytes) (principalID : Int) : Bool :=
  validProviderName provider && decide (1 ≤ principalID ∧ principalID ≤ maxPrincipalID)

def tokenAAD (provider : Bytes) (principalID : Int) (keyID : TokenKeyID) : Except TokenError Bytes := do
  check (validBinding provider principalID = false) .invalidTokenEnvelope
  pure (tokenAADMagic ++ 1 :: (lengthPrefixed provider ++ (putUint64 principalID.toNat ++ keyID.1)))

def validTokenField (value : Bytes) : Bool :=
  decide (value ≠ [] ∧ value.length ≤ maxTokenFieldBytes)
    && value.all fun b => 0x21 ≤ b && b ≤ 0x7E

/-! ## 3. Sealing and opening -/

/-- A sealed token: the key it was sealed with, and the call of the cipher. -/
structure SealedToken where
  keyID : TokenKeyID
  sealing : Sealing TokenKey
  deriving DecidableEq

def SealedToken.envelope (t : SealedToken) : Bytes :=
  ParsedTokenEnvelope.bytes ⟨t.keyID, t.sealing.nonce, t.sealing.ciphertext⟩

/-- An envelope that was handed out. Of two that come from one `Seal` by rotation, the `lineage` is
the same. -/
structure Issue extends SealedToken where
  provider : Bytes
  principalID : Int
  lineage : Nat
  deriving DecidableEq

abbrev Issue.token (i : Issue) : Bytes := i.sealing.plaintext

/-- The ideal cipher: what was sealed with this key, nonce and associated data. -/
def opens (issued : List Issue) (key : TokenKey) (nonce ciphertext aad : Bytes) : Option Issue :=
  issued.find? fun i => decide (i.sealing.key = key ∧ i.sealing.nonce = nonce
    ∧ i.sealing.ciphertext = ciphertext ∧ i.sealing.aad = aad)

variable [DecidableEq δ] (k : TokenKeyring δ) (issued : List Issue) (provider : Bytes)
  (principalID : Int)

def TokenKeyring.sealLocked (refresh random : Bytes) : Except TokenError SealedToken := do
  let (nonce, _) ← orError (readFull 24 random) .invalidTokenEnvelope
  let key ← orError (k.keys.lookup k.active) .unknownTokenKey
  let aad ← tokenAAD provider principalID k.active
  pure ⟨k.active, ⟨key, nonce, refresh, aad, P.encrypt key nonce refresh aad⟩⟩

def TokenKeyring.seal (refresh random : Bytes) : Except TokenError SealedToken := do
  check (validBinding provider principalID = false) .invalidTokenEnvelope
  check (refresh.length < 1 ∨ maxTokenFieldBytes < refresh.length ∨ validTokenField refresh = false)
    .invalidTokenEnvelope
  k.sealLocked P provider principalID refresh random

def TokenKeyring.openLocked (envelope : Bytes) : Except TokenError Issue := do
  check (validBinding provider principalID = false) .invalidTokenEnvelope
  let parsed ← parseTokenEnvelope envelope
  check (P.sha256 envelope ∈ k.revoked) .revokedToken
  let key ← orError (k.keys.lookup parsed.keyID) .unknownTokenKey
  let aad ← tokenAAD provider principalID parsed.keyID
  orError (opens issued key parsed.nonce parsed.ciphertext aad) .invalidTokenEnvelope

def TokenKeyring.open (envelope : Bytes) : Except TokenError Bytes :=
  (k.openLocked P issued provider principalID envelope).map Issue.token

/-- `k.state.revoked[digest] = struct{}{}`, if there is room. -/
def TokenKeyring.retire (envelope : Bytes) : Except TokenError (TokenKeyring δ) := do
  check (maxRevocations ≤ k.revoked.length) .invalidTokenEnvelope
  pure { k with revoked := P.sha256 envelope :: k.revoked }

def TokenKeyring.revoke (envelope : Bytes) : Except TokenError (TokenKeyring δ) :=
  match k.openLocked P issued provider principalID envelope with
  | .error err => if err = .revokedToken then .ok k else .error err
  | .ok _ => k.retire P envelope

/-- The new envelope, with the lineage of the old one, and the keyring that has revoked the old one. -/
def TokenKeyring.rotateToken (envelope random : Bytes) : Except TokenError (Issue × TokenKeyring δ) := do
  let opened ← k.openLocked P issued provider principalID envelope
  let resealed ← k.sealLocked P provider principalID opened.token random
  let ring ← k.retire P envelope
  pure (⟨resealed, provider, principalID, opened.lineage⟩, ring)

end

/-! ## 4. The formats are unambiguous -/

/-- The lengths that the format allows. -/
structure ParsedTokenEnvelope.Fits (p : ParsedTokenEnvelope) : Prop where
  nonce : p.nonce.length = 24
  ciphertext : 17 ≤ p.ciphertext.length ∧ p.ciphertext.length ≤ 4112

variable {p : ParsedTokenEnvelope}
variable {envelope provider : Bytes}

/-- The checks of `parseTokenEnvelope` with the offsets computed. -/
lemma parseTokenEnvelope_eq : parseTokenEnvelope envelope = .ok p ↔
      (66 ≤ envelope.length ∧ envelope.length ≤ 4161) ∧
      (slice envelope 0 8 = tokenEnvelopeMagic ∧ envelope.getD 8 0 = 1) ∧
      p = ⟨toArr 16 (slice envelope 9 25), slice envelope 25 49, envelope.drop 49⟩ := by
  rw [parseTokenEnvelope, check_bind_eq_ok, check_bind_eq_ok, pure_eq_ok]
  simp only [not_or, not_not, not_lt, eq_comm (a := p)]
  rfl

lemma parseTokenEnvelope_fields (h : parseTokenEnvelope envelope = .ok p) :
    p.Fits ∧ envelope = p.bytes := by
  obtain ⟨⟨hmin, hmax⟩, ⟨hmag, hver⟩, rfl⟩ := parseTokenEnvelope_eq.mp h
  have hid : (toArr 16 (slice envelope 9 25)).1 = slice envelope 9 25 :=
    toArr_val (length_slice (by omega))
  have hflds : envelope.drop 9
      = slice envelope 9 25 ++ (slice envelope 25 49 ++ envelope.drop 49) := by
    rw [← drop_eq_slice_append (by omega), ← drop_eq_slice_append (by omega)]
  refine ⟨⟨length_slice (by omega), ?_⟩, ?_⟩
  · dsimp only
    rw [length_drop]
    omega
  · calc envelope = slice envelope 0 8 ++ envelope.drop 8 := drop_eq_slice_append (Nat.zero_le 8)
      _ = tokenEnvelopeMagic ++ 1 :: envelope.drop 9 := by
        rw [hmag, drop_eq_getD_cons (by omega), hver]
      _ = _ := by rw [hflds, ParsedTokenEnvelope.bytes, hid]

lemma parseTokenEnvelope_bytes (hft : p.Fits) : parseTokenEnvelope p.bytes = .ok p := by
  obtain ⟨hmin, hmax⟩ := hft.ciphertext
  obtain ⟨data, hda⟩ : ∃ data, p.bytes = data := ⟨_, rfl⟩
  have hlen : data.length = 49 + p.ciphertext.length := by
    rw [← hda]
    simp only [ParsedTokenEnvelope.bytes, tokenEnvelopeMagic, length_append, length_cons,
      length_nil, length_arr, hft.nonce]
    omega
  have hdr9 : data.drop 9 = p.keyID.1 ++ (p.nonce ++ p.ciphertext) := by
    rw [← hda]
    rfl
  have hdr25 : data.drop 25 = p.nonce ++ p.ciphertext := drop_of_drop hdr9 (by simp)
  have hdr49 : data.drop 49 = p.ciphertext := drop_of_drop hdr25 (by simp [hft.nonce])
  rw [hda, parseTokenEnvelope_eq, hdr49, slice_of_drop hdr9 (by simp), toArr_arr,
    slice_of_drop hdr25 (by simp [hft.nonce])]
  refine ⟨by omega, ⟨?_, ?_⟩, rfl⟩ <;> rw [← hda] <;> rfl

/-- **An envelope parses to the fields that it is made of.** -/
theorem parseTokenEnvelope_eq_ok :
    parseTokenEnvelope envelope = .ok p ↔ p.Fits ∧ envelope = p.bytes := by
  constructor
  · exact parseTokenEnvelope_fields
  · rintro ⟨hft, rfl⟩
    exact parseTokenEnvelope_bytes hft

variable {principalID : Int}

lemma validBinding_iff : validBinding provider principalID ↔
      validProviderName provider ∧ 1 ≤ principalID ∧ principalID ≤ maxPrincipalID := by
  rw [validBinding, Bool.and_eq_true, decide_eq_true_eq]

lemma length_of_validProviderName (h : validProviderName provider) : provider.length ≤ 32 := by
  simp only [validProviderName, Bool.and_eq_true, decide_eq_true_eq] at h
  exact h.1.1.1.2

lemma tokenAAD_eq_ok {aad : Bytes} {keyID : TokenKeyID} :
    tokenAAD provider principalID keyID = .ok aad ↔ validBinding provider principalID ∧
      aad = tokenAADMagic ++ 1 :: (lengthPrefixed provider
        ++ (putUint64 principalID.toNat ++ keyID.1)) := by
  rw [tokenAAD, check_bind_eq_ok, pure_eq_ok, Bool.not_eq_false, eq_comm (b := aad)]

/-- **The associated data name the provider, the principal and the key.** -/
theorem tokenAAD_inj {provider' aad : Bytes} {principalID' : Int}
    {keyID keyID' : TokenKeyID} (h : tokenAAD provider principalID keyID = .ok aad)
    (h' : tokenAAD provider' principalID' keyID' = .ok aad) :
    provider = provider' ∧ principalID = principalID' ∧ keyID = keyID' := by
  obtain ⟨hbdg, haad⟩ := tokenAAD_eq_ok.mp h
  obtain ⟨hbdg', haad'⟩ := tokenAAD_eq_ok.mp h'
  obtain ⟨hnm, hlow, hhigh⟩ := validBinding_iff.mp hbdg
  obtain ⟨hnm', hlow', hhigh'⟩ := validBinding_iff.mp hbdg'
  have hrs := append_cancel_left (haad.symm.trans haad')
  have hlen := length_of_validProviderName hnm
  have hlen' := length_of_validProviderName hnm'
  obtain ⟨hprov, hrs⟩ := lengthPrefixed_append_inj (cons.inj hrs).2 (by omega) (by omega)
  obtain ⟨hnumber, hkey⟩ := append_inj hrs (by simp)
  unfold maxPrincipalID at hhigh hhigh'
  have hrd := congrArg (fun field => uint64 (field ++ [])) hnumber
  rw [uint64_putUint64 (by omega), uint64_putUint64 (by omega)] at hrd
  exact ⟨hprov, by omega, Subtype.ext hkey⟩

end ReCasaOS.OAuth
