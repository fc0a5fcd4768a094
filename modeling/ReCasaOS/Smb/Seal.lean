/-
# Sealing, opening and rewrapping a password

The four operations of `pkg/smbcredentials/envelope.go` on a keyring: `seal`, `Open`, `rewrap`
and `EnvelopeKeyID`. The random source of `seal` and `rewrap` is the byte string it delivers
before it fails.
Each has one lemma, named `.._eq_ok`, on the parsed fields of the envelope.
-/
import ReCasaOS.Smb.Envelope

namespace ReCasaOS.Smb

open Lib

/-! ## 1. The operations -/

def encodeKeyID (id : KeyID) : Bytes := hexEncode id.1

section

variable (P : Primitives)

/-- `ActiveID`, empty for an invalid keyring. -/
def Keyring.activeID (k : Keyring) : Bytes :=
  if k.validateLocked P.deriveKeyID then encodeKeyID k.active else []

/-- `k.state.keys[k.state.active]`: a missing entry reads as the zero key. -/
def Keyring.activeKey (k : Keyring) : KeyMaterial := (k.keys.lookup k.active).getD (zeroArr 32)

def Keyring.seal (k : Keyring) (context : Context) (password random : Bytes) :
    Except EnvelopeError Bytes := do
  check (maxPasswordBytes < password.length) .invalidEnvelope
  let (dek, random) ← orError (readFull keySize random) .invalidEnvelope
  let (wrapNonce, random) ← orError (readFull nonceSizeX random) .invalidEnvelope
  let (dataNonce, _) ← orError (readFull nonceSizeX random) .invalidEnvelope
  check (k.validateLocked P.deriveKeyID = false) .invalidEnvelope
  let dataAAD ← contextAAD P context aadPurposePassword (zeroArr 32)
  let wrapAAD ← contextAAD P context aadPurposeWrappedDEK k.active
  let wrappedDEK := P.aead.encrypt k.activeKey wrapNonce dek wrapAAD
  let ciphertext := P.aead.encrypt (toArr 32 dek) dataNonce password dataAAD
  marshalEnvelope k.active wrapNonce wrappedDEK dataNonce ciphertext

/-- The outer layer: the data key of an envelope. `openLocked` and `rewrap` both do this. -/
def Keyring.unwrapDEK (k : Keyring) (context : Context) (parsed : ParsedEnvelope) :
    Except EnvelopeError KeyMaterial := do
  let key ← orError (k.keys.lookup parsed.keyID) .unknownKey
  let wrapAAD ← contextAAD P context aadPurposeWrappedDEK parsed.keyID
  let dek ← orError (P.aead.decrypt key parsed.wrapNonce parsed.wrappedDEK wrapAAD)
    .authentication
  check (dek.length ≠ keySize) .authentication
  pure (toArr 32 dek)

def Keyring.openLocked (k : Keyring) (context : Context) (envelope : Bytes) :
    Except EnvelopeError Bytes := do
  let parsed ← parseEnvelope envelope
  let dek ← k.unwrapDEK P context parsed
  let dataAAD ← contextAAD P context aadPurposePassword (zeroArr 32)
  let plaintext ← orError (P.aead.decrypt dek parsed.dataNonce parsed.ciphertext dataAAD)
    .authentication
  check (maxPasswordBytes < plaintext.length) .authentication
  pure plaintext

def Keyring.open (k : Keyring) (context : Context) (envelope : Bytes) :
    Except EnvelopeError Bytes := do
  check (validEnvelopeLength envelope = false) .invalidEnvelope
  check (k.validateLocked P.deriveKeyID = false) .invalidEnvelope
  k.openLocked P context envelope

/-- `rewrap`. The lock is released while the nonce is read and the keyring is validated again
after that; nothing but `Destroy` changes a keyring, so both validations see the same state. -/
def Keyring.rewrap (k : Keyring) (context : Context) (envelope random : Bytes) :
    Except EnvelopeError Bytes := do
  check (validEnvelopeLength envelope = false) .invalidEnvelope
  let parsed ← parseEnvelope envelope
  check (k.validateLocked P.deriveKeyID = false) .invalidEnvelope
  if parsed.keyID = k.active then
    let _ ← k.openLocked P context envelope
    pure envelope
  else
    let (newNonce, _) ← orError (readFull nonceSizeX random) .invalidEnvelope
    check (k.validateLocked P.deriveKeyID = false) .invalidEnvelope
    let _ ← k.openLocked P context envelope
    let dek ← k.unwrapDEK P context parsed
    let newAAD ← contextAAD P context aadPurposeWrappedDEK k.active
    let wrappedDEK := P.aead.encrypt k.activeKey newNonce dek.1 newAAD
    marshalEnvelope k.active newNonce wrappedDEK parsed.dataNonce parsed.ciphertext

def Keyring.envelopeKeyID (k : Keyring) (context : Context) (envelope : Bytes) :
    Except EnvelopeError Bytes := do
  check (validEnvelopeLength envelope = false) .invalidEnvelope
  let _ ← k.open P context envelope
  let parsed ← parseEnvelope envelope
  pure (encodeKeyID parsed.keyID)

/-! ## 2. When the operations succeed -/

/-- The fields of an envelope sealed by `k`. -/
def sealedFields (k : Keyring) (context : Context) (parsedID : Arr 16) (dek : KeyMaterial)
    (wrapNonce dataNonce password : Bytes) : ParsedEnvelope where
  keyID := k.active
  wrapNonce := wrapNonce
  wrappedDEK := P.aead.encrypt k.activeKey wrapNonce dek.1
    (aadBytes context parsedID aadPurposeWrappedDEK k.active)
  dataNonce := dataNonce
  ciphertext := P.aead.encrypt dek dataNonce password
    (aadBytes context parsedID aadPurposePassword (zeroArr 32))

/-- The fields of an envelope rewrapped by `k`: the inner layer of `parsed` is kept. -/
def rewrappedFields (k : Keyring) (context : Context) (parsedID : Arr 16) (dek : KeyMaterial)
    (newNonce : Bytes) (parsed : ParsedEnvelope) : ParsedEnvelope :=
  { parsed with
    keyID := k.active
    wrapNonce := newNonce
    wrappedDEK := P.aead.encrypt k.activeKey newNonce dek.1
      (aadBytes context parsedID aadPurposeWrappedDEK k.active) }

variable {P} {k : Keyring} {context : Context}

lemma validEnvelopeLength_of_parse {data : Bytes} {p : ParsedEnvelope}
    (h : parseEnvelope data = .ok p) : validEnvelopeLength data := by
  obtain ⟨⟨hmin, hmax, -⟩, -⟩ := (parseEnvelope_eq data p).mp h
  rw [validEnvelopeLength, Bool.and_eq_true, decide_eq_true_eq, decide_eq_true_eq]
  exact ⟨hmin, hmax⟩

lemma wrapAAD_eq_ok {id : KeyID} {aad : Bytes} :
    contextAAD P context aadPurposeWrappedDEK id = .ok aad ↔
      ∃ parsedID, context.Accepted P parsedID ∧
        aad = aadBytes context parsedID aadPurposeWrappedDEK id := by
  simp [contextAAD_eq_ok]

lemma dataAAD_eq_ok {aad : Bytes} :
    contextAAD P context aadPurposePassword (zeroArr 32) = .ok aad ↔ ∃ id, context.Accepted P id ∧
        aad = aadBytes context id aadPurposePassword (zeroArr 32) := by
  simp [contextAAD_eq_ok]

variable {envelope : Bytes}

lemma seal_eq_ok {pwd rnd : Bytes} : k.seal P context pwd rnd = .ok envelope ↔
      pwd.length ≤ 1024 ∧ k.validateLocked P.deriveKeyID ∧
      ∃ (dek : KeyMaterial) (wrapNonce dataNonce rest : Bytes) (id : Arr 16),
        rnd = dek.1 ++ (wrapNonce ++ (dataNonce ++ rest)) ∧ wrapNonce.length = 24 ∧
        dataNonce.length = 24 ∧ context.Accepted P id ∧
        (sealedFields P k context id dek wrapNonce dataNonce pwd).Fits ∧
        envelope = (sealedFields P k context id dek wrapNonce dataNonce pwd).bytes := by
  unfold Keyring.seal
  simp only [bind_eq_ok, check_eq_ok, exists_const, orError_eq_ok, Prod.exists, readFull_eq_some,
    wrapAAD_eq_ok, dataAAD_eq_ok, not_lt, Bool.not_eq_false]
  constructor
  · rintro ⟨hlen, dek, _, ⟨rfl, hdek⟩, wrapNonce, _, ⟨rfl, hwrap⟩, dataNonce, rest, ⟨rfl, hda⟩,
      hv, _, ⟨id, hacc, rfl⟩, _, ⟨id', hacc', rfl⟩, h⟩
    obtain rfl := hacc.unique hacc'
    have hdek' : (toArr 32 dek).1 = dek := toArr_val hdek
    refine ⟨hlen, hv, toArr 32 dek, wrapNonce, dataNonce, rest, id, by rw [hdek'],
      hwrap, hda, hacc, ?_⟩
    refine (marshalEnvelope_eq_ok
      (p := sealedFields P k context id (toArr 32 dek) wrapNonce dataNonce pwd)).mp ?_
    rw [← h, sealedFields, hdek']
  · rintro ⟨hlen, hv, dek, wrapNonce, dataNonce, rest, id, rfl, hwrap, hda, hacc, h⟩
    refine ⟨hlen, dek.1, _, ⟨rfl, dek.2⟩, wrapNonce, _, ⟨rfl, hwrap⟩, dataNonce, rest, ⟨rfl, hda⟩,
      hv, _, ⟨id, hacc, rfl⟩, _, ⟨id, hacc, rfl⟩, ?_⟩
    rw [toArr_arr]
    exact marshalEnvelope_eq_ok.mpr h

lemma unwrapDEK_eq_ok {p : ParsedEnvelope} {dek : KeyMaterial} : k.unwrapDEK P context p = .ok dek ↔
      ∃ key id, k.keys.lookup p.keyID = some key ∧ context.Accepted P id ∧
        P.aead.decrypt key p.wrapNonce p.wrappedDEK
          (aadBytes context id aadPurposeWrappedDEK p.keyID) = some dek.1 := by
  unfold Keyring.unwrapDEK
  simp only [bind_eq_ok, check_eq_ok, exists_const, orError_eq_ok, wrapAAD_eq_ok, pure_eq_ok, not_not]
  constructor
  · rintro ⟨key, hkey, _, ⟨id, hacc, rfl⟩, dek, hop, hlen, rfl⟩
    have hdek : (toArr 32 dek).1 = dek := toArr_val hlen
    exact ⟨key, id, hkey, hacc, by rw [hop, hdek]⟩
  · rintro ⟨key, id, hkey, hacc, hop⟩
    exact ⟨key, hkey, _, ⟨id, hacc, rfl⟩, dek.1, hop, dek.2, toArr_arr dek⟩

lemma openLocked_eq_ok {password : Bytes} : k.openLocked P context envelope = .ok password ↔
      ∃ p dek id, parseEnvelope envelope = .ok p ∧ k.unwrapDEK P context p = .ok dek ∧
        context.Accepted P id ∧ password.length ≤ 1024 ∧
        P.aead.decrypt dek p.dataNonce p.ciphertext
          (aadBytes context id aadPurposePassword (zeroArr 32)) = some password := by
  unfold Keyring.openLocked
  simp only [bind_eq_ok, check_eq_ok, exists_const, orError_eq_ok, dataAAD_eq_ok, pure_eq_ok, not_lt]
  constructor
  · rintro ⟨p, hprs, dek, hdek, _, ⟨id, hacc, rfl⟩, _, hop, hlen, rfl⟩
    exact ⟨p, dek, id, hprs, hdek, hacc, hlen, hop⟩
  · rintro ⟨p, dek, id, hprs, hdek, hacc, hlen, hop⟩
    exact ⟨p, hprs, dek, hdek, _, ⟨id, hacc, rfl⟩, password, hop, hlen, rfl⟩

lemma open_eq_ok {password : Bytes} : k.open P context envelope = .ok password ↔
      k.validateLocked P.deriveKeyID ∧ k.openLocked P context envelope = .ok password := by
  unfold Keyring.open
  simp only [bind_eq_ok, check_eq_ok, exists_const, Bool.not_eq_false]
  constructor
  · exact fun h => h.2
  · rintro ⟨hv, hop⟩
    obtain ⟨p, -, -, hprs, -⟩ := openLocked_eq_ok.mp hop
    exact ⟨validEnvelopeLength_of_parse hprs, hv, hop⟩

lemma envelopeKeyID_eq_ok {text : Bytes} : k.envelopeKeyID P context envelope = .ok text ↔
      ∃ pwd p, k.open P context envelope = .ok pwd ∧ parseEnvelope envelope = .ok p ∧
        text = encodeKeyID p.keyID := by
  unfold Keyring.envelopeKeyID
  simp only [bind_eq_ok, check_eq_ok, exists_const, pure_eq_ok, Bool.not_eq_false]
  constructor
  · rintro ⟨-, pwd, hop, p, hprs, rfl⟩
    exact ⟨pwd, p, hop, hprs, rfl⟩
  · rintro ⟨pwd, p, hop, hprs, rfl⟩
    exact ⟨validEnvelopeLength_of_parse hprs, pwd, hop, p, hprs, rfl⟩

/-- **When `rewrap` succeeds.** An envelope already under the active key is returned as it is;
any other one is authenticated and its data key wrapped again. -/
theorem rewrap_eq_ok {rnd result : Bytes} : k.rewrap P context envelope rnd = .ok result ↔
      k.validateLocked P.deriveKeyID ∧
      ∃ p pwd, parseEnvelope envelope = .ok p ∧ k.openLocked P context envelope = .ok pwd ∧
        (p.keyID = k.active ∧ result = envelope ∨ p.keyID ≠ k.active ∧ ∃ newNonce rest dek id,
            rnd = newNonce ++ rest ∧ newNonce.length = 24 ∧
            k.unwrapDEK P context p = .ok dek ∧ context.Accepted P id ∧
            (rewrappedFields P k context id dek newNonce p).Fits ∧
            result = (rewrappedFields P k context id dek newNonce p).bytes) := by
  unfold Keyring.rewrap
  simp only [bind_eq_ok, check_eq_ok, exists_const, Bool.not_eq_false]
  constructor
  · rintro ⟨-, p, hprs, hv, h⟩
    refine ⟨hv, p, ?_⟩
    split at h
    next hact =>
      simp only [bind_eq_ok, pure_eq_ok] at h
      obtain ⟨pwd, hop, rfl⟩ := h
      exact ⟨pwd, hprs, hop, .inl ⟨hact, rfl⟩⟩
    next hoth =>
      simp only [bind_eq_ok, check_eq_ok, exists_const, orError_eq_ok, Prod.exists, readFull_eq_some,
        wrapAAD_eq_ok] at h
      obtain ⟨newNonce, rest, ⟨rfl, hnon⟩, -, pwd, hop, dek, hdek, _, ⟨id, hacc, rfl⟩, h⟩ := h
      exact ⟨pwd, hprs, hop, .inr ⟨hoth, newNonce, rest, dek, id, rfl, hnon,
        hdek, hacc, marshalEnvelope_eq_ok.mp h⟩⟩
  · rintro ⟨hv, p, pwd, hprs, hop, h⟩
    refine ⟨validEnvelopeLength_of_parse hprs, p, hprs, hv, ?_⟩
    rcases h with ⟨hact, rfl⟩ | ⟨hoth, newNonce, rest, dek, id, rfl, hnon, hdek, hacc, h⟩
    · rw [if_pos hact]
      simp only [bind_eq_ok, pure_eq_ok]
      exact ⟨pwd, hop, trivial⟩
    · rw [if_neg hoth]
      simp only [bind_eq_ok, check_eq_ok, exists_const, orError_eq_ok, Prod.exists, readFull_eq_some,
        wrapAAD_eq_ok, Bool.not_eq_false]
      exact ⟨newNonce, rest, ⟨rfl, hnon⟩, hv, pwd, hop, dek, hdek, _,
        ⟨id, hacc, rfl⟩, marshalEnvelope_eq_ok.mpr h⟩

end

end ReCasaOS.Smb
