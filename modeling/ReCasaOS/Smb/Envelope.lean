/-
# The SMB credential envelope

`pkg/smbcredentials/envelope.go`. An envelope carries a password in two encrypted layers: a
random data key (DEK) encrypts the password, and a key of the keyring encrypts the data key.
Both layers are bound to the row they belong to by their associated data.

The format `RCSMBENV` v1 is

    magic (8) | 1 | 1 | 0 0 | key id (32) | wrap nonce (24) | wrapped DEK (48)
              | data nonce (24) | length (2) | ciphertext (16 .. 1040)

The cipher, SHA-256 and the UUID text functions are the fields of `Primitives`. Clearing of
buffers has no counterpart here.
-/
import ReCasaOS.Lib.Aead
import ReCasaOS.Lib.Result
import ReCasaOS.Lib.Utf8
import ReCasaOS.Smb.Keyring

namespace ReCasaOS.Smb

open Lib List

/-! ## 1. The data model -/

/-- What the package takes from its libraries. -/
structure Primitives where
  /-- `sha256.Sum256`, as a key id. -/
  deriveKeyID : KeyMaterial → KeyID
  /-- XChaCha20-Poly1305. -/
  aead : Aead KeyMaterial
  /-- `uuid.Parse`. -/
  uuidParse : Bytes → Option (Arr 16)
  /-- `UUID.String`. -/
  uuidString : Arr 16 → Bytes

def nonceSizeX : Nat := 24
def overhead : Nat := 16
def maxPasswordBytes : Nat := 1024
def maxDirectoriesBytes : Nat := 16384

def envelopeFixedSize : Nat :=
  8 + 1 + 1 + 2 + keyIDSize + nonceSizeX + (keySize + overhead) + nonceSizeX + 2

def minEnvelopeBytes : Nat := envelopeFixedSize + overhead
def maxEnvelopeBytes : Nat := envelopeFixedSize + maxPasswordBytes + overhead

def aadPurposeWrappedDEK : UInt8 := 1
def aadPurposePassword : UInt8 := 2

/-- `RCSMBENV`. -/
def envelopeMagic : Bytes := [82, 67, 83, 77, 66, 69, 78, 86]

/-- `RCSMBAAD`. -/
def aadMagic : Bytes := [82, 67, 83, 77, 66, 65, 65, 68]

inductive EnvelopeError
  | invalidEnvelope
  | unknownKey
  | authentication
  deriving DecidableEq, Repr

/-- The row an envelope belongs to. -/
structure Context where
  credentialID : Bytes
  username : Bytes
  host : Bytes
  port : Bytes
  directories : Bytes
  deriving DecidableEq

/-- The fields the associated data holds as text, in its order. -/
def Context.texts (c : Context) : List Bytes := [c.username, c.host, c.port, c.directories]

structure ParsedEnvelope where
  keyID : KeyID
  wrapNonce : Bytes
  wrappedDEK : Bytes
  dataNonce : Bytes
  ciphertext : Bytes
  deriving DecidableEq

/-! ## 2. The format -/

def validEnvelopeLength (data : Bytes) : Bool :=
  decide (minEnvelopeBytes ≤ data.length) && decide (data.length ≤ maxEnvelopeBytes)

def marshalEnvelope (id : KeyID) (wrapNonce wrappedDEK dataNonce ciphertext : Bytes) :
    Except EnvelopeError Bytes := do
  check (wrapNonce.length ≠ nonceSizeX ∨ wrappedDEK.length ≠ keySize + overhead
    ∨ dataNonce.length ≠ nonceSizeX ∨ ciphertext.length < overhead
    ∨ maxPasswordBytes + overhead < ciphertext.length) .invalidEnvelope
  pure (envelopeMagic ++ [1, 1, 0, 0] ++ id.1 ++ wrapNonce ++ wrappedDEK ++ dataNonce
    ++ putUint16 ciphertext.length ++ ciphertext)

def parseEnvelope (data : Bytes) : Except EnvelopeError ParsedEnvelope := do
  check (validEnvelopeLength data = false ∨ slice data 0 8 ≠ envelopeMagic
    ∨ data.getD 8 0 ≠ 1 ∨ data.getD 9 0 ≠ 1 ∨ data.getD 10 0 ≠ 0 ∨ data.getD 11 0 ≠ 0)
    .invalidEnvelope
  let keyID : KeyID := toArr 32 (slice data 12 (12 + keyIDSize))
  let offset := 12 + keyIDSize
  let wrapNonce := slice data offset (offset + nonceSizeX)
  let offset := offset + nonceSizeX
  let wrappedDEK := slice data offset (offset + keySize + overhead)
  let offset := offset + (keySize + overhead)
  let dataNonce := slice data offset (offset + nonceSizeX)
  let offset := offset + nonceSizeX
  let ciphertextLength := uint16 (slice data offset (offset + 2))
  let offset := offset + 2
  check (ciphertextLength < overhead ∨ maxPasswordBytes + overhead < ciphertextLength
    ∨ data.length ≠ offset + ciphertextLength) .invalidEnvelope
  pure ⟨keyID, wrapNonce, wrappedDEK, dataNonce, data.drop offset⟩

/-- The lengths of the fields of an envelope. -/
structure ParsedEnvelope.Fits (p : ParsedEnvelope) : Prop where
  wrapNonce : p.wrapNonce.length = 24
  wrappedDEK : p.wrappedDEK.length = 48
  dataNonce : p.dataNonce.length = 24
  ciphertextMin : 16 ≤ p.ciphertext.length
  ciphertextMax : p.ciphertext.length ≤ 1040

/-- The byte string of the fields. -/
def ParsedEnvelope.bytes (p : ParsedEnvelope) : Bytes :=
  envelopeMagic ++ (1 :: 1 :: 0 :: 0 :: (p.keyID.1 ++ (p.wrapNonce ++ (p.wrappedDEK
    ++ (p.dataNonce ++ (putUint16 p.ciphertext.length ++ p.ciphertext))))))

variable {p : ParsedEnvelope}
variable {data : Bytes}

lemma marshalEnvelope_eq_ok :
    marshalEnvelope p.keyID p.wrapNonce p.wrappedDEK p.dataNonce p.ciphertext = .ok data ↔
      p.Fits ∧ data = p.bytes := by
  rw [marshalEnvelope, check_bind_eq_ok, pure_eq_ok]
  simp only [nonceSizeX, keySize, overhead, maxPasswordBytes, not_or, not_not, not_lt]
  constructor
  · rintro ⟨⟨h1, h2, h3, h4, h5⟩, rfl⟩
    exact ⟨⟨h1, h2, h3, h4, h5⟩, by simp [ParsedEnvelope.bytes]⟩
  · rintro ⟨hft, rfl⟩
    exact ⟨⟨hft.wrapNonce, hft.wrappedDEK, hft.dataNonce, hft.ciphertextMin,
      hft.ciphertextMax⟩, by simp [ParsedEnvelope.bytes]⟩

/-- The checks of `parseEnvelope` with the offsets computed. -/
lemma parseEnvelope_eq (data : Bytes) (p : ParsedEnvelope) : parseEnvelope data = .ok p ↔
      (158 ≤ data.length ∧ data.length ≤ 1182 ∧ slice data 0 8 = envelopeMagic
        ∧ data.getD 8 0 = 1 ∧ data.getD 9 0 = 1 ∧ data.getD 10 0 = 0 ∧ data.getD 11 0 = 0) ∧
      (16 ≤ uint16 (slice data 140 142) ∧ uint16 (slice data 140 142) ≤ 1040
        ∧ data.length = 142 + uint16 (slice data 140 142)) ∧
      p = ⟨toArr 32 (slice data 12 44), slice data 44 68, slice data 68 116, slice data 116 140,
        data.drop 142⟩ := by
  have hlen : validEnvelopeLength data = false ↔ ¬ (158 ≤ data.length ∧ data.length ≤ 1182) := by
    rw [← Bool.not_eq_true, validEnvelopeLength, Bool.and_eq_true, decide_eq_true_eq,
      decide_eq_true_eq]
    rfl
  rw [parseEnvelope, check_bind_eq_ok, check_bind_eq_ok, pure_eq_ok, hlen]
  simp only [not_or, not_not, not_lt, and_assoc, eq_comm (a := p)]
  rfl

lemma parseEnvelope_fields (h : parseEnvelope data = .ok p) : p.Fits ∧ data = p.bytes := by
  rw [parseEnvelope_eq] at h
  obtain ⟨⟨hmin, hmax, hmag, h8, h9, h10, h11⟩, ⟨hlo, hhi, hexact⟩, rfl⟩ := h
  have hrs : (data.drop 142).length = uint16 (slice data 140 142) := by
    rw [length_drop]
    omega
  have hpre : putUint16 (data.drop 142).length = slice data 140 142 := by
    have h2 : (slice data 140 142).length = 2 := length_slice (by omega)
    rw [hrs, putUint16_uint16 (by omega), take_of_length_le (by omega)]
  refine ⟨⟨length_slice (by omega), length_slice (by omega), length_slice (by omega),
    by simpa [hrs] using hlo, by simpa [hrs] using hhi⟩, ?_⟩
  have hid : (toArr 32 (slice data 12 44)).1 = slice data 12 44 :=
    toArr_val (length_slice (by omega))
  have hflds : data.drop 12 = slice data 12 44 ++ (slice data 44 68 ++ (slice data 68 116
      ++ (slice data 116 140 ++ (slice data 140 142 ++ data.drop 142)))) := by
    rw [← drop_eq_slice_append (by omega), ← drop_eq_slice_append (by omega),
      ← drop_eq_slice_append (by omega), ← drop_eq_slice_append (by omega),
      ← drop_eq_slice_append (by omega)]
  have hfl : data.drop 8 = 1 :: 1 :: 0 :: 0 :: data.drop 12 := by
    rw [drop_eq_getD_cons (by omega), drop_eq_getD_cons (i := 9) (by omega),
      drop_eq_getD_cons (i := 10) (by omega), drop_eq_getD_cons (i := 11) (by omega), h8, h9, h10,
      h11]
  calc data = slice data 0 8 ++ data.drop 8 := drop_eq_slice_append (Nat.zero_le 8)
    _ = envelopeMagic ++ (1 :: 1 :: 0 :: 0 :: data.drop 12) := by rw [hmag, hfl]
    _ = _ := by rw [hflds, ParsedEnvelope.bytes, hid, hpre]

lemma ParsedEnvelope.Fits.length_bytes (hft : p.Fits) :
    p.bytes.length = 142 + p.ciphertext.length := by
  simp only [bytes, envelopeMagic, length_append, length_cons, length_nil,
    length_arr, length_putUint16, hft.wrapNonce, hft.wrappedDEK, hft.dataNonce]
  omega

lemma parseEnvelope_bytes (hft : p.Fits) : parseEnvelope p.bytes = .ok p := by
  obtain ⟨data, hda⟩ : ∃ data, p.bytes = data := ⟨_, rfl⟩
  have hlen : data.length = 142 + p.ciphertext.length := hda ▸ hft.length_bytes
  have hmin := hft.ciphertextMin
  have hmax := hft.ciphertextMax
  have hdr12 : data.drop 12 = p.keyID.1 ++ (p.wrapNonce ++ (p.wrappedDEK ++ (p.dataNonce
      ++ (putUint16 p.ciphertext.length ++ p.ciphertext)))) := by
    rw [← hda]
    rfl
  have hdr44 : data.drop 44 = _ := drop_of_drop hdr12 (by simp)
  have hdr68 : data.drop 68 = _ := drop_of_drop hdr44 (by simp [hft.wrapNonce])
  have hdr116 : data.drop 116 = _ := drop_of_drop hdr68 (by simp [hft.wrappedDEK])
  have hdr140 : data.drop 140 = _ := drop_of_drop hdr116 (by simp [hft.dataNonce])
  have hdr142 : data.drop 142 = p.ciphertext := drop_of_drop hdr140 (by simp)
  have hcnt : uint16 (slice data 140 142) = p.ciphertext.length := by
    rw [slice_of_drop hdr140 (by simp), ← append_nil (putUint16 _)]
    exact uint16_putUint16 (by omega) []
  rw [hda, parseEnvelope_eq, hcnt, hdr142, slice_of_drop hdr12 (by simp), toArr_arr,
    slice_of_drop hdr44 (by simp [hft.wrapNonce]),
    slice_of_drop hdr68 (by simp [hft.wrappedDEK]),
    slice_of_drop hdr116 (by simp [hft.dataNonce])]
  refine ⟨⟨by omega, by omega, ?_, ?_, ?_, ?_, ?_⟩, ⟨hmin, hmax, hlen⟩, rfl⟩ <;>
    rw [← hda] <;> rfl

/-- **Envelope v1 is canonical**: a byte string parses to the fields it is the encoding of. -/
theorem parseEnvelope_eq_ok : parseEnvelope data = .ok p ↔ p.Fits ∧ data = p.bytes := by
  constructor
  · exact parseEnvelope_fields
  · rintro ⟨hft, rfl⟩
    exact parseEnvelope_bytes hft

/-- What the format fixes about the bytes of an envelope; every other byte is free. -/
structure EnvelopeHeader (data : Bytes) : Prop where
  magic : slice data 0 8 = envelopeMagic
  version : data.getD 8 0 = 1
  algorithm : data.getD 9 0 = 1
  reserved : data.getD 10 0 = 0 ∧ data.getD 11 0 = 0
  /-- The ciphertext length is that of a password of at most 1,024 bytes with its tag. -/
  declared : 16 ≤ uint16 (slice data 140 142) ∧ uint16 (slice data 140 142) ≤ 1040
  /-- Nothing is missing and nothing follows. -/
  total : data.length = 142 + uint16 (slice data 140 142)

lemma parseEnvelope_header (h : parseEnvelope data = .ok p) : EnvelopeHeader data := by
  rw [parseEnvelope_eq] at h
  obtain ⟨⟨-, -, hmag, h8, h9, h10, h11⟩, ⟨hmin, hmax, htot⟩, -⟩ := h
  exact ⟨hmag, h8, h9, ⟨h10, h11⟩, ⟨hmin, hmax⟩, htot⟩

/-- **Envelope v1 is canonical, both ways.** Fields of the right lengths survive `marshalEnvelope`
and `parseEnvelope`; whatever `parseEnvelope` accepts is what `marshalEnvelope` makes of the
fields it returns; and bytes that deviate in the magic, the version, the algorithm, the reserved
bytes, the length field or the total length are refused. -/
theorem envelope_format_canonical :
    (∀ (id : KeyID) (wrapNonce wrappedDEK dataNonce ciphertext : Bytes),
      wrapNonce.length = 24 → wrappedDEK.length = 48 → dataNonce.length = 24 →
      16 ≤ ciphertext.length → ciphertext.length ≤ 1040 →
      ∃ data, marshalEnvelope id wrapNonce wrappedDEK dataNonce ciphertext = .ok data ∧
        parseEnvelope data = .ok ⟨id, wrapNonce, wrappedDEK, dataNonce, ciphertext⟩) ∧
    (∀ (data : Bytes) (p : ParsedEnvelope), parseEnvelope data = .ok p →
      marshalEnvelope p.keyID p.wrapNonce p.wrappedDEK p.dataNonce p.ciphertext = .ok data) ∧
    (∀ data : Bytes, ¬ EnvelopeHeader data → parseEnvelope data = .error .invalidEnvelope) := by
  refine ⟨?_, ?_, ?_⟩
  · intro id wrapNonce wrappedDEK dataNonce ciphertext hwrap hwrapped hdata hmin hmax
    let p : ParsedEnvelope := ⟨id, wrapNonce, wrappedDEK, dataNonce, ciphertext⟩
    have hfits : p.Fits := ⟨hwrap, hwrapped, hdata, hmin, hmax⟩
    exact ⟨p.bytes, marshalEnvelope_eq_ok.mpr ⟨hfits, rfl⟩, parseEnvelope_bytes hfits⟩
  · intro data p h
    exact marshalEnvelope_eq_ok.mpr (parseEnvelope_eq_ok.mp h)
  · intro data hheader
    have hfails : FailsWith (parseEnvelope data) .invalidEnvelope :=
      .check_bind (.check_bind (.pure _ _))
    refine hfails.eq_error ?_
    intro p h
    exact hheader (parseEnvelope_header h)

/-- The envelope of an empty password under nonces of zero bytes, and its first 157 bytes. -/
theorem envelope_format_canonical_empty : ∃ data, parseEnvelope data
        = .ok ⟨zeroArr 32, .replicate 24 0, .replicate 48 0, .replicate 24 0, .replicate 16 0⟩ ∧
      parseEnvelope (data.take 157) = .error .invalidEnvelope := by
  obtain ⟨hround, -, hrefused⟩ := envelope_format_canonical
  obtain ⟨data, -, hparse⟩ := hround (zeroArr 32) (.replicate 24 0) (.replicate 48 0)
    (.replicate 24 0) (.replicate 16 0) (by decide) (by decide) (by decide) (by decide) (by decide)
  refine ⟨data, hparse, hrefused _ ?_⟩
  intro hheader
  have hshort : (data.take 157).length ≤ 157 := length_take_le _ _
  have htotal := hheader.total
  have hdeclared := hheader.declared
  omega

/-! ## 3. The associated data -/

/-- `UUID.Version`. -/
def uuidVersion (id : Arr 16) : Nat := (id.1.getD 6 0).toNat / 16

/-- `UUID.Variant() == uuid.RFC4122`. -/
def uuidIsRFC4122 (id : Arr 16) : Bool := decide ((id.1.getD 8 0).toNat / 64 = 2)

def appendUint16 (destination : Bytes) (value : Nat) : Except EnvelopeError Bytes := do
  check (65535 < value) .invalidEnvelope
  pure (destination ++ putUint16 value)

/-- The loop that appends each text behind its length. -/
def appendTexts : Bytes → List Bytes → Except EnvelopeError Bytes
  | result, [] => .ok result
  | result, value :: values => do
    let result ← appendUint16 result value.length
    appendTexts (result ++ value) values

/-- The key id belongs to the associated data of the wrapped key, and to no other. -/
def appendKeyID (result : Bytes) (purpose : UInt8) (id : KeyID) : Except EnvelopeError Bytes :=
  if purpose = aadPurposeWrappedDEK then .ok (result ++ id.1)
  else if purpose ≠ aadPurposePassword then .error .invalidEnvelope
  else .ok result

/-- `445`. -/
def smbPort : Bytes := [52, 52, 53]

section

variable (P : Primitives)

def contextAAD (context : Context) (purpose : UInt8) (id : KeyID) : Except EnvelopeError Bytes := do
  let parsedID ← orError (P.uuidParse context.credentialID) .invalidEnvelope
  check (parsedID = zeroArr 16 ∨ uuidVersion parsedID ≠ 4 ∨ uuidIsRFC4122 parsedID = false
    ∨ P.uuidString parsedID ≠ context.credentialID
    ∨ context.username = [] ∨ 255 < context.username.length
    ∨ context.host = [] ∨ 255 < context.host.length ∨ context.port ≠ smbPort
    ∨ context.directories = [] ∨ maxDirectoriesBytes < context.directories.length)
    .invalidEnvelope
  check (context.texts.all validString = false) .invalidEnvelope
  let result ← appendKeyID (aadMagic ++ [1, purpose] ++ parsedID.1) purpose id
  appendTexts result context.texts

/-- The contexts `contextAAD` accepts, with the UUID it reads from them. -/
structure Context.Accepted (context : Context) (parsedID : Arr 16) : Prop where
  parse : P.uuidParse context.credentialID = some parsedID
  canonical : P.uuidString parsedID = context.credentialID
  notNil : parsedID ≠ zeroArr 16
  version : uuidVersion parsedID = 4
  variant : uuidIsRFC4122 parsedID
  username : context.username ≠ [] ∧ context.username.length ≤ 255
  host : context.host ≠ [] ∧ context.host.length ≤ 255
  port : context.port = smbPort
  directories : context.directories ≠ [] ∧ context.directories.length ≤ 16384
  utf8 : ∀ text ∈ context.texts, validString text

/-- The associated data of a layer. -/
def aadBytes (context : Context) (parsedID : Arr 16) (purpose : UInt8) (id : KeyID) : Bytes :=
  aadMagic ++ (1 :: purpose :: (parsedID.1
    ++ ((if purpose = aadPurposeWrappedDEK then id.1 else [])
    ++ context.texts.flatMap lengthPrefixed)))

variable {P}
variable {purpose : UInt8}

lemma appendKeyID_eq_ok {res data : Bytes} {id : KeyID} : appendKeyID res purpose id = .ok data ↔
      (purpose = aadPurposeWrappedDEK ∨ purpose = aadPurposePassword) ∧
        data = res ++ (if purpose = aadPurposeWrappedDEK then id.1 else []) := by
  unfold appendKeyID
  split
  · simp_all [eq_comm]
  · split <;> simp_all [eq_comm]

lemma appendTexts_eq_ok {values : List Bytes} :
    ∀ {res data : Bytes}, appendTexts res values = .ok data ↔
      (∀ value ∈ values, value.length ≤ 65535) ∧ data = res ++ values.flatMap lengthPrefixed := by
  induction values with
  | nil => simp [appendTexts, eq_comm]
  | cons value values ih =>
    intro res data
    rw [appendTexts, appendUint16, bind_eq_ok]
    simp only [check_bind_eq_ok, pure_eq_ok, not_lt, ih, forall_mem_cons,
      flatMap_cons, lengthPrefixed]
    constructor
    · rintro ⟨_, ⟨hlen, rfl⟩, hall, rfl⟩
      exact ⟨⟨hlen, hall⟩, by simp⟩
    · rintro ⟨⟨hlen, hall⟩, rfl⟩
      exact ⟨_, ⟨hlen, rfl⟩, hall, by simp⟩

variable {context : Context}

lemma Context.Accepted.texts_short {id : Arr 16}
    (h : context.Accepted P id) : ∀ text ∈ context.texts, text.length ≤ 65535 := by
  have hport : context.port.length = 3 := by rw [h.port]; rfl
  have husername := h.username.2
  have hho := h.host.2
  have hdirs := h.directories.2
  intro text htext
  simp only [Context.texts, mem_cons, not_mem_nil, or_false] at htext
  rcases htext with rfl | rfl | rfl | rfl <;> omega

lemma Context.Accepted.unique {id id' : Arr 16}
    (h : context.Accepted P id) (h' : context.Accepted P id') : id = id' :=
  Option.some.inj (h.parse.symm.trans h'.parse)

/-- **When `contextAAD` succeeds, and what it returns.** -/
theorem contextAAD_eq_ok {id : KeyID} {aad : Bytes} :
    contextAAD P context purpose id = .ok aad ↔ ∃ parsedID, context.Accepted P parsedID ∧
        (purpose = aadPurposeWrappedDEK ∨ purpose = aadPurposePassword) ∧
        aad = aadBytes context parsedID purpose id := by
  rw [contextAAD, bind_eq_ok]
  simp only [check_bind_eq_ok, orError_eq_ok]
  constructor
  · rintro ⟨parsedID, hprs, hchecks, hutf8, h⟩
    obtain ⟨res, hres, h⟩ := bind_eq_ok.mp h
    obtain ⟨hpurp, rfl⟩ := appendKeyID_eq_ok.mp hres
    obtain ⟨-, rfl⟩ := appendTexts_eq_ok.mp h
    simp only [not_or, not_not, not_lt, Bool.not_eq_false, maxDirectoriesBytes] at hchecks
    obtain ⟨h1, h2, h3, h4, h5, h6, h7, h8, h9, h10, h11⟩ := hchecks
    refine ⟨parsedID, ⟨hprs, h4, h1, h2, h3, ⟨h5, h6⟩, ⟨h7, h8⟩, h9, ⟨h10, h11⟩, ?_⟩, hpurp,
      by simp [aadBytes]⟩
    rw [Bool.not_eq_false, all_eq_true] at hutf8
    exact hutf8
  · rintro ⟨parsedID, hacc, hpurp, rfl⟩
    refine ⟨parsedID, hacc.parse, ?_, ?_, bind_eq_ok.mpr ⟨_, appendKeyID_eq_ok.mpr
      ⟨hpurp, rfl⟩, appendTexts_eq_ok.mpr ⟨hacc.texts_short, by simp [aadBytes]⟩⟩⟩
    · simp only [not_or, not_not, not_lt, Bool.not_eq_false, maxDirectoriesBytes]
      exact ⟨hacc.notNil, hacc.version, hacc.variant, hacc.canonical, hacc.username.1,
        hacc.username.2, hacc.host.1, hacc.host.2, hacc.port, hacc.directories.1,
        hacc.directories.2⟩
    · rw [Bool.not_eq_false, all_eq_true]
      exact hacc.utf8

/-- **Associated data is unambiguous**: it determines the purpose, the context, and the key id
where there is one. -/
theorem aadBytes_inj {context' : Context} {parsedID parsedID' : Arr 16}
    {purpose' : UInt8} {id id' : KeyID} (hacc : context.Accepted P parsedID)
    (hacc' : context'.Accepted P parsedID')
    (h : aadBytes context parsedID purpose id = aadBytes context' parsedID' purpose' id') :
    purpose = purpose' ∧ context = context' ∧ (purpose = aadPurposeWrappedDEK → id = id') := by
  have htail := append_cancel_left h
  simp only [cons.injEq, true_and] at htail
  obtain ⟨rfl, htail⟩ := htail
  obtain ⟨huuid, hrs⟩ := append_inj htail (by simp)
  obtain rfl : parsedID = parsedID' := Subtype.ext huuid
  obtain ⟨hid, htexts⟩ := append_inj hrs (by split <;> simp)
  have hsh := hacc.texts_short
  have hsh' := hacc'.texts_short
  simp only [Context.texts, forall_mem_cons, flatMap_cons] at hsh hsh' htexts
  obtain ⟨husername, htexts⟩ := lengthPrefixed_append_inj htexts (by omega) (by omega)
  obtain ⟨hho, htexts⟩ := lengthPrefixed_append_inj htexts (by omega) (by omega)
  obtain ⟨hport, htexts⟩ := lengthPrefixed_append_inj htexts (by omega) (by omega)
  obtain ⟨hdirs, -⟩ := lengthPrefixed_append_inj htexts (by omega) (by omega)
  have hcred : context.credentialID = context'.credentialID :=
    hacc.canonical.symm.trans hacc'.canonical
  refine ⟨rfl, ?_, ?_⟩
  · cases context
    cases context'
    simp_all
  · intro hpurp
    rw [if_pos hpurp, if_pos hpurp] at hid
    exact Subtype.ext hid

/-- **`contextAAD` is unambiguous.** Two accepted calls with the same result had the same purpose
and the same context, and the same key id if the key id is part of it. Nothing is assumed about
the UUID library: `contextAAD` itself compares the printed UUID with the text it parsed. -/
theorem contextAAD_unambiguous (P : Primitives) {c₁ c₂ : Context} {p₁ p₂ : UInt8} {k₁ k₂ : KeyID}
    {aad : Bytes} (h₁ : contextAAD P c₁ p₁ k₁ = .ok aad) (h₂ : contextAAD P c₂ p₂ k₂ = .ok aad) :
    p₁ = p₂ ∧ (c₁.credentialID = c₂.credentialID ∧ c₁.username = c₂.username ∧ c₁.host = c₂.host ∧
        c₁.port = c₂.port ∧ c₁.directories = c₂.directories) ∧
      (p₁ = aadPurposeWrappedDEK → k₁ = k₂) := by
  obtain ⟨id1, hacc1, -, haad1⟩ := contextAAD_eq_ok.mp h₁
  obtain ⟨id2, hacc2, -, haad2⟩ := contextAAD_eq_ok.mp h₂
  obtain ⟨hpurpose, hcontext, hkey⟩ := aadBytes_inj hacc1 hacc2 (haad1.symm.trans haad2)
  subst hcontext
  exact ⟨hpurpose, ⟨rfl, rfl, rfl, rfl, rfl⟩, hkey⟩

end

/-- Primitives simple enough to run by hand: a key is its own id, a UUID its own text, and the
cipher appends sixteen zero bytes. -/
def plainPrimitives : Primitives where
  deriveKeyID key := key
  aead :=
    { encrypt := fun _ _ plaintext _ => plaintext ++ List.replicate 16 0
      decrypt := fun _ _ ciphertext _ => some (ciphertext.take (ciphertext.length - 16)) }
  uuidParse text := if text.length = 16 then some (toArr 16 text) else none
  uuidString id := id.1

/-- A row of user `a` on host `b`, directory `c`. -/
def plainContext : Context where
  credentialID := [0, 0, 0, 0, 0, 0, 0x40, 0, 0x80, 0, 0, 0, 0, 0, 0, 0]
  username := [97]
  host := [98]
  port := smbPort
  directories := [99]

lemma plainContext_accepted :
    plainContext.Accepted plainPrimitives (toArr 16 plainContext.credentialID) := by
  constructor <;> decide

/-- Both layers of one row have associated data, and the key id of the outer layer is in it. -/
theorem plainContext_unambiguous :
    ∃ aad, contextAAD plainPrimitives plainContext aadPurposeWrappedDEK (zeroArr 32) = .ok aad ∧
      ∀ p k, contextAAD plainPrimitives plainContext p k = .ok aad →
        p = aadPurposeWrappedDEK ∧ k = zeroArr 32 := by
  obtain ⟨aad, haad⟩ :
      ∃ aad, contextAAD plainPrimitives plainContext aadPurposeWrappedDEK (zeroArr 32) = .ok aad :=
    ⟨_, contextAAD_eq_ok.mpr ⟨_, plainContext_accepted, .inl rfl, rfl⟩⟩
  refine ⟨aad, haad, ?_⟩
  intro p k h
  obtain ⟨hpurpose, -, hkey⟩ := contextAAD_unambiguous plainPrimitives haad h
  exact ⟨hpurpose.symm, (hkey rfl).symm⟩

end ReCasaOS.Smb
