/-
# The SMB server identity pin

`pkg/smbcredentials/server_identity.go`. A pin binds a host name, a port and a set of
addresses. `PinServerIdentity` normalizes what it is given; `Marshal` writes the format

    magic (8) | 1 | port (2) | length, host | count (2) | count × (length, address)

and `ParseServerIdentity` reads the fields back and hands them to `PinServerIdentity`.

A pin survives the round trip (`parse_marshal`). The other way round does not hold: the parser
normalizes the fields it has read, so it accepts byte strings that `Marshal` never writes, and
`marshal_parse_iff` says exactly which ones come back as they were. No text that a resolver may
read as a number is kept as a name.

`net.ParseIP`, `IP.String` and the lower-case table of `unicode` beyond ASCII are the fields of
`NetText`. What is assumed of the first two is `NetText.Lawful`.
-/
import ReCasaOS.Lib.Strings
import ReCasaOS.Smb.Envelope

namespace ReCasaOS.Smb

open Lib List

/-! ## 1. The data model -/

/-- What the package takes from `net` and `unicode`. -/
structure NetText (IP : Type) where
  parseIP : Bytes → Option IP
  ipString : IP → Bytes
  /-- `unicode.ToLower` beyond ASCII. -/
  lowerRune : Nat → Nat

/-- A byte of a printed address: a digit, a letter `a` to `f`, a colon or a dot. -/
def isIPTextByte (b : UInt8) : Bool :=
  (decide (48 ≤ b) && decide (b ≤ 58)) || (decide (97 ≤ b) && decide (b ≤ 102)) || b == 46

/-- `IP.String` prints dotted decimals or RFC 5952 text, and `ParseIP` reads it back. -/
structure NetText.Lawful {IP : Type} (N : NetText IP) : Prop where
  parse_string : ∀ ip, N.parseIP (N.ipString ip) = some ip
  string_bytes : ∀ ip, ∀ b ∈ N.ipString ip, isIPTextByte b
  string_length : ∀ ip, 1 ≤ (N.ipString ip).length ∧ (N.ipString ip).length ≤ 45
  string_last : ∀ ip, (N.ipString ip).getLast? ≠ some 46

def maxServerHostBytes : Nat := 253
def maxServerAddresses : Nat := 16
def minServerPort : Int := 1
def maxServerPort : Int := 65535

/-- `RCSMBSID`. -/
def serverIdentityMagic : Bytes := [82, 67, 83, 77, 66, 83, 73, 68]

inductive IdentityError
  | invalidServerIdentity
  | serverIdentityChanged
  | serverAddressChanged
  deriving DecidableEq, Repr

structure ServerIdentity where
  host : Bytes
  port : Nat
  addresses : List Bytes
  deriving DecidableEq

/-! ## 2. Normalization -/

def isDigit (b : UInt8) : Bool := decide (48 ≤ b) && decide (b ≤ 57)

def isLowerLetter (b : UInt8) : Bool := decide (97 ≤ b) && decide (b ≤ 122)

/-- `0-9`, `a-f` or `A-F`. -/
def isHexDigit (b : UInt8) : Bool :=
  isDigit b || (decide (97 ≤ b) && decide (b ≤ 102)) || (decide (65 ≤ b) && decide (b ≤ 70))

def isAmbiguousNumericLabel (label : Bytes) : Bool :=
  if label = [] then false
  else if 2 < label.length ∧ (hasPrefix label [48, 120] || hasPrefix label [48, 88]) then
    (label.drop 2).all isHexDigit
  else if 1 < label.length ∧ label.head? = some 48 then
    (label.drop 1).all fun b => decide (48 ≤ b) && decide (b ≤ 55)
  else
    label.all isDigit

def looksLikeNumericAddress (host : Bytes) : Bool :=
  (splitByte 46 host).all isAmbiguousNumericLabel

/-- The label check of `normalizeServerHost`. -/
def isHostLabel (label : Bytes) : Bool :=
  decide (1 ≤ label.length) && decide (label.length ≤ 63)
    && decide (label.head? ≠ some 45) && decide (label.getLast? ≠ some 45)
    && label.all fun b => isLowerLetter b || isDigit b || b == 45

section

variable {IP : Type} (N : NetText IP)
variable {data host : Bytes} {pin : ServerIdentity} {addresses result : List Bytes}

def normalizeServerHost (host : Bytes) : Except IdentityError Bytes := do
  let trimmed := trimSuffix (toLower N.lowerRune (trimSpace host)) [46]
  check (trimmed = [] ∨ maxServerHostBytes < trimmed.length ∨ trimSpace host ≠ host)
    .invalidServerIdentity
  match N.parseIP trimmed with
  | some parsed => pure (N.ipString parsed)
  | none =>
    check (looksLikeNumericAddress trimmed) .invalidServerIdentity
    check ((splitByte 46 trimmed).all isHostLabel = false) .invalidServerIdentity
    pure trimmed

/-- The loop of `normalizeServerAddresses`; the keys of `seen` are the members of
`normalized`. -/
def normalizeAddresses : List Bytes → (normalized : List Bytes) → Except IdentityError (List Bytes)
  | [], normalized => .ok normalized
  | raw :: addresses, normalized =>
    match N.parseIP (trimSpace raw) with
    | none => .error .invalidServerIdentity
    | some parsed =>
      let text := N.ipString parsed
      if text ∈ normalized then .error .invalidServerIdentity
      else normalizeAddresses addresses (normalized ++ [text])

def normalizeServerAddresses (addresses : List Bytes) : Except IdentityError (List Bytes) := do
  check (addresses.length < 1 ∨ maxServerAddresses < addresses.length) .invalidServerIdentity
  let normalized ← normalizeAddresses N addresses []
  pure (sortAsc normalized)

def pinServerIdentity (host : Bytes) (port : Int) (addresses : List Bytes) :
    Except IdentityError ServerIdentity := do
  let normalizedHost ← normalizeServerHost N host
  check (port < minServerPort ∨ maxServerPort < port) .invalidServerIdentity
  let normalizedAddresses ← normalizeServerAddresses N addresses
  pure ⟨normalizedHost, port.toNat, normalizedAddresses⟩

/-! ## 3. `Marshal` and `ParseServerIdentity` -/

/-- `appendUint16`, with the error this format returns. -/
def appendLength (data : Bytes) (value : Nat) : Except IdentityError Bytes :=
  (appendUint16 data value).mapError fun _ => .invalidServerIdentity

/-- The address loop of `Marshal`: the loop of the associated data, with this error. -/
def appendAddresses (data : Bytes) (addresses : List Bytes) : Except IdentityError Bytes :=
  (appendTexts data addresses).mapError fun _ => .invalidServerIdentity

def ServerIdentity.marshal (pin : ServerIdentity) : Except IdentityError Bytes := do
  check (pin.host = [] ∨ pin.port = 0 ∨ pin.addresses = []) .invalidServerIdentity
  let data := serverIdentityMagic ++ [1] ++ putUint16 pin.port
  let data ← appendLength data pin.host.length
  let data := data ++ pin.host
  let data ← appendLength data pin.addresses.length
  appendAddresses data pin.addresses

/-- The address loop of the parser: the addresses and the offset behind them. -/
def parseAddresses (data : Bytes) :
    (remaining offset : Nat) → (addresses : List Bytes) → Except IdentityError (List Bytes × Nat)
  | 0, offset, addresses => .ok (addresses, offset)
  | remaining + 1, offset, addresses => do
    check (data.length < offset + 2) .invalidServerIdentity
    let length := uint16 (data.drop offset)
    let offset := offset + 2
    check (length < 1 ∨ data.length < offset + length) .invalidServerIdentity
    parseAddresses data remaining (offset + length)
      (addresses ++ [slice data offset (offset + length)])

def parseServerIdentity (data : Bytes) : Except IdentityError ServerIdentity := do
  check (data.length < 13 ∨ slice data 0 8 ≠ serverIdentityMagic ∨ data.getD 8 0 ≠ 1)
    .invalidServerIdentity
  let port := uint16 (data.drop 9)
  let hostLength := uint16 (data.drop 11)
  let offset := 13
  check (hostLength < 1 ∨ maxServerHostBytes < hostLength ∨ data.length < offset + hostLength + 2)
    .invalidServerIdentity
  let host := slice data offset (offset + hostLength)
  let offset := offset + hostLength
  let count := uint16 (data.drop offset)
  let offset := offset + 2
  check (count < 1 ∨ maxServerAddresses < count) .invalidServerIdentity
  let (addresses, offset) ← parseAddresses data count offset []
  check (offset ≠ data.length) .invalidServerIdentity
  pinServerIdentity N host port addresses

/-! ## 4. The fields of the format -/

/-- The byte string of the fields. -/
def identityBytes (port : Nat) (host : Bytes) (addresses : List Bytes) : Bytes :=
  serverIdentityMagic ++ (1 :: (putUint16 port ++ (lengthPrefixed host
    ++ (putUint16 addresses.length ++ addresses.flatMap lengthPrefixed))))

/-- The fields the parser accepts. -/
structure FieldsFit (port : Nat) (host : Bytes) (addresses : List Bytes) : Prop where
  port : port < 65536
  host : 1 ≤ host.length ∧ host.length ≤ 253
  count : 1 ≤ addresses.length ∧ addresses.length ≤ 16
  addresses : ∀ a ∈ addresses, 1 ≤ a.length ∧ a.length ≤ 65535

lemma appendLength_eq_ok {result : Bytes} {value : Nat} :
    appendLength data value = .ok result ↔ value ≤ 65535 ∧ result = data ++ putUint16 value := by
  rw [appendLength, mapError_eq_ok, appendUint16, check_bind_eq_ok, pure_eq_ok, not_lt,
    eq_comm (b := result)]

lemma marshal_of_fits (hft : FieldsFit pin.port pin.host pin.addresses) (hport : pin.port ≠ 0) :
    pin.marshal = .ok (identityBytes pin.port pin.host pin.addresses) := by
  have hho := hft.host
  have hcnt := hft.count
  have hne : ¬ (pin.host = [] ∨ pin.port = 0 ∨ pin.addresses = []) := by
    rintro (h | h | h)
    · simp [h] at hho
    · exact hport h
    · simp [h] at hcnt
  rw [ServerIdentity.marshal, check_bind_eq_ok]
  refine ⟨hne, bind_eq_ok.mpr ⟨_, appendLength_eq_ok.mpr ⟨by omega, rfl⟩,
    bind_eq_ok.mpr ⟨_, appendLength_eq_ok.mpr ⟨by omega, rfl⟩, ?_⟩⟩⟩
  rw [appendAddresses, mapError_eq_ok, appendTexts_eq_ok]
  exact ⟨fun a ha => (hft.addresses a ha).2, by simp [identityBytes, lengthPrefixed]⟩

/-- One turn of the address loop, on a length-prefixed field. -/
lemma parseAddresses_field {address rest : Bytes} {remaining off : Nat}
    (hlen : 1 ≤ address.length ∧ address.length ≤ 65535)
    (hdr : data.drop off = lengthPrefixed address ++ rest) :
    parseAddresses data (remaining + 1) off addresses =
      parseAddresses data remaining (off + (lengthPrefixed address).length)
        (addresses ++ [address]) := by
  have hbd : off + (address.length + 2) ≤ data.length := by
    have hl := congrArg length hdr
    simp only [length_drop, length_append, length_lengthPrefixed] at hl
    omega
  have huint : uint16 (data.drop off) = address.length := by
    rw [hdr, lengthPrefixed, append_assoc]
    exact uint16_putUint16 (by omega) _
  have hdr2 : data.drop (off + 2) = address ++ rest :=
    drop_of_drop (hdr.trans (by rw [lengthPrefixed, append_assoc])) (by simp)
  have hslice : slice data (off + 2) (off + 2 + address.length) = address :=
    slice_of_drop hdr2 (by omega)
  rw [parseAddresses, huint]
  simp only [check]
  rw [if_neg (by omega), if_neg (by omega), hslice, length_lengthPrefixed,
    add_assoc, add_comm 2]
  rfl

/-- The loop reads a list of length-prefixed addresses. -/
lemma parseAddresses_of_drop :
    ∀ {new : List Bytes} {off : Nat} {addresses : List Bytes} {rest : Bytes},
      (∀ a ∈ new, 1 ≤ a.length ∧ a.length ≤ 65535) →
      data.drop off = new.flatMap lengthPrefixed ++ rest →
      parseAddresses data new.length off addresses =
        .ok (addresses ++ new, off + (new.flatMap lengthPrefixed).length)
  | [], off, addresses, rest, _, _ => by simp [parseAddresses]
  | a :: new, off, addresses, rest, hlen, hdr => by
    rw [flatMap_cons, append_assoc] at hdr
    rw [length_cons, parseAddresses_field (hlen a mem_cons_self) hdr,
      parseAddresses_of_drop (fun b hb => hlen b (.tail _ hb))
        (drop_of_drop hdr rfl), append_assoc, flatMap_cons, length_append,
      Nat.add_assoc]
    rfl

/-- A run of the loop that succeeds has read such a list. -/
lemma parseAddresses_ok : ∀ {remaining off : Nat} {addresses result : List Bytes} {off' : Nat},
      parseAddresses data remaining off addresses = .ok (result, off') →
      ∃ new, result = addresses ++ new ∧ new.length = remaining ∧
        (∀ a ∈ new, 1 ≤ a.length ∧ a.length ≤ 65535) ∧
        data.drop off = new.flatMap lengthPrefixed ++ data.drop off'
  | 0, off, addresses, result, off', h => by
    obtain ⟨rfl, rfl⟩ := h
    exact ⟨[], by simp, rfl, by simp, by simp⟩
  | remaining + 1, off, addresses, result, off', h => by
    rw [parseAddresses, check_bind_eq_ok, check_bind_eq_ok] at h
    obtain ⟨hrm, hlength, h⟩ := h
    obtain ⟨new, rfl, hcnt, hlen, hdr⟩ := parseAddresses_ok h
    have h16 := uint16_lt (data.drop off)
    obtain ⟨n, hn⟩ : ∃ n, uint16 (data.drop off) = n := ⟨_, rfl⟩
    rw [hn] at hlength hdr h16
    have hfield : (slice data (off + 2) (off + 2 + n)).length = n := by
      rw [length_slice (by omega)]
      omega
    refine ⟨slice data (off + 2) (off + 2 + n) :: new, by simp [hn], by simp [hcnt], ?_, ?_⟩
    · intro a ha
      rcases mem_cons.mp ha with rfl | ha
      · omega
      · exact hlen a ha
    · have hpre : putUint16 n = slice data off (off + 2) := by
        rw [← hn, putUint16_uint16 (by rw [length_drop]; omega), slice]
        congr 1
        omega
      rw [flatMap_cons, lengthPrefixed, hfield, hpre, append_assoc, append_assoc,
        ← hdr, ← drop_eq_slice_append (by omega), ← drop_eq_slice_append (by omega)]

variable {N}

/-- The parser hands the fields of the format to `PinServerIdentity`. -/
lemma parse_identityBytes {port : Nat} (hft : FieldsFit port host addresses) :
    parseServerIdentity N (identityBytes port host addresses) =
      pinServerIdentity N host port addresses := by
  obtain ⟨data, hda⟩ : ∃ data, identityBytes port host addresses = data := ⟨_, rfl⟩
  have hho := hft.host
  have hcnt := hft.count
  have hport := hft.port
  have hdr9 : data.drop 9 = putUint16 port ++ (lengthPrefixed host
      ++ (putUint16 addresses.length ++ addresses.flatMap lengthPrefixed)) := by
    rw [← hda]
    rfl
  have hdr11 : data.drop 11 = _ := drop_of_drop hdr9 (by simp)
  rw [lengthPrefixed, append_assoc] at hdr11
  have hdr13 : data.drop 13 = _ := drop_of_drop hdr11 (by simp)
  have hdropCount : data.drop (13 + host.length) = _ := drop_of_drop hdr13 rfl
  have hdropAddresses : data.drop (13 + host.length + 2) = addresses.flatMap lengthPrefixed ++ [] :=
    (drop_of_drop hdropCount (by simp)).trans (append_nil _).symm
  have hlen : data.length = 13 + host.length + 2 + (addresses.flatMap lengthPrefixed).length := by
    rw [← hda]
    simp [identityBytes, serverIdentityMagic]
    omega
  have huport : uint16 (data.drop 9) = port := by rw [hdr9, uint16_putUint16 hport]
  have huhost : uint16 (data.drop 11) = host.length := by
    rw [hdr11, uint16_putUint16 (by omega)]
  have hucount : uint16 (data.drop (13 + host.length)) = addresses.length := by
    rw [hdropCount, uint16_putUint16 (by omega)]
  have hslice : slice data 13 (13 + host.length) = host := slice_of_drop hdr13 (by omega)
  have hloop : parseAddresses data addresses.length (13 + host.length + 2) [] = _ :=
    parseAddresses_of_drop hft.addresses hdropAddresses
  have hmag : slice data 0 8 = serverIdentityMagic := by
    rw [← hda]
    rfl
  have hver : data.getD 8 0 = 1 := by
    rw [← hda]
    rfl
  have hhd : ¬ (data.length < 13 ∨ slice data 0 8 ≠ serverIdentityMagic ∨ data.getD 8 0 ≠ 1) := by
    rintro (h | h | h)
    · omega
    · exact h hmag
    · exact h hver
  rw [hda, parseServerIdentity, check_bind_of_not hhd]
  simp only [huport, huhost, hucount, hslice, maxServerHostBytes, maxServerAddresses]
  rw [check_bind_of_not (by omega), check_bind_of_not (by omega), hloop]
  simp only [nil_append]
  exact check_bind_of_not (by omega)

/-- The byte strings the parser accepts are encodings of fields that `PinServerIdentity`
accepts. -/
lemma parse_fields (h : parseServerIdentity N data = .ok pin) :
    ∃ port host addresses, FieldsFit port host addresses ∧
      data = identityBytes port host addresses ∧
      pinServerIdentity N host port addresses = .ok pin := by
  rw [parseServerIdentity, check_bind_eq_ok, check_bind_eq_ok, check_bind_eq_ok, bind_eq_ok] at h
  obtain ⟨hhd, hhostLen, hcnt, ⟨addresses, off⟩, hloop, h⟩ := h
  rw [check_bind_eq_ok] at h
  obtain ⟨hoffs, hpin⟩ := h
  simp only [not_or, not_not, not_lt, maxServerHostBytes] at hhd hhostLen hoffs
  simp only [not_or, not_lt, maxServerAddresses] at hcnt
  obtain ⟨hlen, hmag, hver⟩ := hhd
  obtain ⟨n, hn⟩ : ∃ n, uint16 (data.drop 11) = n := ⟨_, rfl⟩
  rw [hn] at hhostLen hcnt hloop hpin
  obtain ⟨c, hc⟩ : ∃ c, uint16 (data.drop (13 + n)) = c := ⟨_, rfl⟩
  rw [hc] at hcnt hloop
  obtain ⟨new, hnew, hnewLen, haddr, hdr⟩ := parseAddresses_ok hloop
  subst hnew
  have hhostSlice : (slice data 13 (13 + n)).length = n := by
    rw [length_slice (by omega)]
    omega
  have h16 : ∀ i, i + 2 ≤ data.length → putUint16 (uint16 (data.drop i)) = slice data i (i + 2) := by
    intro i hi
    rw [putUint16_uint16 (by rw [length_drop]; omega), slice]
    congr 1
    omega
  refine ⟨uint16 (data.drop 9), slice data 13 (13 + n), addresses,
    ⟨uint16_lt _, by omega, by omega, haddr⟩, ?_, hpin⟩
  have hend : data.drop off = [] := drop_of_length_le (by omega)
  rw [hend, append_nil] at hdr
  have hho : putUint16 n = slice data 11 13 := hn ▸ h16 11 (by omega)
  have hcountBytes : putUint16 c = slice data (13 + n) (13 + n + 2) := hc ▸ h16 (13 + n) (by omega)
  have hbody : data.drop 9 = slice data 9 11 ++ (slice data 11 13 ++ (slice data 13 (13 + n)
      ++ (slice data (13 + n) (13 + n + 2) ++ data.drop (13 + n + 2)))) := by
    rw [← drop_eq_slice_append (by omega), ← drop_eq_slice_append (by omega),
      ← drop_eq_slice_append (by omega), ← drop_eq_slice_append (by omega)]
  calc data = slice data 0 8 ++ data.drop 8 := drop_eq_slice_append (Nat.zero_le 8)
    _ = serverIdentityMagic ++ (1 :: data.drop 9) := by
        rw [hmag, drop_eq_getD_cons (i := 8) (by omega), hver]
    _ = _ := by
        rw [identityBytes, lengthPrefixed, hhostSlice, hnewLen, h16 9 (by omega), hho,
          hcountBytes, hbody, hdr, append_assoc]

lemma identityBytes_inj {port port' : Nat} {host' : Bytes} {addresses' : List Bytes}
    (hft : FieldsFit port host addresses) (hft' : FieldsFit port' host' addresses')
    (h : identityBytes port host addresses = identityBytes port' host' addresses') :
    port = port' ∧ host = host' ∧ addresses = addresses' := by
  have hho := hft.host
  have hho' := hft'.host
  have hcnt := hft.count
  have hcnt' := hft'.count
  have hbody := (cons.inj (append_cancel_left h)).2
  obtain ⟨hport, hbody⟩ := append_inj hbody (by simp)
  obtain ⟨hhostEq, hbody⟩ := lengthPrefixed_append_inj hbody (by omega) (by omega)
  obtain ⟨hlen, hbody⟩ := append_inj hbody (by simp)
  have huint : ∀ {n m : Nat}, n < 65536 → m < 65536 → putUint16 n = putUint16 m → n = m := by
    intro n m hn hm heq
    have h16 := congrArg (fun bytes => uint16 (bytes ++ [])) heq
    simpa only [uint16_putUint16 hn, uint16_putUint16 hm] using h16
  refine ⟨huint hft.port hft'.port hport, hhostEq, ?_⟩
  exact flatMap_lengthPrefixed_inj (huint (by omega) (by omega) hlen)
    (fun a ha => by have := hft.addresses a ha; omega)
    (fun a ha => by have := hft'.addresses a ha; omega) hbody

/-! ## 5. Normal hosts -/

/-- The shape every normalized host has, name or address. -/
structure HostForm (host : Bytes) : Prop where
  plain : ∀ b ∈ host, isPlain b
  lower : ∀ b ∈ host, b < 0x80 ∧ ¬ (0x41 ≤ b ∧ b ≤ 0x5A)
  last : host.getLast? ≠ some 46

lemma HostForm.trimmed (h : HostForm host) (lowerRune : Nat → Nat) :
    trimSuffix (toLower lowerRune (trimSpace host)) [46] = host := by
  rw [trimSpace_plain h.plain, toLower_of_lower h.lower, trimSuffix_of_getLast h.last]

lemma hostForm_ipString (hN : N.Lawful) (ip : IP) : HostForm (N.ipString ip) := by
  refine ⟨fun b hb => ?_, fun b hb => ?_, hN.string_last ip⟩ <;>
    have htext := hN.string_bytes ip b hb <;>
    simp only [isIPTextByte, isPlain, Bool.or_eq_true, Bool.and_eq_true, decide_eq_true_eq,
      beq_iff_eq, UInt8.le_iff_toNat_le, UInt8.lt_iff_toNat_lt, ← UInt8.toNat_inj] at htext ⊢ <;>
    simp at htext ⊢ <;> omega

lemma mem_hostLabel (h : (splitByte 46 host).all isHostLabel) {b : UInt8} (hb : b ∈ host) :
    isLowerLetter b ∨ isDigit b ∨ b = 45 ∨ b = 46 := by
  have hpart : b = 46 ∨ ∃ label ∈ splitByte 46 host, b ∈ label := mem_splitByte hb
  rcases hpart with rfl | ⟨label, hlabel, hmem⟩
  · exact .inr (.inr (.inr rfl))
  · have hall := all_eq_true.mp h label hlabel
    simp only [isHostLabel, Bool.and_eq_true, all_eq_true, Bool.or_eq_true, beq_iff_eq] at hall
    rcases hall.2 b hmem with (hl | hd) | hm
    · exact .inl hl
    · exact .inr (.inl hd)
    · exact .inr (.inr (.inl hm))

lemma hostForm_labels (h : (splitByte 46 host).all isHostLabel) : HostForm host := by
  refine ⟨fun b hb => ?_, fun b hb => ?_, ?_⟩
  · have hbyte := mem_hostLabel h hb
    simp only [isLowerLetter, isDigit, isPlain, Bool.and_eq_true, decide_eq_true_eq,
      UInt8.le_iff_toNat_le, ← UInt8.toNat_inj] at hbyte ⊢
    simp at hbyte ⊢
    omega
  · have hbyte := mem_hostLabel h hb
    simp only [isLowerLetter, isDigit, Bool.and_eq_true, decide_eq_true_eq,
      UInt8.le_iff_toNat_le, UInt8.lt_iff_toNat_lt, ← UInt8.toNat_inj] at hbyte ⊢
    simp at hbyte ⊢
    omega
  · intro hla
    obtain ⟨label, labels, hspt⟩ := splitByte_of_getLast hla
    have hem := all_eq_true.mp h [] (by simp [hspt])
    exact absurd hem (by decide)

variable (N)

/-- A host as `normalizeServerHost` returns it: a printed address, or a name that is not one. -/
structure NormalHost (host : Bytes) : Prop where
  form : HostForm host
  length : 1 ≤ host.length ∧ host.length ≤ 253
  kind : (∃ ip, host = N.ipString ip) ∨
    (N.parseIP host = none ∧ looksLikeNumericAddress host = false ∧
      (splitByte 46 host).all isHostLabel)

variable {N}

/-- What `normalizeServerHost` accepts, by what `ParseIP` says of the trimmed text. -/
lemma normalizeServerHost_eq_ok {result : Bytes} : normalizeServerHost N host = .ok result ↔
      ∃ trimmed, trimSuffix (toLower N.lowerRune (trimSpace host)) [46] = trimmed ∧
        (1 ≤ trimmed.length ∧ trimmed.length ≤ 253) ∧ trimSpace host = host ∧
        ((∃ ip, N.parseIP trimmed = some ip ∧ N.ipString ip = result) ∨
          (N.parseIP trimmed = none ∧ looksLikeNumericAddress trimmed = false ∧
            (splitByte 46 trimmed).all isHostLabel ∧ trimmed = result)) := by
  rw [normalizeServerHost]
  generalize trimSuffix (toLower N.lowerRune (trimSpace host)) [46] = trimmed
  have hguard : ¬ (trimmed = [] ∨ maxServerHostBytes < trimmed.length ∨ trimSpace host ≠ host) ↔
      (1 ≤ trimmed.length ∧ trimmed.length ≤ 253) ∧ trimSpace host = host := by
    rw [← length_eq_zero_iff, maxServerHostBytes]
    simp only [not_or, not_lt, not_not, ← and_assoc]
    exact and_congr_left fun _ => by omega
  rw [check_bind_eq_ok, hguard]
  cases hprs : N.parseIP trimmed with
  | some ip => simp [hprs, pure_eq_ok, and_assoc]
  | none =>
    simp only [check_bind_eq_ok, pure_eq_ok, Bool.not_eq_true, Bool.not_eq_false, hprs,
      reduceCtorEq, false_and, exists_false, false_or, true_and, exists_eq_left', and_assoc]

lemma NormalHost.normalize (hN : N.Lawful) (h : NormalHost N host) :
    normalizeServerHost N host = .ok host := by
  refine normalizeServerHost_eq_ok.mpr
    ⟨host, h.form.trimmed _, h.length, trimSpace_plain h.form.plain, ?_⟩
  rcases h.kind with ⟨ip, rfl⟩ | ⟨hprs, hnumeric, hlabels⟩
  · exact .inl ⟨ip, hN.parse_string ip, rfl⟩
  · exact .inr ⟨hprs, hnumeric, hlabels, rfl⟩

lemma normalizeServerHost_normal (hN : N.Lawful) {result : Bytes}
    (h : normalizeServerHost N host = .ok result) : NormalHost N result := by
  obtain ⟨trimmed, _, hlen, _, ⟨ip, _, rfl⟩ | ⟨hprs, hnumeric, hlabels, rfl⟩⟩ :=
    normalizeServerHost_eq_ok.mp h
  · have hsh := hN.string_length ip
    exact ⟨hostForm_ipString hN ip, ⟨hsh.1, by omega⟩, .inl ⟨ip, rfl⟩⟩
  · exact ⟨hostForm_labels hlabels, hlen, .inr ⟨hprs, hnumeric, hlabels⟩⟩

variable (N)

/-- The host texts that normalization leaves as they are: ASCII without capital letters, no dot
at the end, and an address only in its printed form. -/
structure CanonicalHost (host : Bytes) : Prop where
  lower : ∀ b ∈ host, b < 0x80 ∧ ¬ (0x41 ≤ b ∧ b ≤ 0x5A)
  last : host.getLast? ≠ some 46
  address : ∀ ip, N.parseIP host = some ip → N.ipString ip = host

variable {N}

lemma NormalHost.canonical (hN : N.Lawful) (h : NormalHost N host) : CanonicalHost N host := by
  refine ⟨h.form.lower, h.form.last, fun ip hip => ?_⟩
  rcases h.kind with ⟨ip', rfl⟩ | ⟨hprs, -, -⟩
  · rw [hN.parse_string] at hip
    rw [Option.some.inj hip]
  · rw [hprs] at hip
    cases hip

/-- **An accepted host is returned unchanged exactly when it is canonical.** -/
theorem normalizeServerHost_self_iff (hN : N.Lawful) {result : Bytes}
    (h : normalizeServerHost N host = .ok result) : result = host ↔ CanonicalHost N host := by
  constructor
  · rintro rfl
    exact (normalizeServerHost_normal hN h).canonical hN
  · intro hcan
    obtain ⟨trimmed, htrimmed, _, hspace, hkind⟩ := normalizeServerHost_eq_ok.mp h
    rw [hspace, toLower_of_lower hcan.lower, trimSuffix_of_getLast hcan.last] at htrimmed
    subst htrimmed
    rcases hkind with ⟨ip, hprs, rfl⟩ | ⟨-, -, -, rfl⟩
    · exact hcan.address ip hprs
    · rfl

/-! ## 6. Normal address lists -/

variable (N)

/-- The address `text` is what the loop appends for `raw`. -/
def ReadsAs (raw text : Bytes) : Prop :=
  ∃ ip, N.parseIP (trimSpace raw) = some ip ∧ N.ipString ip = text

/-- The address lists that normalization leaves as they are: printed addresses in ascending
order. -/
structure CanonicalAddresses (addresses : List Bytes) : Prop where
  printed : ∀ a ∈ addresses, ∃ ip, N.parseIP a = some ip ∧ N.ipString ip = a
  ascending : addresses.Pairwise (· < ·)

variable {N}

lemma readsAs_self (hN : N.Lawful) {a : Bytes}
    (h : ∃ ip, N.parseIP a = some ip ∧ N.ipString ip = a) : ReadsAs N a a := by
  obtain ⟨ip, hprs, rfl⟩ := h
  exact ⟨ip, by rwa [trimSpace_plain (hostForm_ipString hN ip).plain], rfl⟩

lemma ReadsAs.unique {raw text text' : Bytes} (h : ReadsAs N raw text)
    (h' : ReadsAs N raw text') : text = text' := by
  obtain ⟨ip, hprs, rfl⟩ := h
  obtain ⟨ip', hprs', rfl⟩ := h'
  rw [Option.some.inj (hprs.symm.trans hprs')]

lemma printed_of_reads {texts : List Bytes} (h : List.Forall₂ (ReadsAs N) addresses texts) :
    ∀ t ∈ texts, ∃ ip, N.ipString ip = t := by
  induction h with
  | nil => simp
  | cons hrd _ ih =>
    intro t ht
    rcases mem_cons.mp ht with rfl | ht
    · exact hrd.imp fun _ hip => hip.2
    · exact ih t ht

/-- The loop: every address is read, and no two of them are printed alike. -/
lemma normalizeAddresses_eq_ok :
    ∀ {addresses normalized : List Bytes}, normalizeAddresses N addresses normalized = .ok result ↔
      ∃ texts, List.Forall₂ (ReadsAs N) addresses texts ∧ result = normalized ++ texts ∧
        texts.Nodup ∧ ∀ t ∈ texts, t ∉ normalized
  | [], normalized => by
    simp [normalizeAddresses, eq_comm]
  | raw :: addresses, normalized => by
    rw [normalizeAddresses]
    cases hprs : N.parseIP (trimSpace raw) with
    | none =>
      simp only [reduceCtorEq, false_iff]
      rintro ⟨texts, hrds, -⟩
      cases hrds with
      | cons hrd _ =>
        obtain ⟨ip, hip, -⟩ := hrd
        rw [hprs] at hip
        cases hip
    | some ip =>
      by_cases hse : N.ipString ip ∈ normalized
      · simp only [if_pos hse, reduceCtorEq, false_iff]
        rintro ⟨texts, hrds, -, -, hnew⟩
        cases hrds with
        | cons hrd _ =>
          rw [hrd.unique ⟨ip, hprs, rfl⟩] at hnew
          exact hnew _ (.head _) hse
      · simp only [if_neg hse]
        rw [normalizeAddresses_eq_ok]
        constructor
        · rintro ⟨texts, hrds, rfl, hnd, hnew⟩
          refine ⟨N.ipString ip :: texts, .cons ⟨ip, hprs, rfl⟩ hrds, by simp, ?_, ?_⟩
          · refine nodup_cons.mpr ⟨fun hmem => hnew _ hmem (by simp), hnd⟩
          · intro t ht
            rcases mem_cons.mp ht with rfl | ht
            · exact hse
            · exact fun hmem => hnew t ht (mem_append_left _ hmem)
        · rintro ⟨texts, hrds, rfl, hnd, hnew⟩
          cases hrds with
          | @cons _ text _ texts hrd hrds =>
            obtain rfl := hrd.unique ⟨ip, hprs, rfl⟩
            obtain ⟨hfst, hnd⟩ := nodup_cons.mp hnd
            refine ⟨texts, hrds, by simp, hnd, fun t ht hmem => ?_⟩
            rcases mem_append.mp hmem with hmem | hmem
            · exact hnew t (.tail _ ht) hmem
            · exact hfst (mem_singleton.mp hmem ▸ ht)

lemma normalizeServerAddresses_eq_ok : normalizeServerAddresses N addresses = .ok result ↔
      (1 ≤ addresses.length ∧ addresses.length ≤ 16) ∧
        ∃ texts, List.Forall₂ (ReadsAs N) addresses texts ∧ texts.Nodup ∧
          sortAsc texts = result := by
  rw [normalizeServerAddresses, check_bind_eq_ok, maxServerAddresses, not_or, not_lt, not_lt]
  refine and_congr_right fun _ => ?_
  simp only [bind_eq_ok, normalizeAddresses_eq_ok, pure_eq_ok]
  constructor
  · rintro ⟨normalized, ⟨texts, hrds, hnorm, hnd, -⟩, hsorted⟩
    rw [nil_append] at hnorm
    exact ⟨texts, hrds, hnd, hnorm ▸ hsorted⟩
  · rintro ⟨texts, hrds, hnd, hsorted⟩
    exact ⟨texts, ⟨texts, hrds, rfl, hnd, by simp⟩, hsorted⟩

lemma CanonicalAddresses.nodup (h : CanonicalAddresses N addresses) : addresses.Nodup :=
  h.ascending.imp fun hlt => ne_of_lt hlt

/-- The texts read from a canonical list are its members. -/
lemma CanonicalAddresses.reads (hN : N.Lawful) (h : CanonicalAddresses N addresses) :
    List.Forall₂ (ReadsAs N) addresses addresses :=
  forall₂_same.mpr fun a ha => readsAs_self hN (h.printed a ha)

/-- A canonical list of the allowed length is normalized to itself. -/
lemma CanonicalAddresses.normalize (hN : N.Lawful) (h : CanonicalAddresses N addresses)
    (hlen : 1 ≤ addresses.length ∧ addresses.length ≤ 16) :
    normalizeServerAddresses N addresses = .ok addresses :=
  normalizeServerAddresses_eq_ok.mpr
    ⟨hlen, addresses, h.reads hN, h.nodup, sortAsc_eq_of_perm h.ascending (List.Perm.refl _)⟩

lemma normalizeServerAddresses_canonical (hN : N.Lawful)
    (h : normalizeServerAddresses N addresses = .ok result) :
    CanonicalAddresses N result ∧ (1 ≤ result.length ∧ result.length ≤ 16) := by
  obtain ⟨hlen, texts, hrds, hnd, rfl⟩ := normalizeServerAddresses_eq_ok.mp h
  refine ⟨⟨fun a ha => ?_, sortAsc_strict hnd⟩, ?_⟩
  · obtain ⟨ip, rfl⟩ := printed_of_reads hrds a (mem_sortAsc.mp ha)
    exact ⟨ip, hN.parse_string ip, rfl⟩
  · rwa [length_sortAsc, ← hrds.length_eq]

/-- **An accepted address list is returned unchanged exactly when it is canonical.** -/
theorem normalizeServerAddresses_self_iff (hN : N.Lawful)
    (h : normalizeServerAddresses N addresses = .ok result) :
    result = addresses ↔ CanonicalAddresses N addresses := by
  constructor
  · rintro rfl
    exact (normalizeServerAddresses_canonical hN h).1
  · intro hcan
    have hself := hcan.normalize hN (normalizeServerAddresses_eq_ok.mp h).1
    exact Except.ok.inj (h.symm.trans hself)

/-! ## 7. The round trips -/

variable {port : Int}

lemma pinServerIdentity_eq_ok : pinServerIdentity N host port addresses = .ok pin ↔
      normalizeServerHost N host = .ok pin.host ∧ (1 ≤ port ∧ port ≤ 65535) ∧
        port.toNat = pin.port ∧ normalizeServerAddresses N addresses = .ok pin.addresses := by
  obtain ⟨pinHost, pinPort, pinAddresses⟩ := pin
  rw [pinServerIdentity]
  simp only [bind_eq_ok, check_eq_ok, exists_const, pure_eq_ok, ServerIdentity.mk.injEq]
  simp only [not_or, not_lt, minServerPort, maxServerPort]
  constructor
  · rintro ⟨_, hho, hport, _, haddr, rfl, hpinPort, rfl⟩
    exact ⟨hho, hport, hpinPort, haddr⟩
  · rintro ⟨hho, hport, hpinPort, haddr⟩
    exact ⟨pinHost, hho, hport, pinAddresses, haddr, rfl, hpinPort, rfl⟩

/-- The fields of a pin fit the format, and pinning them gives the pin back. -/
lemma pin_normal (hN : N.Lawful) (h : pinServerIdentity N host port addresses = .ok pin) :
    FieldsFit pin.port pin.host pin.addresses ∧ pin.port ≠ 0 ∧
      pinServerIdentity N pin.host pin.port pin.addresses = .ok pin := by
  obtain ⟨hho, hport, hpinPort, haddr⟩ := pinServerIdentity_eq_ok.mp h
  have hnormal := normalizeServerHost_normal hN hho
  obtain ⟨hcan, hcnt⟩ := normalizeServerAddresses_canonical hN haddr
  refine ⟨⟨by omega, hnormal.length, hcnt, fun a ha => ?_⟩, by omega, ?_⟩
  · obtain ⟨ip, -, rfl⟩ := hcan.printed a ha
    have hlen := hN.string_length ip
    omega
  · exact pinServerIdentity_eq_ok.mpr ⟨hnormal.normalize hN, by omega, by omega,
      hcan.normalize hN hcnt⟩

/-- **A pin survives the round trip.** -/
theorem parse_marshal (hN : N.Lawful) (h : pinServerIdentity N host port addresses = .ok pin) :
    ∃ data, pin.marshal = .ok data ∧ parseServerIdentity N data = .ok pin := by
  obtain ⟨hft, hport, hpin⟩ := pin_normal hN h
  exact ⟨_, marshal_of_fits hft hport, (parse_identityBytes hft).trans hpin⟩

variable (N)

/-- The byte strings whose fields are canonical. -/
def CanonicalIdentity (data : Bytes) : Prop :=
  ∃ port host addresses, FieldsFit port host addresses ∧
    data = identityBytes port host addresses ∧
    CanonicalHost N host ∧ CanonicalAddresses N addresses

variable {N}

/-- An accepted byte string comes back exactly when its fields are canonical. -/
lemma marshal_parse_iff (hN : N.Lawful) (h : parseServerIdentity N data = .ok pin) :
    pin.marshal = .ok data ↔ CanonicalIdentity N data := by
  obtain ⟨port, host, addresses, hft, rfl, hpin⟩ := parse_fields h
  obtain ⟨hpinFits, hpinPort, -⟩ := pin_normal hN hpin
  obtain ⟨hho, -, hport, haddr⟩ := pinServerIdentity_eq_ok.mp hpin
  rw [Int.toNat_natCast] at hport
  have hhostIff := normalizeServerHost_self_iff hN hho
  have haddressesIff := normalizeServerAddresses_self_iff hN haddr
  rw [marshal_of_fits hpinFits hpinPort, Except.ok.injEq]
  constructor
  · intro heq
    obtain ⟨-, hsm, hsames⟩ := identityBytes_inj hpinFits hft heq
    exact ⟨port, host, addresses, hft, rfl, hhostIff.mp hsm, haddressesIff.mp hsames⟩
  · rintro ⟨port', host', addresses', hft', heq, hcan, hcans⟩
    obtain ⟨-, rfl, rfl⟩ := identityBytes_inj hft hft' heq
    rw [hhostIff.mpr hcan, haddressesIff.mpr hcans, ← hport]

/-- **The pin format is canonical up to normalization.** A pin survives the round trip; an
accepted byte string is what `Marshal` writes for the result exactly when its fields are
canonical; and among those no two parse to one pin. -/
theorem server_identity_canonical_iff (hN : N.Lawful) :
    (∀ host port addresses pin, pinServerIdentity N host port addresses = .ok pin →
      ∃ data, pin.marshal = .ok data ∧ parseServerIdentity N data = .ok pin) ∧
    (∀ data pin, parseServerIdentity N data = .ok pin →
      (pin.marshal = .ok data ↔ CanonicalIdentity N data)) ∧
    (∀ data data' pin, CanonicalIdentity N data → CanonicalIdentity N data' →
      parseServerIdentity N data = .ok pin → parseServerIdentity N data' = .ok pin →
      data = data') := by
  refine ⟨fun _ _ _ _ h => parse_marshal hN h, fun _ _ h => marshal_parse_iff hN h, ?_⟩
  intro data data' pin hcanonical hcanonical' h h'
  have hdata := (marshal_parse_iff hN h).mpr hcanonical
  have hdata' := (marshal_parse_iff hN h').mpr hcanonical'
  exact Except.ok.inj (hdata.symm.trans hdata')

/-! ## 8. `Verify` and `RotateAddresses` -/

variable (N)

/-- The loop of `parseServerAddressList`. -/
def parseTexts : List Bytes → Except IdentityError (List Bytes)
  | [] => .ok []
  | raw :: addresses => do
    let address ← orError (N.parseIP (trimSpace raw)) .invalidServerIdentity
    let parsed ← parseTexts addresses
    pure (N.ipString address :: parsed)

def parseServerAddressList (addresses : List Bytes) : Except IdentityError (List Bytes) := do
  check (addresses.length < 1 ∨ maxServerAddresses < addresses.length) .invalidServerIdentity
  let parsed ← parseTexts N addresses
  pure (sortAsc parsed)

def dedupeAddresses (addresses : List Bytes) : List Bytes := sortAsc addresses.eraseDups

def equalAddressSets (first second : List Bytes) : Bool :=
  first.length == second.length && (List.range first.length).all fun i => first[i]? == second[i]?

def ServerIdentity.verify (pin : ServerIdentity) (host : Bytes) (port : Int) (addresses : List Bytes) :
    Except IdentityError Unit := do
  let normalizedHost ← normalizeServerHost N host
  check (normalizedHost ≠ pin.host ∨ port ≠ pin.port) .serverIdentityChanged
  let presented ← parseServerAddressList N addresses
  check (equalAddressSets (dedupeAddresses presented) pin.addresses = false) .serverAddressChanged

def ServerIdentity.rotateAddresses (pin : ServerIdentity) (addresses : List Bytes) :
    Except IdentityError ServerIdentity := do
  check (pin.host = [] ∨ pin.port = 0 ∨ pin.addresses = []) .invalidServerIdentity
  let normalizedAddresses ← normalizeServerAddresses N addresses
  pure ⟨pin.host, pin.port, normalizedAddresses⟩

/-- The pins there are: the fields of `ServerIdentity` are not exported. -/
inductive Made : ServerIdentity → Prop
  | pinned {host : Bytes} {port : Int} {addresses : List Bytes} {pin : ServerIdentity}
      (h : pinServerIdentity N host port addresses = .ok pin) : Made pin
  | rotated {pin pin' : ServerIdentity} {addresses : List Bytes} (h : Made pin)
      (h' : pin.rotateAddresses N addresses = .ok pin') : Made pin'

/-- The set of canonical addresses of a list. -/
def canonicalSet (addresses : List Bytes) : Set Bytes := {text | ∃ raw ∈ addresses, ReadsAs N raw text}

/-- An observation that can be compared: 1 to 16 addresses, all of which parse. -/
structure Observed (addresses : List Bytes) : Prop where
  count : 1 ≤ addresses.length ∧ addresses.length ≤ 16
  parses : ∀ raw ∈ addresses, ∃ ip, N.parseIP (trimSpace raw) = some ip

variable {N}

lemma Made.self (hN : N.Lawful) (h : Made N pin) :
    pinServerIdentity N pin.host pin.port pin.addresses = .ok pin := by
  induction h with
  | pinned h => exact (pin_normal hN h).2.2
  | rotated _ h' ih =>
    simp only [ServerIdentity.rotateAddresses, bind_eq_ok, pure_eq_ok] at h'
    obtain ⟨_, -, _, hnorm, rfl⟩ := h'
    obtain ⟨hho, hport, hpinPort, -⟩ := pinServerIdentity_eq_ok.mp ih
    obtain ⟨hcan, hcnt⟩ := normalizeServerAddresses_canonical hN hnorm
    exact pinServerIdentity_eq_ok.mpr ⟨hho, hport, hpinPort, hcan.normalize hN hcnt⟩

lemma parseTexts_ok : ∀ {addresses : List Bytes},
    (∀ raw ∈ addresses, ∃ ip, N.parseIP (trimSpace raw) = some ip) →
    ∃ texts, parseTexts N addresses = .ok texts ∧ ∀ t, t ∈ texts ↔ t ∈ canonicalSet N addresses
  | [], _ => ⟨[], rfl, by simp [canonicalSet]⟩
  | raw :: addresses, h => by
    obtain ⟨ip, hip⟩ := h raw (.head _)
    obtain ⟨texts, hok, hmem⟩ := parseTexts_ok fun a ha => h a (.tail _ ha)
    refine ⟨N.ipString ip :: texts, by rw [parseTexts, hip, hok]; rfl, fun t => ?_⟩
    simp only [canonicalSet, Set.mem_ofPred_eq, mem_cons, hmem, exists_eq_or_imp] at hmem ⊢
    refine or_congr_left ⟨?_, fun hrd => hrd.unique ⟨ip, hip, rfl⟩⟩
    rintro rfl
    exact ⟨ip, hip, rfl⟩

lemma equalAddressSets_iff {first second : List Bytes} :
    equalAddressSets first second ↔ first = second := by
  simp only [equalAddressSets, Bool.and_eq_true, beq_iff_eq, all_eq_true, mem_range]
  constructor
  · rintro ⟨hlen, h⟩
    refine ext_getElem? fun i => ?_
    by_cases hi : i < first.length
    · exact h i hi
    · rw [getElem?_eq_none (by omega), getElem?_eq_none (by omega)]
  · rintro rfl
    simp

/-- A strictly ascending list equals the sorted list of the distinct elements of another exactly
when both have the same elements. -/
lemma dedupeAddresses_eq_iff {presented : List Bytes} (h : addresses.Pairwise (· < ·)) :
    dedupeAddresses presented = addresses ↔ ∀ t, t ∈ presented ↔ t ∈ addresses := by
  constructor
  · rintro rfl t
    rw [dedupeAddresses, mem_sortAsc, mem_eraseDups]
  · intro hmem
    have hnd : addresses.Nodup := h.imp fun hlt => ne_of_lt hlt
    refine sortAsc_eq_of_perm h ((perm_ext_iff_of_nodup (nodup_eraseDups _) hnd).mpr fun t => ?_)
    rw [mem_eraseDups, hmem]

open Classical in
/-- `Verify` on a comparable observation reads the addresses as a set. -/
lemma verify_eq (hN : N.Lawful) (hmade : Made N pin) (hobs : Observed N addresses) (port : Int) :
    pin.verify N host port addresses = (do
      let normalizedHost ← normalizeServerHost N host
      check (normalizedHost ≠ pin.host ∨ port ≠ pin.port) .serverIdentityChanged
      check (canonicalSet N addresses ≠ {t | t ∈ pin.addresses}) .serverAddressChanged) := by
  obtain ⟨-, -, -, haddr⟩ := pinServerIdentity_eq_ok.mp (hmade.self hN)
  have hasc := (normalizeServerAddresses_canonical hN haddr).1.ascending
  obtain ⟨texts, hok, hmem⟩ := parseTexts_ok hobs.parses
  have hcnt := hobs.count
  have hlist : parseServerAddressList N addresses = .ok (sortAsc texts) := by
    rw [parseServerAddressList, check_bind_of_not (by simp only [maxServerAddresses]; omega), hok]
    rfl
  have hset : equalAddressSets (dedupeAddresses (sortAsc texts)) pin.addresses = false ↔
      canonicalSet N addresses ≠ {t | t ∈ pin.addresses} := by
    rw [← Bool.not_eq_true, equalAddressSets_iff, dedupeAddresses_eq_iff hasc, not_iff_not, Set.ext_iff]
    simp only [mem_sortAsc, hmem, Set.mem_ofPred_eq]
  simp only [ServerIdentity.verify, hlist, ok_bind, check, hset]

/-- **A pin compares addresses as a set.** `Verify` of a comparable observation succeeds exactly
when host, port and the set of canonical addresses are the pinned ones; its answer is one for all
lists with one such set, however ordered, repeated or spelled; and a pin that was marshalled and
parsed gives the answers it gave before. -/
theorem server_identity_compares_sets (hN : N.Lawful) (hmade : Made N pin) :
    (∀ host port addresses, Observed N addresses → (pin.verify N host port addresses = .ok () ↔
        normalizeServerHost N host = .ok pin.host ∧ port = pin.port ∧
          canonicalSet N addresses = {text | text ∈ pin.addresses})) ∧
    (∀ host port addresses addresses', Observed N addresses → Observed N addresses' →
      canonicalSet N addresses = canonicalSet N addresses' →
      pin.verify N host port addresses = pin.verify N host port addresses') ∧
    (∃ data pin', pin.marshal = .ok data ∧ parseServerIdentity N data = .ok pin' ∧
      ∀ host port addresses, pin'.verify N host port addresses = pin.verify N host port addresses) := by
  refine ⟨fun host port addresses hobs => ?_, fun host port addresses addresses' hobs hobs' hset => ?_, ?_⟩
  · rw [verify_eq hN hmade hobs, bind_eq_ok]
    simp only [check_bind_eq_ok, check_eq_ok, not_or, not_not]
    constructor
    · rintro ⟨_, hhost, ⟨rfl, hport⟩, hset⟩
      exact ⟨hhost, hport, hset⟩
    · rintro ⟨hhost, hport, hset⟩
      exact ⟨_, hhost, ⟨rfl, hport⟩, hset⟩
  · rw [verify_eq hN hmade hobs, verify_eq hN hmade hobs', hset]
  · obtain ⟨data, hdata, hparse⟩ := parse_marshal hN (hmade.self hN)
    exact ⟨data, pin, hdata, hparse, fun _ _ _ => rfl⟩

end

/-- The text of `10.0.0.1`. -/
def tenText : Bytes := [49, 48, 46, 48, 46, 48, 46, 49]

/-- `net` as far as the address `10.0.0.1` goes. -/
def tenNet : NetText Unit where
  parseIP s := if s = tenText then some () else none
  ipString _ := tenText
  lowerRune r := r

lemma tenNet_lawful : tenNet.Lawful where
  parse_string _ := rfl
  string_bytes _ := all_eq_true.mp (by decide : tenText.all isIPTextByte)
  string_length _ := (by decide : 1 ≤ tenText.length ∧ tenText.length ≤ 45)
  string_last _ := (by decide : tenText.getLast? ≠ some 46)

/-- The pin of the host `nas`, and its encoding with the host in capital letters. -/
def nasPin : ServerIdentity := ⟨[110, 97, 115], 445, [tenText]⟩

def capitalNasBytes : Bytes := identityBytes 445 [78, 65, 83] [tenText]

/-- The parser accepts the host `NAS`, which `Marshal` writes as `nas`: two byte strings, one
pin. -/
theorem capital_host_not_canonical : parseServerIdentity tenNet capitalNasBytes = .ok nasPin ∧
      nasPin.marshal ≠ .ok capitalNasBytes ∧
      ∃ data, data ≠ capitalNasBytes ∧ nasPin.marshal = .ok data ∧
        parseServerIdentity tenNet data = .ok nasPin := by
  refine ⟨by decide, by decide, identityBytes 445 [110, 97, 115] [tenText], by decide, by decide,
    by decide⟩

/-- At this address the format's law holds of the pin of `nas`. -/
theorem nas_survives_round_trip :
    tenNet.Lawful ∧ pinServerIdentity tenNet [78, 65, 83, 46] 445 [tenText] = .ok nasPin ∧
      (∃ data, nasPin.marshal = .ok data ∧ parseServerIdentity tenNet data = .ok nasPin) ∧
      ¬ CanonicalIdentity tenNet capitalNasBytes := by
  obtain ⟨hround, hiff, -⟩ := server_identity_canonical_iff tenNet_lawful
  refine ⟨tenNet_lawful, by decide, hround [78, 65, 83, 46] 445 [tenText] nasPin (by decide), ?_⟩
  rw [← hiff capitalNasBytes nasPin (by decide)]
  decide

/-- The address twice, once behind a blank, is the pinned set. -/
theorem nas_verifies_twice : Made tenNet nasPin ∧ Observed tenNet [32 :: tenText, tenText] ∧
      nasPin.verify tenNet [78, 65, 83] 445 [32 :: tenText, tenText]
        = nasPin.verify tenNet [78, 65, 83] 445 [tenText] ∧
      nasPin.verify tenNet [78, 65, 83] 445 [tenText] = .ok () := by
  have hmade : Made tenNet nasPin :=
    .pinned (by decide : pinServerIdentity tenNet [78, 65, 83, 46] 445 [tenText] = .ok nasPin)
  have hblank : tenNet.parseIP (trimSpace (32 :: tenText)) = some () := by decide
  have hten : tenNet.parseIP (trimSpace tenText) = some () := by decide
  have hobs : Observed tenNet [32 :: tenText, tenText] :=
    ⟨by decide, by simp only [forall_mem_cons]; exact ⟨⟨_, hblank⟩, ⟨_, hten⟩, by simp⟩⟩
  have hone : Observed tenNet [tenText] := ⟨by decide, by simp only [forall_mem_singleton]; exact ⟨_, hten⟩⟩
  refine ⟨hmade, hobs, (server_identity_compares_sets tenNet_lawful hmade).2.1 _ _ _ _ hobs hone ?_, by decide⟩
  ext text
  simp [canonicalSet, ReadsAs, hblank, hten]

/-! ## 9. Numeric spellings -/

/-- A part that `inet_aton` reads as a number: hexadecimal behind `0x`, octal behind a zero, or
decimal. -/
def isInetPart (part : Bytes) : Bool :=
  match part with
  | 48 :: 120 :: digits => decide (digits ≠ []) && digits.all isHexDigit
  | 48 :: digits => digits.all fun b => decide (48 ≤ b) && decide (b ≤ 55)
  | _ => decide (part ≠ []) && part.all isDigit

/-- The texts that `inet_aton` reads as an address, whatever the size of their numbers. -/
def isInetText (text : Bytes) : Bool :=
  decide ((splitByte 46 text).length ≤ 4) && (splitByte 46 text).all isInetPart

/-- Four decimal numbers without leading zeros. -/
def isDottedText (text : Bytes) : Bool :=
  decide ((splitByte 46 text).length = 4) && (splitByte 46 text).all fun part =>
    decide (part ≠ []) && part.all isDigit && decide (part.head? = some 48 → part.length = 1)

lemma isInetPart_ambiguous {part : Bytes} (h : isInetPart part) : isAmbiguousNumericLabel part := by
  unfold isInetPart at h
  split at h
  next digits =>
    simp only [Bool.and_eq_true, decide_eq_true_eq] at h
    have hpos := length_pos_iff.mpr h.1
    simp [isAmbiguousNumericLabel, hasPrefix, hpos, h.2]
  next digits _ =>
    cases digits with
    | nil => rfl
    | cons b digits =>
      -- an octal digit is no `x`
      have hb : b ≠ 120 ∧ b ≠ 88 := by
        simp only [all_cons, Bool.and_eq_true, decide_eq_true_eq] at h
        constructor <;> rintro rfl <;> exact absurd h.1.2 (by decide)
      simpa [isAmbiguousNumericLabel, hasPrefix, hb.1.symm, hb.2.symm] using h
  next hx hz =>
    simp only [Bool.and_eq_true, decide_eq_true_eq] at h
    obtain ⟨b, digits, rfl⟩ := exists_cons_of_ne_nil h.1
    have hb : b ≠ 48 := fun hb => hz digits (by rw [hb])
    simpa [isAmbiguousNumericLabel, hasPrefix, hb, hb.symm] using h.2

/-- **A numeric spelling is never pinned as a name**: of the texts that `inet_aton` reads,
`normalizeServerHost` accepts those that `ParseIP` reads, and returns the printed address; and it
is idempotent. What `ParseIP` reads of such a text is assumed to be printed in dotted form. -/
theorem numeric_host_is_address {IP : Type} {N : NetText IP} (hN : N.Lawful)
    (hdotted : ∀ text ip, isInetText text → N.parseIP text = some ip →
      isDottedText (N.ipString ip)) :
    (∀ host text result, text = trimSuffix (toLower N.lowerRune host) [46] → isInetText text →
      normalizeServerHost N host = .ok result →
        ∃ ip, N.parseIP text = some ip ∧ result = N.ipString ip ∧ isDottedText result) ∧
    ∀ host result, normalizeServerHost N host = .ok result →
      normalizeServerHost N result = .ok result := by
  refine ⟨?_, fun host result h => (normalizeServerHost_normal hN h).normalize hN⟩
  rintro host text result rfl hinet h
  obtain ⟨trimmed, htrimmed, -, hspace, hkind⟩ := normalizeServerHost_eq_ok.mp h
  rw [hspace] at htrimmed
  rw [htrimmed] at hinet ⊢
  rcases hkind with ⟨ip, hprs, rfl⟩ | ⟨-, hnumeric, -, -⟩
  · exact ⟨ip, hprs, rfl, hdotted _ ip hinet hprs⟩
  · simp only [isInetText, Bool.and_eq_true, all_eq_true] at hinet
    have hall : looksLikeNumericAddress trimmed :=
      all_eq_true.mpr fun part hpart => isInetPart_ambiguous (hinet.2 part hpart)
    rw [hall] at hnumeric
    cases hnumeric

/-- The address `10.0.0.1.` is pinned as `10.0.0.1`. -/
theorem trailing_dot_address : tenNet.Lawful ∧ isInetText tenText ∧
      normalizeServerHost tenNet (tenText ++ [46]) = .ok tenText ∧ isDottedText tenText ∧
      normalizeServerHost tenNet tenText = .ok tenText := by
  have hok : normalizeServerHost tenNet (tenText ++ [46]) = .ok tenText := by decide
  obtain ⟨hinet, hidem⟩ := numeric_host_is_address tenNet_lawful fun _ _ _ _ =>
    (by decide : isDottedText tenText)
  obtain ⟨-, -, -, hten⟩ := hinet _ tenText _ (by decide) (by decide) hok
  exact ⟨tenNet_lawful, by decide, hok, hten, hidem _ _ hok⟩

end ReCasaOS.Smb
