/-
# An envelope opens in its own row and nowhere else

The cipher is ideal: `decrypt` succeeds only on what some call of `encrypt` produced. Take any
list of successful calls of `seal` and `rewrap`, by any keyrings and for any rows, including
rewraps of envelopes an adversary has put together. This file proves that `Open`, `rewrap` and
`EnvelopeKeyID` succeed on a row and a byte string only if one of these calls returned exactly
this byte string for exactly this row.

The two layers of an envelope are accounted for separately and then tied together. The purpose
byte keeps the layers apart, the associated data fixes the row of each of them
(`aadBytes_inj`), and the data key, which is fresh for every `seal`, is what makes an outer
layer and an inner layer belong to one envelope.
-/
import ReCasaOS.Smb.Rotation

namespace ReCasaOS.Smb

open Lib List

/-! ## 1. The calls that were made -/

/-- The sealing of a data key by `k` for a row. -/
def wrapSealing (P : Primitives) (k : Keyring) (context : Context) (parsedID : Arr 16) (nonce : Bytes)
    (dek : KeyMaterial) : Sealing KeyMaterial :=
  P.aead.record k.activeKey nonce dek.1
    (aadBytes context parsedID aadPurposeWrappedDEK k.active)

/-- The sealing of a password under its data key. -/
def dataSealing (P : Primitives) (context : Context) (parsedID : Arr 16) (dek : KeyMaterial)
    (nonce password : Bytes) : Sealing KeyMaterial :=
  P.aead.record dek nonce password (aadBytes context parsedID aadPurposePassword (zeroArr 32))

/-- A successful call of `seal`, with the three values it drew, or of `rewrap`. -/
inductive Call
  | sealed (k : Keyring) (context : Context) (dek : KeyMaterial)
      (wrapNonce dataNonce password envelope : Bytes)
  | rewrapped (k : Keyring) (context : Context) (source random envelope : Bytes)

namespace Call

/-- The row the call was made for. -/
def context : Call → Context
  | sealed _ context _ _ _ _ _ => context
  | rewrapped _ context _ _ _ => context

/-- The byte string it returned. -/
def envelope : Call → Bytes
  | sealed _ _ _ _ _ _ envelope => envelope
  | rewrapped _ _ _ _ envelope => envelope

/-- The data key, of a `seal`. -/
def dek? : Call → Option KeyMaterial
  | sealed _ _ dek _ _ _ _ => some dek
  | rewrapped .. => none

variable (P : Primitives)

/-- The call returned its envelope. -/
def Returned : Call → Prop
  | sealed k context dek wrapNonce dataNonce password envelope =>
    wrapNonce.length = 24 ∧ dataNonce.length = 24 ∧
      ∃ rest, k.seal P context password (dek.1 ++ (wrapNonce ++ (dataNonce ++ rest))) = .ok envelope
  | rewrapped k context source random envelope =>
    k.rewrap P context source random = .ok envelope

/-- The calls of the cipher behind a call: both layers for `seal`, the outer one for a `rewrap`
that changes the key, none for a `rewrap` that does not. -/
def sealings : Call → List (Sealing KeyMaterial)
  | sealed k context dek wrapNonce dataNonce password _ =>
    match P.uuidParse context.credentialID with
    | some parsedID => [wrapSealing P k context parsedID wrapNonce dek,
        dataSealing P context parsedID dek dataNonce password]
    | none => []
  | rewrapped k context source random _ =>
    match P.uuidParse context.credentialID, parseEnvelope source with
    | some parsedID, .ok p =>
      if p.keyID = k.active then [] else
        match k.unwrapDEK P context p with
        | .ok dek => [wrapSealing P k context parsedID (random.take 24) dek]
        | .error _ => []
    | _, _ => []

end Call

/-- No two calls of `seal` drew the same data key. -/
def FreshKeys (calls : List Call) : Prop :=
  ∀ call ∈ calls, ∀ call' ∈ calls, ∀ dek, call.dek? = some dek → call'.dek? = some dek →
    call = call'

/-! ## 2. What the log says about a layer -/

section

variable {P : Primitives} {calls : List Call} {context : Context} {parsedID : Arr 16}
variable {dek : KeyMaterial} {s : Sealing KeyMaterial} {p : ParsedEnvelope}
variable {k : Keyring}
variable {pwd envelope : Bytes}

/-- The sealings of a returned `seal`, and the envelope around them. -/
lemma Call.sealed_sealings {wrapNonce dataNonce : Bytes}
    (h : (Call.sealed k context dek wrapNonce dataNonce pwd envelope).Returned P) :
    ∃ id, context.Accepted P id ∧
      (Call.sealed k context dek wrapNonce dataNonce pwd envelope).sealings P =
        [wrapSealing P k context id wrapNonce dek, dataSealing P context id dek dataNonce pwd] ∧
      envelope = (sealedFields P k context id dek wrapNonce dataNonce pwd).bytes := by
  obtain ⟨hwrap, hda, rest, h⟩ := h
  obtain ⟨-, -, dek', wrapNonce', dataNonce', rest', id, hrnd, hwrap', hda', hacc, -, rfl⟩ :=
    seal_eq_ok.mp h
  obtain ⟨hdek, hnonces⟩ := append_inj hrnd (by simp)
  obtain ⟨rfl, hnon⟩ := append_inj hnonces (by rw [hwrap, hwrap'])
  obtain ⟨rfl, -⟩ := append_inj hnon (by rw [hda, hda'])
  obtain rfl : dek = dek' := Subtype.ext hdek
  exact ⟨id, hacc, by simp only [Call.sealings, hacc.parse], rfl⟩

/-- The sealing of a returned `rewrap` that made one, and the envelope around it. -/
lemma Call.rewrapped_sealing {src rnd : Bytes}
    (h : (Call.rewrapped k context src rnd envelope).Returned P)
    (hs : s ∈ (Call.rewrapped k context src rnd envelope).sealings P) :
    ∃ p dek pwd id, parseEnvelope src = .ok p ∧
      k.openLocked P context src = .ok pwd ∧ k.unwrapDEK P context p = .ok dek ∧
      context.Accepted P id ∧ s = wrapSealing P k context id (rnd.take 24) dek ∧
      envelope = (rewrappedFields P k context id dek (rnd.take 24) p).bytes := by
  obtain ⟨-, p, pwd, hprs, hop, hcs⟩ := rewrap_eq_ok.mp h
  obtain ⟨-, -, id, -, -, hacc, -, -⟩ := openLocked_eq_ok.mp hop
  simp only [Call.sealings, hacc.parse, hprs] at hs
  rcases hcs with ⟨hact, rfl⟩ | ⟨hoth, newNonce, rest, dek, id', rfl, hnon, hdek, hacc', -, rfl⟩
  · simp [hact] at hs
  · obtain rfl := hacc.unique hacc'
    rw [if_neg hoth, hdek, mem_singleton, ← hnon, take_left] at hs
    rw [← hnon, take_left]
    exact ⟨p, dek, pwd, id, hprs, hop, hdek, hacc, hs, rfl⟩

/-- A sealing was made for the row its associated data names. -/
lemma Call.context_of_sealing {call : Call} (hret : call.Returned P) (hs : s ∈ call.sealings P)
    (hacc : context.Accepted P parsedID) {purpose : UInt8} {id : KeyID}
    (haad : s.aad = aadBytes context parsedID purpose id) : call.context = context := by
  cases call with
  | sealed k c dek wrapNonce dataNonce password envelope =>
    obtain ⟨cid, hacc', hlist, -⟩ := Call.sealed_sealings hret
    rw [hlist, mem_cons, mem_singleton] at hs
    rcases hs with hs | hs <;> rw [hs] at haad <;> exact (aadBytes_inj hacc' hacc haad).2.1
  | rewrapped k c source random envelope =>
    obtain ⟨_, _, _, cid, -, -, -, hacc', hs, -⟩ := Call.rewrapped_sealing hret hs
    rw [hs] at haad
    exact (aadBytes_inj hacc' hacc haad).2.1

/-- The sealing is one that a call for this row has made. -/
def MadeFor (P : Primitives) (calls : List Call) (context : Context) (s : Sealing KeyMaterial) :
    Prop :=
  ∃ call ∈ calls, call.context = context ∧ s ∈ call.sealings P

variable (hcalls : ∀ call ∈ calls, call.Returned P)
include hcalls

lemma madeFor_of_log (hacc : context.Accepted P parsedID) {purpose : UInt8} {id : KeyID}
    (haad : s.aad = aadBytes context parsedID purpose id) (hs : s ∈ calls.flatMap (Call.sealings P)) :
    MadeFor P calls context s := by
  obtain ⟨call, hca, hs⟩ := mem_flatMap.mp hs
  exact ⟨call, hca, Call.context_of_sealing (hcalls call hca) hs hacc haad, hs⟩

/-- The inner layer of an envelope, as a sealing. -/
def ParsedEnvelope.dataLayer (p : ParsedEnvelope) (context : Context) (parsedID : Arr 16)
    (dek : KeyMaterial) (password : Bytes) : Sealing KeyMaterial :=
  ⟨dek, p.dataNonce, password, aadBytes context parsedID aadPurposePassword (zeroArr 32),
    p.ciphertext⟩

/-- The outer layer of an envelope, as a sealing. -/
def ParsedEnvelope.wrapLayer (p : ParsedEnvelope) (context : Context) (parsedID : Arr 16)
    (key dek : KeyMaterial) : Sealing KeyMaterial :=
  ⟨key, p.wrapNonce, dek.1, aadBytes context parsedID aadPurposeWrappedDEK p.keyID, p.wrappedDEK⟩

lemma MadeFor.sealed (hacc : context.Accepted P parsedID) {password : Bytes}
    (h : MadeFor P calls context (p.dataLayer context parsedID dek password)) :
    ∃ k wrapNonce envelope,
      Call.sealed k context dek wrapNonce p.dataNonce password envelope ∈ calls ∧
        p.dataLayer context parsedID dek password =
          dataSealing P context parsedID dek p.dataNonce password := by
  obtain ⟨call, hca, rfl, hs⟩ := h
  have hret := hcalls call hca
  have hpurp : aadPurposeWrappedDEK ≠ aadPurposePassword := by decide
  cases call with
  | sealed k c dek' wrapNonce dataNonce password' envelope =>
    obtain ⟨cid, hacc', hlist, -⟩ := Call.sealed_sealings hret
    rw [hlist, mem_cons, mem_singleton] at hs
    rcases hs with hs | hs
    · exact absurd (aadBytes_inj hacc' hacc (congrArg Sealing.aad hs).symm).1 hpurp
    · obtain rfl := hacc.unique hacc'
      obtain ⟨rfl, rfl, rfl, -⟩ := Sealing.mk.inj hs
      exact ⟨k, wrapNonce, envelope, hca, hs⟩
  | rewrapped k c source random envelope =>
    obtain ⟨_, _, _, cid, -, -, -, hacc', hlayer, -⟩ := Call.rewrapped_sealing hret hs
    exact absurd (aadBytes_inj hacc' hacc (congrArg Sealing.aad hlayer).symm).1 hpurp

/-- Fresh data keys: two inner layers under one data key are the same layer. -/
lemma dataLayer_unique (hfh : FreshKeys calls) (hacc : context.Accepted P parsedID)
    {p' : ParsedEnvelope} {pwd' : Bytes}
    (h : MadeFor P calls context (p.dataLayer context parsedID dek pwd))
    (h' : MadeFor P calls context (p'.dataLayer context parsedID dek pwd')) :
    p.dataNonce = p'.dataNonce ∧ p.ciphertext = p'.ciphertext := by
  obtain ⟨k, wrapNonce, envelope, hca, hlayer⟩ := h.sealed hcalls hacc
  obtain ⟨k', wrapNonce', envelope', hca', hlayer'⟩ := h'.sealed hcalls hacc
  have hsm := hfh _ hca _ hca' dek rfl rfl
  obtain ⟨-, -, -, -, hnon, hpwd, -⟩ := Call.sealed.inj hsm
  refine ⟨hnon, ?_⟩
  have hct := congrArg Sealing.ciphertext hlayer
  have hct' := congrArg Sealing.ciphertext hlayer'
  rw [hnon, hpwd] at hct
  exact hct.trans hct'.symm

/-- Both layers of an envelope that opens were made for its row. -/
lemma layers_of_open (hideal : P.aead.IdealOver (calls.flatMap (Call.sealings P)))
    (h : k.openLocked P context envelope = .ok pwd) :
    ∃ p key dek id, parseEnvelope envelope = .ok p ∧ k.keys.lookup p.keyID = some key ∧
      k.unwrapDEK P context p = .ok dek ∧ context.Accepted P id ∧
      MadeFor P calls context (p.wrapLayer context id key dek) ∧
      MadeFor P calls context (p.dataLayer context id dek pwd) := by
  obtain ⟨p, dek, id, hprs, hdek, hacc, -, hda⟩ := openLocked_eq_ok.mp h
  obtain ⟨key, id', hkey, hacc', hwrap⟩ := unwrapDEK_eq_ok.mp hdek
  obtain rfl := hacc.unique hacc'
  exact ⟨p, key, dek, id, hprs, hkey, hdek, hacc,
    madeFor_of_log hcalls hacc rfl (hideal _ _ _ _ _ hwrap),
    madeFor_of_log hcalls hacc rfl (hideal _ _ _ _ _ hda)⟩

/-- An outer layer comes in an envelope returned for its row, whose inner layer is under the
wrapped data key. -/
lemma MadeFor.wrapped (hideal : P.aead.IdealOver (calls.flatMap (Call.sealings P)))
    (hacc : context.Accepted P parsedID) {key : KeyMaterial}
    (h : MadeFor P calls context (p.wrapLayer context parsedID key dek)) :
    ∃ call ∈ calls, call.context = context ∧ ∃ (p' : ParsedEnvelope) (pwd : Bytes),
      call.envelope = p'.bytes ∧
      p'.keyID = p.keyID ∧ p'.wrapNonce = p.wrapNonce ∧ p'.wrappedDEK = p.wrappedDEK ∧
      MadeFor P calls context (p'.dataLayer context parsedID dek pwd) := by
  obtain ⟨call, hca, rfl, hs⟩ := h
  have hret := hcalls call hca
  have hpurp : aadPurposePassword ≠ aadPurposeWrappedDEK := by decide
  refine ⟨call, hca, rfl, ?_⟩
  cases call with
  | sealed k c dek' wrapNonce dataNonce pwd envelope =>
    obtain ⟨cid, hacc', hlist, henv⟩ := Call.sealed_sealings hret
    obtain rfl := hacc.unique hacc'
    have hda : dataSealing P c parsedID dek' dataNonce pwd ∈
        (Call.sealed k c dek' wrapNonce dataNonce pwd envelope).sealings P := by
      rw [hlist]
      exact .tail _ (.head _)
    rw [hlist, mem_cons, mem_singleton] at hs
    rcases hs with hs | hs
    · obtain ⟨-, hnon, hdek, haad, hct⟩ := Sealing.mk.inj hs
      obtain rfl : dek = dek' := Subtype.ext hdek
      have hid := (aadBytes_inj hacc hacc' haad).2.2 rfl
      exact ⟨_, pwd, henv, hid.symm, hnon.symm, hct.symm, _, hca, rfl, hda⟩
    · exact absurd (aadBytes_inj hacc' hacc (congrArg Sealing.aad hs).symm).1 hpurp
  | rewrapped k c source random envelope =>
    obtain ⟨q, dek', pwd, cid, hprs, hop, hunwrap, hacc', hlayer, henv⟩ :=
      Call.rewrapped_sealing hret hs
    obtain ⟨-, hnon, hdek, haad, hct⟩ := Sealing.mk.inj hlayer
    obtain rfl : dek = dek' := Subtype.ext hdek
    have hid := (aadBytes_inj hacc hacc' haad).2.2 rfl
    -- The envelope that was rewrapped opened, so its inner layer is in the log as well.
    obtain ⟨q', key', dek', cid', hprs', -, hunwrap', hacc'', -, hda⟩ :=
      layers_of_open hcalls hideal hop
    obtain rfl : q = q' := Except.ok.inj (hprs.symm.trans hprs')
    obtain rfl : dek = dek' := Except.ok.inj (hunwrap.symm.trans hunwrap')
    obtain rfl := hacc.unique hacc''
    exact ⟨_, pwd, henv, hid.symm, hnon.symm, hct.symm, hda⟩

/-! ## 3. Context binding -/

/-- The byte string is accounted for in the row: both of its layers were made for the row, the
outer one under the key that the keyring has for the id in the envelope, and a call for the row
returned exactly this byte string. -/
def Accounted (P : Primitives) (calls : List Call) (k : Keyring) (context : Context)
    (envelope password : Bytes) : Prop :=
  ∃ p key dek id, parseEnvelope envelope = .ok p ∧ k.keys.lookup p.keyID = some key ∧
    context.Accepted P id ∧ MadeFor P calls context (p.wrapLayer context id key dek) ∧
    MadeFor P calls context (p.dataLayer context id dek password) ∧
    ∃ call ∈ calls, call.context = context ∧ call.envelope = envelope

lemma accounted_of_open (hfh : FreshKeys calls)
    (hideal : P.aead.IdealOver (calls.flatMap (Call.sealings P)))
    {password : Bytes} (h : k.openLocked P context envelope = .ok password) :
    Accounted P calls k context envelope password := by
  obtain ⟨p, key, dek, id, hprs, hkey, -, hacc, hwrap, hda⟩ :=
    layers_of_open hcalls hideal h
  refine ⟨p, key, dek, id, hprs, hkey, hacc, hwrap, hda, ?_⟩
  obtain ⟨call, hca, hctx, p', password', hbs, hid, hnon, hwrpd, hda'⟩ :=
    hwrap.wrapped hcalls hideal hacc
  obtain ⟨hdataNonce, hct⟩ := dataLayer_unique hcalls hfh hacc hda' hda
  obtain ⟨-, rfl⟩ := parseEnvelope_eq_ok.mp hprs
  refine ⟨call, hca, hctx, hbs.trans (congrArg ParsedEnvelope.bytes ?_)⟩
  cases p
  cases p'
  simp_all

end

/-- **Context binding of sealed passwords.** Under an ideal cipher with fresh data keys, `Open`,
`rewrap` and `EnvelopeKeyID` succeed on a row and a byte string only if the byte string is
accounted for in the row; on a byte string that no call returned for the row, be it an envelope
of another row or an altered one, all three return an error. -/
theorem envelope_context_binding (P : Primitives) (calls : List Call)
    (hcalls : ∀ call ∈ calls, call.Returned P) (hfresh : FreshKeys calls)
    (hideal : P.aead.IdealOver (calls.flatMap (Call.sealings P))) (k : Keyring)
    (context : Context) (envelope : Bytes) :
    (∀ password, k.open P context envelope = .ok password →
      Accounted P calls k context envelope password) ∧
    (∀ random result, k.rewrap P context envelope random = .ok result →
      ∃ password, Accounted P calls k context envelope password) ∧
    (∀ text, k.envelopeKeyID P context envelope = .ok text →
      ∃ password, Accounted P calls k context envelope password) ∧
    ((∀ call ∈ calls, call.envelope = envelope → call.context ≠ context) →
      (∃ err, k.open P context envelope = .error err) ∧
      (∀ random, ∃ err, k.rewrap P context envelope random = .error err) ∧
      (∃ err, k.envelopeKeyID P context envelope = .error err)) := by
  have hopen : ∀ password, k.open P context envelope = .ok password →
      Accounted P calls k context envelope password := fun password h =>
    accounted_of_open hcalls hfresh hideal (open_eq_ok.mp h).2
  have hrewrap : ∀ random result, k.rewrap P context envelope random = .ok result →
      ∃ password, Accounted P calls k context envelope password := by
    intro random result h
    obtain ⟨-, -, password, -, hlocked, -⟩ := rewrap_eq_ok.mp h
    exact ⟨password, accounted_of_open hcalls hfresh hideal hlocked⟩
  have hkeyID : ∀ text, k.envelopeKeyID P context envelope = .ok text →
      ∃ password, Accounted P calls k context envelope password := by
    intro text h
    obtain ⟨password, -, h, -⟩ := envelopeKeyID_eq_ok.mp h
    exact ⟨password, hopen password h⟩
  refine ⟨hopen, hrewrap, hkeyID, fun hother => ?_⟩
  have hnone : ∀ password, ¬ Accounted P calls k context envelope password := by
    rintro password ⟨-, -, -, -, -, -, -, -, -, call, hcall, hcontext, henvelope⟩
    exact hother call hcall henvelope hcontext
  refine ⟨?_, fun random => ?_, ?_⟩
  · cases h : k.open P context envelope with
    | error err => exact ⟨err, rfl⟩
    | ok password => exact absurd (hopen password h) (hnone password)
  · cases h : k.rewrap P context envelope random with
    | error err => exact ⟨err, rfl⟩
    | ok result =>
      obtain ⟨password, hacc⟩ := hrewrap random result h
      exact absurd hacc (hnone password)
  · cases h : k.envelopeKeyID P context envelope with
    | error err => exact ⟨err, rfl⟩
    | ok text =>
      obtain ⟨password, hacc⟩ := hkeyID text h
      exact absurd hacc (hnone password)

/-! ## 4. An ideal cipher -/

/-- The cipher of `plainPrimitives`, except that it opens the sealings of a table and nothing
else. -/
def tableAead (log : List (Sealing KeyMaterial)) : Aead KeyMaterial where
  encrypt := plainPrimitives.aead.encrypt
  decrypt key nonce ciphertext aad :=
    (log.find? fun s => decide (s.key = key ∧ s.nonce = nonce ∧ s.ciphertext = ciphertext
      ∧ s.aad = aad)).map Sealing.plaintext

lemma tableAead_idealOver (log : List (Sealing KeyMaterial)) : (tableAead log).IdealOver log := by
  intro key nonce ciphertext aad plaintext h
  obtain ⟨s, hfind, rfl⟩ := Option.map_eq_some_iff.mp h
  have hmem := mem_of_find?_eq_some hfind
  have hsm := find?_some hfind
  simp only [decide_eq_true_eq] at hsm
  obtain ⟨rfl, rfl, rfl, rfl⟩ := hsm
  exact hmem

/-- The keyring of one zero key. -/
def zeroKeyring : Keyring := ⟨zeroArr 32, (∅ : KeyMap).insert (zeroArr 32) (zeroArr 32)⟩

/-- One password sealed under `zeroKeyring` with the data key `1 0 0 ..`. -/
def plainCall : Call :=
  .sealed zeroKeyring plainContext (toArr 32 [1]) (List.replicate 24 0) (List.replicate 24 0)
    [1, 2, 3]
    (sealedFields plainPrimitives zeroKeyring plainContext (toArr 16 plainContext.credentialID)
      (toArr 32 [1]) (List.replicate 24 0) (List.replicate 24 0) [1, 2, 3]).bytes

/-- `plainPrimitives` with a cipher that is ideal for `plainCall`. -/
def idealPrimitives : Primitives :=
  { plainPrimitives with aead := tableAead (plainCall.sealings plainPrimitives) }

lemma plainCall_returned : plainCall.Returned idealPrimitives := by
  have hacc : plainContext.Accepted idealPrimitives (toArr 16 plainContext.credentialID) := by
    constructor <;> decide
  refine ⟨rfl, rfl, [], seal_eq_ok.mpr ⟨by decide, by decide, _, _, _, _, _, rfl, rfl, rfl, hacc,
    ⟨rfl, rfl, rfl, by decide, by decide⟩, rfl⟩⟩

theorem plainCall_bound_to_its_row : plainCall.Returned idealPrimitives ∧
      ∃ err, zeroKeyring.open idealPrimitives { plainContext with username := [98] }
        plainCall.envelope = .error err := by
  refine ⟨plainCall_returned, ?_⟩
  refine ((envelope_context_binding idealPrimitives [plainCall] ?_ ?_ ?_ zeroKeyring
    { plainContext with username := [98] } plainCall.envelope).2.2.2 ?_).1
  · intro call hcall
    rw [mem_singleton.mp hcall]
    exact plainCall_returned
  · intro call hcall call' hcall' dek _ _
    rw [mem_singleton.mp hcall, mem_singleton.mp hcall']
  · exact tableAead_idealOver _
  · intro call hcall _
    rw [mem_singleton.mp hcall]
    decide

end ReCasaOS.Smb
