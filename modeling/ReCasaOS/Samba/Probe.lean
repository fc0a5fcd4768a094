/-
# The probe of a Samba server

`pkg/samba/smaba.go` asks a server for its shares in a child process, with rules of its own for the
request. They are those of `service/connections_validation.go`, written differently
(`fields_agree`, `share_agree`).

The request goes to the child as JSON, and neither end takes more than 4096 bytes of it. A password
of 1024 bytes is accepted, but `<`, `>` and `&` take six bytes each when they are quoted: a connection
that may be mounted is probed just when its quoted fields fit (`mountable_probed_iff`).
-/
import ReCasaOS.Samba.ConnectionRules

namespace ReCasaOS.Samba

open Lib FileSecurity List

structure ProbeRequest where
  host : Bytes
  port : Bytes
  username : Bytes
  password : Bytes

def validateProbeRequest (request : ProbeRequest) : Except OpError Unit := do
  check (request.port ≠ utf8 "445" ∨ request.host = [] ∨ 255 < request.host.length
      ∨ request.username = [] ∨ 255 < request.username.length ∨ 1024 < request.password.length)
    (textError "invalid Samba probe fields")
  check (hasPrefix request.host (utf8 ".") ∨ hasSuffix request.host (utf8 ".")
      ∨ containsText request.host (utf8 ".."))
    (textError "invalid Samba probe host")
  check ((runes request.host).all isHostRune = false) (textError "invalid Samba probe host")
  validateSambaField "probe credentials" request.username
  validateSambaField "probe credentials" request.password

def validateProbeShare (share : Bytes) : Except OpError Unit := do
  check (share = [] ∨ 255 < share.length ∨ validString share = false ∨ trimSpace share ≠ share
      ∨ containsAny share (utf8 ",/\\\x00\r\n") ∨ share = utf8 "." ∨ share = utf8 "..")
    (textError "invalid Samba share name")
  check (hasControl share) (textError "invalid Samba share name")

def ProbeRequest.marshal (request : ProbeRequest) : Bytes :=
  utf8 "\x7b\"host\":" ++ Json.quote request.host ++ utf8 ",\"port\":" ++ Json.quote request.port
    ++ utf8 ",\"username\":" ++ Json.quote request.username
    ++ utf8 ",\"password\":" ++ Json.quote request.password ++ utf8 "\x7d"

def maxProbeInputBytes : Nat := 4096

/-- `GetSambaSharesList` up to the start of the child, which reads with the same bound. -/
def probeInput (request : ProbeRequest) : Except OpError Bytes := do
  validateProbeRequest request
  check (maxProbeInputBytes < request.marshal.length) (textError "invalid Samba probe request")
  pure request.marshal

lemma probeInput_eq_ok {request : ProbeRequest} {input : Bytes} :
    probeInput request = .ok input ↔ validateProbeRequest request = .ok () ∧
      request.marshal.length ≤ maxProbeInputBytes ∧ request.marshal = input := by
  rw [probeInput, bind_eq_ok, ← not_lt]
  constructor
  · rintro ⟨_, hvalid, h⟩
    rw [check_bind_eq_ok, pure_eq_ok] at h
    exact ⟨hvalid, h⟩
  · rintro ⟨hvalid, h⟩
    exact ⟨(), hvalid, check_bind_eq_ok.mpr ⟨h.1, pure_eq_ok.mpr h.2⟩⟩

lemma containsAny_iff {s chars : Bytes} : containsAny s chars ↔ ∃ c ∈ chars, c ∈ s := by
  simp [containsAny, and_comm]

/-- The characters of a host leave nothing for the other checks to find. -/
lemma host_checked {host : Bytes} (hne : host ≠ []) (hlen : host.length ≤ 255)
    (hdot : ¬ hasPrefix host (utf8 ".")) (hall : (runes host).all isHostRune) :
    validatePathComponent host ∧ validString host ∧ ¬ containsAny host (utf8 ",\x00\r\n") ∧
      ¬ hasControl host := by
  rw [all_eq_true] at hall
  have hbyte : ∀ c : UInt8, c.toNat < 0x80 ∧ isHostRune (some c.toNat) = false → c ∉ host := by
    intro c hc hmem
    exact absurd (hall _ (mem_runesWithin hc.1 (le_refl _) hmem)) (Bool.eq_false_iff.mp hc.2)
  have hstart : ∀ rest, host ≠ 46 :: rest := by
    rintro rest rfl
    exact hdot rfl
  refine ⟨validatePathComponent_iff.mpr ⟨hne, hstart _, hstart _, hlen, ?_, ?_⟩, ?_, ?_, ?_⟩
  · exact hbyte 0 (by decide)
  · exact hbyte 47 (by decide)
  · refine all_eq_true.mpr fun r hr => ?_
    cases r with
    | none => cases hall _ hr
    | some r => rfl
  · rw [containsAny_iff]
    rintro ⟨c, hc, hmem⟩
    have hplain : ∀ c ∈ utf8 ",\x00\r\n", c.toNat < 0x80 ∧ isHostRune (some c.toNat) = false := by
      decide +kernel
    exact hbyte c (hplain c hc) hmem
  · rw [hasControl, any_eq_true]
    rintro ⟨r, hr, hcontrol⟩
    have := hall _ hr
    cases r <;> grind [isHostRune, isControl]

lemma fields_agree {host port username password : Bytes} :
    validateSambaConnectionFields username password host port = .ok () ↔
      validateProbeRequest ⟨host, port, username, password⟩ = .ok () := by
  have hchecked := @host_checked host
  have hcomponent := @validatePathComponent_iff host
  simp only [validateSambaConnectionFields, validateProbeRequest, validateSambaHost, validateSambaField,
    validateSambaPort, bind_assoc, check_bind_eq_ok, check_eq_ok]
  grind

/-- The two packages accept the same shares, hidden ones included. -/
lemma share_agree {share : Bytes} :
    validateSambaDirectoryName share true = .ok () ↔ validateProbeShare share = .ok () := by
  have hchars : containsAny share (utf8 ",/\\\x00\r\n") ↔
      47 ∈ share ∨ containsAny share (utf8 ",\\\x00\r\n") := by
    rw [containsAny_iff, containsAny_iff,
      show utf8 ",/\\\x00\r\n" = [44, 47, 92, 0, 13, 10] by decide +kernel,
      show utf8 ",\\\x00\r\n" = [44, 92, 0, 13, 10] by decide +kernel]
    grind
  have hzero : 0 ∈ share → containsAny share (utf8 ",\\\x00\r\n") := fun h =>
    containsAny_iff.mpr ⟨0, by decide +kernel, h⟩
  have hdot : utf8 "." = [46] ∧ utf8 ".." = [46, 46] := by decide +kernel
  have hcomponent := @validatePathComponent_iff share
  simp only [validateSambaDirectoryName, validateProbeShare, check_bind_eq_ok, check_eq_ok, hdot]
  grind

/-- **What may be mounted can be probed**, provided that its fields fit when they are quoted: the
two packages accept the same connections and shares, and of the accepted connections the probe
refuses those, and only those, whose quoted fields take more than 4050 bytes. -/
theorem mountable_probed_iff (host port username password share : Bytes) :
    (validateSambaConnectionFields username password host port = .ok () ↔
      validateProbeRequest ⟨host, port, username, password⟩ = .ok ()) ∧
    (validateSambaDirectoryName share true = .ok () ↔ validateProbeShare share = .ok ()) ∧
    ((validateSambaConnectionFields username password host port = .ok () →
        ∃ input, probeInput ⟨host, port, username, password⟩ = .ok input ∧
          input.length ≤ maxProbeInputBytes) ↔
      (validateSambaConnectionFields username password host port = .ok () →
        (Json.quote host).length + (Json.quote username).length + (Json.quote password).length
          ≤ 4050)) := by
  refine ⟨fields_agree, share_agree, forall_congr' fun h => ?_⟩
  rw [fields_agree] at h
  have hport : port = utf8 "445" := by
    simp only [validateProbeRequest, check_bind_eq_ok] at h
    grind
  have hlength : (ProbeRequest.marshal ⟨host, port, username, password⟩).length = 46 +
      ((Json.quote host).length + (Json.quote username).length + (Json.quote password).length) := by
    have hkeys : (utf8 "\x7b\"host\":").length = 8 ∧ (utf8 ",\"port\":").length = 8 ∧
        (Json.quote (utf8 "445")).length = 5 ∧ (utf8 ",\"username\":").length = 12 ∧
        (utf8 ",\"password\":").length = 12 ∧ (utf8 "\x7d").length = 1 := by decide +kernel
    simp only [ProbeRequest.marshal, hport, length_append, hkeys]
    omega
  unfold maxProbeInputBytes
  constructor
  · rintro ⟨input, hin, -⟩
    have := (probeInput_eq_ok.mp hin).2.1
    rw [hlength, maxProbeInputBytes] at this
    omega
  · intro hfits
    exact ⟨_, probeInput_eq_ok.mpr ⟨h, by rw [hlength, maxProbeInputBytes]; omega, rfl⟩, by omega⟩

/-- Every `<` of a password is quoted as six bytes. -/
theorem angle_password_not_probed :
    validateSambaConnectionFields (utf8 "u") (replicate 700 60) (utf8 "nas") (utf8 "445") = .ok () ∧
    probeInput ⟨utf8 "nas", utf8 "445", utf8 "u", replicate 700 60⟩
      = .error (textError "invalid Samba probe request") := by
  have hvalid :
      validateProbeRequest ⟨utf8 "nas", utf8 "445", utf8 "u", replicate 700 60⟩ = .ok () := by
    simp only [validateProbeRequest, validateSambaField, bind_assoc, check_bind_eq_ok, check_eq_ok]
    decide +kernel
  refine ⟨fields_agree.mpr hvalid, ?_⟩
  rw [probeInput, hvalid, ok_bind, check, if_pos (by decide +kernel)]
  rfl

end ReCasaOS.Samba
