/-
# What a Samba connection may look like

The rules of `service/connections_validation.go`: which user names, hosts and shares are accepted,
what a stored row must hold, and when the mount table shows a share mounted as it should be.

A row from before mounts were owned has neither boot id nor mount ids (`legacy`). The mount ids of the
others are a JSON map; what `encoding/json` writes and reads is `MountIDText`.

Paths, ids and names are left out of the texts of errors. Go ranges over the three fields of a
connection in any order; here they are checked in the order in which the source writes them.
-/
import ReCasaOS.Lib.Json
import ReCasaOS.Lib.Mounts
import ReCasaOS.Samba.ConfigDirectory
import ReCasaOS.FileSecurity.ManagedRoots

namespace ReCasaOS.Samba

open Lib FileSecurity List Option

variable {directories : List Bytes}

/-! ## 1. Fields -/

def hasControl (value : Bytes) : Bool := (runes value).any fun r => r.any isControl

/-- The check that `ValidateSambaConnectionFields` makes of every field. -/
def validateSambaField (fieldName : String) (value : Bytes) : Except OpError Unit := do
  check (validString value = false ∨ containsAny value (utf8 ",\x00\r\n"))
    (textError ("invalid Samba " ++ fieldName))
  check (hasControl value) (textError ("invalid Samba " ++ fieldName))

def validateSambaPort (port : Bytes) : Except OpError Unit :=
  check (port ≠ utf8 "445") (textError "only the canonical Samba port 445 is supported")

/-- A character of a host name; a byte that starts no rune is none. -/
def isHostRune : Option Nat → Bool
  | none => false
  | some r => decide (97 ≤ r ∧ r ≤ 122) || decide (65 ≤ r ∧ r ≤ 90) || decide (48 ≤ r ∧ r ≤ 57)
      || r == 46 || r == 45 || r == 95

def validateSambaHost (host : Bytes) : Except OpError Unit := do
  check (hasPrefix host (utf8 ".") ∨ hasSuffix host (utf8 ".")
      ∨ containsText host (utf8 ".."))
    (textError "invalid Samba host")
  check ((runes host).all isHostRune = false) (textError "invalid Samba host")

def validateSambaConnectionFields (username password host port : Bytes) : Except OpError Unit := do
  check (username = [] ∨ 255 < username.length ∨ 1024 < password.length ∨ 255 < host.length)
    (textError "invalid Samba credential or host length")
  check (validatePathComponent host = false) (.wrapped "invalid Samba host" (.leaf .unsafePath))
  validateSambaHost host
  validateSambaField "username" username
  validateSambaField "password" password
  validateSambaField "host" host
  validateSambaPort port

def validateLegacySambaHost (host : Bytes) : Except OpError Unit := do
  check (host = [] ∨ 255 < host.length) (textError "invalid legacy Samba host length")
  check (validatePathComponent host = false)
    (.wrapped "invalid legacy Samba host" (.leaf .unsafePath))
  validateSambaHost host

/-! ## 2. Shares -/

/-- A hidden or administrative share. -/
def isHidden (directory : Bytes) : Bool := hasSuffix directory (utf8 "$")

def validateSambaDirectoryName (directory : Bytes) (allowHidden : Bool) : Except OpError Unit := do
  check (validatePathComponent directory = false)
    (.wrapped "invalid Samba directory" (.leaf .unsafePath))
  check (validString directory = false ∨ trimSpace directory ≠ directory
      ∨ containsAny directory (utf8 ",\\\x00\r\n"))
    (textError "invalid Samba directory")
  check (allowHidden = false ∧ isHidden directory)
    (textError "hidden or administrative Samba share is not mountable")
  check (hasControl directory) (textError "invalid Samba directory")

def validateSambaDirectory (directory : Bytes) : Except OpError Unit :=
  validateSambaDirectoryName directory false

def validateLegacySambaDirectory (directory : Bytes) : Except OpError Unit :=
  validateSambaDirectoryName directory true

/-- The loop over the names of shares, with the set `seen`. -/
def validateNames (allowHidden : Bool) (duplicate : String) :
    (seen : List Bytes) → List Bytes → Except OpError Unit
  | _, [] => .ok ()
  | seen, directory :: directories => do
    validateSambaDirectoryName directory allowHidden
    check (directory ∈ seen) (textError duplicate)
    validateNames allowHidden duplicate (directory :: seen) directories

def validateSambaDirectories (directories : List Bytes) (limit : Nat) : Except OpError Unit := do
  check (directories.length = 0 ∨ limit < directories.length)
    (textError "invalid Samba directory count")
  validateNames false "duplicate Samba directory" [] directories

def filterSambaMountableShares (directories : List Bytes) (limit : Nat) :
    Except OpError (List Bytes) := do
  let filtered := directories.filter fun directory => !isHidden directory
  check (limit < filtered.length) (textError "invalid Samba directory count")
  validateSambaDirectories filtered limit
  .ok filtered

def parseSambaDirectories (value : Bytes) (limit : Nat) : Except OpError (List Bytes) := do
  check (value = []) (textError "no Samba directories persisted")
  let directories := splitByte 44 value
  check (directories.length = 0 ∨ limit < directories.length)
    (textError "invalid Samba directory count")
  validateSambaDirectories directories limit
  .ok directories

def parseLegacySambaDirectories (value : Bytes) (limit : Nat) : Except OpError (List Bytes) := do
  check (value = []) (textError "no legacy Samba directories persisted")
  let directories := splitByte 44 value
  check (directories.length = 0 ∨ limit < directories.length)
    (textError "invalid legacy Samba directory count")
  validateNames true "duplicate legacy Samba directory" [] directories
  .ok directories

/-! ## 3. Stored rows -/

/-- What `encoding/json` makes of a map from shares to mount ids, and of a text. -/
structure MountIDText where
  marshal : NameTable Bytes Nat → Bytes
  unmarshal : Bytes → Option (NameTable Bytes Nat)
  marshal_ne : ∀ mountIDs, marshal mountIDs ≠ []
  /-- A map with keys in UTF-8 comes back. -/
  round : ∀ mountIDs : NameTable Bytes Nat, (∀ directory ∈ mountIDs, validString directory) →
    ∃ read, unmarshal (marshal mountIDs) = some read ∧ read.size = mountIDs.size ∧
      ∀ directory, read.lookup directory = mountIDs.lookup directory

def writePair (entry : (_ : Bytes) × Nat) : Bytes := 58 :: (Json.decimal entry.2 ++ Json.quote entry.1)

def readPair (data : Bytes) : Option (((_ : Bytes) × Nat) × Bytes) :=
  let digits := Json.readDigits 0 data.tail
  (Json.readString digits.2).map fun name => (⟨name.1, digits.1⟩, name.2)

lemma readPair_writePair {entry : (_ : Bytes) × Nat} (h : validString entry.1) (tail : Bytes) :
    readPair (writePair entry ++ tail) = some (entry, tail) := by
  have hdigits : Json.readDigits entry.2 (Json.quote entry.1 ++ tail)
      = (entry.2, Json.quote entry.1 ++ tail) := Json.readDigits_stop (by simp [Json.quote])
  simp only [readPair, writePair, cons_append, tail_cons, append_assoc,
    Json.readDigits_decimal, hdigits, Json.readString_quote h, map_some]

/-- A text of that kind: a list of ids, each with its name behind it. -/
def pairText : MountIDText where
  marshal mountIDs := Json.array (mountIDs.entries.map writePair)
  unmarshal data :=
    match Json.readArray readPair data with
    | some (entries, []) => if h : (List.keys entries).Nodup then some ⟨entries, h⟩ else none
    | _ => none
  marshal_ne mountIDs := List.cons_ne_nil _ _
  round mountIDs hvalid := by
    have harray : Json.readArray readPair (Json.array (mountIDs.entries.map writePair) ++ [])
        = some (mountIDs.entries, []) := by
      refine Json.readArray_array (fun entry _ => ⟨58, _, rfl, by decide⟩) (fun entry hentry tail => ?_) []
      exact readPair_writePair (hvalid entry.1 (AList.mem_keys.mpr (List.mem_map_of_mem hentry))) tail
    rw [List.append_nil] at harray
    refine ⟨mountIDs, ?_, rfl, fun _ => rfl⟩
    simp only [harray]
    exact dif_pos mountIDs.nodupKeys

section

variable (text : MountIDText)

/-- The check of every entry. -/
def identified (mountIDs : NameTable Bytes Nat) : Bool :=
  mountIDs.entries.all fun entry => (validateSambaDirectory entry.1).isOk && entry.2 != 0

def encodeSambaMountIDs (mountIDs : NameTable Bytes Nat) (limit : Nat) : Except OpError Bytes := do
  check (mountIDs.size = 0 ∨ limit < mountIDs.size) (textError "invalid Samba mount identity count")
  check (identified mountIDs = false) (textError "invalid Samba mount identity")
  .ok (text.marshal mountIDs)

def parseSambaMountIDs (value : Bytes) (limit : Nat) : Except OpError (NameTable Bytes Nat) :=
  if value = [] then .ok ∅
  else do
    let mountIDs ← orError (text.unmarshal value) (textError "invalid persisted Samba mount identities")
    check (mountIDs.size = 0 ∨ limit < mountIDs.size)
      (textError "invalid persisted Samba mount identities")
    check (identified mountIDs = false) (textError "invalid persisted Samba mount identity")
    .ok mountIDs

end

/-- The results of `ParsePersistedSambaConnection`. -/
structure PersistedConnection where
  directories : List Bytes
  allDirectories : List Bytes
  port : Bytes
  legacy : Bool
  deriving DecidableEq

def parsePersistedSambaConnection (directoriesValue port bootID mountIDsValue : Bytes) (limit : Nat) :
    Except OpError PersistedConnection := do
  check (decide (bootID = []) ≠ decide (mountIDsValue = []))
    (textError "incomplete persisted Samba ownership identity")
  if bootID ≠ [] then do
    validateSambaPort port
    let directories ← parseSambaDirectories directoriesValue limit
    .ok ⟨directories, directories, port, false⟩
  else do
    let legacyDirectories ← parseLegacySambaDirectories directoriesValue limit
    .ok ⟨legacyDirectories.filter fun directory => !isHidden directory, legacyDirectories,
      if port = [] then utf8 "445" else port, true⟩

/-! ## 4. Mounts -/

structure SambaMountIdentity where
  mountID : Nat
  mountpoint : Bytes
  fsType : Bytes
  source : Bytes
  deriving DecidableEq

/-- `fmt.Sprintf("//%s/%s", host, directory)`. -/
def sambaSource (host directory : Bytes) : Bytes := utf8 "//" ++ host ++ utf8 "/" ++ directory

/-- `none` if nothing is mounted there. -/
def inspectSambaMountEntries (mountPoint host directory : Bytes) (mounts : List MountEntry) :
    Except OpError (Option SambaMountIdentity) :=
  match entriesAt mounts mountPoint with
  | [] => .ok none
  | [mounted] => do
    check (mounted.fsType ≠ utf8 "cifs" ∨ mounted.source ≠ sambaSource host directory)
      (textError "unexpected mount identity")
    check (mounted.id ≤ 0) (textError "invalid mount ID")
    .ok (some ⟨mounted.id.toNat, mounted.mountpoint, mounted.fsType, mounted.source⟩)
  | _ => .error (textError "multiple mount entries for Samba mount point")

def validateSambaMountEntries (mountPoint host directory : Bytes) (expectedMountID : Nat)
    (mounts : List MountEntry) : Except OpError Bool := do
  match ← inspectSambaMountEntries mountPoint host directory mounts with
  | none => .ok false
  | some identity => do
    check (expectedMountID = 0 ∨ identity.mountID ≠ expectedMountID)
      (textError "mount ID does not match persisted mount ID")
    .ok true

/-! ## 5. What is accepted -/

/-- The single mount entry of a share, as it should be. -/
structure IsShareMount (entry : MountEntry) (host directory : Bytes) : Prop where
  fsType : entry.fsType = utf8 "cifs"
  source : entry.source = sambaSource host directory
  positive : 0 < entry.id

variable {host directory : Bytes}

lemma validateSambaConnectionFields_host {username pwd port : Bytes}
    (h : validateSambaConnectionFields username pwd host port = .ok ()) :
    validatePathComponent host := by
  simp only [validateSambaConnectionFields, bind_eq_ok, check_eq_ok] at h
  obtain ⟨_, -, _, hcp, -⟩ := h
  exact Bool.eq_true_of_not_eq_false hcp

lemma validateLegacySambaHost_ok (h : validateLegacySambaHost host = .ok ()) :
    validatePathComponent host := by
  simp only [validateLegacySambaHost, bind_eq_ok, check_eq_ok] at h
  obtain ⟨_, -, _, hcp, -⟩ := h
  exact Bool.eq_true_of_not_eq_false hcp

lemma validateNames_ok {allowHidden : Bool} {duplicate : String} :
    ∀ {directories seen : List Bytes}, validateNames allowHidden duplicate seen directories = .ok () ↔
      (∀ d ∈ directories, validateSambaDirectoryName d allowHidden = .ok ()) ∧ directories.Nodup ∧
        ∀ d ∈ directories, d ∉ seen
  | [], seen => by simp [validateNames]
  | directory :: directories, seen => by
    have ih := @validateNames_ok allowHidden duplicate directories (directory :: seen)
    simp only [validateNames, bind_eq_ok, check_eq_ok, ih, forall_mem_cons, nodup_cons]
    constructor
    · rintro ⟨_, hnm, _, hse, hnms, hnd, hfh⟩
      refine ⟨⟨hnm, hnms⟩, ⟨fun hmem => hfh _ hmem (.head _), hnd⟩, hse, ?_⟩
      exact fun d hd hmem => hfh d hd (.tail _ hmem)
    · rintro ⟨⟨hnm, hnms⟩, ⟨hmem, hnd⟩, hse, hfh⟩
      refine ⟨(), hnm, (), hse, hnms, hnd, fun d hd hcons => ?_⟩
      rcases mem_cons.mp hcons with rfl | hcons
      · exact hmem hd
      · exact hfh d hd hcons

/-- Shares that may be mounted. -/
structure Mountable (directories : List Bytes) (limit : Nat) : Prop where
  ne : directories ≠ []
  count : directories.length ≤ limit
  nodup : directories.Nodup
  valid : ∀ d ∈ directories, validateSambaDirectory d = .ok ()

variable {limit : Nat}

lemma validateSambaDirectories_ok :
    validateSambaDirectories directories limit = .ok () ↔ Mountable directories limit := by
  simp only [validateSambaDirectories, check_bind_eq_ok, validateNames_ok]
  constructor
  · rintro ⟨hcnt, hv, hnd, -⟩
    obtain ⟨hne, hle⟩ := not_or.mp hcnt
    exact ⟨fun h => hne (length_eq_zero_iff.mpr h), Nat.le_of_not_lt hle, hnd, hv⟩
  · intro h
    refine ⟨not_or.mpr ⟨fun h0 => h.ne (length_eq_zero_iff.mp h0), Nat.not_lt.mpr h.count⟩,
      h.valid, h.nodup, fun _ _ => not_mem_nil⟩

lemma parseSambaDirectories_ok {value : Bytes}
    (h : parseSambaDirectories value limit = .ok directories) :
    Mountable directories limit ∧ directories = splitByte 44 value := by
  simp only [parseSambaDirectories, bind_eq_ok, check_eq_ok] at h
  obtain ⟨_, -, _, -, _, hv, hsm⟩ := h
  cases hsm
  exact ⟨validateSambaDirectories_ok.mp hv, rfl⟩

lemma validateSambaDirectoryName_ok {allowHidden : Bool}
    (h : validateSambaDirectoryName directory allowHidden = .ok ()) :
    validatePathComponent directory ∧ validString directory ∧ 44 ∉ directory ∧
      trimSpace directory = directory ∧ (allowHidden = false → isHidden directory = false) := by
  simp only [validateSambaDirectoryName, check_bind_eq_ok, check_eq_ok] at h
  obtain ⟨hcp, hpl, hhid, -⟩ := h
  simp only [not_or, Bool.not_eq_false, not_not] at hcp hpl
  refine ⟨hcp, hpl.1, fun hmem => hpl.2.2 ?_, hpl.2.1, fun hallow => ?_⟩
  · exact any_eq_true.mpr ⟨44, hmem, by decide⟩
  · exact Bool.eq_false_of_not_eq_true fun hend => hhid ⟨hallow, hend⟩

lemma Mountable.component (h : Mountable directories limit) {d : Bytes}
    (hd : d ∈ directories) : validatePathComponent d :=
  (validateSambaDirectoryName_ok (h.valid d hd)).1

lemma Mountable.parse (h : Mountable directories limit) :
    parseSambaDirectories (intercalate [44] directories) limit = .ok directories := by
  have hcommas : ∀ d ∈ directories, 44 ∉ d := fun d hd =>
    (validateSambaDirectoryName_ok (h.valid d hd)).2.2.1
  have hspt := splitByte_intercalate h.ne hcommas
  have hne : intercalate [44] directories ≠ [] := by
    intro hnil
    have hpa : validatePathComponent [] = false := by decide
    rw [hnil] at hspt
    have hmem : [] ∈ directories := hspt ▸ mem_singleton_self _
    rw [h.component hmem] at hpa
    cases hpa
  have hcnt := validateSambaDirectories_ok.mpr h
  have hbd : ¬ (directories.length = 0 ∨ limit < directories.length) :=
    not_or.mpr ⟨fun h0 => h.ne (length_eq_zero_iff.mp h0), not_lt.mpr h.count⟩
  simp only [parseSambaDirectories, bind_eq_ok, check_eq_ok, hspt, hcnt]
  exact ⟨(), hne, (), hbd, (), trivial, trivial⟩

lemma filterSambaMountableShares_ok {filtered : List Bytes}
    (h : filterSambaMountableShares directories limit = .ok filtered) :
    Mountable filtered limit ∧ filtered = directories.filter fun d => !isHidden d := by
  simp only [filterSambaMountableShares, bind_eq_ok, check_eq_ok] at h
  obtain ⟨_, -, _, hv, hsm⟩ := h
  cases hsm
  exact ⟨validateSambaDirectories_ok.mp hv, rfl⟩

/-- A share without a mark of a hidden one passes under both rules. -/
lemma validateSambaDirectory_of_legacy
    (h : validateLegacySambaDirectory directory = .ok ()) (hhid : isHidden directory = false) :
    validateSambaDirectory directory = .ok () := by
  unfold validateLegacySambaDirectory at h
  simp only [validateSambaDirectory, validateSambaDirectoryName, check_bind_eq_ok, check_eq_ok] at h ⊢
  obtain ⟨hcp, hpl, -, hctl⟩ := h
  refine ⟨hcp, hpl, fun hend => ?_, hctl⟩
  rw [hhid] at hend
  exact absurd hend.2 Bool.false_ne_true

/-- **What a stored row lists.** All names are components without repetition; those to be mounted
are mountable, unless a legacy row lists only hidden ones. -/
theorem parsePersistedSambaConnection_ok {directoriesValue port bootID mountIDsValue : Bytes}
    {parsed : PersistedConnection}
    (h : parsePersistedSambaConnection directoriesValue port bootID mountIDsValue limit = .ok parsed) :
    (∀ d ∈ parsed.allDirectories, validateLegacySambaDirectory d = .ok ()) ∧
      parsed.allDirectories.length ≤ limit ∧
      parsed.directories.Sublist parsed.allDirectories ∧ parsed.allDirectories.Nodup ∧
      (∀ d ∈ parsed.directories, validateSambaDirectory d = .ok ()) ∧
      (parsed.legacy = decide (bootID = [])) ∧
      (bootID ≠ [] → parseSambaDirectories directoriesValue limit = .ok parsed.directories) := by
  simp only [parsePersistedSambaConnection, check_bind_eq_ok] at h
  obtain ⟨-, h⟩ := h
  split at h
  next hbt =>
    simp only [bind_eq_ok] at h
    obtain ⟨_, -, directories, hprs, hsm⟩ := h
    cases hsm
    obtain ⟨hmtb, -⟩ := parseSambaDirectories_ok hprs
    refine ⟨fun d hd => ?_, hmtb.count, List.Sublist.refl _, hmtb.nodup, hmtb.valid,
      (decide_eq_false hbt).symm, fun _ => hprs⟩
    have hv := hmtb.valid d hd
    simp only [validateSambaDirectory, validateLegacySambaDirectory, validateSambaDirectoryName,
      check_bind_eq_ok, check_eq_ok] at hv ⊢
    exact ⟨hv.1, hv.2.1, by simp, hv.2.2.2⟩
  next hbt =>
    simp only [bind_eq_ok] at h
    obtain ⟨legacyDirectories, hprs, hsm⟩ := h
    cases hsm
    simp only [parseLegacySambaDirectories, bind_eq_ok, check_eq_ok] at hprs
    obtain ⟨_, -, _, hcnt, _, hnms, hspt⟩ := hprs
    cases hspt
    obtain ⟨hv, hnd, -⟩ := validateNames_ok.mp hnms
    refine ⟨hv, Nat.le_of_not_lt (not_or.mp hcnt).2, filter_sublist, hnd, fun d hd => ?_,
      (decide_eq_true (not_not.mp hbt)).symm, fun hne => absurd hne hbt⟩
    obtain ⟨hmem, hhid⟩ := mem_filter.mp hd
    exact validateSambaDirectory_of_legacy (hv d hmem) (by simpa using hhid)

/-! ## 6. What is stored is what is read -/

section

variable {text : MountIDText} {ids : NameTable Bytes Nat} {limit : Nat}

lemma parse_encode {encoded : Bytes} (h : encodeSambaMountIDs text ids limit = .ok encoded) :
    ∃ read, parseSambaMountIDs text encoded limit = .ok read ∧
      ∀ d, read.lookup d = ids.lookup d := by
  simp only [encodeSambaMountIDs, bind_eq_ok, check_eq_ok] at h
  obtain ⟨_, hsz, _, hidd, hmar⟩ := h
  cases hmar
  rw [Bool.not_eq_false] at hidd
  have hall : ∀ d mid, ids.lookup d = some mid → validateSambaDirectory d = .ok () ∧ mid ≠ 0 := by
    intro d mid hlk
    have := all_eq_true.mp hidd ⟨d, mid⟩ (NameTable.mem_entries_iff.mpr hlk)
    rw [Bool.and_eq_true, bne_iff_ne] at this
    refine ⟨?_, this.2⟩
    cases hv : validateSambaDirectory d with
    | ok u => rfl
    | error err =>
      rw [hv] at this
      cases this.1
  obtain ⟨read, hrd, hcnt, hlk⟩ := text.round ids fun d hmem => by
    obtain ⟨mid, hd⟩ := isSome_iff_exists.mp (AList.lookup_isSome.mpr hmem)
    exact (validateSambaDirectoryName_ok (hall d mid hd).1).2.1
  refine ⟨read, ?_, hlk⟩
  have hsm : identified read := by
    refine all_eq_true.mpr fun entry hent => ?_
    obtain ⟨hv, hne⟩ := hall _ _ ((hlk _).symm.trans (NameTable.mem_entries_iff.mp hent))
    rw [hv]
    simp [Except.isOk, Except.toBool, hne]
  rw [parseSambaMountIDs, if_neg (text.marshal_ne ids)]
  simp only [bind_eq_ok, check_eq_ok, orError_eq_ok]
  refine ⟨read, hrd, (), hcnt ▸ hsz, (), ?_, rfl⟩
  rw [hsm]
  exact Bool.true_eq_false_eq_False

/-- The identities of shares are encoded, unless there are none. -/
lemma Mountable.encode (h : Mountable directories limit) (hover : ∀ d ∈ ids, d ∈ directories)
    (hids : ∀ d mid, ids.lookup d = some mid → mid ≠ 0) (hsz : ids.size ≠ 0) :
    encodeSambaMountIDs text ids limit = .ok (text.marshal ids) := by
  have hsub : ids.keys ⊆ directories := fun d hd => hover d (AList.mem_keys.mpr hd)
  have hle := (subperm_of_subset ids.keys_nodup hsub).length_le
  have hkeys : ids.keys.length = ids.size := length_map _
  have hidd : identified ids := by
    refine all_eq_true.mpr fun entry hent => ?_
    have hlk := NameTable.mem_entries_iff.mp hent
    have hd : entry.1 ∈ directories := hover _ (AList.lookup_isSome.mp (isSome_iff_exists.mpr ⟨_, hlk⟩))
    rw [h.valid _ hd]
    simp [Except.isOk, Except.toBool, hids _ _ hlk]
  have hcnt := h.count
  simp only [encodeSambaMountIDs, check_bind_eq_ok, hidd]
  exact ⟨by omega, by simp, trivial⟩

/-- **A stored connection reads back.** For shares that may be mounted and mount ids of some of them
the stored fields give the same list as a row that is not legacy, and the same map; only of no ids at
all nothing is stored. And no row is accepted that has one of the two ownership fields. -/
theorem stored_connection_reads_back {bootID : Bytes}
    (hvalid : validateSambaDirectories directories limit = .ok ())
    (hover : ∀ d ∈ ids, d ∈ directories)
    (hids : ∀ d mid, ids.lookup d = some mid → mid ≠ 0) (hboot : bootID ≠ []) :
    (ids.size = 0 ∧ encodeSambaMountIDs text ids limit
        = .error (textError "invalid Samba mount identity count") ∨
      ∃ encoded, encodeSambaMountIDs text ids limit = .ok encoded ∧
        parsePersistedSambaConnection (intercalate [44] directories) (utf8 "445") bootID encoded limit
          = .ok ⟨directories, directories, utf8 "445", false⟩ ∧
        ∃ read, parseSambaMountIDs text encoded limit = .ok read ∧
          ∀ d, read.lookup d = ids.lookup d) ∧
    ∀ directoriesValue port bootID mountIDsValue limit parsed,
      parsePersistedSambaConnection directoriesValue port bootID mountIDsValue limit = .ok parsed →
      (bootID = [] ↔ mountIDsValue = []) := by
  have hmtb := validateSambaDirectories_ok.mp hvalid
  refine ⟨?_, fun directoriesValue port bootID mountIDsValue limit parsed h => ?_⟩
  · rcases Nat.eq_zero_or_pos ids.size with hsize | hsize
    · exact .inl ⟨hsize, by simp [encodeSambaMountIDs, check, hsize]; rfl⟩
    · have henc : encodeSambaMountIDs text ids limit = _ := hmtb.encode hover hids hsize.ne'
      refine .inr ⟨_, henc, ?_, parse_encode henc⟩
      have hport : validateSambaPort (utf8 "445") = .ok () := ok_of_toOption (by decide)
      simp only [parsePersistedSambaConnection, check_bind_eq_ok, if_pos hboot, hport, hmtb.parse]
      exact ⟨by simp [hboot, text.marshal_ne], rfl⟩
  · simp only [parsePersistedSambaConnection, check_bind_eq_ok, ne_eq, not_not, decide_eq_decide] at h
    exact h.1

/-- Of the shares `a` and `b`, the first with a mount. -/
theorem two_shares_read_back :
    ∃ encoded, encodeSambaMountIDs pairText ((∅ : NameTable Bytes Nat).insert [97] 7) 2 = .ok encoded ∧
      parsePersistedSambaConnection [97, 44, 98] (utf8 "445") [49] encoded 2
        = .ok ⟨[[97], [98]], [[97], [98]], utf8 "445", false⟩ := by
  have hids : ∀ d mountID, ((∅ : NameTable Bytes Nat).insert [97] 7).lookup d = some mountID →
      mountID ≠ 0 := by
    intro d mountID h
    rcases NameTable.lookup_insert_eq_some.mp h with ⟨-, rfl⟩ | ⟨-, h⟩
    · decide
    · cases h
  have hstored := @stored_connection_reads_back [[97], [98]] pairText _ 2 [49]
    (ok_of_toOption (by decide)) (by decide) hids (by decide)
  rcases hstored.1 with hnone | ⟨encoded, henc, hprs, -⟩
  · exact absurd hnone.1 (by decide)
  · exact ⟨encoded, henc, hprs⟩

end

/-! ## 7. Mount options -/

/-- The data that `MountSmaba` hands to `mount` beside `sambaSource`. -/
def sambaMountOptions (username password port : Bytes) : Bytes :=
  utf8 "username=" ++ username ++ utf8 ",password=" ++ password ++ utf8 ",port=" ++ port
    ++ utf8 ",sec=ntlmsspi,sign"

lemma validateSambaField_ok {fieldName : String} {value : Bytes}
    (h : validateSambaField fieldName value = .ok ()) : 44 ∉ value := by
  simp only [validateSambaField, check_bind_eq_ok] at h
  exact fun hmem => h.1 (.inr (List.any_eq_true.mpr ⟨44, hmem, by decide⟩))

lemma splitByte_sambaMountOptions {username pwd : Bytes} (huser : 44 ∉ username)
    (hpass : 44 ∉ pwd) : splitByte 44 (sambaMountOptions username pwd (utf8 "445")) =
      [utf8 "username" ++ 61 :: username, utf8 "password" ++ 61 :: pwd, utf8 "port=445",
        utf8 "sec=ntlmsspi", utf8 "sign"] := by
  have h1 : utf8 "username=" = utf8 "username" ++ [61] := by decide
  have h2 : utf8 ",password=" = 44 :: (utf8 "password" ++ [61]) := by decide
  have h3 : utf8 ",port=" ++ (utf8 "445" ++ utf8 ",sec=ntlmsspi,sign")
      = 44 :: (utf8 "port=445" ++ 44 :: (utf8 "sec=ntlmsspi" ++ 44 :: utf8 "sign")) := by decide
  have hcommas : ∀ key value : Bytes, 44 ∉ key → 44 ∉ value → 44 ∉ key ++ 61 :: value := by simp_all
  refine (congrArg (splitByte 44) ?_).trans (splitByte_intercalate (cons_ne_nil _ _) ?_)
  · simp [sambaMountOptions, intercalate, h1, h2, h3]
  · simp only [forall_mem_cons]
    exact ⟨hcommas _ _ (by decide) huser, hcommas _ _ (by decide) hpass, by decide, by decide, by decide,
      by simp⟩

lemma splitByte_sambaSource (hho : 47 ∉ host) (hdir : 47 ∉ directory) :
    splitByte 47 (sambaSource host directory) = [[], [], host, directory] := by
  have hslashes : utf8 "//" = [47, 47] := by decide
  have hsl : utf8 "/" = [47] := by decide
  refine (congrArg (splitByte 47) ?_).trans (splitByte_intercalate (cons_ne_nil _ _) ?_)
  · simp [sambaSource, intercalate, hslashes, hsl]
  · simp [hho, hdir]

/-- **Mount options cannot be injected.** Cut at its commas, and each piece at the first equals sign,
the option string of an accepted connection gives the five options with the given values; and the
source has the host and one component after it, so that it determines both. -/
theorem mount_options_not_injected {username pwd host port directory : Bytes}
    (hfields : validateSambaConnectionFields username pwd host port = .ok ())
    (hdirectory : validateSambaDirectory directory = .ok ()) :
    (splitByte 44 (sambaMountOptions username pwd port)).map (cutByte 61) =
      [(utf8 "username", some username), (utf8 "password", some pwd), (utf8 "port", some port),
        (utf8 "sec", some (utf8 "ntlmsspi")), (utf8 "sign", none)] ∧
    splitByte 47 (sambaSource host directory) = [[], [], host, directory] ∧
    ∀ username' pwd' host' port' directory',
      validateSambaConnectionFields username' pwd' host' port' = .ok () →
      validateSambaDirectory directory' = .ok () →
      sambaSource host' directory' = sambaSource host directory →
      host' = host ∧ directory' = directory := by
  have hslash := (isComponent_of_validatePathComponent (validateSambaConnectionFields_host hfields)).1.2.2
  have hname := (isComponent_of_validatePathComponent (validateSambaDirectoryName_ok hdirectory).1).1.2.2
  have hsource := splitByte_sambaSource hslash hname
  refine ⟨?_, hsource, fun _ _ _ _ _ hfields' hdirectory' hsame => ?_⟩
  · simp only [validateSambaConnectionFields, bind_eq_ok] at hfields
    obtain ⟨_, -, _, -, _, -, _, huser, _, hpass, _, -, hport⟩ := hfields
    obtain rfl : port = utf8 "445" := not_not.mp (check_eq_ok.mp hport)
    rw [splitByte_sambaMountOptions (validateSambaField_ok huser) (validateSambaField_ok hpass)]
    simp only [map_cons, map_nil]
    rw [cutByte_append (by decide), cutByte_append (by decide)]
    rfl
  · have hslash' := (isComponent_of_validatePathComponent (validateSambaConnectionFields_host hfields')).1.2.2
    have hname' := (isComponent_of_validatePathComponent (validateSambaDirectoryName_ok hdirectory').1).1.2.2
    have hsplit := splitByte_sambaSource hslash' hname'
    rw [hsame, hsource] at hsplit
    simp only [cons.injEq, true_and, and_true] at hsplit
    exact ⟨hsplit.1.symm, hsplit.2.symm⟩

/-- The share `a` of the host `nas`, with an equals sign in the password. -/
theorem equals_sign_not_injected :
    (splitByte 44 (sambaMountOptions [117] [61] (utf8 "445"))).map (cutByte 61) =
      [(utf8 "username", some [117]), (utf8 "password", some [61]), (utf8 "port", some (utf8 "445")),
        (utf8 "sec", some (utf8 "ntlmsspi")), (utf8 "sign", none)] :=
  have hfields : validateSambaConnectionFields [117] [61] (utf8 "nas") (utf8 "445") = .ok () :=
    ok_of_toOption (by decide)
  (mount_options_not_injected hfields (ok_of_toOption (by decide) : validateSambaDirectory [97] = .ok ())).1

section

variable {mountPoint host directory : Bytes} {mounts : List MountEntry}

lemma inspectSambaMountEntries_none :
    inspectSambaMountEntries mountPoint host directory mounts = .ok none ↔
      entriesAt mounts mountPoint = [] := by
  unfold inspectSambaMountEntries
  constructor
  · intro h
    split at h
    · assumption
    · simp only [check_bind_eq_ok] at h
      cases h.2.2
    · cases h
  · intro h
    rw [h]

/-- **A share counts as mounted** when its mount is the only one at the path. -/
theorem inspectSambaMountEntries_some {identity : SambaMountIdentity} :
    inspectSambaMountEntries mountPoint host directory mounts = .ok (some identity) ↔
      ∃ entry, entriesAt mounts mountPoint = [entry] ∧ IsShareMount entry host directory ∧
        identity = ⟨entry.id.toNat, entry.mountpoint, entry.fsType, entry.source⟩ := by
  unfold inspectSambaMountEntries
  constructor
  · intro h
    split at h
    · cases h
    next entry hes =>
      simp only [check_bind_eq_ok] at h
      obtain ⟨hkind, hid, hsm⟩ := h
      obtain ⟨hty, hsrc⟩ := not_or.mp hkind
      exact ⟨entry, hes, ⟨not_not.mp hty, not_not.mp hsrc, Int.not_le.mp hid⟩,
        (some.inj (Except.ok.inj hsm)).symm⟩
    · cases h
  · rintro ⟨entry, hes, hmnt, rfl⟩
    rw [hes]
    simp only [check_bind_eq_ok]
    refine ⟨not_or.mpr ⟨not_not.mpr hmnt.fsType, not_not.mpr hmnt.source⟩,
      Int.not_le.mpr hmnt.positive, trivial⟩

variable {expectedMountID : Nat}

lemma validateSambaMountEntries_false :
    validateSambaMountEntries mountPoint host directory expectedMountID mounts = .ok false ↔
      entriesAt mounts mountPoint = [] := by
  rw [← @inspectSambaMountEntries_none mountPoint host directory mounts,
    validateSambaMountEntries, bind_eq_ok]
  constructor
  · rintro ⟨res, hres, h⟩
    cases res with
    | none => exact hres
    | some identity =>
      simp only [check_bind_eq_ok] at h
      cases h.2
  · exact fun h => ⟨none, h, rfl⟩

lemma validateSambaMountEntries_true :
    validateSambaMountEntries mountPoint host directory expectedMountID mounts = .ok true ↔
      ∃ entry, entriesAt mounts mountPoint = [entry] ∧ IsShareMount entry host directory ∧
        entry.id.toNat = expectedMountID := by
  rw [validateSambaMountEntries, bind_eq_ok]
  constructor
  · rintro ⟨res, hres, h⟩
    cases res with
    | none => cases h
    | some identity =>
      obtain ⟨entry, hes, hmnt, rfl⟩ := inspectSambaMountEntries_some.mp hres
      simp only [check_bind_eq_ok] at h
      exact ⟨entry, hes, hmnt, not_not.mp (not_or.mp h.1).2⟩
  · rintro ⟨entry, hes, hmnt, hid⟩
    refine ⟨_, inspectSambaMountEntries_some.mpr ⟨entry, hes, hmnt, rfl⟩, ?_⟩
    simp only [check_bind_eq_ok]
    refine ⟨not_or.mpr ⟨?_, not_not.mpr hid⟩, trivial⟩
    have := hmnt.positive
    omega

end

end ReCasaOS.Samba
