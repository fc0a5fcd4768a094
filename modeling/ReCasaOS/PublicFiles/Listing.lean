/-
# The isolated listing

`runStorageListWorker` of `worker_child_linux.go`, `isolatedStorageManager.list` of
`worker_parent_linux.go` and `decodeStorageWorkerEntries` of `worker_protocol.go`. The parent
sends one request; the child lists the directory, writes the entries as JSON and cuts the text
into frames; the parent puts the frames together, decodes them and checks every entry again.

`json.Marshal` is written out (`marshalEntries`, `marshalListRequest`). The decoder is the
parameter `WorkerJson`, of which `WorkerJson.Lawful` assumes that it reads back what was written
from valid records.

The child's listing arrives unchanged (`request_answer`, `response_listing`), and so does the
status of an error (`receiveListing_listError`). The parent's check of an arbitrary reply has a
gap: `path.Base("/")` is `/`, so an entry of that name passes (`acceptsEntry_legal_iff`).
-/
import ReCasaOS.Lib.Json
import ReCasaOS.PublicFiles.Root

namespace ReCasaOS.PublicFiles

open Lib List Option

variable {entry : Entry} {requestID : UInt64}

def defaultMaxDirectoryEntries : Int := 1000

/-! ## 1. The JSON texts -/

structure StorageListRequest where
  path : Bytes
  maxEntries : Int
  mountID : UInt64
  filesystemType : UInt32
  deriving DecidableEq

/-- The text `{"name":`. -/
def nameKey : Bytes := [123, 34, 110, 97, 109, 101, 34, 58]

/-- The text `,"type":`. -/
def typeKey : Bytes := [44, 34, 116, 121, 112, 101, 34, 58]

/-- The text `,"size":`. -/
def sizeKey : Bytes := [44, 34, 115, 105, 122, 101, 34, 58]

/-- The text `{"path":`. -/
def pathKey : Bytes := [123, 34, 112, 97, 116, 104, 34, 58]

/-- The text `,"max_entries":`. -/
def maxEntriesKey : Bytes :=
  [44, 34, 109, 97, 120, 95, 101, 110, 116, 114, 105, 101, 115, 34, 58]

/-- The text `,"mount_id":`. -/
def mountIDKey : Bytes := [44, 34, 109, 111, 117, 110, 116, 95, 105, 100, 34, 58]

/-- The text `,"filesystem_type":`. -/
def filesystemTypeKey : Bytes :=
  [44, 34, 102, 105, 108, 101, 115, 121, 115, 116, 101, 109, 95, 116, 121, 112, 101, 34, 58]

/-- `json.Marshal` of an `Entry`. -/
def marshalEntry (entry : Entry) : Bytes :=
  nameKey ++ (Json.quote entry.name ++ (typeKey ++ (Json.quote entry.type
    ++ (sizeKey ++ (Json.integer entry.size ++ [125])))))

/-- `json.Marshal` of a `[]Entry`. -/
def marshalEntries (entries : List Entry) : Bytes := Json.array (entries.map marshalEntry)

/-- `json.Marshal` of a `storageListRequest`. -/
def marshalListRequest (request : StorageListRequest) : Bytes :=
  pathKey ++ (Json.quote request.path ++ (maxEntriesKey ++ (Json.integer request.maxEntries
    ++ (mountIDKey ++ (Json.integer request.mountID.toNat
      ++ (filesystemTypeKey ++ (Json.integer request.filesystemType.toNat ++ [125])))))))

/-- `decoder.Decode` with unknown fields disallowed: the value and the unread rest. -/
structure WorkerJson where
  decodeEntries : Bytes → Option (List Entry × Bytes)
  decodeListRequest : Bytes → Option (StorageListRequest × Bytes)

/-- An `int64`. -/
def isInt64 (i : Int) : Prop := -9223372036854775808 ≤ i ∧ i < 9223372036854775808

/-- Records of valid UTF-8 text are read back. -/
structure WorkerJson.Lawful (J : WorkerJson) : Prop where
  entries : ∀ entries, (∀ entry ∈ entries, validString entry.name ∧
    validString entry.type ∧ isInt64 entry.size) →
    J.decodeEntries (marshalEntries entries) = some (entries, [])
  listRequest : ∀ request, validString request.path → isInt64 request.maxEntries →
    J.decodeListRequest (marshalListRequest request) = some (request, [])

/-- What `decoder.Decode(&trailing)` calls `io.EOF`: nothing but white space is left. -/
def onlySpace (rest : Bytes) : Bool := rest.all fun b => b == 32 || b == 9 || b == 10 || b == 13

def marshalStorageWorkerJSON (payload : Bytes) : Except StorageError Bytes := do
  check (payload.length = 0 ∨ storageWorkerMaxFramePayload < payload.length) .storageProtocol
  pure payload

def unmarshalStorageWorkerJSON {α : Type} (decode : Bytes → Option (α × Bytes))
    (payload : Bytes) : Except StorageError α := do
  check (payload.length = 0 ∨ storageWorkerMaxFramePayload < payload.length) .storageProtocol
  let (value, rest) ← orError (decode payload) .storageProtocol
  check (onlySpace rest = false) .storageProtocol
  pure value

/-- The check that `decodeStorageWorkerEntries` makes of every entry. -/
def acceptsEntry (entry : Entry) : Bool :=
  isSafeVisibleName entry.name && entry.name != [46] && entry.name != [46, 46]
    && !hasPrefix entry.name [46] && !containsByte entry.name 92 && entry.name == base entry.name
    && decide (0 ≤ entry.size) && (entry.type == typeFile || entry.type == typeDirectory)
    && !(entry.type == typeDirectory && entry.size != 0)

def decodeStorageWorkerEntries (J : WorkerJson) (payload : Bytes) (maxEntries : Int) :
    Except StorageError (List Entry) := do
  check (payload.length = 0 ∨ storageWorkerMaxListPayload < payload.length) .storageProtocol
  let (entries, rest) ← orError (J.decodeEntries payload) .storageProtocol
  check (onlySpace rest = false) .storageProtocol
  check (maxEntries < entries.length) .storageProtocol
  check (entries.all acceptsEntry = false) .storageProtocol
  pure entries

/-! ## 2. Receiving -/

/-- What one `Recvmsg` brings: an error, or a packet with the parsed rights. -/
inductive Reception
  | failed (timedOut : Bool)
  | message (packet : Bytes) (truncated : Bool) (rights : Except StorageError (List RootDescriptor))

inductive IpcError
  | timeout
  | failed
  | storageProtocol
  deriving DecidableEq, Repr

def receiveStorageWorkerFrame :
    Reception → Except IpcError (StorageWorkerFrame × List RootDescriptor)
  | .failed timedOut => .error (if timedOut then .timeout else .failed)
  | .message packet truncated rights => do
    check (truncated ∨ packet.length = 0
      ∨ storageWorkerHeaderBytes + storageWorkerMaxFramePayload < packet.length) .storageProtocol
    let rights ← rights.mapError fun _ => .storageProtocol
    let frame ← (parseStorageWorkerFrame packet).mapError fun _ => .storageProtocol
    pure (frame, rights)

/-- `classifyStorageWorkerIPCError`; `done` says whether the context is. -/
def classifyStorageWorkerIPCError (done : Bool) (err : IpcError) : StorageError :=
  if done then .storageTimeout
  else if err = .timeout then .storageTimeout
  else .storageProtocol

def storageWorkerError : StorageWorkerStatus → StorageError
  | .hidden => .errno .enoent
  | .entryLimit => .entryLimit
  | .unsupported => .unsupported
  | .invalid => .storageProtocol
  | .internal => .workerFailed
  | .ok => .storageProtocol
  | .eof => .storageProtocol

/-! ## 3. The child -/

def validStorageWorkerRequestFrame (frame : StorageWorkerFrame) (expected : StorageWorkerOpcode) :
    Bool :=
  frame.opcode == expected && frame.requestID != 0 && frame.status == .ok && frame.flags == 0

/-- The list case of `receiveStorageRootRequest`. The child exits with the error, whichever it
is. -/
def receiveStorageRootRequest (J : WorkerJson) (reception : Reception) :
    Except StorageError (StorageWorkerFrame × SecureRoot) := do
  let (frame, rights) ← (receiveStorageWorkerFrame reception).mapError
    (classifyStorageWorkerIPCError false)
  match rights with
  | [rootFD] =>
    check (validStorageWorkerRequestFrame frame .listRequest = false) .storageProtocol
    let request ← unmarshalStorageWorkerJSON J.decodeListRequest frame.payload
    let root ← secureRootFromWorkerFD rootFD request.mountID request.filesystemType
    pure (frame, root)
  | _ => .error .storageProtocol

def storageWorkerStatusForError (err : FileError) : StorageWorkerStatus :=
  if err.is .entryLimit then .entryLimit
  else if isHiddenFilesystemError err then .hidden
  else if err.is .unsupported || err.is .publicRootFilesystemNotAllowed then .unsupported
  else .internal

/-- `sendStorageWorkerError` on the list response. -/
def listError (requestID : UInt64) (status : StorageWorkerStatus) : List StorageWorkerFrame :=
  [⟨.listResponse, requestID, status, 0, []⟩]

/-- The sending loop: the frames from `offset` on. -/
def listFragments (requestID : UInt64) (payload : Bytes) (offset : Nat) : List StorageWorkerFrame :=
  if _h : offset < payload.length then
    let «end» := min (offset + storageWorkerMaxFramePayload) payload.length
    let flags := if «end» ≠ payload.length then storageWorkerFlagMore else 0
    ⟨.listResponse, requestID, .ok, flags, slice payload offset «end»⟩
      :: listFragments requestID payload «end»
  else []
termination_by payload.length - offset
decreasing_by
  have : storageWorkerMaxFramePayload = 61440 := rfl
  omega

/-- The child from the listing on: the frames it sends. -/
def sendEntries (requestID : UInt64) (entries : List Entry) : List StorageWorkerFrame :=
  let payload := marshalEntries entries
  if payload.length = 0 ∨ storageWorkerMaxListPayload < payload.length then
    listError requestID .internal
  else listFragments requestID payload 0

/-- The frames that answer a listing. -/
def listAnswer (requestID : UInt64) : Except FileError (List Entry) → List StorageWorkerFrame
  | .error err => listError requestID (storageWorkerStatusForError err)
  | .ok entries => sendEntries requestID entries

/-- `runStorageListWorker`: the frames the child sends, or the error it exits with. -/
def runStorageListWorker (J : WorkerJson) (reception : Reception) :
    Except StorageError (List StorageWorkerFrame) := do
  let (frame, root) ← receiveStorageRootRequest J reception
  match unmarshalStorageWorkerJSON J.decodeListRequest frame.payload with
  | .error _ => pure (listError frame.requestID .invalid)
  | .ok request =>
    if request.maxEntries < 1 ∨ defaultMaxDirectoryEntries < request.maxEntries then
      pure (listError frame.requestID .invalid)
    else if validateRelativePath request.path true ≠ .ok request.path then
      pure (listError frame.requestID .invalid)
    else
      pure (listAnswer frame.requestID (root.list request.path request.maxEntries))

/-! ## 4. The parent -/

/-- How the receiving loop of `list` ends. -/
inductive ListReply
  | payload (encoded : Bytes)
  | status (status : StorageWorkerStatus)
  deriving DecidableEq

/-- The receiving loop of `list`. When nothing arrives any more the deadline passes. -/
def reassemble (done : Bool) (requestID : UInt64) :
    List Reception → (encoded : Bytes) → Except StorageError ListReply
  | [], _ => .error (classifyStorageWorkerIPCError done .timeout)
  | reception :: receptions, encoded => do
    let (frame, rights) ← (receiveStorageWorkerFrame reception).mapError
      (classifyStorageWorkerIPCError done)
    check (rights.length ≠ 0 ∨ frame.opcode ≠ .listResponse ∨ frame.requestID ≠ requestID)
      .storageProtocol
    if frame.status ≠ .ok then do
      check (frame.flags ≠ 0 ∨ frame.payload.length ≠ 0) .storageProtocol
      pure (.status frame.status)
    else do
      check (frame.payload.length = 0
        ∨ storageWorkerMaxListPayload < encoded.length + frame.payload.length) .storageProtocol
      if frame.flags &&& storageWorkerFlagMore = 0 then pure (.payload (encoded ++ frame.payload))
      else reassemble done requestID receptions (encoded ++ frame.payload)

/-- `list` from the first reception on; `finish` is the result of `finishNormally`. -/
def receiveListing (J : WorkerJson) (done : Bool) (requestID : UInt64) (maxEntries : Int)
    (receptions : List Reception) (finish : Except StorageError Unit) :
    Except StorageError (List Entry) := do
  let reply ← reassemble done requestID receptions []
  finish
  match reply with
  | .status status => .error (storageWorkerError status)
  | .payload encoded => decodeStorageWorkerEntries J encoded maxEntries

/-- The request that `list` sends. -/
def listRequestFrame (requestID : UInt64) (request : StorageListRequest) :
    Except StorageError StorageWorkerFrame := do
  let payload ← marshalStorageWorkerJSON (marshalListRequest request)
  pure ⟨.listRequest, requestID, .ok, 0, payload⟩

/-- A frame that was sent, as it arrives. -/
def deliver (rights : List RootDescriptor) (frame : StorageWorkerFrame) : Reception :=
  match marshalStorageWorkerFrame frame with
  | .ok packet => .message packet false (.ok rights)
  | .error _ => .failed false

/-! ## 5. The parent's check of an entry -/

lemma isSafeVisibleName_spec {value : Bytes} (h : isSafeVisibleName value) :
    value ≠ [] ∧ validString value := by
  simp only [isSafeVisibleName, Bool.and_eq_true, decide_eq_true_eq] at h
  exact h.1

lemma acceptsEntry_of_legal (h : LegalEntry entry) : acceptsEntry entry := by
  obtain ⟨hne, -⟩ := isSafeVisibleName_spec h.visible
  have hba : base entry.name = entry.name := base_of_no_slash hne h.component.1
  have hdot : ∀ rest, entry.name ≠ 46 :: rest := by
    intro rest hnm
    have hpre := h.notHidden
    rw [hnm] at hpre
    cases rest <;> simp [hasPrefix] at hpre
  have htyped : (entry.type = typeFile ∨ entry.type = typeDirectory) ∧
      (entry.type = typeDirectory → entry.size = 0) ∧ 0 ≤ entry.size := by
    rcases h.typed with ⟨hty, hsz⟩ | ⟨hty, hsz⟩
    · exact ⟨.inl hty, fun hdir => absurd (hty.symm.trans hdir) (by decide), hsz⟩
    · exact ⟨.inr hty, fun _ => hsz, by omega⟩
  simp only [acceptsEntry, Bool.and_eq_true, bne_iff_ne, Bool.not_eq_true', Bool.or_eq_true,
    beq_iff_eq, decide_eq_true_eq, containsByte_eq_false, Bool.and_eq_false_iff, beq_eq_false_iff_ne,
    bne_eq_false_iff_eq]
  refine ⟨⟨⟨⟨⟨⟨⟨⟨h.visible, hdot _⟩, hdot _⟩, h.notHidden⟩, h.component.2⟩, hba.symm⟩,
    htyped.2.2⟩, htyped.1⟩, ?_⟩
  by_cases hdir : entry.type = typeDirectory
  · exact .inr (htyped.2.1 hdir)
  · exact .inl hdir

/-- **What passes the check is legal, unless its name is the root.** -/
theorem acceptsEntry_legal_iff (h : acceptsEntry entry) : LegalEntry entry ↔ entry.name ≠ [47] := by
  simp only [acceptsEntry, Bool.and_eq_true, bne_iff_ne, Bool.not_eq_true', Bool.or_eq_true,
    beq_iff_eq, decide_eq_true_eq, containsByte_eq_false, Bool.and_eq_false_iff, beq_eq_false_iff_ne,
    bne_eq_false_iff_eq] at h
  obtain ⟨⟨⟨⟨⟨⟨⟨⟨hvisi, -⟩, -⟩, hhid⟩, hback⟩, hba⟩, hsz⟩, hty⟩, hdir⟩ := h
  constructor
  · intro hlegal hnm
    exact hlegal.component.1 (by rw [hnm]; exact mem_singleton_self 47)
  · intro hnm
    have hsl := (base_eq_self_iff (isSafeVisibleName_spec hvisi).1).mp hba.symm
    refine ⟨hvisi, hhid, ⟨hsl.resolve_right hnm, hback⟩, ?_⟩
    rcases hty with hty | hty
    · exact .inl ⟨hty, hsz⟩
    · exact .inr ⟨hty, hdir.resolve_left (not_not.mpr hty)⟩

/-! ## 6. The size of a listing -/

lemma typed_spec (h : LegalEntry entry) :
    validString entry.type ∧ entry.type.length ≤ 9 ∧ 0 ≤ entry.size := by
  rcases h.typed with ⟨hty, hsz⟩ | ⟨hty, hsz⟩
  · rw [hty]
    exact ⟨by decide, by decide, hsz⟩
  · rw [hty, hsz]
    exact ⟨by decide, by decide, Int.le_refl 0⟩

lemma length_marshalEntry_le (h : ListedEntry entry) : (marshalEntry entry).length ≤ 1633 := by
  obtain ⟨-, htypeLen, hsz⟩ := typed_spec h.toLegalEntry
  have hnameLen := h.nameLength
  have hbd := h.sizeBound
  have hnm := Json.length_quote_le entry.name
  have hty := Json.length_quote_le entry.type
  have hdigits : entry.size.natAbs < 10 ^ (18 + 1) := by omega
  have hinteger := Json.length_integer_le hdigits
  simp only [marshalEntry, length_append, nameKey, typeKey, sizeKey, length_cons, length_nil]
  omega

variable {entries : List Entry}

/-- **A listing of at most 1000 entries fits the list bound.** -/
theorem length_marshalEntries_le (hall : ∀ entry ∈ entries, ListedEntry entry)
    (hcnt : entries.length ≤ 1000) :
    (marshalEntries entries).length ≤ storageWorkerMaxListPayload := by
  have hitems : ∀ item ∈ entries.map marshalEntry, item.length ≤ 1633 := by
    intro item hit
    obtain ⟨entry, hent, rfl⟩ := mem_map.mp hit
    exact length_marshalEntry_le (hall entry hent)
  have harray := Json.length_array_le hitems
  rw [length_map] at harray
  have hmax : storageWorkerMaxListPayload = 2097152 := rfl
  rw [marshalEntries]
  omega

lemma marshalEntries_ne_nil (entries : List Entry) : 1 ≤ (marshalEntries entries).length := by
  simp [marshalEntries, Json.array]

lemma listed_encodable (h : ListedEntry entry) :
    validString entry.name ∧ validString entry.type ∧ isInt64 entry.size := by
  obtain ⟨hty, -, hsz⟩ := typed_spec h.toLegalEntry
  have hbd := h.sizeBound
  exact ⟨(isSafeVisibleName_spec h.visible).2, hty, by unfold isInt64; omega⟩

/-! ## 7. Fragments and reassembly -/

/-- The frames of one reply: `More` on all but the last, one request id. -/
structure Fragments (requestID : UInt64) (frames : List StorageWorkerFrame) : Prop where
  nonempty : frames ≠ []
  header : ∀ frame ∈ frames,
    frame.requestID = requestID ∧ frame.opcode = .listResponse ∧ frame.status = .ok
  more : ∀ frame ∈ frames.dropLast, frame.flags = storageWorkerFlagMore
  last : ∀ frame ∈ frames.getLast?, frame.flags = 0

lemma receive_deliver {frame : StorageWorkerFrame} (hv : validStorageWorkerFrameHeader frame)
    (hlen : frame.payload.length ≤ storageWorkerMaxFramePayload) (rights : List RootDescriptor) :
    receiveStorageWorkerFrame (deliver rights frame) = .ok (frame, rights) := by
  have hmar := marshalStorageWorkerFrame_eq_ok.mpr ⟨⟨hv, hlen⟩, rfl⟩
  have hsz := length_packetBytes frame
  have hguard : ¬ (false ∨ (packetBytes frame).length = 0
      ∨ storageWorkerHeaderBytes + storageWorkerMaxFramePayload < (packetBytes frame).length) := by
    rw [storageWorkerHeaderBytes]
    rintro (h | h | h)
    · cases h
    · omega
    · omega
  rw [deliver, hmar]
  simp only [receiveStorageWorkerFrame]
  rw [check_bind_of_not hguard, parse_packetBytes hv hlen]
  rfl

variable {done : Bool}

lemma reassemble_fragment {flags : UInt16} {part encoded : Bytes}
    {receptions : List Reception} (hid : requestID ≠ 0)
    (hfl : flags = 0 ∨ flags = storageWorkerFlagMore) (hpart : 1 ≤ part.length)
    (hfr : part.length ≤ storageWorkerMaxFramePayload)
    (htot : encoded.length + part.length ≤ storageWorkerMaxListPayload) :
    reassemble done requestID
        (deliver [] ⟨.listResponse, requestID, .ok, flags, part⟩ :: receptions) encoded =
      if flags &&& storageWorkerFlagMore = 0 then .ok (.payload (encoded ++ part))
      else reassemble done requestID receptions (encoded ++ part) := by
  have hv : validStorageWorkerFrameHeader ⟨.listResponse, requestID, .ok, flags, part⟩ := by
    refine ⟨hid, ?_⟩
    rcases hfl with rfl | rfl
    · exact (by decide : (0 : UInt16) &&& ~~~storageWorkerFlagMore = 0)
    · exact (by decide : storageWorkerFlagMore &&& ~~~storageWorkerFlagMore = 0)
  have hguard : ¬ (part.length = 0 ∨ storageWorkerMaxListPayload < encoded.length + part.length) := by
    omega
  rw [reassemble, receive_deliver hv hfr, mapError_ok, ok_bind]
  simp only
  rw [check_bind_of_not (by simp), if_neg (by simp), check_bind_of_not hguard]
  rfl

variable {payload : Bytes}

lemma listFragments_of_lt (requestID : UInt64) {off : Nat} (h : off < payload.length) :
    ∃ stop, off < stop ∧ stop ≤ payload.length ∧ stop - off ≤ storageWorkerMaxFramePayload ∧
      listFragments requestID payload off =
        ⟨.listResponse, requestID, .ok, if stop = payload.length then 0 else storageWorkerFlagMore,
          slice payload off stop⟩ :: listFragments requestID payload stop := by
  have hmax : storageWorkerMaxFramePayload = 61440 := rfl
  refine ⟨min (off + storageWorkerMaxFramePayload) payload.length, by omega, by omega, by omega, ?_⟩
  rw [listFragments, dif_pos h]
  simp only [ne_eq, ite_not]

lemma listFragments_end : listFragments requestID payload payload.length = [] := by
  rw [listFragments, dif_neg (lt_irrefl _)]

/-- **The receiving loop undoes the sending loop**, from every offset on. -/
theorem reassemble_listFragments (hid : requestID ≠ 0)
    (hmax : payload.length ≤ storageWorkerMaxListPayload) :
    ∀ (n : Nat) {offset : Nat}, payload.length - offset ≤ n → offset < payload.length →
      reassemble done requestID ((listFragments requestID payload offset).map (deliver []))
        (payload.take offset) = .ok (.payload payload)
  | 0, offset, hn, hlt => by omega
  | n + 1, offset, hn, hlt => by
    obtain ⟨stop, hgt, hstop, hsz, hfrags⟩ := listFragments_of_lt requestID hlt
    have hlen : (slice payload offset stop).length = stop - offset := length_slice (by omega)
    have htake : payload.take offset ++ slice payload offset stop = payload.take stop :=
      take_append_slice (by omega)
    rw [hfrags, map_cons, reassemble_fragment hid ?_ (by omega) (by omega) ?_, htake]
    · by_cases hend : stop = payload.length
      · rw [if_pos hend, if_pos (by decide), hend, take_length]
      · rw [if_neg hend, if_neg (by decide)]
        exact reassemble_listFragments hid hmax n (by omega) (by omega)
    · by_cases hend : stop = payload.length
      · exact .inl (if_pos hend)
      · exact .inr (if_neg hend)
    · rw [length_take]
      omega

/-- The sending loop sets `More` on all frames but the last. -/
lemma fragments_listFragments :
    ∀ (n : Nat) {off : Nat}, payload.length - off ≤ n → off < payload.length →
      Fragments requestID (listFragments requestID payload off)
  | 0, off, hn, hlt => by omega
  | n + 1, off, hn, hlt => by
    obtain ⟨stop, hgt, hstop, -, hfrags⟩ := listFragments_of_lt requestID hlt
    by_cases hend : stop = payload.length
    · rw [hfrags, if_pos hend, hend, listFragments_end]
      exact ⟨cons_ne_nil _ _, by simp, by simp, by simp⟩
    · have ih : Fragments requestID (listFragments requestID payload stop) :=
        fragments_listFragments n (by omega) (by omega)
      rw [hfrags, if_neg hend]
      refine ⟨cons_ne_nil _ _, ?_, ?_, ?_⟩
      · intro frame hfr
        rcases mem_cons.mp hfr with rfl | hfr
        · exact ⟨rfl, rfl, rfl⟩
        · exact ih.header frame hfr
      · intro frame hfr
        rw [dropLast_cons_of_ne_nil ih.nonempty] at hfr
        rcases mem_cons.mp hfr with rfl | hfr
        · rfl
        · exact ih.more frame hfr
      · intro frame hfr
        rw [getLast?_cons_of_ne_nil ih.nonempty] at hfr
        exact ih.last frame hfr

variable {J : WorkerJson}

/-- **The response leg.** A listing fits the bound, is sent as fragments, and is what the
parent returns. -/
theorem response_listing (hJ : J.Lawful) {root : SecureRoot} {rel : Bytes} {max : Int}
    (hid : requestID ≠ 0) (hmax : max ≤ 1000)
    (h : root.list rel max = .ok entries) (done : Bool) :
    (marshalEntries entries).length ≤ storageWorkerMaxListPayload ∧
      Fragments requestID (sendEntries requestID entries) ∧
      receiveListing J done requestID max
        ((sendEntries requestID entries).map (deliver [])) (.ok ()) = .ok entries := by
  obtain ⟨hall, hcnt⟩ := list_listed h
  have hsz := length_marshalEntries_le hall (by omega)
  have hne := marshalEntries_ne_nil entries
  have hsend : sendEntries requestID entries = listFragments requestID (marshalEntries entries) 0 := by
    exact if_neg (by omega)
  have hreply : reassemble done requestID
      ((listFragments requestID (marshalEntries entries) 0).map (deliver [])) [] = _ :=
    reassemble_listFragments hid hsz _ (le_refl _) hne
  have hdec := hJ.entries entries fun entry hent => listed_encodable (hall entry hent)
  have haccept : entries.all acceptsEntry :=
    all_eq_true.mpr fun entry hent => acceptsEntry_of_legal (hall entry hent).toLegalEntry
  refine ⟨hsz, hsend ▸ fragments_listFragments _ (le_refl _) hne, ?_⟩
  rw [hsend, receiveListing, hreply, ok_bind, ok_bind]
  simp only
  rw [decodeStorageWorkerEntries, check_bind_of_not (by omega), hdec]
  simp only [orError, ok_bind]
  rw [check_bind_of_not (by decide), check_bind_of_not (by omega), check_bind_of_not (by simp [haccept])]
  rfl

lemma receiveListing_listError {max : Int} {status : StorageWorkerStatus}
    (hid : requestID ≠ 0) (hst : status ≠ .ok) (done : Bool) :
    receiveListing J done requestID max ((listError requestID status).map (deliver []))
      (.ok ()) = .error (storageWorkerError status) := by
  have hfl : (0 : UInt16) &&& ~~~storageWorkerFlagMore = 0 := by decide
  rw [receiveListing, listError, map_singleton, reassemble,
    receive_deliver ⟨hid, hfl⟩ (Nat.zero_le _), mapError_ok, ok_bind]
  simp only
  rw [check_bind_of_not (by simp), if_pos hst, check_bind_of_not (by simp)]
  rfl

/-! ## 8. The request -/

lemma validateRelativePath_spec {path result : Bytes} {allowRoot : Bool}
    (h : validateRelativePath path allowRoot = .ok result) :
    result = path ∧ path.length ≤ 4096 ∧ validString path := by
  unfold validateRelativePath at h
  by_cases hrt : path = []
  · rw [if_pos hrt] at h
    split at h
    · cases h
      exact ⟨hrt.symm, by simp [hrt], by rw [hrt]; rfl⟩
    · cases h
  · rw [if_neg hrt, check_bind_eq_ok, check_bind_eq_ok, check_bind_eq_ok, pure_eq_ok] at h
    obtain ⟨hrel, hparts, -, rfl⟩ := h
    rw [not_or, not_lt] at hrel
    have hsl : (47 : UInt8) < 0x80 := by decide
    refine ⟨rfl, hrel.1, validString_of_splitByte hsl fun part hpart => ?_⟩
    rw [Bool.not_eq_true, List.any_eq_false] at hparts
    have hpart := hparts part hpart
    simp only [forbiddenComponent, Bool.or_eq_true, not_or, Bool.not_eq_true',
      Bool.not_eq_false] at hpart
    exact (isSafeVisibleName_spec hpart.1.1.1).2

variable {request : StorageListRequest}

lemma length_identity_le (mountID : UInt64) (filesystemType : UInt32) :
    (Json.integer mountID.toNat).length + (Json.integer filesystemType.toNat).length ≤ 42 := by
  have hmnt := mountID.toNat_lt
  have hfs := filesystemType.toNat_lt
  have hmountText : (Json.integer mountID.toNat).length ≤ 19 + 2 := Json.length_integer_le (by omega)
  have hfsText : (Json.integer filesystemType.toNat).length ≤ 19 + 2 :=
    Json.length_integer_le (by omega)
  omega

lemma length_marshalListRequest_le (hpa : request.path.length ≤ 4096)
    (hmax : 1 ≤ request.maxEntries ∧ request.maxEntries ≤ 1000) :
    (marshalListRequest request).length ≤ storageWorkerMaxFramePayload := by
  have hquote := Json.length_quote_le request.path
  have hroot := length_identity_le request.mountID request.filesystemType
  have hmaxText : (Json.integer request.maxEntries).length ≤ 19 + 2 :=
    Json.length_integer_le (by omega)
  have hfr : storageWorkerMaxFramePayload = 61440 := rfl
  simp only [marshalListRequest, length_append, pathKey, maxEntriesKey, mountIDKey,
    filesystemTypeKey, length_cons, length_nil]
  omega

lemma unmarshal_listRequest (hJ : J.Lawful) (hpa : request.path.length ≤ 4096)
    (hv : validString request.path)
    (hmax : 1 ≤ request.maxEntries ∧ request.maxEntries ≤ 1000) :
    marshalStorageWorkerJSON (marshalListRequest request) = .ok (marshalListRequest request) ∧
      unmarshalStorageWorkerJSON J.decodeListRequest (marshalListRequest request) = .ok request := by
  have hlen := length_marshalListRequest_le hpa hmax
  have hpos : 1 ≤ (marshalListRequest request).length := by
    simp [marshalListRequest, pathKey]
  have hguard : ¬ ((marshalListRequest request).length = 0
      ∨ storageWorkerMaxFramePayload < (marshalListRequest request).length) := by
    omega
  have hdec := hJ.listRequest request hv (by unfold isInt64; omega)
  refine ⟨check_bind_of_not hguard, ?_⟩
  rw [unmarshalStorageWorkerJSON, check_bind_of_not hguard, hdec]
  rfl

/-- **The request leg.** The child answers the parent's request with the listing of the root
it was handed, or with the status of the error. -/
theorem request_answer (hJ : J.Lawful) {descriptor : RootDescriptor} {root : SecureRoot}
    (hid : requestID ≠ 0) (hpa : validateRelativePath request.path true = .ok request.path)
    (hmax : 1 ≤ request.maxEntries ∧ request.maxEntries ≤ 1000)
    (hrt : secureRootFromWorkerFD descriptor request.mountID request.filesystemType = .ok root) :
    ∃ frame, listRequestFrame requestID request = .ok frame ∧
      runStorageListWorker J (deliver [descriptor] frame)
        = .ok (listAnswer requestID (root.list request.path request.maxEntries)) := by
  obtain ⟨-, hlen, hv⟩ := validateRelativePath_spec hpa
  obtain ⟨hmar, hunma⟩ := unmarshal_listRequest hJ hlen hv hmax
  refine ⟨⟨.listRequest, requestID, .ok, 0, marshalListRequest request⟩, ?_, ?_⟩
  · rw [listRequestFrame, hmar]
    rfl
  · have hrcv : receiveStorageRootRequest J (deliver [descriptor]
        ⟨.listRequest, requestID, .ok, 0, marshalListRequest request⟩)
        = .ok (⟨.listRequest, requestID, .ok, 0, marshalListRequest request⟩, root) := by
      have hfr : validStorageWorkerRequestFrame
          ⟨.listRequest, requestID, .ok, 0, marshalListRequest request⟩ .listRequest := by
        simp [validStorageWorkerRequestFrame, hid]
      have hfl : (0 : UInt16) &&& ~~~storageWorkerFlagMore = 0 := by decide
      rw [receiveStorageRootRequest, receive_deliver ⟨hid, hfl⟩
        (length_marshalListRequest_le hlen hmax), mapError_ok, ok_bind]
      simp only
      rw [check_bind_of_not (by simp [hfr]), hunma, ok_bind, hrt]
      rfl
    have hlimit : ¬ (request.maxEntries < 1 ∨ defaultMaxDirectoryEntries < request.maxEntries) := by
      rw [defaultMaxDirectoryEntries]
      omega
    rw [runStorageListWorker, hrcv, ok_bind]
    simp only [hunma]
    rw [if_neg hlimit, if_neg (not_not.mpr hpa)]
    rfl

/-! ## 9. Arbitrary replies -/

/-- A reply that is put together comes from the payloads of the frames received first, and never
grows beyond the bound. -/
lemma reassemble_payload {res : Bytes} : ∀ {receptions : List Reception} {encoded : Bytes},
      reassemble done requestID receptions encoded = .ok (.payload res) →
      ∃ frames : List StorageWorkerFrame,
        (receptions.take frames.length).map receiveStorageWorkerFrame
            = frames.map (fun frame => .ok (frame, [])) ∧
          res = encoded ++ frames.flatMap (·.payload) ∧
          res.length ≤ storageWorkerMaxListPayload
  | [], encoded, h => by cases h
  | reception :: receptions, encoded, h => by
    rw [reassemble, bind_eq_ok] at h
    obtain ⟨⟨frame, rights⟩, hrcv, h⟩ := h
    rw [mapError_eq_ok] at hrcv
    rw [check_bind_eq_ok] at h
    obtain ⟨hhdr, h⟩ := h
    rw [not_or, not_not, length_eq_zero_iff] at hhdr
    obtain ⟨hrights, -⟩ := hhdr
    rw [hrights] at hrcv
    by_cases hst : frame.status ≠ .ok
    · rw [if_pos hst, check_bind_eq_ok, pure_eq_ok] at h
      cases h.2
    rw [if_neg hst, check_bind_eq_ok] at h
    obtain ⟨hsz, h⟩ := h
    by_cases hmore : frame.flags &&& storageWorkerFlagMore = 0
    · rw [if_pos hmore, pure_eq_ok, ListReply.payload.injEq] at h
      refine ⟨[frame], by simp [hrcv], by simp [← h], ?_⟩
      rw [← h, length_append]
      omega
    · rw [if_neg hmore] at h
      obtain ⟨frames, hframes, hres, hbd⟩ := reassemble_payload h
      refine ⟨frame :: frames, ?_, ?_, hbd⟩
      · simp only [length_cons, take_succ_cons, map_cons, hrcv, hframes]
      · rw [hres, flatMap_cons, append_assoc]

/-- What the parent returns is what the frames carried, entry by entry checked. -/
lemma receiveListing_eq_ok {max : Int} {receptions : List Reception}
    {finish : Except StorageError Unit}
    (h : receiveListing J done requestID max receptions finish = .ok entries) :
    ∃ frames : List StorageWorkerFrame, ∃ rest,
      (receptions.take frames.length).map receiveStorageWorkerFrame
          = frames.map (fun frame => .ok (frame, [])) ∧
        (frames.flatMap (·.payload)).length ≤ storageWorkerMaxListPayload ∧
        J.decodeEntries (frames.flatMap (·.payload)) = some (entries, rest) ∧
        ∀ entry ∈ entries, acceptsEntry entry := by
  rw [receiveListing, bind_eq_ok] at h
  obtain ⟨reply, hreply, h⟩ := h
  rw [bind_eq_ok] at h
  obtain ⟨-, -, h⟩ := h
  cases reply with
  | status status => cases h
  | payload encoded =>
    obtain ⟨frames, hframes, henc, hbd⟩ := reassemble_payload hreply
    subst henc
    simp only [decodeStorageWorkerEntries, bind_eq_ok, check_eq_ok, exists_const, orError_eq_ok,
      Prod.exists, pure_eq_ok] at h
    obtain ⟨-, decoded, rest, hdec, -, -, haccept, rfl⟩ := h
    rw [Bool.not_eq_false, List.all_eq_true] at haccept
    exact ⟨frames, rest, hframes, hbd, hdec, haccept⟩

/-- **The isolated listing refines the local one.** What `secureRoot.list` returns fits the list
bound, is sent as fragments and is what the parent returns; the child sends it in answer to the
parent's request; and what the parent returns from arbitrary frames is within the bound, and
legal exactly when the frames carry no entry named `/`. -/
theorem isolated_listing_refines_local {J : WorkerJson} (hJ : J.Lawful) :
    (∀ (root : SecureRoot) (relative : Bytes) (maxEntries : Int) (entries : List Entry)
      (requestID : UInt64) (done : Bool), requestID ≠ 0 → maxEntries ≤ 1000 →
      root.list relative maxEntries = .ok entries →
      (marshalEntries entries).length ≤ storageWorkerMaxListPayload ∧
        Fragments requestID (sendEntries requestID entries) ∧
        receiveListing J done requestID maxEntries
          ((sendEntries requestID entries).map (deliver [])) (.ok ()) = .ok entries) ∧
    (∀ (descriptor : RootDescriptor) (root : SecureRoot) (request : StorageListRequest)
      (requestID : UInt64) (entries : List Entry), requestID ≠ 0 →
      validateRelativePath request.path true = .ok request.path →
      1 ≤ request.maxEntries ∧ request.maxEntries ≤ 1000 →
      secureRootFromWorkerFD descriptor request.mountID request.filesystemType = .ok root →
      root.list request.path request.maxEntries = .ok entries →
      ∃ frame, listRequestFrame requestID request = .ok frame ∧
        runStorageListWorker J (deliver [descriptor] frame) = .ok (sendEntries requestID entries)) ∧
    (∀ (done : Bool) (requestID : UInt64) (maxEntries : Int) (receptions : List Reception)
      (finish : Except StorageError Unit) (entries : List Entry),
      receiveListing J done requestID maxEntries receptions finish = .ok entries →
      ∃ frames : List StorageWorkerFrame,
        (receptions.take frames.length).map receiveStorageWorkerFrame
            = frames.map (fun frame => .ok (frame, [])) ∧
          (frames.flatMap (·.payload)).length ≤ storageWorkerMaxListPayload ∧
          (∃ rest, J.decodeEntries (frames.flatMap (·.payload)) = some (entries, rest)) ∧
          ((∀ entry ∈ entries, LegalEntry entry) ↔
            ∀ decoded rest, J.decodeEntries (frames.flatMap (·.payload)) = some (decoded, rest) →
              ∀ entry ∈ decoded, entry.name ≠ [47])) := by
  refine ⟨?_, ?_, ?_⟩
  · intro root relative maxEntries entries requestID done hid hmax h
    exact response_listing hJ hid hmax h done
  · intro descriptor root request requestID entries hid hpath hmax hroot h
    obtain ⟨frame, hframe, hanswer⟩ := request_answer hJ hid hpath hmax hroot
    rw [h] at hanswer
    exact ⟨frame, hframe, hanswer⟩
  · intro done requestID maxEntries receptions finish entries h
    obtain ⟨frames, rest, hframes, hbound, hdecode, haccept⟩ := receiveListing_eq_ok h
    refine ⟨frames, hframes, hbound, ⟨rest, hdecode⟩, ?_⟩
    constructor
    · intro hlegal decoded rest' hdecoded entry hentry
      obtain ⟨rfl, -⟩ := Prod.mk.inj (some.inj (hdecode.symm.trans hdecoded))
      exact (acceptsEntry_legal_iff (haccept entry hentry)).mp (hlegal entry hentry)
    · intro hnames entry hentry
      exact (acceptsEntry_legal_iff (haccept entry hentry)).mpr
        (hnames entries rest hdecode entry hentry)

/-! ## 10. A decoder -/

/-- Reads what `marshalEntry` writes. -/
def readEntry (data : Bytes) : Option (Entry × Bytes) := do
  let data ← Json.readLiteral nameKey data
  let (name, data) ← Json.readString data
  let data ← Json.readLiteral typeKey data
  let (type, data) ← Json.readString data
  let data ← Json.readLiteral sizeKey data
  let (size, data) ← Json.readInteger data
  let data ← Json.readLiteral [125] data
  pure (⟨name, type, size⟩, data)

/-- Reads what `marshalListRequest` writes. -/
def readListRequest (data : Bytes) : Option (StorageListRequest × Bytes) := do
  let data ← Json.readLiteral pathKey data
  let (path, data) ← Json.readString data
  let data ← Json.readLiteral maxEntriesKey data
  let (maxEntries, data) ← Json.readInteger data
  let data ← Json.readLiteral mountIDKey data
  let (mountID, data) ← Json.readInteger data
  let data ← Json.readLiteral filesystemTypeKey data
  let (filesystemType, data) ← Json.readInteger data
  let data ← Json.readLiteral [125] data
  pure (⟨path, maxEntries, UInt64.ofNat mountID.toNat, UInt32.ofNat filesystemType.toNat⟩, data)

def workerReader : WorkerJson := ⟨Json.readArray readEntry, readListRequest⟩

lemma readInteger_before {i : Int} {b : UInt8} {rest : Bytes} (hb : ¬ (48 ≤ b ∧ b ≤ 57)) :
    Json.readInteger (Json.integer i ++ b :: rest) = some (i, b :: rest) := by
  refine Json.readInteger_integer i fun c hc => ?_
  rw [head?_cons, mem_some_iff] at hc
  exact hc ▸ hb

lemma readInteger_mountIDKey (i : Int) (tail : Bytes) :
    Json.readInteger (Json.integer i ++ (mountIDKey ++ tail)) = some (i, mountIDKey ++ tail) :=
  readInteger_before (by decide)

lemma readInteger_filesystemTypeKey (i : Int) (tail : Bytes) :
    Json.readInteger (Json.integer i ++ (filesystemTypeKey ++ tail)) = some (i,
      filesystemTypeKey ++ tail) :=
  readInteger_before (by decide)

lemma readInteger_end (i : Int) : Json.readInteger (Json.integer i ++ [125]) = some (i, [125]) :=
  readInteger_before (by decide)

lemma readEntry_marshalEntry (hnm : validString entry.name)
    (hty : validString entry.type) (rest : Bytes) :
    readEntry (marshalEntry entry ++ rest) = some (entry, rest) := by
  have hsz : Json.readInteger (Json.integer entry.size ++ 125 :: rest) = _ :=
    readInteger_before (by decide)
  simp only [marshalEntry, append_assoc, readEntry, Json.readLiteral_append,
    Json.readString_quote hnm, Json.readString_quote hty, singleton_append, hsz,
    bind_eq_bind, bind_some]
  rfl

lemma readListRequest_marshalListRequest (hpa : validString request.path) :
    readListRequest (marshalListRequest request) = some (request, []) := by
  have hend : Json.readLiteral [125] [125] = some [] := Json.readLiteral_append [125] []
  simp only [marshalListRequest, readListRequest, Json.readLiteral_append,
    Json.readString_quote hpa, readInteger_mountIDKey, readInteger_filesystemTypeKey, readInteger_end,
    bind_eq_bind, bind_some]
  simp only [hend, bind_some, Int.toNat_natCast, UInt64.ofNat_toNat, UInt32.ofNat_toNat]
  rfl

lemma workerReader_lawful : workerReader.Lawful := by
  refine ⟨fun entries hes => ?_, fun request hpa _ => readListRequest_marshalListRequest hpa⟩
  have harray : Json.readArray readEntry (marshalEntries entries ++ []) = some (entries, []) :=
    Json.readArray_array (fun entry _ => ⟨_, _, rfl, by decide⟩)
      (fun entry hent tail => readEntry_marshalEntry (hes entry hent).1
        (hes entry hent).2.1 tail) []
  rw [append_nil] at harray
  exact harray

/-! ## 11. Two exchanges -/

/-- A reply with the one entry `{"name":"/","type":"file","size":0}`. -/
def rootNameReply : StorageWorkerFrame :=
  ⟨.listResponse, 1, .ok, 0,
    [91, 123, 34, 110, 97, 109, 101, 34, 58, 34, 47, 34, 44, 34, 116, 121, 112, 101, 34, 58, 34, 102,
      105, 108, 101, 34, 44, 34, 115, 105, 122, 101, 34, 58, 48, 125, 93]⟩

/-- The parent returns an entry named `/`, which is no component. -/
theorem root_name_is_returned :
    workerReader.decodeEntries rootNameReply.payload = some ([⟨[47], typeFile, 0⟩], []) ∧
      receiveListing workerReader false 1 1000 [deliver [] rootNameReply] (.ok ())
        = .ok [⟨[47], typeFile, 0⟩] ∧
      ¬ LegalEntry ⟨[47], typeFile, 0⟩ := by
  refine ⟨by decide, by decide, fun h => ?_⟩
  exact h.component.1 (mem_singleton_self 47)

/-- A directory with one file `a` of three bytes. -/
def sampleName : FileName := ⟨[97], by decide, by decide, by decide, by decide⟩

def sampleStat : Stat := ⟨1, 12, .regular, 1, 3, by decide⟩

def sampleFile : Descriptor :=
  ⟨4, .ok (some 7), .ok sampleStat, ⟨[], none⟩, .ok ⟨5, .ok sampleStat, .ok sampleStat, 0⟩⟩

def sampleDirectoryStat : Stat := ⟨1, 11, .directory, 2, 4096, by decide⟩

def sampleDirectory : Descriptor :=
  ⟨4, .ok (some 7), .ok sampleDirectoryStat, ⟨[sampleName], none⟩, .error .eisdir⟩

def sampleDescriptor : RootDescriptor where
  fd := 3
  stat := .ok sampleDirectoryStat
  filesystem := .ok 0xEF53
  statx := .ok (some 7)
  openat2 path mode :=
    if path = [46] ∧ mode = .directory then .ok sampleDirectory
    else if path = [97] ∧ mode = .path then .ok sampleFile
    else .error .enoent

def sampleRoot : SecureRoot := ⟨false, 7, 0xEF53, sampleDescriptor.openat2⟩

def sampleRequest : StorageListRequest := ⟨[], 10, 7, 0xEF53⟩

/-- The exchange that lists it, and a reply that carries the name of the root. -/
theorem sample_listing_arrives :
    workerReader.Lawful ∧ sampleRoot.list [] 10 = .ok [⟨[97], typeFile, 3⟩] ∧
      receiveListing workerReader false 1 10
        ((sendEntries 1 [⟨[97], typeFile, 3⟩]).map (deliver [])) (.ok ())
          = .ok [⟨[97], typeFile, 3⟩] ∧
      (∃ frame, listRequestFrame 1 sampleRequest = .ok frame ∧
        runStorageListWorker workerReader (deliver [sampleDescriptor] frame)
          = .ok (sendEntries 1 [⟨[97], typeFile, 3⟩])) ∧
      ∃ frames : List StorageWorkerFrame,
        ([deliver [] rootNameReply].take frames.length).map receiveStorageWorkerFrame
            = frames.map (fun frame => .ok (frame, [])) ∧
          ¬ ∀ decoded rest,
            workerReader.decodeEntries (frames.flatMap (·.payload)) = some (decoded, rest) →
              ∀ entry ∈ decoded, entry.name ≠ [47] := by
  obtain ⟨hresponse, hrequest, hreply⟩ := isolated_listing_refines_local workerReader_lawful
  have hlist : sampleRoot.list [] 10 = .ok [⟨[97], typeFile, 3⟩] := by decide
  refine ⟨workerReader_lawful, hlist, ?_, ?_, ?_⟩
  · exact (hresponse sampleRoot [] 10 _ 1 false (by decide) (by decide) hlist).2.2
  · exact hrequest sampleDescriptor sampleRoot sampleRequest 1 _ (by decide) (by decide) (by decide)
      rfl hlist
  · have hreceive : receiveListing workerReader false 1 1000 [deliver [] rootNameReply] (.ok ())
        = .ok [⟨[47], typeFile, 0⟩] := by decide
    obtain ⟨frames, hframes, -, -, hiff⟩ := hreply false 1 1000 _ (.ok ()) _ hreceive
    refine ⟨frames, hframes, fun hnames => ?_⟩
    have hlegal := hiff.mpr hnames _ (mem_singleton_self _)
    exact hlegal.component.1 (mem_singleton_self 47)

end ReCasaOS.PublicFiles
