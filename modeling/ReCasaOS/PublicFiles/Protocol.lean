/-
# The storage worker protocol

`pkg/publicfiles/worker_protocol.go` and the receiving half of `worker_ipc_linux.go`. Parent
and child exchange packets over a `SOCK_SEQPACKET` pair, which keeps packet boundaries. A packet
is

    RCFW (4) | 1 (2) | opcode (2) | request id (8) | status (2) | flags (2) | length (4) | payload

The opcode and the status are enumerations here, so a frame with an unknown one cannot be built;
the parser refuses their codes, as `validStorageWorkerFrameHeader` does.
-/
import ReCasaOS.Lib.Posix
import ReCasaOS.Lib.Result

namespace ReCasaOS.PublicFiles

open Lib List

/-! ## 1. Frames -/

def storageWorkerProtocolVersion : Nat := 1
def storageWorkerHeaderBytes : Nat := 24
def storageWorkerMaxFramePayload : Nat := 60 * 1024
def storageWorkerMaxListPayload : Nat := 2 * 1024 * 1024

/-- `RCFW`. -/
def storageWorkerMagic : Bytes := [82, 67, 70, 87]

inductive StorageWorkerOpcode
  | bootstrapRequest | bootstrapResponse | listRequest | listResponse | openRequest
  | openResponse | readRequest | readResponse | closeRequest | closeResponse
  deriving DecidableEq, Repr

def StorageWorkerOpcode.code : StorageWorkerOpcode → Nat
  | bootstrapRequest => 1
  | bootstrapResponse => 2
  | listRequest => 3
  | listResponse => 4
  | openRequest => 5
  | openResponse => 6
  | readRequest => 7
  | readResponse => 8
  | closeRequest => 9
  | closeResponse => 10

def StorageWorkerOpcode.ofCode : Nat → Option StorageWorkerOpcode
  | 1 => some bootstrapRequest
  | 2 => some bootstrapResponse
  | 3 => some listRequest
  | 4 => some listResponse
  | 5 => some openRequest
  | 6 => some openResponse
  | 7 => some readRequest
  | 8 => some readResponse
  | 9 => some closeRequest
  | 10 => some closeResponse
  | _ => none

inductive StorageWorkerStatus
  | ok | hidden | entryLimit | invalid | internal | eof | unsupported
  deriving DecidableEq, Repr

def StorageWorkerStatus.code : StorageWorkerStatus → Nat
  | ok => 0
  | hidden => 1
  | entryLimit => 2
  | invalid => 3
  | internal => 4
  | eof => 5
  | unsupported => 6

def StorageWorkerStatus.ofCode : Nat → Option StorageWorkerStatus
  | 0 => some ok
  | 1 => some hidden
  | 2 => some entryLimit
  | 3 => some invalid
  | 4 => some internal
  | 5 => some eof
  | 6 => some unsupported
  | _ => none

def storageWorkerFlagMore : UInt16 := 1

structure StorageWorkerFrame where
  opcode : StorageWorkerOpcode
  requestID : UInt64
  status : StorageWorkerStatus
  flags : UInt16
  payload : Bytes
  deriving DecidableEq

/-- The error values of the package, and the errors of the system calls. -/
inductive StorageError
  | storageCapacity
  | storageTimeout
  | storageProtocol
  | entryLimit
  | unsupported
  | workerFailed
  | pinnedObjectNotRegular
  | pinnedIdentityChanged
  | publicRootFilesystemNotAllowed
  | errno (code : Errno)
  deriving DecidableEq, Repr

/-- `validStorageWorkerFrameHeader`, as far as the types leave it open. -/
def validStorageWorkerFrameHeader (frame : StorageWorkerFrame) : Prop :=
  frame.requestID ≠ 0 ∧ frame.flags &&& ~~~storageWorkerFlagMore = 0

instance instDecidableValidHeader (frame : StorageWorkerFrame) :
    Decidable (validStorageWorkerFrameHeader frame) :=
  inferInstanceAs (Decidable (_ ∧ _))

/-! ## 2. Packets -/

/-- The bytes of a frame. -/
def packetBytes (frame : StorageWorkerFrame) : Bytes :=
  storageWorkerMagic ++ (putUint16 storageWorkerProtocolVersion ++ (putUint16 frame.opcode.code
    ++ (putUint64 frame.requestID.toNat ++ (putUint16 frame.status.code
      ++ (putUint16 frame.flags.toNat ++ (putUint32 frame.payload.length ++ frame.payload))))))

def marshalStorageWorkerFrame (frame : StorageWorkerFrame) : Except StorageError Bytes := do
  check (¬ validStorageWorkerFrameHeader frame ∨ storageWorkerMaxFramePayload < frame.payload.length)
    .storageProtocol
  pure (packetBytes frame)

def parseStorageWorkerFrame (packet : Bytes) : Except StorageError StorageWorkerFrame := do
  check (packet.length < storageWorkerHeaderBytes ∨ slice packet 0 4 ≠ storageWorkerMagic
    ∨ uint16 (packet.drop 4) ≠ storageWorkerProtocolVersion) .storageProtocol
  let payloadLength := uint32 (packet.drop 20)
  check (storageWorkerMaxFramePayload < payloadLength
    ∨ packet.length ≠ storageWorkerHeaderBytes + payloadLength) .storageProtocol
  let opcode ← orError (StorageWorkerOpcode.ofCode (uint16 (packet.drop 6))) .storageProtocol
  let status ← orError (StorageWorkerStatus.ofCode (uint16 (packet.drop 16))) .storageProtocol
  let frame : StorageWorkerFrame :=
    { opcode, status
      requestID := UInt64.ofNat (uint64 (packet.drop 8))
      flags := UInt16.ofNat (uint16 (packet.drop 18))
      payload := packet.drop storageWorkerHeaderBytes }
  check (¬ validStorageWorkerFrameHeader frame) .storageProtocol
  pure frame

variable (opcode : StorageWorkerOpcode)

lemma StorageWorkerOpcode.ofCode_code : ofCode opcode.code = some opcode := by
  cases opcode <;> rfl

variable (status : StorageWorkerStatus)

lemma StorageWorkerStatus.ofCode_code : ofCode status.code = some status := by
  cases status <;> rfl

lemma StorageWorkerOpcode.code_lt : opcode.code < 65536 := by
  cases opcode <;> decide

lemma StorageWorkerStatus.code_lt : status.code < 65536 := by
  cases status <;> decide

variable {frame : StorageWorkerFrame}
variable {packet payload : Bytes}

lemma marshalStorageWorkerFrame_eq_ok : marshalStorageWorkerFrame frame = .ok packet ↔
      (validStorageWorkerFrameHeader frame ∧ frame.payload.length ≤ storageWorkerMaxFramePayload) ∧
        packetBytes frame = packet := by
  rw [marshalStorageWorkerFrame, check_bind_eq_ok, pure_eq_ok, not_or, not_not, not_lt]

@[simp] lemma length_packetBytes (frame : StorageWorkerFrame) :
    (packetBytes frame).length = 24 + frame.payload.length := by
  simp [packetBytes, storageWorkerMagic]
  omega

/-- **A packet that was sent is parsed to the frame it was made from.** -/
theorem parse_packetBytes (hv : validStorageWorkerFrameHeader frame)
    (hlen : frame.payload.length ≤ storageWorkerMaxFramePayload) :
    parseStorageWorkerFrame (packetBytes frame) = .ok frame := by
  obtain ⟨packet, hpkt⟩ : ∃ packet, packetBytes frame = packet := ⟨_, rfl⟩
  have hsz : packet.length = 24 + frame.payload.length := hpkt ▸ length_packetBytes frame
  have hmax : storageWorkerMaxFramePayload = 61440 := rfl
  have hdr0 : packet.drop 0 = packetBytes frame := hpkt.symm
  have hdr4 : packet.drop 4 = _ := drop_of_drop hdr0 rfl
  have hdr6 : packet.drop 6 = _ := drop_of_drop hdr4 rfl
  have hdr8 : packet.drop 8 = _ := drop_of_drop hdr6 rfl
  have hdr16 : packet.drop 16 = _ := drop_of_drop hdr8 rfl
  have hdr18 : packet.drop 18 = _ := drop_of_drop hdr16 rfl
  have hdr20 : packet.drop 20 = _ := drop_of_drop hdr18 rfl
  have hdr24 : packet.drop 24 = frame.payload := drop_of_drop hdr20 rfl
  have hmag : slice packet 0 4 = storageWorkerMagic := slice_of_drop hdr0 rfl
  have hver : uint16 (packet.drop 4) = storageWorkerProtocolVersion := by
    rw [hdr4, uint16_putUint16 (by decide)]
  have hopc : uint16 (packet.drop 6) = frame.opcode.code := by
    rw [hdr6, uint16_putUint16 frame.opcode.code_lt]
  have hid : uint64 (packet.drop 8) = frame.requestID.toNat := by
    rw [hdr8, uint64_putUint64 frame.requestID.toNat_lt]
  have hst : uint16 (packet.drop 16) = frame.status.code := by
    rw [hdr16, uint16_putUint16 frame.status.code_lt]
  have hfl : uint16 (packet.drop 18) = frame.flags.toNat := by
    rw [hdr18, uint16_putUint16 frame.flags.toNat_lt]
  have hlength : uint32 (packet.drop 20) = frame.payload.length := by
    rw [hdr20, uint32_putUint32 (by omega)]
  have hhd : ¬ (packet.length < storageWorkerHeaderBytes ∨ slice packet 0 4 ≠ storageWorkerMagic
      ∨ uint16 (packet.drop 4) ≠ storageWorkerProtocolVersion) := by
    rintro (h | h | h)
    · rw [storageWorkerHeaderBytes] at h
      omega
    · exact h hmag
    · exact h hver
  rw [hpkt, parseStorageWorkerFrame, check_bind_of_not hhd]
  simp only [hopc, hid, hst, hfl, hlength, StorageWorkerOpcode.ofCode_code,
    StorageWorkerStatus.ofCode_code, UInt64.ofNat_toNat, UInt16.ofNat_toNat,
    storageWorkerHeaderBytes, hdr24, orError]
  rw [check_bind_of_not (by omega)]
  exact check_bind_of_not (not_not.mpr hv)

lemma StorageWorkerOpcode.code_of_ofCode {code : Nat} {opcode : StorageWorkerOpcode}
    (h : ofCode code = some opcode) : opcode.code = code := by
  unfold ofCode at h
  split at h <;> cases h <;> rfl

lemma StorageWorkerStatus.code_of_ofCode {code : Nat} {status : StorageWorkerStatus}
    (h : ofCode code = some status) : status.code = code := by
  unfold ofCode at h
  split at h <;> cases h <;> rfl

/-- **An accepted packet is the packet of the frame it is parsed to.** -/
theorem parseStorageWorkerFrame_fields (h : parseStorageWorkerFrame packet = .ok frame) :
    (validStorageWorkerFrameHeader frame ∧
      frame.payload.length ≤ storageWorkerMaxFramePayload) ∧ packetBytes frame = packet := by
  rw [parseStorageWorkerFrame, check_bind_eq_ok, check_bind_eq_ok] at h
  obtain ⟨hhd, hlen, h⟩ := h
  obtain ⟨opcode, hopc, h⟩ := bind_eq_ok.mp h
  obtain ⟨status, hst, h⟩ := bind_eq_ok.mp h
  rw [check_bind_eq_ok, pure_eq_ok, not_not] at h
  obtain ⟨hv, rfl⟩ := h
  have hopc := StorageWorkerOpcode.code_of_ofCode (orError_eq_ok.mp hopc)
  have hst := StorageWorkerStatus.code_of_ofCode (orError_eq_ok.mp hst)
  simp only [not_or, not_not, not_lt, storageWorkerHeaderBytes] at hhd hlen
  obtain ⟨hsh, hmag, hver⟩ := hhd
  obtain ⟨hmax, hexact⟩ := hlen
  have hpay : (packet.drop 24).length = uint32 (packet.drop 20) := by
    rw [length_drop]
    omega
  refine ⟨⟨hv, hpay.trans_le hmax⟩, ?_⟩
  have hid : (UInt64.ofNat (uint64 (packet.drop 8))).toNat = uint64 (packet.drop 8) :=
    UInt64.toNat_ofNat_of_lt' (uint64_lt _)
  have hfl : (UInt16.ofNat (uint16 (packet.drop 18))).toNat = uint16 (packet.drop 18) :=
    UInt16.toNat_ofNat_of_lt' (uint16_lt _)
  have hrm : ∀ i n, i + n ≤ 24 → n ≤ (packet.drop i).length := by
    intro i n hin
    rw [length_drop]
    omega
  -- the fields follow each other without a gap
  simp only [packetBytes, hopc, hst, hid, hfl, storageWorkerHeaderBytes, hpay]
  rw [← hmag, ← hver, putUint16_uint16 (hrm 4 2 (by decide)),
    putUint16_uint16 (hrm 6 2 (by decide)), putUint64_uint64 (hrm 8 8 (by decide)),
    putUint16_uint16 (hrm 16 2 (by decide)), putUint16_uint16 (hrm 18 2 (by decide)),
    putUint32_uint32 (hrm 20 4 (by decide))]
  have hjoin : ∀ i n, (packet.drop i).take n ++ packet.drop (i + n) = packet.drop i := by
    intro i n
    rw [← drop_drop, take_append_drop]
  rw [hjoin 20 4, hjoin 18 2, hjoin 16 2, hjoin 8 8, hjoin 6 2, hjoin 4 2]
  exact hjoin 0 4

/-- **The frame codec is a bijection** between the frames that may be sent and the packets that
are accepted. -/
theorem parseStorageWorkerFrame_eq_ok :
    parseStorageWorkerFrame packet = .ok frame ↔ marshalStorageWorkerFrame frame = .ok packet := by
  rw [marshalStorageWorkerFrame_eq_ok]
  constructor
  · exact parseStorageWorkerFrame_fields
  · rintro ⟨⟨hv, hlen⟩, rfl⟩
    exact parse_packetBytes hv hlen

/-! ## 3. Payloads of fixed size

Sizes, offsets and times are signed and travel as the unsigned integer with the same bits. -/

def storageWorkerMaxReadBytes : UInt32 := 60 * 1024

structure StorageBootstrapResponse where
  verifier : Arr 32
  mountID : UInt64
  filesystemType : UInt32
  deriving DecidableEq

structure StorageOpenResponse where
  size : Int64
  modTimeUnixNano : Int64
  deriving DecidableEq

structure StorageReadRequest where
  offset : Int64
  length : UInt32
  deriving DecidableEq

def marshalStorageBootstrapResponse (response : StorageBootstrapResponse) : Bytes :=
  response.verifier.1 ++ (putUint64 response.mountID.toNat
    ++ putUint32 response.filesystemType.toNat)

def parseStorageBootstrapResponse (payload : Bytes) :
    Except StorageError StorageBootstrapResponse := do
  check (payload.length ≠ 44) .storageProtocol
  let response : StorageBootstrapResponse :=
    { verifier := toArr 32 (slice payload 0 32)
      mountID := UInt64.ofNat (uint64 (slice payload 32 40))
      filesystemType := UInt32.ofNat (uint32 (slice payload 40 44)) }
  check (response.mountID = 0) .storageProtocol
  pure response

def marshalStorageOpenResponse (response : StorageOpenResponse) : Bytes :=
  putUint64 response.size.toUInt64.toNat ++ putUint64 response.modTimeUnixNano.toUInt64.toNat

def parseStorageOpenResponse (payload : Bytes) : Except StorageError StorageOpenResponse := do
  check (payload.length ≠ 16) .storageProtocol
  let response : StorageOpenResponse :=
    { size := (UInt64.ofNat (uint64 (slice payload 0 8))).toInt64
      modTimeUnixNano := (UInt64.ofNat (uint64 (slice payload 8 16))).toInt64 }
  check (response.size < 0) .storageProtocol
  pure response

/-- The check of both ends of a read request. -/
def invalidStorageReadRequest (request : StorageReadRequest) : Prop :=
  request.offset < 0 ∨ request.length = 0 ∨ storageWorkerMaxReadBytes < request.length

instance instDecidableInvalidRead (request : StorageReadRequest) :
    Decidable (invalidStorageReadRequest request) :=
  inferInstanceAs (Decidable (_ ∨ _ ∨ _))

def marshalStorageReadRequest (request : StorageReadRequest) : Except StorageError Bytes := do
  check (invalidStorageReadRequest request) .storageProtocol
  pure (putUint64 request.offset.toUInt64.toNat ++ putUint32 request.length.toNat)

def parseStorageReadRequest (payload : Bytes) : Except StorageError StorageReadRequest := do
  check (payload.length ≠ 12) .storageProtocol
  let request : StorageReadRequest :=
    { offset := (UInt64.ofNat (uint64 (slice payload 0 8))).toInt64
      length := UInt32.ofNat (uint32 (slice payload 8 12)) }
  check (invalidStorageReadRequest request) .storageProtocol
  pure request

/-- The integer in an eight-byte field, and the field. -/
lemma uint64_field (value : UInt64) : UInt64.ofNat (uint64 (putUint64 value.toNat)) = value := by
  have h := uint64_putUint64 value.toNat_lt []
  rw [append_nil] at h
  rw [h, UInt64.ofNat_toNat]

lemma uint32_field (value : UInt32) : UInt32.ofNat (uint32 (putUint32 value.toNat)) = value := by
  have h := uint32_putUint32 value.toNat_lt []
  rw [append_nil] at h
  rw [h, UInt32.ofNat_toNat]

lemma putUint64_field {field : Bytes} (h : field.length = 8) :
    putUint64 (UInt64.ofNat (uint64 field)).toNat = field := by
  rw [UInt64.toNat_ofNat_of_lt' (uint64_lt field), putUint64_uint64 h.ge, take_of_length_le h.le]

lemma putUint32_field {field : Bytes} (h : field.length = 4) :
    putUint32 (UInt32.ofNat (uint32 field)).toNat = field := by
  rw [UInt32.toNat_ofNat_of_lt' (uint32_lt field), putUint32_uint32 h.ge, take_of_length_le h.le]

lemma parseStorageBootstrapResponse_eq_ok {response : StorageBootstrapResponse} :
    parseStorageBootstrapResponse payload = .ok response ↔
      response.mountID ≠ 0 ∧ marshalStorageBootstrapResponse response = payload := by
  rw [parseStorageBootstrapResponse, check_bind_eq_ok, check_bind_eq_ok, pure_eq_ok, not_not]
  constructor
  · rintro ⟨hlen, hmnt, rfl⟩
    refine ⟨hmnt, ?_⟩
    have hverf : (toArr 32 (slice payload 0 32)).1 = slice payload 0 32 :=
      toArr_val (length_slice (by omega))
    simp only [marshalStorageBootstrapResponse, hverf]
    rw [putUint64_field (length_slice (by omega)), putUint32_field (length_slice (by omega)),
      slice_to_end hlen.le, ← drop_eq_slice_append (by omega), ← drop_eq_slice_append (by omega),
      drop_zero]
  · rintro ⟨hmnt, rfl⟩
    obtain ⟨payload, hpay⟩ : ∃ payload, marshalStorageBootstrapResponse response = payload :=
      ⟨_, rfl⟩
    have hdr0 : payload.drop 0 = marshalStorageBootstrapResponse response := hpay.symm
    have hdr32 : payload.drop 32 = _ := drop_of_drop hdr0 (by simp)
    have hdr40 : payload.drop 40 = _ := drop_of_drop hdr32 rfl
    have hfsys : slice payload 40 44 = putUint32 response.filesystemType.toNat :=
      slice_of_drop (hdr40.trans (append_nil _).symm) rfl
    rw [hpay, slice_of_drop hdr0 (by simp), slice_of_drop hdr32 rfl, hfsys, toArr_arr,
      uint64_field, uint32_field]
    refine ⟨?_, hmnt, rfl⟩
    rw [← hpay]
    simp [marshalStorageBootstrapResponse]

lemma parseStorageOpenResponse_eq_ok {response : StorageOpenResponse} :
    parseStorageOpenResponse payload = .ok response ↔
      ¬ response.size < 0 ∧ marshalStorageOpenResponse response = payload := by
  rw [parseStorageOpenResponse, check_bind_eq_ok, check_bind_eq_ok, pure_eq_ok, not_not]
  constructor
  · rintro ⟨hlen, hsz, rfl⟩
    refine ⟨hsz, ?_⟩
    simp only [marshalStorageOpenResponse, UInt64.toUInt64_toInt64]
    rw [putUint64_field (length_slice (by omega)), putUint64_field (length_slice (by omega)),
      slice_to_end hlen.le, ← drop_eq_slice_append (by omega), drop_zero]
  · rintro ⟨hsz, rfl⟩
    have hfst : slice (marshalStorageOpenResponse response) 0 8
        = putUint64 response.size.toUInt64.toNat := slice_of_drop (drop_zero) rfl
    have hsnd : slice (marshalStorageOpenResponse response) 8 16
        = putUint64 response.modTimeUnixNano.toUInt64.toNat := rfl
    rw [hfst, hsnd, uint64_field, uint64_field, Int64.toInt64_toUInt64, Int64.toInt64_toUInt64]
    exact ⟨rfl, hsz, rfl⟩

lemma marshalStorageReadRequest_eq_ok {request : StorageReadRequest} :
    marshalStorageReadRequest request = .ok payload ↔ ¬ invalidStorageReadRequest request ∧
      putUint64 request.offset.toUInt64.toNat ++ putUint32 request.length.toNat = payload := by
  rw [marshalStorageReadRequest, check_bind_eq_ok, pure_eq_ok]

lemma parseStorageReadRequest_eq_ok {request : StorageReadRequest} :
    parseStorageReadRequest payload = .ok request ↔
      marshalStorageReadRequest request = .ok payload := by
  rw [marshalStorageReadRequest_eq_ok, parseStorageReadRequest, check_bind_eq_ok, check_bind_eq_ok,
    pure_eq_ok, not_not]
  constructor
  · rintro ⟨hlen, hv, rfl⟩
    refine ⟨hv, ?_⟩
    rw [UInt64.toUInt64_toInt64, putUint64_field (length_slice (by omega)),
      putUint32_field (length_slice (by omega)), slice_to_end hlen.le,
      ← drop_eq_slice_append (by omega), drop_zero]
  · rintro ⟨hv, hpay⟩
    have hfst : slice payload 0 8 = putUint64 request.offset.toUInt64.toNat := by
      rw [← hpay]
      rfl
    have hsnd : slice payload 8 12 = putUint32 request.length.toNat := by
      rw [← hpay]
      rfl
    rw [hfst, hsnd, uint64_field, uint32_field, Int64.toInt64_toUInt64]
    refine ⟨?_, hv, rfl⟩
    rw [← hpay]
    rfl

/-- **The worker protocol has one encoding for each value.** Every codec is a bijection between
the values it lets through and the byte strings its parser accepts, so what the other side reads
is what was sent, and a packet is accepted in no second spelling. In particular no negative size
or offset, no empty or over-long read and no zero mount id crosses the boundary. -/
theorem worker_codecs_canonical :
    (∀ frame : StorageWorkerFrame, validStorageWorkerFrameHeader frame →
      frame.payload.length ≤ storageWorkerMaxFramePayload →
      ∃ packet, marshalStorageWorkerFrame frame = .ok packet ∧
        parseStorageWorkerFrame packet = .ok frame) ∧
    (∀ packet frame, parseStorageWorkerFrame packet = .ok frame →
      marshalStorageWorkerFrame frame = .ok packet) ∧
    (∀ payload request, parseStorageReadRequest payload = .ok request ↔
      marshalStorageReadRequest request = .ok payload) ∧
    (∀ payload request, parseStorageReadRequest payload = .ok request →
      0 ≤ request.offset ∧ request.length ≠ 0 ∧ request.length ≤ storageWorkerMaxReadBytes) ∧
    (∀ payload response, parseStorageOpenResponse payload = .ok response ↔
      0 ≤ response.size ∧ marshalStorageOpenResponse response = payload) ∧
    (∀ payload response, parseStorageBootstrapResponse payload = .ok response ↔
      response.mountID ≠ 0 ∧ marshalStorageBootstrapResponse response = payload) := by
  refine ⟨?_, fun _ _ => parseStorageWorkerFrame_eq_ok.mp, fun _ _ => parseStorageReadRequest_eq_ok,
    ?_, ?_, fun _ _ => parseStorageBootstrapResponse_eq_ok⟩
  · intro frame hvalid hlen
    exact ⟨packetBytes frame, marshalStorageWorkerFrame_eq_ok.mpr ⟨⟨hvalid, hlen⟩, rfl⟩,
      parse_packetBytes hvalid hlen⟩
  · intro payload request h
    rw [parseStorageReadRequest_eq_ok, marshalStorageReadRequest_eq_ok, invalidStorageReadRequest,
      not_or, not_or, Int64.not_lt, UInt32.not_lt] at h
    exact h.1
  · intro payload response
    rw [parseStorageOpenResponse_eq_ok, Int64.not_lt]

/-- A request to read one byte, in a frame. -/
theorem worker_codecs_canonical_read :
    ∃ payload packet, parseStorageReadRequest payload = .ok ⟨0, 1⟩ ∧
      parseStorageWorkerFrame packet = .ok ⟨.readRequest, 1, .ok, 0, payload⟩ := by
  obtain ⟨hframe, -, hread, -, -, -⟩ := worker_codecs_canonical
  obtain ⟨payload, hpayload⟩ : ∃ payload, marshalStorageReadRequest ⟨0, 1⟩ = .ok payload :=
    ⟨_, marshalStorageReadRequest_eq_ok.mpr ⟨by decide, rfl⟩⟩
  have hlen : payload.length ≤ storageWorkerMaxFramePayload := by
    rw [← (marshalStorageReadRequest_eq_ok.mp hpayload).2]
    decide
  have hvalid : (1 : UInt64) ≠ 0 ∧ (0 : UInt16) &&& ~~~storageWorkerFlagMore = 0 := by decide
  obtain ⟨packet, -, hpacket⟩ := hframe ⟨.readRequest, 1, .ok, 0, payload⟩ hvalid hlen
  exact ⟨payload, packet, (hread _ _).mpr hpayload, hpacket⟩

end ReCasaOS.PublicFiles
