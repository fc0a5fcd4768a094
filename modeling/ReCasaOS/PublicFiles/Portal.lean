/-
# The two storage backends behind the portal

`serveList` and `serveFile` of `portal.go` over the local backend (`storage_local_linux.go`) and
over the isolated one, whose file worker is `runStorageFileWorker` of `worker_child_linux.go` and
`isolatedStorageManager.openRegular` of `worker_parent_linux.go`; the list worker is in
`Listing.lean`. Workers start and answer in time, and the child closes the root without an error:
capacity and deadlines are the manager's (`Slots.lean`). The model ends where `http.ServeContent`
takes over.

An error crosses the boundary as a status (`storageWorkerStatusForError`) and comes out as another
error (`storageWorkerError`). The portal answers both alike (`listFailure_status`,
`fileFailure_status`), so that the backends cannot be told apart
(`isolated_backend_indistinguishable`).
-/
import ReCasaOS.PublicFiles.Listing

namespace ReCasaOS.PublicFiles

open Lib List Option

variable {err : FileError}

/-! ## 1. The file worker -/

structure StorageOpenRequest where
  path : Bytes
  mountID : UInt64
  filesystemType : UInt32
  deriving DecidableEq

/-- `json.Marshal` of a `storageOpenRequest`. -/
def marshalOpenRequest (request : StorageOpenRequest) : Bytes :=
  pathKey ++ (Json.quote request.path ++ (mountIDKey ++ (Json.integer request.mountID.toNat
    ++ (filesystemTypeKey ++ (Json.integer request.filesystemType.toNat ++ [125])))))

/-- The decoders of both workers. -/
structure PortalJson extends WorkerJson where
  decodeOpenRequest : Bytes → Option (StorageOpenRequest × Bytes)

structure PortalJson.Lawful (J : PortalJson) : Prop extends J.toWorkerJson.Lawful where
  openRequest : ∀ request, validString request.path →
    J.decodeOpenRequest (marshalOpenRequest request) = some (request, [])

/-- The open case of `receiveStorageRootRequest`. -/
def receiveStorageOpenRequest (J : PortalJson) (reception : Reception) :
    Except StorageError (StorageWorkerFrame × SecureRoot) := do
  let (frame, rights) ← (receiveStorageWorkerFrame reception).mapError
    (classifyStorageWorkerIPCError false)
  match rights with
  | [rootFD] =>
    check (validStorageWorkerRequestFrame frame .openRequest = false) .storageProtocol
    let request ← unmarshalStorageWorkerJSON J.decodeOpenRequest frame.payload
    let root ← secureRootFromWorkerFD rootFD request.mountID request.filesystemType
    pure (frame, root)
  | _ => .error .storageProtocol

/-- `sendStorageWorkerError` on the open response. -/
def openError (requestID : UInt64) (status : StorageWorkerStatus) : StorageWorkerFrame :=
  ⟨.openResponse, requestID, status, 0, []⟩

/-- The frame that answers an open request. -/
def openAnswer (requestID : UInt64) : Except FileError FileInfo → StorageWorkerFrame
  | .error err => openError requestID (storageWorkerStatusForError err)
  | .ok info =>
    ⟨.openResponse, requestID, .ok, 0,
      marshalStorageOpenResponse ⟨Int64.ofNat info.size, info.modTimeUnixNano⟩⟩

/-- `runStorageFileWorker` up to its first answer, or the error it exits with. -/
def runStorageFileWorker (J : PortalJson) (reception : Reception) :
    Except StorageError StorageWorkerFrame := do
  let (frame, root) ← receiveStorageOpenRequest J reception
  match unmarshalStorageWorkerJSON J.decodeOpenRequest frame.payload with
  | .error _ => pure (openError frame.requestID .invalid)
  | .ok request =>
    if validateRelativePath request.path false ≠ .ok request.path then
      pure (openError frame.requestID .invalid)
    else pure (openAnswer frame.requestID (root.openRegular request.path))

/-- The request that `openRegular` sends. -/
def openRequestFrame (requestID : UInt64) (request : StorageOpenRequest) :
    Except StorageError StorageWorkerFrame := do
  let payload ← marshalStorageWorkerJSON (marshalOpenRequest request)
  pure ⟨.openRequest, requestID, .ok, 0, payload⟩

/-- `openRegular` from the reception on; `finish` is the result of `finishNormally`. -/
def receiveOpened (done : Bool) (requestID : UInt64) (reception : Reception)
    (finish : Except StorageError Unit) : Except StorageError StorageOpenResponse := do
  let (frame, rights) ← (receiveStorageWorkerFrame reception).mapError
    (classifyStorageWorkerIPCError done)
  check (rights.length ≠ 0 ∨ frame.opcode ≠ .openResponse ∨ frame.requestID ≠ requestID
    ∨ frame.flags ≠ 0) .storageProtocol
  if frame.status ≠ .ok then do
    check (frame.payload.length ≠ 0) .storageProtocol
    finish
    .error (storageWorkerError frame.status)
  else parseStorageOpenResponse frame.payload

/-! ## 2. The backends -/

/-- `storageBackend`; of an open file the portal reads the size. -/
structure StorageBackend where
  list : Bytes → Int → Except FileError (List Entry)
  openRegular : Bytes → Except FileError Int

def localStorageBackend (root : SecureRoot) : StorageBackend where
  list := root.list
  openRegular relative := (root.openRegular relative).map fun info => (info.size : Int)

/-- What the manager holds: the root descriptor and its identity. -/
structure IsolatedRoot where
  descriptor : RootDescriptor
  mountID : UInt64
  filesystemType : UInt32

def IsolatedRoot.listRequest (isolated : IsolatedRoot) (relative : Bytes) (maxEntries : Int) :
    StorageListRequest :=
  ⟨relative, maxEntries, isolated.mountID, isolated.filesystemType⟩

def IsolatedRoot.openRequest (isolated : IsolatedRoot) (relative : Bytes) : StorageOpenRequest :=
  ⟨relative, isolated.mountID, isolated.filesystemType⟩

/-- What the parent receives of the child's frames; a child that exits without an answer closes
the connection. -/
def received : Except StorageError (List StorageWorkerFrame) → List Reception
  | .error _ => [.failed false]
  | .ok frames => frames.map (deliver [])

/-- `isolatedStorageManager.list`. -/
def isolatedList (J : PortalJson) (isolated : IsolatedRoot) (requestID : UInt64) (relative : Bytes)
    (maxEntries : Int) : Except StorageError (List Entry) := do
  let frame ← listRequestFrame requestID (isolated.listRequest relative maxEntries)
  let answer := runStorageListWorker J.toWorkerJson (deliver [isolated.descriptor] frame)
  receiveListing J.toWorkerJson false requestID maxEntries (received answer) (.ok ())

/-- `isolatedStorageManager.openRegular`. -/
def isolatedOpenRegular (J : PortalJson) (isolated : IsolatedRoot) (requestID : UInt64)
    (relative : Bytes) : Except StorageError StorageOpenResponse := do
  let frame ← openRequestFrame requestID (isolated.openRequest relative)
  let answer := runStorageFileWorker J (deliver [isolated.descriptor] frame)
  receiveOpened false requestID
    ((received (answer.map ([·]))).headD (.failed false)) (.ok ())

def isolatedStorageBackend (J : PortalJson) (isolated : IsolatedRoot) (requestID : UInt64) :
    StorageBackend where
  list relative maxEntries := (isolatedList J isolated requestID relative maxEntries).mapError .value
  openRegular relative :=
    ((isolatedOpenRegular J isolated requestID relative).mapError .value).map fun response =>
      response.size.toInt

/-! ## 3. The portal -/

inductive Method
  | get
  | head
  | post
  | other
  deriving DecidableEq, Repr

/-- What the handlers read of a request. `query` is the path parameter, or `none` when
`parseSafeQuery` refuses the query. -/
structure PortalRequest where
  method : Method
  authorized : Bool
  fileNavigation : Bool
  query : Option Bytes
  ranges : List Bytes

inductive PortalResponse
  | failure (status : Nat) (message : String) (headers : List (String × String))
  | noContent
  | listing (path : Bytes) (entries : List Entry)
  | content (filename : Bytes) (size : Int)
  deriving DecidableEq

def methodNotAllowed : PortalResponse := .failure 405 "method not allowed" [("Allow", "GET, HEAD")]

def authorizationRequired : PortalResponse :=
  .failure 401 "authorization required"
    [("WWW-Authenticate", "Bearer realm=\"ReCasaOS public files\"")]

def storageUnavailable : PortalResponse :=
  .failure 503 "storage capacity unavailable" [("Retry-After", "5")]

/-- The answer of `serveList` to an error of the backend. -/
def listFailure (err : FileError) : PortalResponse :=
  if err.is .storageCapacity || err.is .storageTimeout then storageUnavailable
  else if err.is .entryLimit then .failure 413 "directory entry limit exceeded" []
  else if isHiddenFilesystemError err then .failure 404 "not found" []
  else .failure 500 "unable to list directory" []

/-- The answer of `serveFile` to an error of the backend. -/
def fileFailure (err : FileError) : PortalResponse :=
  if err.is .storageCapacity || err.is .storageTimeout then storageUnavailable
  else if isHiddenFilesystemError err then .failure 404 "not found" []
  else .failure 500 "unable to open file" []

/-- The order of `sort.Slice`: directories first, then by name. -/
def entryLess (a b : Entry) : Bool :=
  if a.type ≠ b.type then a.type == typeDirectory else decide (a.name < b.name)

def serveList (storage : StorageBackend) (maxEntries : Int) (r : PortalRequest) : PortalResponse :=
  if r.method ≠ .get ∧ r.method ≠ .head then methodNotAllowed
  else if !r.authorized then authorizationRequired
  else
    match r.query with
    | none => .failure 400 "invalid query" []
    | some path =>
      match validateRelativePath path true with
      | .error _ => .failure 400 "invalid relative path" []
      | .ok relativePath =>
        match storage.list relativePath maxEntries with
        | .error err => listFailure err
        | .ok entries =>
          .listing relativePath (entries.mergeSort fun a b => !entryLess b a)

/-- `serveFile`; `slotFree` says whether a download slot is free. -/
def serveFile (storage : StorageBackend) (slotFree : Bool) (r : PortalRequest) : PortalResponse :=
  if r.method = .post ∧ r.fileNavigation ∧ r.authorized = false then .noContent
  else if r.method ≠ .get ∧ r.method ≠ .head then methodNotAllowed
  else if !r.authorized then
    if r.method = .get ∧ r.fileNavigation then .noContent else authorizationRequired
  else
    match r.query with
    | none => .failure 400 "invalid query" []
    | some path =>
      match validateRelativePath path false with
      | .error _ => .failure 400 "invalid relative path" []
      | .ok relativePath =>
        if !slotFree then .failure 503 "download capacity reached" [("Retry-After", "5")]
        else
          match storage.openRegular relativePath with
          | .error err => fileFailure err
          | .ok size =>
            if 1 < r.ranges.length ∨ r.ranges.any (containsByte · 44) then
              .failure 416 "multiple ranges are not supported"
                [("Content-Range", "bytes */" ++ toString size)]
            else .content (base relativePath) size

/-! ## 4. Errors across the boundary -/

/-- The status of an error is none of the two that report success. -/
lemma storageWorkerStatusForError_ne_ok (err : FileError) :
    storageWorkerStatusForError err ≠ .ok := by
  unfold storageWorkerStatusForError
  split
  · decide
  · split
    · decide
    · split
      · decide
      · decide

/-- The portal's own values are in no error that a root returns. -/
lemma not_storageUnavailable (h : err = .value .entryLimit ∨ err.FromFilesystem) :
    (err.is .storageCapacity || err.is .storageTimeout) = false := by
  rcases h with rfl | h
  · rfl
  · rw [h.is_eq_false id, h.is_eq_false id]
    rfl

/-- The answers to a failed listing: not found, the entry limit, or an internal failure. -/
lemma listFailure_mem (h : err = .value .entryLimit ∨ err.FromFilesystem) :
    listFailure err ∈ [.failure 404 "not found" [], .failure 413 "directory entry limit exceeded" [],
      .failure 500 "unable to list directory" []] := by
  rw [listFailure, not_storageUnavailable h, if_neg Bool.false_ne_true]
  split
  · exact .tail _ (.head _)
  · split
    · exact .head _
    · exact .tail _ (.tail _ (.head _))

/-- The answers to a failed open: not found, or an internal failure. -/
lemma fileFailure_mem (h : err.FromFilesystem) :
    fileFailure err ∈ [.failure 404 "not found" [], .failure 500 "unable to open file" []] := by
  rw [fileFailure, not_storageUnavailable (Or.inr h), if_neg Bool.false_ne_true]
  split
  · exact .head _
  · exact .tail _ (.head _)

/-- **The status keeps the answer to a failed listing.** -/
theorem listFailure_status (h : err = .value .entryLimit ∨ err.FromFilesystem) :
    listFailure (.value (storageWorkerError (storageWorkerStatusForError err))) = listFailure err := by
  rw [listFailure, listFailure, not_storageUnavailable h, storageWorkerStatusForError]
  by_cases hlimit : err.is .entryLimit
  · simp only [hlimit, if_true]
    rfl
  rw [if_neg hlimit, if_neg hlimit]
  by_cases hhid : isHiddenFilesystemError err
  · rw [if_pos hhid, if_pos hhid]
    rfl
  rw [if_neg hhid, if_neg hhid]
  split
  · rfl
  · rfl

/-- **The status keeps the answer to a failed open.** -/
theorem fileFailure_status (h : err.FromFilesystem) :
    fileFailure (.value (storageWorkerError (storageWorkerStatusForError err))) = fileFailure err := by
  have hlimit : ¬ err.is .entryLimit := by
    rw [h.is_eq_false id]
    exact Bool.false_ne_true
  rw [fileFailure, fileFailure, not_storageUnavailable (Or.inr h), storageWorkerStatusForError,
    if_neg hlimit]
  by_cases hhid : isHiddenFilesystemError err
  · rw [if_pos hhid, if_pos hhid]
    rfl
  rw [if_neg hhid, if_neg hhid]
  split
  · rfl
  · rfl

/-! ## 5. Requests across the boundary -/

lemma length_marshalOpenRequest_le {request : StorageOpenRequest}
    (hpa : request.path.length ≤ 4096) :
    (marshalOpenRequest request).length ≤ storageWorkerMaxFramePayload := by
  have hquote := Json.length_quote_le request.path
  have hroot := length_identity_le request.mountID request.filesystemType
  have hfr : storageWorkerMaxFramePayload = 61440 := rfl
  simp only [marshalOpenRequest, length_append, pathKey, mountIDKey, filesystemTypeKey,
    length_cons, length_nil]
  omega

/-- The two directions of `marshalStorageWorkerJSON` share their bounds. -/
lemma marshalOpenRequest_fits {request : StorageOpenRequest} (hpa : request.path.length ≤ 4096) :
    ¬ ((marshalOpenRequest request).length = 0
      ∨ storageWorkerMaxFramePayload < (marshalOpenRequest request).length) := by
  have hlen := length_marshalOpenRequest_le hpa
  have hpos : 1 ≤ (marshalOpenRequest request).length := by
    simp [marshalOpenRequest, pathKey]
  omega

/-- **The file worker answers** with the file of the root it was handed, or with the status of the
error. -/
theorem openRequest_answer {J : PortalJson} (hJ : J.Lawful) {descriptor : RootDescriptor}
    {root : SecureRoot} {request : StorageOpenRequest} {requestID : UInt64} (hid : requestID ≠ 0)
    (hpa : validateRelativePath request.path false = .ok request.path)
    (hrt : secureRootFromWorkerFD descriptor request.mountID request.filesystemType = .ok root) :
    ∃ frame, openRequestFrame requestID request = .ok frame ∧
      runStorageFileWorker J (deliver [descriptor] frame)
        = .ok (openAnswer requestID (root.openRegular request.path)) := by
  obtain ⟨-, hlen, hv⟩ := validateRelativePath_spec hpa
  have hft := marshalOpenRequest_fits hlen
  have hunma : unmarshalStorageWorkerJSON J.decodeOpenRequest (marshalOpenRequest request)
      = .ok request := by
    rw [unmarshalStorageWorkerJSON, check_bind_of_not hft, hJ.openRequest request hv]
    rfl
  refine ⟨⟨.openRequest, requestID, .ok, 0, marshalOpenRequest request⟩, ?_, ?_⟩
  · rw [openRequestFrame, marshalStorageWorkerJSON, check_bind_of_not hft]
    rfl
  · have hfl : (0 : UInt16) &&& ~~~storageWorkerFlagMore = 0 := by decide
    have hfr : validStorageWorkerRequestFrame
        ⟨.openRequest, requestID, .ok, 0, marshalOpenRequest request⟩ .openRequest := by
      simp [validStorageWorkerRequestFrame, hid]
    have hrcv : receiveStorageOpenRequest J (deliver [descriptor]
        ⟨.openRequest, requestID, .ok, 0, marshalOpenRequest request⟩)
        = .ok (⟨.openRequest, requestID, .ok, 0, marshalOpenRequest request⟩, root) := by
      rw [receiveStorageOpenRequest, receive_deliver ⟨hid, hfl⟩
        (length_marshalOpenRequest_le hlen), mapError_ok, ok_bind]
      simp only
      rw [check_bind_of_not (by simp [hfr]), hunma, ok_bind, hrt]
      rfl
    rw [runStorageFileWorker, hrcv, ok_bind]
    simp only [hunma]
    rw [if_neg (not_not.mpr hpa)]
    rfl

/-! ## 6. The portal over a boundary -/

/-- What the isolated backend makes of the result of a local operation. -/
def acrossBoundary {α : Type} (result : Except FileError α) : Except FileError α :=
  result.mapError fun err => .value (storageWorkerError (storageWorkerStatusForError err))

/-- The portal lists alike over a backend and over what crosses the boundary from it. -/
lemma serveList_across {storage isolated : StorageBackend} {max : Int}
    (h : ∀ rel, validateRelativePath rel true = .ok rel →
      isolated.list rel max = acrossBoundary (storage.list rel max) ∧
      FailsIn (fun err => err = .value .entryLimit ∨ err.FromFilesystem)
        (storage.list rel max)) (r : PortalRequest) :
    serveList isolated max r = serveList storage max r := by
  unfold serveList
  split
  · rfl
  split
  · rfl
  cases r.query with
  | none => rfl
  | some path =>
    simp only
    cases hpa : validateRelativePath path true with
    | error err => rfl
    | ok rel =>
      obtain ⟨rfl, -, -⟩ := validateRelativePath_spec hpa
      obtain ⟨hacross, hfls⟩ := h rel hpa
      simp only [hacross]
      cases hlist : storage.list rel max with
      | error err => exact listFailure_status (hfls err hlist)
      | ok entries => rfl

/-- The portal opens alike over a backend and over what crosses the boundary from it. -/
lemma serveFile_across {storage isolated : StorageBackend} {slotFree : Bool}
    (h : ∀ rel, validateRelativePath rel false = .ok rel →
      isolated.openRegular rel = acrossBoundary (storage.openRegular rel) ∧
      FailsIn FileError.FromFilesystem (storage.openRegular rel)) (r : PortalRequest) :
    serveFile isolated slotFree r = serveFile storage slotFree r := by
  unfold serveFile
  split
  · rfl
  split
  · rfl
  split
  · rfl
  cases r.query with
  | none => rfl
  | some path =>
    simp only
    cases hpa : validateRelativePath path false with
    | error err => rfl
    | ok rel =>
      obtain ⟨rfl, -, -⟩ := validateRelativePath_spec hpa
      obtain ⟨hacross, hfls⟩ := h rel hpa
      simp only [hacross]
      split
      · rfl
      cases hop : storage.openRegular rel with
      | error err => exact fileFailure_status (hfls err hop)
      | ok size => rfl

/-! ## 7. The isolated backend -/

section

variable {J : PortalJson} {isolated : IsolatedRoot} {root : SecureRoot} {rid : UInt64}

lemma isolated_list (hJ : J.Lawful) (hid : rid ≠ 0)
    (hrt : secureRootFromWorkerFD isolated.descriptor isolated.mountID isolated.filesystemType
      = .ok root) {rel : Bytes} (hpa : validateRelativePath rel true = .ok rel)
    {max : Int} (hmax : 1 ≤ max ∧ max ≤ 1000) :
    (isolatedStorageBackend J isolated rid).list rel max = acrossBoundary (root.list rel max) := by
  obtain ⟨frame, hfr, hans⟩ := @request_answer rid _
    (isolated.listRequest rel max) hJ.toLawful _ _ hid hpa hmax hrt
  rw [IsolatedRoot.listRequest] at hans
  simp only [isolatedStorageBackend, isolatedList, hfr, ok_bind, hans, received]
  cases hlist : root.list rel max with
  | error err =>
    rw [listAnswer, receiveListing_listError hid (storageWorkerStatusForError_ne_ok err)]
    rfl
  | ok entries =>
    rw [listAnswer, (response_listing hJ.toLawful hid hmax.2 hlist false).2.2]
    rfl

/-- The answer of the file worker, as the parent reads it. -/
lemma receiveOpened_openAnswer (hid : rid ≠ 0) (res : Except FileError FileInfo) :
    ((receiveOpened false rid (deliver [] (openAnswer rid res)) (.ok ())).mapError
        FileError.value).map (fun response => response.size.toInt)
      = acrossBoundary (res.map fun info => (info.size : Int)) := by
  have hfl : (0 : UInt16) &&& ~~~storageWorkerFlagMore = 0 := by decide
  cases res with
  | error err =>
    have hst := storageWorkerStatusForError_ne_ok err
    rw [openAnswer, openError, receiveOpened, receive_deliver ⟨hid, hfl⟩ (Nat.zero_le _),
      mapError_ok, ok_bind]
    simp only
    rw [check_bind_of_not (by simp), if_pos hst, check_bind_of_not (by simp)]
    rfl
  | ok info =>
    have hsz : (Int64.ofNat info.size).toInt = info.size := Int64.toInt_ofNat_of_lt info.size_lt
    have hprs : parseStorageOpenResponse
        (marshalStorageOpenResponse ⟨Int64.ofNat info.size, info.modTimeUnixNano⟩)
        = .ok ⟨Int64.ofNat info.size, info.modTimeUnixNano⟩ := by
      rw [parseStorageOpenResponse_eq_ok]
      refine ⟨?_, rfl⟩
      rw [Int64.lt_iff_toInt_lt, hsz, Int64.toInt_zero]
      omega
    rw [openAnswer, receiveOpened, receive_deliver ⟨hid, hfl⟩ ?_, mapError_ok, ok_bind]
    · simp only
      rw [check_bind_of_not (by simp), if_neg (by simp), hprs]
      exact congrArg Except.ok hsz
    · show _ ≤ 61440
      simp [marshalStorageOpenResponse]

lemma isolated_openRegular (hJ : J.Lawful) (hid : rid ≠ 0)
    (hrt : secureRootFromWorkerFD isolated.descriptor isolated.mountID isolated.filesystemType
      = .ok root) {rel : Bytes} (hpa : validateRelativePath rel false = .ok rel) :
    (isolatedStorageBackend J isolated rid).openRegular rel
      = acrossBoundary ((localStorageBackend root).openRegular rel) := by
  obtain ⟨frame, hfr, hans⟩ := @openRequest_answer _ hJ _ _ (isolated.openRequest rel) _ hid hpa hrt
  simp only [isolatedStorageBackend, isolatedOpenRegular, hfr, ok_bind, hans]
  exact receiveOpened_openAnswer hid (root.openRegular rel)

end

/-- **The backends cannot be told apart.** Every error of a root, in whatever wrapping, is answered
by the portal as it is answered after it has crossed the boundary as a status: not found, the
entry limit, or an internal failure. The request for every validated path fits a frame, whatever
the escaping. So the portal answers every request over the isolated backend as over the local
one. -/
theorem isolated_backend_indistinguishable {J : PortalJson} (hJ : J.Lawful) :
    (∀ (root : SecureRoot) relative maxEntries err, root.list relative maxEntries = .error err →
      listFailure (.value (storageWorkerError (storageWorkerStatusForError err))) = listFailure err ∧
      listFailure err ∈ [.failure 404 "not found" [], .failure 413 "directory entry limit exceeded" [],
        .failure 500 "unable to list directory" []]) ∧
    (∀ (root : SecureRoot) relative err, root.openRegular relative = .error err →
      fileFailure (.value (storageWorkerError (storageWorkerStatusForError err))) = fileFailure err ∧
      fileFailure err ∈ [.failure 404 "not found" [], .failure 500 "unable to open file" []]) ∧
    (∀ path allowRoot relative mountID filesystemType maxEntries,
      validateRelativePath path allowRoot = .ok relative → 1 ≤ maxEntries ∧ maxEntries ≤ 1000 →
      (∃ payload, marshalStorageWorkerJSON
        (marshalListRequest ⟨relative, maxEntries, mountID, filesystemType⟩) = .ok payload) ∧
      ∃ payload, marshalStorageWorkerJSON
        (marshalOpenRequest ⟨relative, mountID, filesystemType⟩) = .ok payload) ∧
    (∀ (isolated : IsolatedRoot) (root : SecureRoot) (requestID : UInt64), requestID ≠ 0 →
      secureRootFromWorkerFD isolated.descriptor isolated.mountID isolated.filesystemType
        = .ok root →
      (∀ maxEntries r, 1 ≤ maxEntries ∧ maxEntries ≤ 1000 →
        serveList (isolatedStorageBackend J isolated requestID) maxEntries r
          = serveList (localStorageBackend root) maxEntries r) ∧
      ∀ slotFree r, serveFile (isolatedStorageBackend J isolated requestID) slotFree r
        = serveFile (localStorageBackend root) slotFree r) := by
  refine ⟨?_, ?_, ?_, ?_⟩
  · intro root relative maxEntries err h
    have herr := list_error root relative maxEntries err h
    exact ⟨listFailure_status herr, listFailure_mem herr⟩
  · intro root relative err h
    have herr := openRegular_error root relative err h
    exact ⟨fileFailure_status herr, fileFailure_mem herr⟩
  · intro path allowRoot relative mountID filesystemType maxEntries hpath hmax
    obtain ⟨rfl, hlen, hvalid⟩ := validateRelativePath_spec hpath
    exact ⟨⟨_, (unmarshal_listRequest hJ.toLawful hlen hvalid hmax).1⟩,
      ⟨_, check_bind_of_not (marshalOpenRequest_fits hlen)⟩⟩
  · intro isolated root requestID hid hroot
    refine ⟨fun maxEntries r hmax => ?_, fun slotFree r => ?_⟩
    · exact serveList_across (fun relative hpath =>
        ⟨isolated_list hJ hid hroot hpath hmax, list_error root relative maxEntries⟩) r
    · exact serveFile_across (fun relative hpath =>
        ⟨isolated_openRegular hJ hid hroot hpath, FailsIn.map (openRegular_error root relative)⟩) r

/-! ## 8. A decoder, and one exchange -/

/-- Reads what `marshalOpenRequest` writes. -/
def readOpenRequest (data : Bytes) : Option (StorageOpenRequest × Bytes) := do
  let data ← Json.readLiteral pathKey data
  let (path, data) ← Json.readString data
  let data ← Json.readLiteral mountIDKey data
  let (mountID, data) ← Json.readInteger data
  let data ← Json.readLiteral filesystemTypeKey data
  let (filesystemType, data) ← Json.readInteger data
  let data ← Json.readLiteral [125] data
  pure (⟨path, UInt64.ofNat mountID.toNat, UInt32.ofNat filesystemType.toNat⟩, data)

def portalReader : PortalJson := ⟨workerReader, readOpenRequest⟩

lemma portalReader_lawful : portalReader.Lawful := by
  refine ⟨workerReader_lawful, fun request hpa => ?_⟩
  have hend : Json.readLiteral [125] [125] = some [] := Json.readLiteral_append [125] []
  simp only [portalReader, marshalOpenRequest, readOpenRequest, Json.readLiteral_append,
    Json.readString_quote hpa, readInteger_filesystemTypeKey, readInteger_end, bind_eq_bind,
    bind_some]
  simp only [hend, bind_some, Int.toNat_natCast, UInt64.ofNat_toNat, UInt32.ofNat_toNat]
  rfl

def sampleIsolated : IsolatedRoot := ⟨sampleDescriptor, 7, 0xEF53⟩

/-- Requests for the file `a`, for a file that is not there, and for more names than allowed. -/
theorem sample_backends_agree : portalReader.Lawful ∧
      serveFile (isolatedStorageBackend portalReader sampleIsolated 1) true
        ⟨.get, true, false, some [97], []⟩ = .content [97] 3 ∧
      serveFile (isolatedStorageBackend portalReader sampleIsolated 1) true
        ⟨.get, true, false, some [98], []⟩ = .failure 404 "not found" [] ∧
      serveList (isolatedStorageBackend portalReader sampleIsolated 1) 1
        ⟨.get, true, false, some [98], []⟩ = .failure 404 "not found" [] ∧
      sampleRoot.list [] 0 = .error (.value .entryLimit) ∧
      listFailure (.value (storageWorkerError
        (storageWorkerStatusForError (.value .entryLimit)))) = listFailure (.value .entryLimit) ∧
      ∃ payload, marshalStorageWorkerJSON (marshalOpenRequest ⟨[97], 7, 0xEF53⟩) = .ok payload := by
  obtain ⟨hlist, -, hfits, hserve⟩ := isolated_backend_indistinguishable portalReader_lawful
  obtain ⟨hserveList, hserveFile⟩ := hserve sampleIsolated sampleRoot 1 (by decide) rfl
  have hlimit : sampleRoot.list [] 0 = .error (.value .entryLimit) := by decide
  refine ⟨portalReader_lawful, ?_, ?_, ?_, hlimit, (hlist sampleRoot [] 0 _ hlimit).1, ?_⟩
  · rw [hserveFile]
    decide
  · rw [hserveFile]
    decide
  · rw [hserveList 1 _ (by decide)]
    decide
  · exact (hfits [97] false [97] 7 0xEF53 1 (by decide) (by decide)).2

end ReCasaOS.PublicFiles
