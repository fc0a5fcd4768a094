/-
# Uploads that run side by side

Any number of sessions, and the files they publish to. A step is a lock section of `UploadFile` or
`TestChunk` on one of the sessions, the creation of a session, what the registry does to a session
when it expires or is deleted, or what others do in between: anything at all to the staging files of
a session, and anything at all to the files outside.
-/
import ReCasaOS.Uploads.Session

namespace ReCasaOS.Uploads

open Lib FileSecurity List

variable {δ : Type}

/-! ## 1. Steps -/

structure Service (δ : Type) where
  sessions : List (UploadSession δ)
  destination : Directory

def Service.start (destination : Directory) : Service δ := ⟨[], destination⟩

/-- The service after a section of the session `i` that ended in `u`. -/
def Service.after (service : Service δ) (i : Nat) (u : Upload δ) : Service δ :=
  ⟨service.sessions.set i u.session, u.destination⟩

/-- The fields of a session that the registry writes. A session that has been given up stays so. -/
structure Retires (s t : FileInfo δ) : Prop where
  init : t.init → s.init
  rest : ∃ init stagingClean cleanupErr pinned, t = { s with
    init := init, stagingClean := stagingClean, cleanupErr := cleanupErr, pinned := pinned }

inductive ServiceStep [DecidableEq δ] [Inhabited δ] (sha256 : Bytes → δ) : Service δ → Service δ → Prop
  | create {service : Service δ} (request : UploadRequest) (staging : Directory)
      (hrequest : request.validate = .ok ()) :
      ServiceStep sha256 service { service with sessions := service.sessions ++
        [⟨request.candidate.newSession request.now, staging, [], [], []⟩] }
  | upload {service : Service δ} {i : Nat} {session : UploadSession δ} (request : UploadRequest)
      (faults : List (Option Failure)) (hget : service.sessions[i]? = some session)
      (hrequest : request.validate = .ok ()) :
      ServiceStep sha256 service (service.after i
        (uploadLocked sha256 request ⟨⟨session, service.destination⟩, faults⟩).2.state)
  | test {service : Service δ} {i : Nat} {session : UploadSession δ} (request : TestRequest)
      (faults : List (Option Failure)) (hget : service.sessions[i]? = some session) :
      ServiceStep sha256 service (service.after i
        (testChunkLocked request ⟨⟨session, service.destination⟩, faults⟩).2.state)
  | retire {service : Service δ} {i : Nat} {session : UploadSession δ} {info : FileInfo δ}
      (hget : service.sessions[i]? = some session) (hinfo : Retires session.info info) :
      ServiceStep sha256 service (service.after i ⟨{ session with info := info }, service.destination⟩)
  | tamper {service : Service δ} {i : Nat} {session : UploadSession δ} (staging : Directory)
      (hget : service.sessions[i]? = some session) :
      ServiceStep sha256 service
        (service.after i ⟨{ session with staging := staging }, service.destination⟩)
  | outside {service : Service δ} (destination : Directory) :
      ServiceStep sha256 service { service with destination := destination }

/-! ## 2. The invariant of a run -/

section

variable {sha256 : Bytes → δ} {service service' : Service δ}
variable {session : UploadSession δ}

lemma Retires.good {info : FileInfo δ} (h : Retires session.info info) (hs : session.Good sha256) :
    UploadSession.Good sha256 { session with info := info } := by
  obtain ⟨init, stagingClean, cleanupErr, pinned, rfl⟩ := h.rest
  exact hs.aside ..

lemma UploadSession.Good.tamper (hs : session.Good sha256) (staging : Directory) :
    UploadSession.Good sha256 { session with staging := staging } := hs.aside ..

/-- The final state of a lock section, whichever way it ends. -/
lemma uploadLocked_outcome [DecidableEq δ] [Inhabited δ] {request : UploadRequest}
    (dst : Directory) (faults : List (Option Failure))
    (hreq : request.validate = .ok ()) (hs : session.Good sha256) :
    Outcome sha256 ⟨session, dst⟩
      (uploadLocked sha256 request ⟨⟨session, dst⟩, faults⟩).2.state := by
  rcases (uploadLocked_ends (w := ⟨⟨session, dst⟩, faults⟩) hreq hs).cases with
    ⟨_, t, hrun, h⟩ | ⟨_, t, hrun, h⟩
  all_goals
    rw [hrun]
    exact h.1

lemma testChunkLocked_outcome {request : TestRequest} (dst : Directory)
    (faults : List (Option Failure)) (hs : session.Good sha256) :
    Outcome sha256 ⟨session, dst⟩ (testChunkLocked request ⟨⟨session, dst⟩, faults⟩).2.state := by
  rcases (testChunkLocked_ends (w := ⟨⟨session, dst⟩, faults⟩)).cases with
    ⟨_, t, hrun, h⟩ | ⟨_, t, hrun, h⟩
  all_goals
    rw [hrun]
    exact h.outcome hs

/-- Every session is good. -/
def Service.Good (sha256 : Bytes → δ) (service : Service δ) : Prop :=
  ∀ session ∈ service.sessions, session.Good sha256

section

variable [DecidableEq δ] [Inhabited δ]

lemma ServiceStep.good (hst : ServiceStep sha256 service service') (h : service.Good sha256) :
    service'.Good sha256 := by
  have haf : ∀ {i : Nat} {u : Upload δ}, u.session.Good sha256 → (service.after i u).Good sha256 := by
    intro i u hu session hmem
    rcases mem_or_eq_of_mem_set hmem with hmem | rfl
    · exact h session hmem
    · exact hu
  cases hst with
  | create request staging _ =>
    intro session hmem
    rcases mem_append.mp hmem with hmem | hmem
    · exact h session hmem
    · rw [mem_singleton.mp hmem]
      exact .inl (newSession_active sha256 request.candidate request.now staging)
  | upload request faults hget hreq =>
    exact haf (uploadLocked_outcome _ _ hreq (h _ (mem_of_getElem? hget))).good
  | test request faults hget =>
    exact haf (testChunkLocked_outcome _ _ (h _ (mem_of_getElem? hget))).good
  | retire hget hinfo => exact haf (hinfo.good (h _ (mem_of_getElem? hget)))
  | tamper staging hget => exact haf ((h _ (mem_of_getElem? hget)).tamper staging)
  | outside destination => exact h

lemma Service.good_of_run {dst : Directory}
    (hrun : Reaches (ServiceStep sha256) (Service.start dst) service) :
    service.Good sha256 :=
  hrun.invariant (fun _ hmem => nomatch hmem) fun _ _ h hst => hst.good h

end

end

/-! ## 3. An upload of two chunks

With contents as their own digests. -/

def sampleMetadata : UploadMetadata :=
  { principalID := 1, roots := 0, base := [47], targetPath := [47, 116], targetRelative := [116]
    tempRelative := [120], tempDir := [47, 120], assemblyPath := [47, 120, 47, 99]
    totalChunks := 2, totalSize := 2, chunkSize := 1 }

def sampleRandom : Arr 16 := ⟨List.replicate 16 0, List.length_replicate⟩

def sampleRequest (chunkNumber : Int) (content : Bytes) : UploadRequest :=
  { candidate := sampleMetadata, chunkNumber := chunkNumber, currentChunkSize := 1, size := 1
    content := content, now := 0
    surroundings := ⟨sampleRandom, sampleRandom, sampleRandom, fun _ => 0, errnoError, errnoError⟩ }

/-- A new session, with nothing in its way. -/
def sampleSession : UploadSession Bytes := ⟨sampleMetadata.newSession 0, fun _ => none, [], [], []⟩

/-- The session and the files behind the second chunk, which comes first. -/
def sampleSecond : Upload Bytes :=
  (uploadLocked id (sampleRequest 2 [66]) ⟨⟨sampleSession, fun _ => none⟩, []⟩).2.state

/-- The same behind the first chunk. -/
def sampleBoth : Upload Bytes := (uploadLocked id (sampleRequest 1 [65]) ⟨sampleSecond, []⟩).2.state

lemma sampleSecond_reached : Reaches (ServiceStep (δ := Bytes) id) (Service.start fun _ => none)
    ⟨[sampleSecond.session], sampleSecond.destination⟩ := by
  refine .tail (.tail .refl (.create (sampleRequest 2 [66]) (fun _ => none) rfl)) ?_
  exact .upload (i := 0) (sampleRequest 2 [66]) [] rfl rfl

lemma sampleBoth_reached : Reaches (ServiceStep (δ := Bytes) id) (Service.start fun _ => none)
    ⟨[sampleBoth.session], sampleBoth.destination⟩ :=
  .tail sampleSecond_reached (.upload (i := 0) (sampleRequest 1 [65]) [] rfl rfl)

/-! ## 4. The results -/

section

variable [DecidableEq δ] [Inhabited δ] {sha256 : Bytes → δ} {service : Service δ}

/-- **The books of every session are in order** at every point where its lock is free: as long as it
is not completed it has a flag and a digest for every chunk, the counter is the number of the flags
that are set, and behind a flag that is set stands the digest of what was last published for that
chunk; when it is completed it has released all three. -/
theorem upload_bookkeeping {destination : Directory}
    (hrun : Reaches (ServiceStep sha256) (Service.start destination) service)
    {session : UploadSession δ} (hsession : session ∈ service.sessions) :
    (session.info.completed = false → Bookkeeping sha256 session) ∧
      (session.info.completed = true → Released session.info) := by
  rcases Service.good_of_run hrun session hsession with h | h
  · refine ⟨fun _ => h.books, fun hcompleted => ?_⟩
    rw [h.completed] at hcompleted
    cases hcompleted
  · refine ⟨fun hwaits => ?_, fun _ => h.released⟩
    rw [h.completed] at hwaits
    cases hwaits

/-- The second of two chunks was accepted. -/
theorem sample_books_in_order : sampleSecond.session.info.uploaded = [false, true] ∧
    (sampleSecond.session.info.completed = false → Bookkeeping id sampleSecond.session) ∧
      (sampleSecond.session.info.completed = true → Released sampleSecond.session.info) :=
  ⟨by decide +kernel, upload_bookkeeping sampleSecond_reached (mem_singleton_self _)⟩

/-- **What is published is what was accepted.** In every run a session publishes at most once, and
the content has the announced size and consists, in the order of their indices, of the chunks whose
digests were recorded when they were accepted. A section of `UploadFile` leaves every file that is
there as it is, and either it publishes nothing or it publishes such a content at the target, where
there was no file. -/
theorem upload_publishes_accepted (hsha : Function.Injective sha256) {destination : Directory}
    (hrun : Reaches (ServiceStep sha256) (Service.start destination) service) :
    (∀ session ∈ service.sessions, session.published.length ≤ 1 ∧
      ∀ content ∈ session.published, Assembled sha256 session content) ∧
    ∀ (i : Nat) (session : UploadSession δ) (request : UploadRequest)
      (faults : List (Option Failure)) (result : Except Ending Unit) (t : Faulty (Upload δ)),
      service.sessions[i]? = some session → request.validate = .ok () →
      uploadLocked sha256 request ⟨⟨session, service.destination⟩, faults⟩ = (result, t) →
      Keeps ⟨session, service.destination⟩ t.state ∧
        (t.state.session.published = session.published ∨
          PublishedNow ⟨session, service.destination⟩ t.state ∧
            ∀ content ∈ t.state.session.published, Assembled sha256 t.state.session content) := by
  have hpublished : ∀ session : UploadSession δ, session.Good sha256 → session.published.length ≤ 1 ∧
      ∀ content ∈ session.published, Assembled sha256 session content := by
    rintro session (h | h)
    · rw [h.published]
      exact ⟨Nat.zero_le 1, fun _ hmem => nomatch hmem⟩
    · obtain ⟨content, hcontent, hassembled⟩ := h.published
      rw [hcontent]
      refine ⟨Nat.le_refl 1, fun other hmem => ?_⟩
      rw [mem_singleton.mp hmem]
      exact hassembled hsha
  have hgood := Service.good_of_run hrun
  refine ⟨fun session hmem => hpublished session (hgood session hmem), ?_⟩
  intro i session request faults result t hget hrequest hends
  have houtcome : Outcome sha256 ⟨session, service.destination⟩ t.state := by
    have h := uploadLocked_outcome service.destination faults hrequest
      (hgood session (mem_of_getElem? hget))
    rwa [hends] at h
  refine ⟨houtcome.keeps, houtcome.published.imp_right fun hnow => ⟨hnow, ?_⟩⟩
  exact (hpublished t.state.session houtcome.good).2

/-- Both chunks were accepted, and the target is there. -/
theorem sample_published_accepted : sampleBoth.session.published = [[65, 66]] ∧
    ∀ session ∈ [sampleBoth.session], session.published.length ≤ 1 ∧
      ∀ content ∈ session.published, Assembled id session content :=
  ⟨by decide +kernel, (upload_publishes_accepted Function.injective_id sampleBoth_reached).1⟩

end

end ReCasaOS.Uploads
