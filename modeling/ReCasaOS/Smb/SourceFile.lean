/-
# Candidate files and names

The parts of `pkg/smbcredentials/provision_linux.go` that provisioning and backup share behind the
path: the loops that write and read a whole file, the preparation and validation of a candidate,
and the inspection of a name.
-/
import ReCasaOS.Smb.SourcePath

namespace ReCasaOS.Smb

open Lib List Function

variable {fd : SourceFd} {w : SourceWorld} {i : Nat}

/-! ## 1. Exact transfers

The loops take a turn per call. As long as the script has outcomes each turn uses one up, and
without faults two turns are enough, which bounds their fuel. -/

/-- How both loops go on after a call that moved `count` bytes: an interrupted call is made again,
and one that moved nothing is the end. -/
def afterTransfer (count : Nat) (err : Option Errno) (fail : Errno → α) (stop next : SourceSys α) :
    SourceSys α :=
  match err with
  | some .eintr => next
  | some code => pure (fail code)
  | none => if count = 0 then stop else next

/-- The loop of `sourceWriteFull`, with the `data` that is still to be written. -/
def sourceWriteLoop (fd : SourceFd) : (fuel : Nat) → (data : Bytes) → SourceSys (Option SourceError)
  | 0, _ => pure (some .shortWrite)
  | fuel + 1, data =>
    if data.isEmpty then pure none else do
      let written ← write fd data
      afterTransfer written.1 written.2 (fun code => some (.errno code))
        (pure (some .shortWrite))
        (sourceWriteLoop fd fuel (data.drop written.1))

def sourceWriteFull (fd : SourceFd) (data : Bytes) : SourceSys (Option SourceError) := fun w =>
  sourceWriteLoop fd (w.script.length + 2) data w

/-- The loop of `sourcePreadExact`, with the `buffer` that is filled so far. -/
def sourcePreadLoop (fd : SourceFd) (length : Nat) :
    (fuel : Nat) → (buffer : Bytes) → SourceSys (Except SourceError Bytes)
  | 0, _ => pure (.error .unexpectedEOF)
  | fuel + 1, buffer =>
    if length + 1 ≤ buffer.length then pure (.ok buffer) else do
      let chunk ← pread fd (length + 1 - buffer.length) buffer.length
      afterTransfer chunk.1.length chunk.2 (fun code => .error (.errno code))
        (pure (.ok buffer))
        (sourcePreadLoop fd length fuel (buffer ++ chunk.1))

/-- `sourcePreadExact` with at most `fuel` turns of its loop. -/
def sourcePreadTurns (fd : SourceFd) (length fuel : Nat) : SourceSys (Except SourceError Bytes) := do
  match ← sourcePreadLoop fd length fuel [] with
  | .error err => pure (.error err)
  | .ok buffer =>
    if buffer.length ≠ length then pure (.error .unexpectedEOF) else pure (.ok buffer)

def sourcePreadExact (fd : SourceFd) (length : Nat) : SourceSys (Except SourceError Bytes) := fun w =>
  sourcePreadTurns fd length (w.script.length + 2) w

/-- The outcome of a call that went through or was interrupted. -/
def isSoft (outcome : Outcome) : Bool :=
  decide (outcome.error = none ∨ outcome.error = some .eintr)

/-- The outcomes that a run took off the script tell by `p` whether it is `good`. -/
def Consumed (p : Outcome → Bool) (w w' : SourceWorld) (good : Prop) : Prop :=
  ∃ consumed, w.script = consumed ++ w'.script ∧ (good ↔ ∀ outcome ∈ consumed, p outcome)

section

variable {count : Nat} {err : Option Errno} {fail : Errno → α} {stop next : SourceSys α}
  {w w1 w' : SourceWorld} {p : Outcome → Bool} {good : Prop}

lemma Consumed.refl (h : good) : Consumed p w w good := ⟨[], rfl, by simpa⟩

lemma Consumed.cons (hs : w1.script = w.script.tail) (hp : p w.outcome)
    (h : Consumed p w1 w' good) : Consumed p w w' good := by
  obtain ⟨consumed, heq, hiff⟩ := h
  cases hw : w.script with
  | nil => exact ⟨consumed, by rw [← heq, hs, hw]; rfl, hiff⟩
  | cons outcome rest =>
    have ho : p outcome := by simpa [World.outcome, hw] using hp
    refine ⟨outcome :: consumed, by rw [cons_append, ← heq, hs, hw]; rfl, ?_⟩
    rw [hiff, forall_mem_cons, and_iff_right ho]

/-- A call that ends the run is not the first one past the script. -/
lemma Consumed.failed (hs : w1.script = w.script.tail) (hok : p .ok) (hp : ¬ p w.outcome)
    (h : ¬ good) : Consumed p w w1 good := by
  cases hw : w.script with
  | nil => exact absurd hok (by simpa [World.outcome, hw] using hp)
  | cons outcome rest =>
    have ho : ¬ p outcome := by simpa [World.outcome, hw] using hp
    exact ⟨[outcome], by rw [hs, hw]; rfl, by simpa [h] using ho⟩

/-- A turn leaves enough fuel, or it is the first one past the script. -/
lemma fuel_after {fuel : Nat} (hs : w1.script = w.script.tail)
    (h : w.script.length + 2 ≤ fuel + 1) :
    w1.script.length + 2 ≤ fuel ∨ 1 ≤ fuel ∧ w.script = [] := by
  rw [hs, length_tail, ← length_eq_zero_iff]
  omega

lemma afterTransfer_post {Q : α → SourceWorld → Prop}
    (hfa : ∀ code, err = some code → code ≠ .eintr → Q (fail code) w)
    (hstop : err = none → count = 0 → stop.Post w Q)
    (hnx : err = none ∨ err = some .eintr → (err = none → count ≠ 0) → next.Post w Q) :
    (afterTransfer count err fail stop next).Post w Q := by
  unfold afterTransfer
  split
  · exact hnx (.inr rfl) nofun
  next code hco => exact .pure (hfa code rfl fun h => hco (by rw [h]))
  · split
    next hz => exact hstop rfl hz
    next hz => exact hnx (.inl rfl) fun _ => hz

end

/-- The outcome of a `write` that moved something or was interrupted. -/
def isWritten (outcome : Outcome) : Bool := isSoft outcome && decide (outcome ≠ .short 0)

/-- The loop writes to its file alone; a run that nothing stops appends the data. -/
lemma sourceWriteLoop_spec (hfd : fd.target = .file i) :
    ∀ (fuel : Nat) (data : Bytes) (w : SourceWorld),
      (w.script.length + 2 ≤ fuel ∨ 1 ≤ fuel ∧ data = []) →
      (sourceWriteLoop fd fuel data).Post w fun r w' => w.fs.OnlyFile i w'.fs ∧
        Consumed isWritten w w' (r = none) ∧
        (r = none → (w'.fs.files i).content = (w.fs.files i).content ++ data)
  | 0, _, w, h => absurd h (by omega)
  | fuel + 1, data, w, hfuel => by
    unfold sourceWriteLoop
    split
    next hem =>
      rw [List.isEmpty_iff] at hem
      exact .pure ⟨.refl i w.fs, .refl rfl, fun _ => by rw [hem, append_nil]⟩
    next hem =>
      rw [List.isEmpty_iff] at hem
      have hbound := hfuel.resolve_right fun h => hem h.2
      refine .bind (write_spec hfd data) ?_
      rintro written w1 ⟨rfl, hs, honly, hctt⟩
      have hzero : w.outcome.error = none →
          (w.outcome.transferred data.length = 0 ↔ w.outcome = .short 0) := by
        cases w.outcome <;> simp [Outcome.error, Outcome.transferred, hem]
      dsimp only at hctt ⊢
      refine afterTransfer_post (fun code herr hco => ⟨honly, ?_, by simp⟩)
        (fun hok hz => .pure ⟨honly, ?_, by simp⟩) fun hsoft hmoved => ?_
      · exact .failed hs (by decide) (by simp [isWritten, isSoft, herr, hco]) (by simp)
      · exact .failed hs (by decide) (by simp [isWritten, (hzero hok).mp hz]) (by simp)
      · have hne : w.outcome ≠ .short 0 := fun h =>
          have hok : w.outcome.error = none := by rw [h]; rfl
          hmoved hok ((hzero hok).mpr h)
        -- past the script the call has written everything
        have hnext : w1.script.length + 2 ≤ fuel ∨
            1 ≤ fuel ∧ data.drop (w.outcome.transferred data.length) = [] :=
          (fuel_after hs hbound).imp_right fun h =>
            ⟨h.1, by simp [World.outcome, h.2, Outcome.transferred]⟩
        refine (sourceWriteLoop_spec hfd fuel _ w1 hnext).mono fun r w' h => ?_
        refine ⟨honly.trans h.1, .cons hs (by simp [isWritten, isSoft, hsoft, hne]) h.2.1, fun hr => ?_⟩
        rw [h.2.2 hr, hctt, append_assoc, take_append_drop]

lemma sourceWriteFull_spec (hfd : fd.target = .file i) (data : Bytes) (w : SourceWorld) :
    (sourceWriteFull fd data).Post w fun _ w' => w.fs.OnlyFile i w'.fs :=
  (sourceWriteLoop_spec hfd _ data w (.inl le_rfl)).1

/-- What the loop returns is the start of the file, and all of it unless the buffer is full. -/
lemma sourcePreadLoop_spec {length : Nat} {content : Bytes} (hfd : fd.target = .file i) :
    ∀ (fuel : Nat) (buffer : Bytes) (w : SourceWorld), (w.fs.files i).content = content →
      buffer <+: content →
      (w.script.length + 2 ≤ fuel ∨
        1 ≤ fuel ∧ w.script = [] ∧ (length + 1 ≤ buffer.length ∨ buffer = content)) →
      (sourcePreadLoop fd length fuel buffer).Post w fun r w' =>
        w'.fs = w.fs ∧ Consumed isSoft w w' (∃ data, r = .ok data) ∧
        ∀ data, r = .ok data → data <+: content ∧ (data = content ∨ length + 1 ≤ data.length)
  | 0, _, _, _, _, h => absurd h (by omega)
  | fuel + 1, buffer, w, hctt, hbuf, hfuel => by
    unfold sourcePreadLoop
    split
    next hfull =>
      exact .pure ⟨rfl, .refl ⟨_, rfl⟩, fun data hda => Except.ok.inj hda ▸ ⟨hbuf, .inr hfull⟩⟩
    next hfull =>
    obtain ⟨rest, hrs⟩ := hbuf
    have hslice : slice content buffer.length
        (buffer.length + (length + 1 - buffer.length)) = rest.take (length + 1 - buffer.length) := by
      rw [slice, ← hrs, drop_left, Nat.add_sub_cancel_left]
    refine .bind (pread_spec hfd _ _) ?_
    rintro ⟨chunk, err⟩ w1 ⟨hfs, hs, rfl, hchunk, hend, hall⟩
    rw [hctt, hslice] at hchunk hend hall
    dsimp only at hchunk hend hall ⊢
    refine afterTransfer_post (fun code herr hco => ⟨hfs, ?_, by simp⟩) (fun hok hem => .pure ?_)
      fun hsoft hmoved => ?_
    · exact .failed hs (by decide) (by simp [isSoft, herr, hco]) (by simp)
    · -- nothing more is read at the end of the file only
      have hrestNil : rest = [] := by
        have htake := hend hok (length_eq_zero_iff.mp hem)
        rcases take_eq_nil_iff.mp htake with hz | hnil
        · exact absurd hz (by omega)
        · exact hnil
      rw [hrestNil, append_nil] at hrs
      refine ⟨hfs, .cons hs (by simp [isSoft, hok]) (.refl ⟨_, rfl⟩), fun data hda => ?_⟩
      rw [← Except.ok.inj hda, hrs]
      exact ⟨prefix_rfl, .inl rfl⟩
    · -- another turn starts from a longer piece of the same file
      refine (sourcePreadLoop_spec hfd fuel _ w1 (hfs ▸ hctt) ?_ ?_).mono fun r w' h =>
        ⟨h.1.trans hfs, .cons hs (decide_eq_true hsoft) h.2.1, h.2.2⟩
      · rw [← hrs, prefix_append_right_inj]
        exact hchunk.trans (List.take_prefix _ _)
      rcases hfuel with hbound | ⟨-, hnil, hdone⟩
      · refine (fuel_after hs hbound).imp_right fun h => ⟨h.1, by rw [hs, h.2]; rfl, ?_⟩
        rw [hall h.2, ← hrs, append_cancel_left_eq, take_eq_self_iff, length_append, length_take]
        omega
      · -- at the end of the file there is none
        rw [hdone.resolve_left hfull, append_right_eq_self] at hrs
        exact absurd (by simp [hall hnil, hrs]) (hmoved (by simp [World.outcome, hnil, Outcome.error]))

/-- **`sourcePreadExact` returns the whole file or an error.** -/
theorem sourcePreadExact_spec (hfd : fd.target = .file i) (length : Nat) (w : SourceWorld) :
    (sourcePreadExact fd length).Post w fun r w' => w'.fs = w.fs ∧
      (∀ data, r = .ok data → data = (w.fs.files i).content ∧ data.length = length) ∧
      ((w.fs.files i).content.length = length →
        Consumed isSoft w w' (r = .ok (w.fs.files i).content)) := by
  refine .of_eq (rfl : _ = sourcePreadTurns fd length (w.script.length + 2) w) ?_
  refine .bind (sourcePreadLoop_spec hfd _ [] w rfl nil_prefix (.inl le_rfl)) ?_
  rintro (err | buffer) w1 ⟨hfs, hsoft, hbuf⟩
  · exact .pure ⟨hfs, nofun, fun _ => by simpa using hsoft⟩
  obtain ⟨hpre, hwhole⟩ := hbuf _ rfl
  dsimp only
  split
  next hlen =>
    have hle := hpre.length_le
    refine .pure ⟨hfs, nofun, fun heq => ?_⟩
    rcases hwhole with rfl | hlong
    · exact absurd heq hlen
    · omega
  next hlen =>
    rw [not_not] at hlen
    have hctt := hwhole.resolve_right (by omega)
    refine .pure ⟨hfs, fun data hda => ?_, fun _ => by simpa [hctt] using hsoft⟩
    cases hda
    exact ⟨hctt, hlen⟩

lemma sourcePreadExact_of_nil {length : Nat} (hfd : fd.target = .file i) (hnil : w.script = [])
    (hlen : (w.fs.files i).content.length = length) :
    (sourcePreadExact fd length).Post w fun r w' =>
      r = .ok (w.fs.files i).content ∧ w'.fs = w.fs ∧ w'.script = [] := by
  obtain ⟨hfs, -, hsoft⟩ := sourcePreadExact_spec hfd length w
  obtain ⟨consumed, heq, hiff⟩ := hsoft hlen
  obtain ⟨hno, hrest⟩ := append_eq_nil_iff.mp (heq.symm.trans hnil)
  exact ⟨hiff.mpr (by simp [hno]), hfs, hrest⟩

/-- **The loops transfer exactly.** `sourceWriteFull` succeeds when every call it made wrote
something or was interrupted, and has then appended the data. `sourcePreadExact` succeeds when
the file has the length asked for and no call it made failed, and returns the content. A call
that moves nothing without an error is the last one. -/
theorem exact_transfers (number i : Nat) (w : SourceWorld) :
    (∀ data, (sourceWriteFull ⟨number, .file i⟩ data).Post w fun r w' =>
      Consumed isWritten w w' (r = none) ∧
      (r = none → (w'.fs.files i).content = (w.fs.files i).content ++ data)) ∧
    (∀ length, (sourcePreadExact ⟨number, .file i⟩ length).Post w fun r w' =>
      (∀ data, r = .ok data → data = (w.fs.files i).content ∧ data.length = length) ∧
      ((w.fs.files i).content.length = length →
        Consumed isSoft w w' (r = .ok (w.fs.files i).content))) ∧
    (∀ fuel data w1, data ≠ [] → write ⟨number, .file i⟩ data w = ((0, none), w1) →
      sourceWriteLoop ⟨number, .file i⟩ (fuel + 1) data w = (some .shortWrite, w1)) ∧
    ∀ fuel length buffer w1, buffer.length ≤ length →
      pread ⟨number, .file i⟩ (length + 1 - buffer.length) buffer.length w = (([], none), w1) →
      sourcePreadLoop ⟨number, .file i⟩ length (fuel + 1) buffer w = (.ok buffer, w1) := by
  refine ⟨fun data => (sourceWriteLoop_spec rfl _ data w (.inl le_rfl)).2,
    fun length => (sourcePreadExact_spec rfl length w).2, ?_, ?_⟩
  · intro fuel data w1 hne hwrite
    rw [sourceWriteLoop, if_neg (by simpa using hne)]
    simp [Bind.bind, hwrite, afterTransfer, Pure.pure]
  · intro fuel length buffer w1 hlen hread
    rw [sourcePreadLoop, if_neg (by omega)]
    simp [Bind.bind, hread, afterTransfer, Pure.pure]

/-! ## 2. The candidate -/

/-- The checks of `validateSourceCandidate` on what `fstat` answered. -/
def safeSourceCandidate (stat : FileStat) (wantLinks owner group size : Nat) : Bool :=
  stat.kind == .regular && stat.nlink == wantLinks && stat.uid == owner && stat.gid == group
    && stat.mode &&& 0o777 == 0o400 && !hasSpecialModeBits stat.mode && stat.size == size

section

variable (deriveKeyID : KeyMaterial → KeyID)

def validateSourceCandidate (fd : SourceFd) (wantLinks owner group : Nat) (data : Bytes) :
    SourceSys (Option SourceError) := do
  match ← fstat fd with
  | .error code => pure (some (sourceProvisionFailure "inspect prepared source keyring" code))
  | .ok stat =>
  if safeSourceCandidate stat wantLinks owner group data.length = false then
    pure (some .unsafeSourceKeyring)
  else
  match ← sourcePreadExact fd data.length with
  | .error err => pure (some (.failure "read back source keyring candidate" err))
  | .ok readback =>
  if readback ≠ data then pure (some .unsafeSourceKeyring) else
  match parseKeyring deriveKeyID readback with
  | .error err => pure (some (.failure "parse source keyring candidate" (.keyring err)))
  | .ok _ => pure none

def prepareSourceCandidate (fd : SourceFd) (wantLinks owner group : Nat) (data : Bytes) :
    SourceSys (Option SourceError) := do
  match ← fstat fd with
  | .error code => pure (some (sourceProvisionFailure "inspect source keyring candidate" code))
  | .ok initial =>
  if (initial.kind == .regular && initial.nlink == wantLinks && initial.size == 0) = false then
    pure (some .unsafeSourceKeyring)
  else
  match ← sourceWriteFull fd data with
  | some err => pure (some (.failure "write source keyring candidate" err))
  | none =>
  match ← fchown fd owner group with
  | .error code => pure (some (sourceProvisionFailure "set source keyring ownership" code))
  | .ok () =>
  match ← fchmod fd 0o400 with
  | .error code => pure (some (sourceProvisionFailure "set source keyring permissions" code))
  | .ok () =>
  match ← validateSourceCandidate deriveKeyID fd wantLinks owner group data with
  | some err => pure (some err)
  | none =>
  match ← fsync fd with
  | .error code => pure (some (sourceProvisionFailure "sync source keyring candidate" code))
  | .ok () => validateSourceCandidate deriveKeyID fd wantLinks owner group data

/-- What a validated candidate is. -/
structure SourceCandidate (wantLinks owner group : Nat) (data : Bytes) (file : Inode) : Prop where
  kind : file.kind = .regular
  nlink : file.nlink = wantLinks
  uid : file.uid = owner
  gid : file.gid = group
  permissions : file.mode &&& 0o777 = 0o400
  special : hasSpecialModeBits file.mode = false
  content : file.content = data

variable {deriveKeyID} {fd : SourceFd} {i wantLinks owner group : Nat} {data : Bytes} {w : SourceWorld}

lemma validateSourceCandidate_spec (hfd : fd.target = .file i) :
    (validateSourceCandidate deriveKeyID fd wantLinks owner group data).Post w fun err w' =>
      w'.fs = w.fs ∧ (err = none → SourceCandidate wantLinks owner group data (w.fs.files i)) := by
  refine .bind (fstat_spec fd) ?_
  rintro (code | stat) w1 ⟨hfs1, hstt⟩
  · exact .pure ⟨hfs1, nofun⟩
  dsimp only
  split
  · exact .pure ⟨hfs1, nofun⟩
  rename_i hsafe
  refine .bind (sourcePreadExact_spec hfd data.length w1) ?_
  rintro (err | readback) w2 ⟨hfs2, hrd, -⟩
  · exact .pure ⟨hfs2.trans hfs1, nofun⟩
  dsimp only
  split
  · exact .pure ⟨hfs2.trans hfs1, nofun⟩
  rename_i hequal
  split
  · exact .pure ⟨hfs2.trans hfs1, nofun⟩
  · refine .pure ⟨hfs2.trans hfs1, fun _ => ?_⟩
    rw [not_not] at hequal
    simp only [hstt stat rfl, hfd, Fs.stat, safeSourceCandidate, Bool.not_eq_false,
      Bool.and_eq_true, beq_iff_eq, Bool.not_eq_true'] at hsafe
    obtain ⟨⟨⟨⟨⟨⟨hkind, hnlink⟩, huid⟩, hgid⟩, hmode⟩, hspecial⟩, -⟩ := hsafe
    refine ⟨hkind, hnlink, huid, hgid, hmode, hspecial, ?_⟩
    rw [← hfs1, ← (hrd readback rfl).1, hequal]

/-- Preparing a candidate changes nothing else, and when it succeeds the file is on the disk. -/
lemma prepareSourceCandidate_spec (hfd : fd.target = .file i) :
    (prepareSourceCandidate deriveKeyID fd wantLinks owner group data).Post w fun err w' =>
      w.fs.OnlyFile i w'.fs ∧ (err = none →
        SourceCandidate wantLinks owner group data (w'.fs.files i) ∧ (w'.fs.files i).synced) := by
  refine .bind (fstat_spec fd) ?_
  rintro (code | initial) w1 ⟨hfs1, -⟩
  · exact .pure ⟨hfs1 ▸ .refl _ _, nofun⟩
  rw [← hfs1]
  dsimp only
  split
  · exact .pure ⟨.refl _ _, nofun⟩
  refine .bind (sourceWriteFull_spec hfd data w1) ?_
  rintro (_ | err) w2 hwr
  swap
  · exact .pure ⟨hwr, nofun⟩
  refine .bind (fchown_spec hfd owner group) ?_
  rintro (code | _) w3 hchown
  · exact .pure ⟨hwr.trans hchown, nofun⟩
  refine .bind (fchmod_spec hfd 0o400) ?_
  rintro (code | _) w4 hchmod
  · exact .pure ⟨(hwr.trans hchown).trans hchmod, nofun⟩
  have hchg : w1.fs.OnlyFile i w4.fs := (hwr.trans hchown).trans hchmod
  refine .bind (validateSourceCandidate_spec hfd) ?_
  rintro (_ | err) w5 ⟨hfs5, -⟩
  swap
  · exact .pure ⟨hfs5 ▸ hchg, nofun⟩
  refine .bind (fsync_file_spec hfd) ?_
  rintro (code | _) w6 ⟨hsy, hsynced⟩
  · exact .pure ⟨hchg.trans (hfs5 ▸ hsy), nofun⟩
  refine (validateSourceCandidate_spec hfd).mono ?_
  rintro err w7 ⟨hfs7, hv⟩
  rw [hfs7]
  exact ⟨hchg.trans (hfs5 ▸ hsy), fun hno => ⟨hv hno, hsynced rfl⟩⟩

end

/-! ## 3. What a name is bound to -/

inductive SourceNameState
  | absent
  | candidate
  | other
  deriving DecidableEq, Repr

def inspectSourceName (directoryFD : SourceFd) (name : SourceName) (candidateFD : SourceFd) :
    SourceSys (SourceNameState × Option SourceError) := do
  match ← fstatat directoryFD name with
  | .error .enoent => pure (.absent, none)
  | .error code => pure (.absent, some (sourceProvisionFailure "inspect source keyring name" code))
  | .ok named =>
  match ← fstat candidateFD with
  | .error code =>
    pure (.other, some (sourceProvisionFailure "inspect source keyring candidate identity" code))
  | .ok candidate =>
  if sameSourceIdentity named candidate then pure (.candidate, none) else pure (.other, none)

/-- What an inspection says when it succeeds. -/
def SourceNameState.Holds (state : SourceNameState) (i : Nat) (bound : Option Nat) : Prop :=
  match state with
  | .absent => bound = none
  | .candidate => bound = some i
  | .other => ∃ j, bound = some j ∧ j ≠ i

/-- **An inspection that succeeds tells the truth.** -/
theorem inspectSourceName_spec {directoryFD candidateFD : SourceFd} {name : SourceName}
    (hfd : candidateFD.target = .file i) :
    (inspectSourceName directoryFD name candidateFD).Post w fun r w' =>
      w'.fs = w.fs ∧ (r.1 = .candidate → r.2 = none) ∧
        (r.2 = none → r.1.Holds i (w.fs.names name)) := by
  refine .bind (fstatat_spec directoryFD name) ?_
  rintro (code | named) w1 ⟨hfs1, hnamed, habs⟩
  · split
    next hco =>
      exact .pure ⟨hfs1, by simp, fun _ => habs hco⟩
    · exact .pure ⟨hfs1, by simp, by simp⟩
    · contradiction
  refine .bind (fstat_spec candidateFD) ?_
  rintro (code | cand) w2 ⟨hfs2, hcand⟩
  · exact .pure ⟨hfs2.trans hfs1, by simp, by simp⟩
  obtain ⟨j, hj, rfl⟩ := hnamed named rfl
  have hsm : sameSourceIdentity (w.fs.stat (.file j)) cand ↔ j = i := by
    rw [hcand cand rfl, hfd]
    simp [sameSourceIdentity, Fs.stat]
  dsimp only
  split
  next hyes =>
    exact .pure ⟨hfs2.trans hfs1, fun _ => rfl, fun _ => (hsm.mp hyes) ▸ hj⟩
  next hno =>
    exact .pure ⟨hfs2.trans hfs1, by simp, fun _ => ⟨j, hj, fun hji => hno (hsm.mpr hji)⟩⟩

/-- Without faults the inspection of the candidate's name finds the candidate. -/
lemma inspectSourceName_of_nil {directoryFD candidateFD : SourceFd} {name : SourceName}
    (hfd : candidateFD.target = .file i) (hnil : w.script = []) (hbd : w.fs.names name = some i) :
    (inspectSourceName directoryFD name candidateFD).Post w fun r w' =>
      r = (.candidate, none) ∧ w'.fs = w.fs ∧ w'.script = [] := by
  refine .bind (fstatat_of_nil directoryFD hnil hbd) ?_
  rintro r w1 ⟨rfl, hfs1, hnil1⟩
  refine .bind (fstat_of_nil candidateFD hnil1) ?_
  rintro r w2 ⟨rfl, hfs2, hnil2⟩
  rw [hfs1, hfd]
  dsimp only
  rw [sameSourceIdentity_self, if_pos rfl]
  exact .pure ⟨rfl, hfs2.trans hfs1, hnil2⟩

/-- A name that an inspection did not find bound to the candidate is not bound to it. -/
lemma SourceNameState.Holds.ne_candidate {state : SourceNameState} {bound : Option Nat}
    (h : state.Holds i bound) (hne : state ≠ .candidate) : bound ≠ some i := by
  rintro rfl
  cases state with
  | absent => cases h
  | candidate => exact hne rfl
  | other =>
    obtain ⟨j, hj, hji⟩ := h
    exact hji (Option.some.inj hj).symm

/-! ## 4. After publication

Provisioning and backup check the published name and clean up the staging name in the same way,
with their own names and texts. -/

/-- The directory's `fsync`, with the text of its error. -/
def syncDirectory (operation : String) (path : SourceProvisionPath) :
    SourceSys (Option SourceError) := do
  match ← fsync path.directoryFD with
  | .error code => pure (some (sourceProvisionFailure operation code))
  | .ok () => pure none

/-- The candidate is valid, and `name` is bound to it. -/
def validateBoundCandidate (deriveKeyID : KeyMaterial → KeyID) (inspecting binding : String)
    (name : SourceName) (path : SourceProvisionPath) (candidateFD : SourceFd) (data : Bytes) :
    SourceSys (Option SourceError) := do
  match ← validateSourceCandidate deriveKeyID candidateFD 1 path.owner path.group data with
  | some err => pure (some err)
  | none =>
  match ← fstat candidateFD with
  | .error code => pure (some (sourceProvisionFailure inspecting code))
  | .ok candidate =>
  match ← fstatat path.directoryFD name with
  | .error code => pure (some (sourceProvisionFailure binding code))
  | .ok named =>
  if sameSourceIdentity named candidate = false then pure (some .unsafeSourceKeyring) else pure none

/-- The candidate is removed from the staging name `name`: whether the name may still be bound, and
the error. -/
def cleanupStagedCandidate (removing syncing : String) (name : SourceName)
    (path : SourceProvisionPath) (fd : SourceFd) : SourceSys (Bool × Option SourceError) := do
  let inspected ← inspectSourceName path.directoryFD name fd
  if inspected.2.isSome then
    pure (true, joinErrors [some .sourceCleanupRequired, inspected.2])
  else if inspected.1 = .absent then pure (false, none)
  else if inspected.1 ≠ .candidate then pure (true, some .sourceCleanupRequired)
  else
    match ← unlinkat path.directoryFD name with
    | .error code =>
      pure (true, joinErrors [some .sourceCleanupRequired,
        some (sourceProvisionFailure removing code)])
    | .ok () =>
    match ← fsync path.directoryFD with
    | .error code =>
      pure (true, joinErrors [some .sourceCleanupRequired,
        some (sourceProvisionFailure syncing code)])
    | .ok () => pure (false, none)

section

variable {deriveKeyID : KeyMaterial → KeyID} {path : SourceProvisionPath} {fd : SourceFd} {i n : Nat}
  {data : Bytes} {w : SourceWorld} {name : SourceName}

/-- The new file `i` is open, and so is the directory of the sources. -/
structure Opened (path : SourceProvisionPath) (fd : SourceFd) (n i : Nat) : Prop where
  fd : fd.target = .file i
  new : n ≤ i
  dir : path.directoryFD.target = .directory .recasaos

lemma syncDirectory_spec {op : String} (hdir : path.directoryFD.target = .directory .recasaos) :
    (syncDirectory op path).Post w fun err w' =>
      w.fs.SameNames w'.fs ∧ (err = none → w'.fs.namesSynced) := by
  refine .bind (fsync_directory_spec hdir) ?_
  rintro (code | _) w1 ⟨hsm, hsy⟩
  · exact .pure ⟨hsm, nofun⟩
  · exact .pure ⟨hsm, fun _ => hsy rfl⟩

lemma validateBoundCandidate_spec {inspecting binding : String} (hfd : fd.target = .file i) :
    (validateBoundCandidate deriveKeyID inspecting binding name path fd data).Post w fun err w' =>
      w'.fs = w.fs ∧ (err = none →
        SourceCandidate 1 path.owner path.group data (w.fs.files i) ∧ w.fs.names name = some i) := by
  refine .bind (validateSourceCandidate_spec hfd) ?_
  rintro (_ | err) w1 ⟨hfs1, hv⟩
  swap
  · exact .pure ⟨hfs1, nofun⟩
  refine .bind (fstat_spec fd) ?_
  rintro (code | cand) w2 ⟨hfs2, hcand⟩
  · exact .pure ⟨hfs2.trans hfs1, nofun⟩
  refine .bind (fstatat_spec path.directoryFD name) ?_
  rintro (code | named) w3 ⟨hfs3, hnamed, -⟩
  · exact .pure ⟨(hfs3.trans hfs2).trans hfs1, nofun⟩
  have hfs : w3.fs = w.fs := (hfs3.trans hfs2).trans hfs1
  dsimp only
  split
  · exact .pure ⟨hfs, nofun⟩
  next hsm =>
    refine .pure ⟨hfs, fun _ => ⟨hv rfl, ?_⟩⟩
    obtain ⟨j, hj, rfl⟩ := hnamed named rfl
    rw [hcand cand rfl, hfd] at hsm
    have hji : j = i := by simpa [sameSourceIdentity, Fs.stat] using hsm
    rw [← hfs1, ← hfs2, hj, hji]

/-- The cleanup only ever removes the candidate from its staging name, and calls the name free only
when it is. -/
lemma cleanupStagedCandidate_spec {removing syncing : String} (hop : Opened path fd n i) :
    (cleanupStagedCandidate removing syncing name path fd).Post w fun r w' =>
      w.fs.KeptBelow n w'.fs ∧ w'.fs.directory = w.fs.directory ∧
      (∀ other, other ≠ name → w'.fs.names other = w.fs.names other) ∧
      (r.1 = false → w'.fs.names name = none) := by
  refine .bind (inspectSourceName_spec hop.fd) ?_
  rintro ⟨state, inspectErr⟩ w1 ⟨hfs1, -, hinsp⟩
  rw [← hfs1] at hinsp ⊢
  split
  · exact .pure ⟨.refl _ _, rfl, fun _ _ => rfl, nofun⟩
  rename_i hno
  have hholds := hinsp (by simpa using hno)
  split
  next habs =>
    subst habs
    exact .pure ⟨.refl _ _, rfl, fun _ _ => rfl, fun _ => hholds⟩
  split
  · exact .pure ⟨.refl _ _, rfl, fun _ _ => rfl, nofun⟩
  rename_i hcand
  rw [not_not] at hcand
  subst hcand
  refine .bind (unlinkat_spec path.directoryFD name) ?_
  rintro r w2 (⟨code, rfl, hfs2⟩ | ⟨j, rfl, hj, hfs2⟩)
  · exact .pure ⟨hfs2 ▸ .refl _ _, by rw [hfs2], fun _ _ => by rw [hfs2], nofun⟩
  obtain rfl : i = j := Option.some.inj (hholds.symm.trans hj)
  refine .bind (fsync_directory_spec hop.dir) ?_
  rintro r w3 ⟨hsm, -⟩
  have hk : w1.fs.KeptBelow n w3.fs :=
    (hfs2 ▸ .unlink hop.new : w1.fs.KeptBelow n w2.fs).trans (.sameNames hsm)
  have hdir : w3.fs.directory = w1.fs.directory := by
    rw [hsm.directory, hfs2]
    rfl
  have hoth : ∀ other, other ≠ name → w3.fs.names other = w1.fs.names other := by
    intro other hother
    rw [hsm.names, hfs2]
    exact update_of_ne hother _ _
  have hfe : w3.fs.names name = none := by
    rw [hsm.names, hfs2]
    exact update_self ..
  cases r with
  | error code => exact .pure ⟨hk, hdir, hoth, nofun⟩
  | ok _ => exact .pure ⟨hk, hdir, hoth, fun _ => hfe⟩

end

end ReCasaOS.Smb
