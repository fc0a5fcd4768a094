/-
# The states of an OAuth authorization

`pkg/oauthsecurity/state.go` keeps one record for every authorization that was begun. `Begin` draws a
random state, returns it, and files the record under the digest of the state; `Consume` takes the
record out again. The clock of the store need not go forwards: it is read twice in `Begin` and once in
`Consume`, and every reading is an argument here.

A run of a store is written down event by event. What `Consume` returns is explained by the events
before it (`oauth_state_binding`): the state came from a `Begin` for the same provider, and nobody has
presented it since.

The digest is an arbitrary function until it has to be free of collisions.
-/
import ReCasaOS.Lib.Base64
import ReCasaOS.Lib.NameTable
import ReCasaOS.Lib.Result
import ReCasaOS.Lib.Strings

namespace ReCasaOS.OAuth

open Lib List AList

/-! ## 1. The store -/

inductive StateError
  | invalidRequest
  | invalidState
  | storeFull
  deriving DecidableEq, Repr

/-- `Record`. -/
structure StateRecord where
  provider : Bytes
  principalID : Int
  redirectURI : Bytes
  createdAt : Int
  codeVerifier : Bytes
  deriving DecidableEq

structure Challenge where
  state : Bytes
  codeVerifier : Bytes
  codeChallenge : Bytes
  deriving DecidableEq

/-- SHA-256, with the bytes of a digest. -/
structure Digests (δ : Type) where
  sha256 : Bytes → δ
  bytes : δ → Bytes

/-- `Store`; durations and times are in nanoseconds. -/
structure StateStore (δ : Type) where
  redirectURIs : List Bytes
  ttl : Int
  maxRecords : Nat
  records : NameTable δ StateRecord

structure StoreOptions where
  redirectURIs : List Bytes
  ttl : Int
  maxRecords : Int

def minute : Int := 60000000000

def defaultStateTTL : Int := 10 * minute

def defaultMaxRecords : Int := 256

/-- The loop over the redirect URIs. -/
def allowRedirects (parsePublicHTTPSURL : Bytes → Bool) :
    (seen redirects : List Bytes) → Except StateError (List Bytes)
  | seen, [] => .ok seen
  | seen, redirect :: redirects => do
    check (parsePublicHTTPSURL redirect = false) .invalidRequest
    check (redirect ∈ seen) .invalidRequest
    allowRedirects parsePublicHTTPSURL (redirect :: seen) redirects

def newStore {δ : Type} (parsePublicHTTPSURL : Bytes → Bool) (options : StoreOptions) :
    Except StateError (StateStore δ) := do
  check (options.redirectURIs = [] ∨ 16 < options.redirectURIs.length) .invalidRequest
  let allowlist ← allowRedirects parsePublicHTTPSURL [] options.redirectURIs
  let ttl := if options.ttl = 0 then defaultStateTTL else options.ttl
  check (ttl < minute ∨ 60 * minute < ttl) .invalidRequest
  let maxRecords := if options.maxRecords = 0 then defaultMaxRecords else options.maxRecords
  check (maxRecords < 1 ∨ 4096 < maxRecords) .invalidRequest
  pure ⟨allowlist, ttl, maxRecords.toNat, ∅⟩

def isProviderByte (b : UInt8) : Bool :=
  (0x61 ≤ b && b ≤ 0x7A) || (0x30 ≤ b && b ≤ 0x39) || b == 95 || b == 45

def validProviderName (provider : Bytes) : Bool :=
  decide (1 ≤ provider.length ∧ provider.length ≤ 32) && provider.all isProviderByte
    && !hasPrefix provider [45] && !hasPrefix provider [95]

def minCodeVerifierLength : Nat := 43

def maxStateLength : Nat := 128

/-- What `Consume` asks of a state before it looks for it. -/
def validState (state : Bytes) : Bool :=
  decide (minCodeVerifierLength ≤ state.length ∧ state.length ≤ maxStateLength)
    && state.all isBase64URL

def isVerifierByte (b : UInt8) : Bool := isBase64URL b || b == 46 || b == 126

def validCodeVerifier (verifier : Bytes) : Bool :=
  decide (minCodeVerifierLength ≤ verifier.length ∧ verifier.length ≤ 128)
    && verifier.all isVerifierByte

def newCodeVerifier (random : Bytes) : Except StateError Bytes := do
  let (buffer, _) ← orError (readFull 32 random) .invalidRequest
  pure (base64RawURL buffer)

section

variable {δ : Type} [DecidableEq δ] (D : Digests δ)
variable {s : StateStore δ}

def codeChallengeS256 (verifier : Bytes) : Except StateError Bytes := do
  check (validCodeVerifier verifier = false) .invalidRequest
  pure (base64RawURL (D.bytes (D.sha256 verifier)))

/-- Expired at a time, or not yet created. -/
def StateRecord.expired (record : StateRecord) (ttl now : Int) : Bool :=
  decide (now - record.createdAt < 0 ∨ ttl < now - record.createdAt)

namespace StateStore

def pruneLocked (s : StateStore δ) (now : Int) : StateStore δ :=
  { s with records := s.records.keep fun _ record => !record.expired s.ttl now }

/-- What `Begin` draws from its random source, when there is room. -/
def drawChallenge (random : Bytes) : Except StateError Challenge := do
  let (stateBuffer, random) ← orError (readFull 32 random) .invalidRequest
  let verifier ← newCodeVerifier random
  let challenge ← codeChallengeS256 D verifier
  pure ⟨base64RawURL stateBuffer, verifier, challenge⟩

/-- `s.records[digest] = record`. -/
def file (s : StateStore δ) (digest : δ) (record : StateRecord) : StateStore δ :=
  { s with records := s.records.insert digest record }

/-- `Begin`. The clock reads `pruneAt` first and `createdAt` when the record is made. -/
def begin (s : StateStore δ) (provider : Bytes) (principalID : Int) (redirectURI : Bytes)
    (pruneAt createdAt : Int) (random : Bytes) : Except StateError Challenge × StateStore δ :=
  if validProviderName provider = false ∨ principalID < 1 then (.error .invalidRequest, s)
  else if redirectURI ∉ s.redirectURIs then (.error .invalidRequest, s)
  else
    let s := s.pruneLocked pruneAt
    if s.maxRecords ≤ s.records.size then (.error .storeFull, s)
    else
      match drawChallenge D random with
      | .error err => (.error err, s)
      | .ok challenge =>
        (.ok challenge, s.file (D.sha256 challenge.state)
          ⟨provider, principalID, redirectURI, createdAt, challenge.codeVerifier⟩)

def consume (s : StateStore δ) (provider state : Bytes) (now : Int) :
    Except StateError StateRecord × StateStore δ :=
  if validProviderName provider = false ∨ validState state = false then (.error .invalidState, s)
  else
    match s.records.lookup (D.sha256 state) with
    | none => (.error .invalidState, s)
    | some record =>
      -- The record goes, even if it is expired or belongs to another provider.
      let s := { s with records := s.records.erase (D.sha256 state) }
      if record.expired s.ttl now then (.error .invalidState, s)
      else if record.provider ≠ provider then (.error .invalidState, s)
      else (.ok record, s)

end StateStore

/-! ## 2. Runs -/

inductive StateCall
  | begin (provider : Bytes) (principalID : Int) (redirectURI : Bytes) (pruneAt createdAt : Int)
      (random : Bytes)
  | consume (provider state : Bytes) (now : Int)

/-- A call and what it returned. -/
inductive StateEvent
  | began (provider : Bytes) (principalID : Int) (redirectURI : Bytes) (createdAt : Int)
      (result : Except StateError Challenge)
  | consumed (provider state : Bytes) (now : Int) (result : Except StateError StateRecord)
  deriving DecidableEq

/-- A store and all that has happened to it. -/
structure StateRun (δ : Type) where
  store : StateStore δ
  events : List StateEvent

def StateRun.call (r : StateRun δ) : StateCall → StateRun δ
  | .begin provider principalID redirectURI pruneAt createdAt random =>
    let (result, store) := r.store.begin D provider principalID redirectURI pruneAt createdAt random
    ⟨store, r.events ++ [.began provider principalID redirectURI createdAt result]⟩
  | .consume provider state now =>
    let (result, store) := r.store.consume D provider state now
    ⟨store, r.events ++ [.consumed provider state now result]⟩

/-- The run of a list of calls. -/
def StateStore.run (s : StateStore δ) (calls : List StateCall) : StateRun δ :=
  calls.foldl (StateRun.call D) ⟨s, []⟩

/-- The event is a `Consume` that presents `state`, for a provider that could be one. -/
def StateEvent.Presents (state : Bytes) : StateEvent → Prop
  | .began .. => False
  | .consumed provider presented _ _ => validProviderName provider ∧ presented = state

/-- The record was made by a `Begin` that returned `state`, and nobody has presented it since. -/
def Pending (events : List StateEvent) (state : Bytes) (record : StateRecord) : Prop :=
  ∃ before since codeChallenge,
    events = before ++ .began record.provider record.principalID record.redirectURI record.createdAt
      (.ok ⟨state, record.codeVerifier, codeChallenge⟩) :: since ∧
    ∀ event ∈ since, ¬ event.Presents state

/-- The only successes of `Consume`. -/
def Explained (ttl : Int) (events : List StateEvent) : Prop :=
  ∀ before after provider state now record,
    events = before ++ .consumed provider state now (.ok record) :: after →
    record.provider = provider ∧ Pending before state record ∧
      0 ≤ now - record.createdAt ∧ now - record.createdAt ≤ ttl

/-- What holds between two calls. -/
structure StateRun.Good (ttl : Int) (maxRecords : Nat) (r : StateRun δ) : Prop where
  ttl_eq : r.store.ttl = ttl
  maxRecords_eq : r.store.maxRecords = maxRecords
  size_le : r.store.records.size ≤ maxRecords
  pending : ∀ digest record, r.store.records.lookup digest = some record →
    ∃ state, D.sha256 state = digest ∧ validState state ∧ Pending r.events state record
  explained : Explained ttl r.events

/-! ## 3. What one call does -/

/-- Records have gone, and nothing else has changed. -/
structure StateStore.Shrinks (s t : StateStore δ) : Prop where
  ttl_eq : t.ttl = s.ttl
  maxRecords_eq : t.maxRecords = s.maxRecords
  size_le : t.records.size ≤ s.records.size
  lookup : ∀ digest record, t.records.lookup digest = some record →
    s.records.lookup digest = some record

lemma StateStore.Shrinks.refl (s : StateStore δ) : s.Shrinks s :=
  ⟨rfl, rfl, le_rfl, fun _ _ h => h⟩

lemma StateStore.shrinks_pruneLocked (s : StateStore δ) (now : Int) :
    s.Shrinks (s.pruneLocked now) := by
  refine ⟨rfl, rfl, NameTable.size_keep_le _ _, fun digest record h => ?_⟩
  rw [StateStore.pruneLocked, NameTable.lookup_keep, Option.filter_eq_some_iff] at h
  exact h.1

lemma StateStore.shrinks_erase (s : StateStore δ) (digest : δ) :
    s.Shrinks { s with records := s.records.erase digest } := by
  exact ⟨rfl, rfl, NameTable.size_erase_le _ _,
    fun digest' record h => (NameTable.lookup_erase_eq_some.mp h).2⟩

lemma validState_base64RawURL {buffer : Bytes} (h : buffer.length = 32) :
    validState (base64RawURL buffer) := by
  have hlen := length_base64RawURL buffer
  rw [h] at hlen
  unfold validState
  rw [Bool.and_eq_true, decide_eq_true_eq, all_eq_true, hlen]
  exact ⟨by decide, fun b hb => isBase64URL_of_mem hb⟩

omit [DecidableEq δ] in
lemma validState_of_drawChallenge {rnd : Bytes} {challenge : Challenge}
    (h : StateStore.drawChallenge D rnd = .ok challenge) : validState challenge.state := by
  obtain ⟨⟨buffer, rest⟩, hrd, h⟩ := bind_eq_ok.mp h
  obtain ⟨verifier, -, h⟩ := bind_eq_ok.mp h
  obtain ⟨codeChallenge, -, h⟩ := bind_eq_ok.mp h
  obtain rfl := pure_eq_ok.mp h
  exact validState_base64RawURL (readFull_eq_some.mp (orError_eq_ok.mp hrd)).2

variable {D}

lemma StateStore.begin_cases (s : StateStore δ) (prov : Bytes) (prin : Int)
    (redirectURI : Bytes) (pruneAt createdAt : Int) (rnd : Bytes) :
    ((∃ err, (s.begin D prov prin redirectURI pruneAt createdAt rnd).1 = .error err) ∧
      s.Shrinks (s.begin D prov prin redirectURI pruneAt createdAt rnd).2) ∨
    ∃ challenge t, s.Shrinks t ∧ t.records.size < t.maxRecords ∧ validState challenge.state ∧
      s.begin D prov prin redirectURI pruneAt createdAt rnd
        = (.ok challenge, t.file (D.sha256 challenge.state)
            ⟨prov, prin, redirectURI, createdAt, challenge.codeVerifier⟩) := by
  unfold StateStore.begin
  split
  · exact .inl ⟨⟨_, rfl⟩, .refl s⟩
  split
  · exact .inl ⟨⟨_, rfl⟩, .refl s⟩
  have hprune := s.shrinks_pruneLocked pruneAt
  dsimp only
  split
  · exact .inl ⟨⟨_, rfl⟩, hprune⟩
  rename_i hrm
  split
  · exact .inl ⟨⟨_, rfl⟩, hprune⟩
  next challenge hdraw =>
    exact .inr ⟨challenge, _, hprune, Nat.lt_of_not_le hrm, validState_of_drawChallenge D hdraw, rfl⟩

/-- After a `Consume` that presents a state, the state has no record. -/
lemma StateStore.consume_cases (s : StateStore δ) (prov state : Bytes) (now : Int) :
    s.Shrinks (s.consume D prov state now).2 ∧
    (validProviderName prov → validState state →
      (s.consume D prov state now).2.records.lookup (D.sha256 state) = none) ∧
    ∀ record, (s.consume D prov state now).1 = .ok record →
      s.records.lookup (D.sha256 state) = some record ∧ record.provider = prov ∧
        0 ≤ now - record.createdAt ∧ now - record.createdAt ≤ s.ttl := by
  unfold StateStore.consume
  split
  next hbad =>
    refine ⟨.refl s, fun hprov hsta => ?_, fun record h => nomatch h⟩
    rcases hbad with hbad | hbad
    · cases hprov.symm.trans hbad
    · cases hsta.symm.trans hbad
  split
  next hno =>
    exact ⟨.refl s, fun _ _ => hno, fun record h => nomatch h⟩
  rename_i record hrcd
  have hshr := s.shrinks_erase (D.sha256 state)
  have hgn : (s.records.erase (D.sha256 state)).lookup (D.sha256 state) = none :=
    lookup_erase _ _
  dsimp only
  split
  · exact ⟨hshr, fun _ _ => hgn, fun record h => nomatch h⟩
  rename_i hlv
  split
  · exact ⟨hshr, fun _ _ => hgn, fun record h => nomatch h⟩
  rename_i hprov
  refine ⟨hshr, fun _ _ => hgn, fun found hfnd => ?_⟩
  obtain rfl : record = found := Except.ok.inj hfnd
  rw [StateRecord.expired, decide_eq_true_eq, not_or] at hlv
  exact ⟨hrcd, not_not.mp hprov, not_lt.mp hlv.1, not_lt.mp hlv.2⟩

/-! ## 4. Runs explain themselves -/

variable {state prov : Bytes}
variable {event : StateEvent}

lemma Pending.append {events : List StateEvent} {record : StateRecord}
    (h : Pending events state record) (hevent : ¬ event.Presents state) :
    Pending (events ++ [event]) state record := by
  obtain ⟨before, since, codeChallenge, rfl, hsince⟩ := h
  refine ⟨before, since ++ [event], codeChallenge, by simp, fun e he => ?_⟩
  rcases mem_append.mp he with he | he
  · exact hsince e he
  · rw [mem_singleton.mp he]
    exact hevent

/-- One more event needs one more explanation, if it is a success. -/
lemma Explained.append {ttl : Int} {events : List StateEvent} (h : Explained ttl events)
    (hevent : ∀ prov state now record, event = .consumed prov state now (.ok record) →
      record.provider = prov ∧ Pending events state record ∧
        0 ≤ now - record.createdAt ∧ now - record.createdAt ≤ ttl) :
    Explained ttl (events ++ [event]) := by
  intro before after prov state now record heq
  rcases eq_nil_or_concat after with rfl | ⟨after, last, rfl⟩
  · obtain ⟨rfl, hla⟩ := append_inj' heq rfl
    exact hevent prov state now record (singleton_inj.mp hla)
  · have hin : events = before ++ .consumed prov state now (.ok record) :: after := by
      have hconcat : events ++ [event]
          = (before ++ .consumed prov state now (.ok record) :: after) ++ [last] := by
        rw [heq]
        simp
      exact (append_inj' hconcat rfl).1
    exact h before after prov state now record hin

variable {ttl : Int} {maxRecords : Nat}
variable {r : StateRun δ}

/-- A call that only loses records keeps the rest pending, if the event presents none of them. -/
lemma StateRun.Good.shrink (h : r.Good D ttl maxRecords) {t : StateStore δ}
    (hshr : r.store.Shrinks t)
    (hk : ∀ state record, t.records.lookup (D.sha256 state) = some record → validState state →
      ¬ event.Presents state)
    (hevent : ∀ prov state now record, event = .consumed prov state now (.ok record) →
      record.provider = prov ∧ Pending r.events state record ∧ 0 ≤ now - record.createdAt ∧
      now - record.createdAt ≤ ttl) :
    StateRun.Good D ttl maxRecords ⟨t, r.events ++ [event]⟩ where
  ttl_eq := hshr.ttl_eq.trans h.ttl_eq
  maxRecords_eq := hshr.maxRecords_eq.trans h.maxRecords_eq
  size_le := hshr.size_le.trans h.size_le
  pending := by
    intro digest record hrcd
    obtain ⟨state, rfl, hv, hpend⟩ := h.pending digest record (hshr.lookup _ _ hrcd)
    exact ⟨state, rfl, hv, hpend.append (hk state record hrcd hv)⟩
  explained := h.explained.append hevent

lemma StateRun.Good.begin (h : r.Good D ttl maxRecords) (prov : Bytes) (prin : Int)
    (redirectURI : Bytes) (pruneAt createdAt : Int) (rnd : Bytes) :
    (r.call D (.begin prov prin redirectURI pruneAt createdAt rnd)).Good D ttl maxRecords := by
  have hnever : ∀ state result, ¬ (StateEvent.began prov prin redirectURI createdAt
      result).Presents state := fun _ _ hf => hf
  rcases r.store.begin_cases (D := D) prov prin redirectURI pruneAt createdAt rnd with
    ⟨-, hshr⟩ | ⟨challenge, t, hshr, hrm, hv, heq⟩
  · exact h.shrink hshr (fun _ _ _ _ => hnever _ _) (by rintro _ _ _ _ ⟨⟩)
  rw [StateRun.call, heq]
  refine ⟨hshr.ttl_eq.trans h.ttl_eq, hshr.maxRecords_eq.trans h.maxRecords_eq, ?_, ?_,
    h.explained.append (by rintro _ _ _ _ ⟨⟩)⟩
  · rw [hshr.maxRecords_eq, h.maxRecords_eq] at hrm
    exact (NameTable.size_insert_le _ _ _).trans hrm
  · intro digest record hrcd
    rcases NameTable.lookup_insert_eq_some.mp hrcd with ⟨hdig, rfl⟩ | ⟨-, hrcd⟩
    · exact ⟨challenge.state, hdig.symm, hv, r.events, [], challenge.codeChallenge, rfl,
        fun e he => nomatch he⟩
    · obtain ⟨state, rfl, hsta, hpend⟩ := h.pending digest record (hshr.lookup _ _ hrcd)
      exact ⟨state, rfl, hsta, hpend.append (hnever _ _)⟩

lemma StateRun.Good.consume (hsha : Function.Injective D.sha256) (h : r.Good D ttl maxRecords)
    (prov state : Bytes) (now : Int) :
    (r.call D (.consume prov state now)).Good D ttl maxRecords := by
  obtain ⟨hshr, hgn, hok⟩ := r.store.consume_cases (D := D) prov state now
  refine h.shrink hshr ?_ ?_
  · rintro kept record hrcd hv ⟨hprov, rfl⟩
    cases (hgn hprov hv).symm.trans hrcd
  · intro prov' state' now' record hevent
    obtain ⟨rfl, rfl, rfl, hres⟩ := StateEvent.consumed.inj hevent
    obtain ⟨hrcd, hprov, hpos, hbdd⟩ := hok record hres
    obtain ⟨filed, hdig, -, hpend⟩ := h.pending _ record hrcd
    obtain rfl := hsha hdig
    exact ⟨hprov, hpend, hpos, h.ttl_eq ▸ hbdd⟩

/-- **Every run explains itself.** -/
theorem StateRun.good_of_run (hsha : Function.Injective D.sha256) (calls : List StateCall)
    (h : r.Good D ttl maxRecords) :
    (calls.foldl (StateRun.call D) r).Good D ttl maxRecords := by
  induction calls generalizing r with
  | nil => exact h
  | cons call calls ih =>
    cases call with
    | begin provider principalID redirectURI pruneAt createdAt random =>
      exact ih (h.begin provider principalID redirectURI pruneAt createdAt random)
    | consume provider state now => exact ih (h.consume hsha provider state now)

omit [DecidableEq δ] in
lemma newStore_records {parsePublicHTTPSURL : Bytes → Bool} {options : StoreOptions}
    (h : newStore parsePublicHTTPSURL options = .ok s) : s.records = ∅ := by
  obtain ⟨-, h⟩ := check_bind_eq_ok.mp h
  obtain ⟨allowlist, -, h⟩ := bind_eq_ok.mp h
  obtain ⟨-, h⟩ := check_bind_eq_ok.mp h
  obtain ⟨-, h⟩ := check_bind_eq_ok.mp h
  obtain rfl := pure_eq_ok.mp h
  rfl

lemma StateRun.good_of_newStore {parsePublicHTTPSURL : Bytes → Bool} {options : StoreOptions}
    (h : newStore parsePublicHTTPSURL options = .ok s) :
    StateRun.Good D s.ttl s.maxRecords ⟨s, []⟩ := by
  have hem := newStore_records h
  refine ⟨rfl, rfl, ?_, fun digest record hrcd => ?_, fun before after _ _ _ _ heq => ?_⟩
  · rw [hem]
    exact Nat.zero_le _
  · rw [hem] at hrcd
    cases hrcd
  · exact absurd heq.symm (by simp)

/-! ## 5. One state at a time -/

lemma StateStore.lookup_consume (hsha : Function.Injective D.sha256) (s : StateStore δ)
    {other : Bytes} {now : Int} (hne : state ≠ other) :
    (s.consume D prov state now).2.records.lookup (D.sha256 other)
      = s.records.lookup (D.sha256 other) := by
  have hdig : D.sha256 other ≠ D.sha256 state := fun h => hne (hsha h).symm
  unfold StateStore.consume
  split
  · rfl
  split
  · rfl
  dsimp only
  split
  · exact lookup_erase_ne hdig
  split
  · exact lookup_erase_ne hdig
  · exact lookup_erase_ne hdig

/-- The outcome of a `Consume` is a matter of one record. -/
lemma StateStore.consume_congr {t : StateStore δ} {now : Int} (httl : t.ttl = s.ttl)
    (hlk : t.records.lookup (D.sha256 state) = s.records.lookup (D.sha256 state)) :
    (t.consume D prov state now).1 = (s.consume D prov state now).1 := by
  unfold StateStore.consume
  rw [hlk]
  split
  · rfl
  split
  · rfl
  dsimp only
  rw [httl]
  split
  · rfl
  split
  · rfl
  · rfl

/-- A call of `Consume`: provider, state and clock. -/
abbrev Consumption := Bytes × Bytes × Int

/-- The store after some calls of `Consume`. -/
def StateStore.consumeAll (s : StateStore δ) (D : Digests δ) (calls : List Consumption) : StateStore δ :=
  calls.foldl (fun t call => (t.consume D call.1 call.2.1 call.2.2).2) s

lemma StateStore.consume_consumeAll (hsha : Function.Injective D.sha256)
    {now : Int} : ∀ {calls : List Consumption} (s : StateStore δ), (∀ call ∈ calls, call.2.1 ≠ state) →
      ((s.consumeAll D calls).consume D prov state now).1 = (s.consume D prov state now).1
  | [], _, _ => rfl
  | call :: calls, s, h => by
    have hca := h call (.head _)
    refine (consume_consumeAll hsha _ fun c hc => h c (.tail _ hc)).trans ?_
    exact consume_congr (s.consume_cases call.1 call.2.1 call.2.2).1.ttl_eq
      (s.lookup_consume hsha hca)

/-! ## 6. A state that was begun -/

/-- The call leaves the record of `state` alone: it presents another state, or draws another one while
the record is not expired. -/
def StateCall.Spares (D : Digests δ) (state : Bytes) (record : StateRecord) (ttl : Int) :
    StateCall → Prop
  | .begin _ _ _ pruneAt _ random => record.expired ttl pruneAt = false ∧
      ∀ challenge, StateStore.drawChallenge D random = .ok challenge → challenge.state ≠ state
  | .consume _ presented _ => presented ≠ state

lemma StateRun.call_spares (r : StateRun δ) (hsha : Function.Injective D.sha256) {record : StateRecord}
    {call : StateCall} (hspares : call.Spares D state record r.store.ttl)
    (h : r.store.records.lookup (D.sha256 state) = some record) :
    (r.call D call).store.ttl = r.store.ttl ∧
      (r.call D call).store.records.lookup (D.sha256 state) = some record := by
  cases call with
  | consume provider presented now =>
    exact ⟨(r.store.consume_cases provider presented now).1.ttl_eq,
      (r.store.lookup_consume hsha hspares).trans h⟩
  | begin provider principalID redirectURI pruneAt createdAt random =>
    have hkept : (r.store.pruneLocked pruneAt).records.lookup (D.sha256 state) = some record := by
      rw [StateStore.pruneLocked, NameTable.lookup_keep, h]
      simp [hspares.1]
    simp only [StateRun.call, StateStore.begin]
    split
    · exact ⟨rfl, h⟩
    split
    · exact ⟨rfl, h⟩
    split
    · exact ⟨rfl, hkept⟩
    split
    · exact ⟨rfl, hkept⟩
    next challenge hdraw =>
      exact ⟨rfl, (lookup_insert_ne fun heq => hspares.2 challenge hdraw (hsha heq).symm).trans hkept⟩

lemma StateStore.consume_lookup {record : StateRecord} {now : Int}
    (hprovider : validProviderName record.provider) (hstate : validState state)
    (h : s.records.lookup (D.sha256 state) = some record) (hnow : record.expired s.ttl now = false) :
    (s.consume D record.provider state now).1 = .ok record := by
  simp [StateStore.consume, hprovider, hstate, h, hnow]

/-- **A state that was begun is not lost**, not even by a store that is full: after calls that all spare
it, the provider's `Consume` in time returns the record that `Begin` made. -/
theorem begun_state_not_lost (hsha : Function.Injective D.sha256) {t : StateStore δ}
    (record : StateRecord) {random : Bytes} {pruneAt now : Int} {challenge : Challenge}
    (hbegin : s.begin D record.provider record.principalID record.redirectURI pruneAt record.createdAt
      random = (.ok challenge, t)) (hverifier : record.codeVerifier = challenge.codeVerifier)
    {calls : List StateCall} (hcalls : ∀ call ∈ calls, call.Spares D challenge.state record s.ttl)
    (hnow : record.expired s.ttl now = false) :
    ((t.run D calls).store.consume D record.provider challenge.state now).1 = .ok record := by
  have hprovider : validProviderName record.provider := by
    by_contra hbad
    simp [StateStore.begin, Bool.eq_false_of_not_eq_true hbad] at hbegin
  rcases s.begin_cases (D := D) record.provider record.principalID record.redirectURI pruneAt
    record.createdAt random with ⟨⟨err, herr⟩, -⟩ | ⟨_, u, hshr, -, hstate, hfiled⟩
  · cases herr.symm.trans (congrArg _ hbegin)
  cases hfiled.symm.trans hbegin
  rw [← hverifier]
  have hkept := foldlRecOn (motive := fun r : StateRun δ => r.store.ttl = s.ttl ∧
      r.store.records.lookup _ = some record) (b := ⟨u.file _ record, []⟩) calls _
    ⟨hshr.ttl_eq, lookup_insert _⟩ fun r hr call hcall => by
      have hstep := r.call_spares hsha (hr.1.symm ▸ hcalls call hcall) hr.2
      exact ⟨hstep.1.trans hr.1, hstep.2⟩
  exact StateStore.consume_lookup hprovider hstate hkept.2 (hkept.1.symm ▸ hnow)

end

/-- **A state is used once, in time, and for what it was made.** In every run of a new store, whatever
the clock reads: a `Consume` that succeeds returns the record of an earlier `Begin` for the same
provider that returned the state, nobody has presented the state since that `Begin`, and the time
between the two is at least zero and at most the TTL; the store never holds more records than it may;
and what a `Consume` returns does not depend on how other states were consumed before it. -/
theorem oauth_state_binding {δ : Type} [DecidableEq δ] (D : Digests δ)
    (hsha : Function.Injective D.sha256) (parsePublicHTTPSURL : Bytes → Bool) (options : StoreOptions)
    (s : StateStore δ) (hnew : newStore parsePublicHTTPSURL options = .ok s)
    (calls : List StateCall) :
    Explained s.ttl (s.run D calls).events ∧ (s.run D calls).store.records.size ≤ s.maxRecords ∧
    ∀ (others : List Consumption) (provider state : Bytes) (now : Int),
      (∀ call ∈ others, call.2.1 ≠ state) →
      (((s.run D calls).store.consumeAll D others).consume D provider state now).1
        = ((s.run D calls).store.consume D provider state now).1 := by
  have hgood := StateRun.good_of_run hsha calls (StateRun.good_of_newStore (D := D) hnew)
  exact ⟨hgood.explained, hgood.size_le,
    fun others provider state now hothers => StateStore.consume_consumeAll hsha _ hothers⟩

/-! ## 7. A state that was guessed -/

def plainDigests : Digests Bytes := ⟨id, id⟩

def sampleOptions : StoreOptions := ⟨[[97]], 0, 0⟩

def sampleStore : StateStore Bytes := ⟨[[97]], defaultStateTTL, 256, ∅⟩

/-- The state that is drawn from zeros. -/
def zeroState : Bytes := List.replicate 43 65

/-- `Begin` for provider `a`, with a random source of zeros. -/
def sampleBegin : StateCall := .begin [97] 1 [97] 0 0 (List.replicate 64 0)

theorem sampleBegin_not_lost : (((sampleStore.run plainDigests [sampleBegin]).store.run plainDigests
      [.consume [97] [] 0]).store.consume plainDigests [97] zeroState 5).1
      = .ok ⟨[97], 1, [97], 0, zeroState⟩ := by
  have hbegin : (sampleStore.begin plainDigests [97] 1 [97] 0 0 (List.replicate 64 0)).1
      = .ok ⟨zeroState, zeroState, base64RawURL zeroState⟩ := by decide +kernel
  exact begun_state_not_lost (fun _ _ h => h) ⟨[97], 1, [97], 0, zeroState⟩ (Prod.ext hbegin rfl) rfl
    (forall_mem_singleton.2 (by simp [StateCall.Spares, zeroState])) (by decide)

theorem sampleStore_bound : newStore (fun _ => true) sampleOptions = .ok sampleStore ∧
      (sampleStore.run plainDigests [sampleBegin]).store.records.size ≤ 256 := by
  have hnew : newStore (fun _ => true) sampleOptions = .ok sampleStore := rfl
  exact ⟨hnew, (oauth_state_binding plainDigests (fun _ _ h => h) (fun _ => true) sampleOptions
    sampleStore hnew [sampleBegin]).2.1⟩

/-- One state is generated; it is presented before that, for a valid provider, and still consumed
later. -/
theorem sampleStore_guessed : (sampleStore.run plainDigests
      [.consume [97] zeroState 0, sampleBegin, .consume [97] zeroState 0]).events
      = [.consumed [97] zeroState 0 (.error .invalidState),
        .began [97] 1 [97] 0 (.ok ⟨zeroState, zeroState, base64RawURL zeroState⟩),
        .consumed [97] zeroState 0 (.ok ⟨[97], 1, [97], 0, zeroState⟩)] ∧
    (StateEvent.consumed [97] zeroState 0 (.error .invalidState)).Presents zeroState := by
  refine ⟨by decide +kernel, by decide, rfl⟩

end ReCasaOS.OAuth
