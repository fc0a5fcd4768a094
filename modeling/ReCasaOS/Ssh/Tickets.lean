/-
# SSH login tickets

`route/v1/ssh.go`. A login that was checked is kept as a ticket for thirty seconds, under a random
value that goes to the browser as a cookie; the WebSocket that follows takes the ticket out again.
The password is in a buffer of its own, which is to be overwritten when the ticket goes: when it is
used, when somebody else presents it, when a timer fires, or when a later call cleans up.

Buffers are numbered in the order in which they were stored and stay after their ticket is gone. A
call reads the clock before it takes the lock, so what it works with may be old by then
(`TicketStep.issue`, `TicketStep.consume`); the section under the lock is one step.

The fields `Cols` and `Rows` of a handshake are zero in all that is said here.
-/
import ReCasaOS.Lib.Base64
import ReCasaOS.Lib.Json
import ReCasaOS.Lib.NameTable
import ReCasaOS.Lib.Strings
import ReCasaOS.Lib.Transition

namespace ReCasaOS.Ssh

open Lib List Option AList
open Lib.Json (integer readInteger readInteger_integer)

/-! ## 1. Principals and cookies -/

/-- `commonjwt.Claims`, as far as it is read. -/
structure Claims where
  id : Int
  username : Bytes
  deriving DecidableEq

/-- What is read of an `echo.Context`. -/
structure SshContext where
  claims : Option Claims
  userAgent : Bytes
  cookies : List (Bytes × Bytes)

/-- `fmt.Sprintf("%d:%s", claims.ID, claims.Username)`. -/
def Claims.principal (claims : Claims) : Bytes := integer claims.id ++ 58 :: claims.username

/-- The claims of a caller who may have tickets. -/
def sshClaims (ctx : SshContext) : Option Claims :=
  ctx.claims.filter fun claims => decide (1 ≤ claims.id ∧ trimSpace claims.username ≠ [])

def sshPrincipal (ctx : SshContext) : Option Bytes := (sshClaims ctx).map Claims.principal

/-- `recasaos_ssh_ticket`. -/
def sshTicketCookieName : Bytes :=
  [114, 101, 99, 97, 115, 97, 111, 115, 95, 115, 115, 104, 95, 116, 105, 99, 107, 101, 116]

/-- The value of the one cookie with the name of a ticket. -/
def ticketCookie (ctx : SshContext) : Option Bytes :=
  match ctx.cookies.filter (·.1 == sshTicketCookieName) with
  | [cookie] => if cookie.2.length = 43 then some cookie.2 else none
  | _ => none

/-! ## 2. The registry -/

/-- `sshWebSocketHandshake`. -/
structure Handshake where
  username : Bytes
  password : Bytes
  port : Bytes
  deriving DecidableEq

/-- `sshTicket`; `password` is the number of its buffer. -/
structure SshTicket where
  username : Bytes
  password : Nat
  port : Bytes
  principal : Bytes
  userAgent : Bytes
  expires : Int
  deriving DecidableEq

structure TicketRegistry where
  tickets : NameTable Bytes SshTicket
  /-- All the passwords that were ever stored. -/
  buffers : List Bytes

/-- In nanoseconds. -/
def sshTicketLifetime : Int := 30000000000

def maxPendingSSHTickets : Nat := 64

def wipeBytes (value : Bytes) : Bytes := value.map fun _ => 0

inductive TicketError
  | unauthorized
  | random
  | tooMany
  deriving DecidableEq

namespace TicketRegistry

def empty : TicketRegistry := ⟨∅, []⟩

section

variable (r : TicketRegistry)

/-- `delete(r.tickets, value)`, with `wipeBytes(ticket.password)`. -/
def discard (value : Bytes) (ticket : SshTicket) : TicketRegistry :=
  ⟨r.tickets.erase value, r.buffers.modify ticket.password wipeBytes⟩

/-- One round of `cleanupLocked`. -/
def cleanupEntry (now : Int) (r : TicketRegistry) (entry : Σ _ : Bytes, SshTicket) : TicketRegistry :=
  if now < entry.2.expires then r else r.discard entry.1 entry.2

def cleanupLocked (now : Int) : TicketRegistry :=
  r.tickets.entries.foldl (cleanupEntry now) r

/-- `r.tickets[value] = ticket`, with a new buffer. -/
def store (value principal userAgent : Bytes) (handshake : Handshake) (expires : Int) :
    TicketRegistry :=
  ⟨r.tickets.insert value ⟨handshake.username, r.buffers.length, handshake.port, principal, userAgent,
    expires⟩, r.buffers ++ [handshake.password]⟩

/-- `issue`, up to its timer. The clock reads `now`. -/
def issue (ctx : SshContext) (handshake : Handshake) (random : Bytes) (now : Int) :
    Except TicketError Bytes × TicketRegistry :=
  match sshPrincipal ctx with
  | none => (.error .unauthorized, r)
  | some principal =>
    match readFull 32 random with
    | none => (.error .random, r)
    | some (buffer, _) =>
      let value := base64RawURL buffer
      let r := r.cleanupLocked now
      if maxPendingSSHTickets ≤ r.tickets.size then (.error .tooMany, r)
      else (.ok value, r.store value principal ctx.userAgent handshake (now + sshTicketLifetime))

/-- The rest of `consume`, for a ticket that was found. -/
def redeem (principal userAgent value : Bytes) (ticket : SshTicket) (now : Int) :
    Option Handshake × TicketRegistry :=
  if ¬ now < ticket.expires ∨ ticket.principal ≠ principal ∨ ticket.userAgent ≠ userAgent then
    (none, r.discard value ticket)
  else
    (some ⟨ticket.username, r.buffers.getD ticket.password [], ticket.port⟩, r.discard value ticket)

def consume (ctx : SshContext) (now : Int) : Option Handshake × TicketRegistry :=
  match sshPrincipal ctx, ticketCookie ctx with
  | some principal, some value =>
    let r := r.cleanupLocked now
    match r.tickets.lookup value with
    | none => (none, r)
    | some ticket => r.redeem principal ctx.userAgent value ticket now
  | _, _ => (none, r)

def expire (value : Bytes) (expires : Int) : TicketRegistry :=
  match r.tickets.lookup value with
  | none => r
  | some ticket => if ticket.expires = expires then r.discard value ticket else r

end

end TicketRegistry

/-! ## 3. The system -/

/-- A ticket that was issued. -/
structure TicketIssue where
  value : Bytes
  claims : Claims
  userAgent : Bytes
  handshake : Handshake
  expires : Int

/-- A ticket that was consumed with success, at what the caller took for the time. -/
structure TicketUse where
  value : Bytes
  claims : Claims
  userAgent : Bytes
  handshake : Handshake
  now : Int

structure TicketSystem where
  registry : TicketRegistry
  clock : Int
  timers : List (Bytes × Int)
  issues : List TicketIssue
  uses : List TicketUse

def TicketSystem.start (clock : Int) : TicketSystem := ⟨.empty, clock, [], [], []⟩

namespace TicketSystem

def issue (s : TicketSystem) (ctx : SshContext) (handshake : Handshake) (random : Bytes) (now : Int) :
    TicketSystem :=
  let result := s.registry.issue ctx handshake random now
  match result.1, sshClaims ctx with
  | .ok value, some claims =>
    { s with
      registry := result.2
      timers := s.timers ++ [(value, now + sshTicketLifetime)]
      issues := s.issues ++ [⟨value, claims, ctx.userAgent, handshake, now + sshTicketLifetime⟩] }
  | _, _ => { s with registry := result.2 }

def consume (s : TicketSystem) (ctx : SshContext) (now : Int) : TicketSystem :=
  let result := s.registry.consume ctx now
  match result.1, sshClaims ctx, ticketCookie ctx with
  | some handshake, some claims, some value =>
    { s with
      registry := result.2
      uses := s.uses ++ [⟨value, claims, ctx.userAgent, handshake, now⟩] }
  | _, _, _ => { s with registry := result.2 }

end TicketSystem

/-- One step of the clock, of a timer, or of a call under the lock. -/
inductive TicketStep : TicketSystem → TicketSystem → Prop
  | tick (s : TicketSystem) (clock : Int) : s.clock ≤ clock → TicketStep s { s with clock := clock }
  | issue (s : TicketSystem) (ctx : SshContext) (handshake : Handshake) (random : Bytes) (now : Int) :
      now ≤ s.clock →
      -- Generated values are distinct.
      (∀ value, (s.registry.issue ctx handshake random now).1 = .ok value →
        ∀ i ∈ s.issues, i.value ≠ value) →
      TicketStep s (s.issue ctx handshake random now)
  | consume (s : TicketSystem) (ctx : SshContext) (now : Int) : now ≤ s.clock →
      TicketStep s (s.consume ctx now)
  | expire (s : TicketSystem) (timer : Bytes × Int) : timer ∈ s.timers → timer.2 ≤ s.clock →
      TicketStep s { s with
        registry := s.registry.expire timer.1 timer.2
        timers := s.timers.erase timer }

/-! ## 4. The invariant -/

/-- The ticket is the one that was issued, and its buffer still holds the password. -/
structure SshTicket.Of (ticket : SshTicket) (i : TicketIssue) (buffers : List Bytes) : Prop where
  username : ticket.username = i.handshake.username
  password : buffers[ticket.password]? = some i.handshake.password
  port : ticket.port = i.handshake.port
  principal : ticket.principal = i.claims.principal
  userAgent : ticket.userAgent = i.userAgent
  expires : ticket.expires = i.expires

/-- What holds of a registry, given the tickets that were issued and are not used. -/
structure TicketRegistry.Good (r : TicketRegistry) (issues : List TicketIssue) : Prop where
  size_le : r.tickets.size ≤ maxPendingSSHTickets
  issued : ∀ value ticket, r.tickets.lookup value = some ticket →
    ∃ i ∈ issues, i.value = value ∧ ticket.Of i r.buffers
  distinct : ∀ value value' ticket ticket', r.tickets.lookup value = some ticket →
    r.tickets.lookup value' = some ticket' → ticket.password = ticket'.password → value = value'
  wiped : ∀ n buffer, r.buffers[n]? = some buffer →
    (∀ value ticket, r.tickets.lookup value = some ticket → ticket.password ≠ n) →
    ∀ b ∈ buffer, b = 0

section

variable {r : TicketRegistry} {issues : List TicketIssue} {value : Bytes} {tk : SshTicket}

lemma getElem?_modify_wipe {buffers : List Bytes} {n m : Nat} :
    (buffers.modify n wipeBytes)[m]? = if n = m then buffers[m]?.map wipeBytes else buffers[m]? := by
  rw [getElem?_modify]
  split
  · rfl
  · simp

lemma TicketRegistry.Good.discard (h : r.Good issues)
    (htck : r.tickets.lookup value = some tk) : (r.discard value tk).Good issues := by
  have hlk : ∀ other t, (r.discard value tk).tickets.lookup other = some t →
      other ≠ value ∧ r.tickets.lookup other = some t :=
    fun other t => NameTable.lookup_erase_eq_some.mp
  refine ⟨(NameTable.size_erase_le _ _).trans h.size_le, ?_, ?_, ?_⟩
  · intro other t ht
    obtain ⟨hne, ht⟩ := hlk other t ht
    obtain ⟨i, hi, hvalue, hof⟩ := h.issued other t ht
    have hbuf : tk.password ≠ t.password :=
      fun heq => hne (h.distinct _ _ _ _ htck ht heq).symm
    refine ⟨i, hi, hvalue, hof.username, ?_, hof.port, hof.principal, hof.userAgent, hof.expires⟩
    rw [TicketRegistry.discard, getElem?_modify_wipe, if_neg hbuf]
    exact hof.password
  · intro value1 value2 t1 t2 h1 h2 heq
    exact h.distinct _ _ _ _ (hlk _ _ h1).2 (hlk _ _ h2).2 heq
  · intro n buffer hbuf hfe b hb
    rw [TicketRegistry.discard, getElem?_modify_wipe] at hbuf
    split at hbuf
    · obtain ⟨old, -, rfl⟩ := map_eq_some_iff.mp hbuf
      obtain ⟨-, -, rfl⟩ := mem_map.mp hb
      rfl
    next hn =>
      refine h.wiped n buffer hbuf (fun other t ht => ?_) b hb
      by_cases hoth : other = value
      · subst hoth
        obtain rfl := some.inj (htck.symm.trans ht)
        exact hn
      · exact hfe other t (NameTable.lookup_erase_eq_some.mpr ⟨hoth, ht⟩)

/-- The loop goes through entries that are still there. -/
lemma TicketRegistry.Good.cleanupEntries (now : Int) :
    ∀ {entries : List (Σ _ : Bytes, SshTicket)} {r : TicketRegistry}, r.Good issues →
      (∀ entry ∈ entries, r.tickets.lookup entry.1 = some entry.2) →
      (entries.map Sigma.fst).Nodup →
      (entries.foldl (cleanupEntry now) r).Good issues
  | [], _, h, _, _ => h
  | entry :: entries, r, h, hes, hnd => by
    rw [map_cons, nodup_cons] at hnd
    have hrs := fun e he => hes e (mem_cons_of_mem entry he)
    rw [foldl_cons]
    by_cases hlv : now < entry.2.expires
    · rw [cleanupEntry, if_pos hlv]
      exact cleanupEntries now h hrs hnd.2
    · rw [cleanupEntry, if_neg hlv]
      refine cleanupEntries now (h.discard (hes entry (.head _))) ?_ hnd.2
      intro e he
      have hne : e.1 ≠ entry.1 := fun heq => hnd.1 (heq ▸ mem_map_of_mem he)
      exact NameTable.lookup_erase_eq_some.mpr ⟨hne, hrs e he⟩

lemma TicketRegistry.Good.cleanupLocked (h : r.Good issues) (now : Int) :
    (r.cleanupLocked now).Good issues :=
  TicketRegistry.Good.cleanupEntries now h
    (fun _ hent => NameTable.mem_entries_iff.mp hent) r.tickets.nodupKeys

/-- A new ticket, if there is room and its value is new. -/
lemma TicketRegistry.Good.store (h : r.Good issues) {claims : Claims} {userAgent : Bytes}
    {handshake : Handshake} {expires : Int} (hrm : r.tickets.size < maxPendingSSHTickets)
    (hfh : ∀ i ∈ issues, i.value ≠ value) :
    (r.store value claims.principal userAgent handshake expires).Good
      (issues ++ [⟨value, claims, userAgent, handshake, expires⟩]) := by
  have hno : r.tickets.lookup value = none := by
    cases hlk : r.tickets.lookup value with
    | none => rfl
    | some t =>
      obtain ⟨i, hi, hvalue, -⟩ := h.issued value t hlk
      exact absurd hvalue (hfh i hi)
  have hold : ∀ other t, r.tickets.lookup other = some t → t.password < r.buffers.length := by
    intro other t ht
    obtain ⟨i, -, -, hof⟩ := h.issued other t ht
    exact (List.getElem?_eq_some_iff.mp hof.password).1
  have hlk : ∀ other t,
      (r.store value claims.principal userAgent handshake expires).tickets.lookup other = some t →
      (other = value ∧ t = ⟨handshake.username, r.buffers.length, handshake.port, claims.principal,
        userAgent, expires⟩) ∨ r.tickets.lookup other = some t := fun other t ht =>
    (NameTable.lookup_insert_eq_some.mp ht).imp (fun h => ⟨h.1, h.2.symm⟩) And.right
  refine ⟨(NameTable.size_insert_le _ _ _).trans hrm, ?_, ?_, ?_⟩
  · intro other t ht
    rcases hlk other t ht with ⟨rfl, rfl⟩ | ht
    · refine ⟨_, mem_append_right _ (mem_singleton.mpr rfl), rfl, rfl, ?_, rfl, rfl, rfl, rfl⟩
      exact getElem?_concat_length
    · obtain ⟨i, hi, hvalue, hof⟩ := h.issued other t ht
      refine ⟨i, mem_append_left _ hi, hvalue, hof.username, ?_, hof.port, hof.principal,
        hof.userAgent, hof.expires⟩
      rw [TicketRegistry.store, getElem?_append_left (hold other t ht)]
      exact hof.password
  · intro value1 value2 t1 t2 h1 h2 heq
    rcases hlk _ _ h1 with ⟨hv1, rfl⟩ | h1 <;> rcases hlk _ _ h2 with ⟨hv2, rfl⟩ | h2
    · exact hv1.trans hv2.symm
    · exact absurd heq.symm (ne_of_lt (hold _ _ h2))
    · exact absurd heq (ne_of_lt (hold _ _ h1))
    · exact h.distinct _ _ _ _ h1 h2 heq
  · intro n buffer hbuf hfe b hb
    have hnew : ∀ other t, r.tickets.lookup other = some t →
        (r.store value claims.principal userAgent handshake expires).tickets.lookup other = some t := by
      intro other t ht
      refine NameTable.lookup_insert_eq_some.mpr (.inr ⟨?_, ht⟩)
      rintro rfl
      cases hno.symm.trans ht
    have hlt : n < r.buffers.length := by
      have hne : r.buffers.length ≠ n := hfe value _ (lookup_insert _)
      have hlen := (List.getElem?_eq_some_iff.mp hbuf).1
      rw [TicketRegistry.store, length_append, length_singleton] at hlen
      omega
    rw [TicketRegistry.store, getElem?_append_left hlt] at hbuf
    exact h.wiped n buffer hbuf (fun other t ht => hfe other t (hnew other t ht)) b hb

end

/-! ## 5. What a call does -/

lemma Claims.principal_injective : Function.Injective Claims.principal := by
  intro a b h
  have hrd : ∀ claims : Claims,
      readInteger claims.principal = some (claims.id, 58 :: claims.username) := by
    intro claims
    refine readInteger_integer claims.id ?_
    intro c hc
    obtain rfl : (58 : UInt8) = c := some.inj hc
    decide
  have heq := (hrd a).symm.trans ((congrArg readInteger h).trans (hrd b))
  obtain ⟨hid, hnm⟩ := Prod.mk.inj (some.inj heq)
  exact Claims.mk.injEq .. ▸ ⟨hid, (cons.inj hnm).2⟩

lemma sshPrincipal_eq_some {ctx : SshContext} {principal : Bytes} :
    sshPrincipal ctx = some principal ↔
      ∃ claims, sshClaims ctx = some claims ∧ claims.principal = principal :=
  map_eq_some_iff

section

variable {r : TicketRegistry} {issues : List TicketIssue} {ctx : SshContext} {hs : Handshake}
  {rnd : Bytes} {now : Int}

lemma lookup_cleanupLocked {value : Bytes} {ticket : SshTicket}
    (h : (r.cleanupLocked now).tickets.lookup value = some ticket) :
    r.tickets.lookup value = some ticket := by
  unfold TicketRegistry.cleanupLocked at h
  generalize r.tickets.entries = entries at h
  induction entries generalizing r with
  | nil => exact h
  | cons entry entries ih =>
    have hrs := ih h
    unfold TicketRegistry.cleanupEntry at hrs
    split at hrs
    · exact hrs
    · exact (NameTable.lookup_erase_eq_some.mp hrs).2

lemma lookup_cleanupLocked_of_lt {value : Bytes} {ticket : SshTicket}
    (h : r.tickets.lookup value = some ticket) (hlt : now < ticket.expires) :
    (r.cleanupLocked now).tickets.lookup value = some ticket :=
  foldlRecOn (motive := fun r : TicketRegistry => r.tickets.lookup value = some ticket) _ _ h
    fun r hr entry hentry => by
      unfold TicketRegistry.cleanupEntry
      split
      · exact hr
      next hold =>
        refine NameTable.lookup_erase_eq_some.mpr ⟨?_, hr⟩
        rintro rfl
        cases (NameTable.mem_entries_iff.mp hentry).symm.trans h
        exact hold hlt

lemma issue_cases (r : TicketRegistry) (ctx : SshContext) (hs : Handshake) (rnd : Bytes)
    (now : Int) :
    (∃ err, r.issue ctx hs rnd now = (.error err, r)) ∨
    r.issue ctx hs rnd now = (.error .tooMany, r.cleanupLocked now) ∨
    ∃ claims value, sshClaims ctx = some claims ∧
      (r.cleanupLocked now).tickets.size < maxPendingSSHTickets ∧
      r.issue ctx hs rnd now = (.ok value, (r.cleanupLocked now).store value claims.principal
        ctx.userAgent hs (now + sshTicketLifetime)) := by
  unfold TicketRegistry.issue
  split
  · exact .inl ⟨_, rfl⟩
  next principal hprin =>
    obtain ⟨claims, hclaims, rfl⟩ := sshPrincipal_eq_some.mp hprin
    split
    · exact .inl ⟨_, rfl⟩
    next buffer _ _ =>
      by_cases hfull : maxPendingSSHTickets ≤ (r.cleanupLocked now).tickets.size
      · exact .inr (.inl (if_pos hfull))
      · exact .inr (.inr ⟨claims, _, hclaims, not_le.mp hfull, if_neg hfull⟩)

/-- What `consume` can do. A ticket that was found is gone afterwards, whatever comes of it. -/
lemma consume_cases (r : TicketRegistry) (ctx : SshContext) (now : Int) :
    r.consume ctx now = (none, r) ∨ r.consume ctx now = (none, r.cleanupLocked now) ∨
    ∃ claims value ticket, sshClaims ctx = some claims ∧ ticketCookie ctx = some value ∧
      (r.cleanupLocked now).tickets.lookup value = some ticket ∧
      (r.consume ctx now).2 = (r.cleanupLocked now).discard value ticket ∧
      ((r.consume ctx now).1 = none ∨ (r.consume ctx now).1 = some ⟨ticket.username,
          (r.cleanupLocked now).buffers.getD ticket.password [], ticket.port⟩ ∧
        now < ticket.expires ∧ ticket.principal = claims.principal ∧
        ticket.userAgent = ctx.userAgent) := by
  unfold TicketRegistry.consume
  split
  next principal value hprin hcookie =>
    obtain ⟨claims, hclaims, rfl⟩ := sshPrincipal_eq_some.mp hprin
    simp only
    split
    · exact .inr (.inl rfl)
    next ticket htck =>
      refine .inr (.inr ⟨claims, value, ticket, hclaims, hcookie, htck, ?_, ?_⟩)
      · unfold TicketRegistry.redeem
        split <;> rfl
      · unfold TicketRegistry.redeem
        split
        · exact .inl rfl
        next hg =>
          simp only [not_or, not_not] at hg
          exact .inr ⟨rfl, hg⟩
  · exact .inl rfl

/-- A ticket that a good registry has gives back what was issued. -/
lemma SshTicket.Of.handshake_eq {ticket : SshTicket} {i : TicketIssue} {buffers : List Bytes}
    (h : ticket.Of i buffers) :
    (⟨ticket.username, buffers.getD ticket.password [], ticket.port⟩ : Handshake) = i.handshake := by
  rw [h.username, h.port, getD_eq_getElem?_getD, h.password]
  rfl

end

/-! ## 6. Runs -/

/-- The use is of the ticket that was issued: by the one it was issued to, in time, and for the
credentials that were given. -/
structure TicketUse.Of (u : TicketUse) (i : TicketIssue) : Prop where
  value : u.value = i.value
  claims : u.claims = i.claims
  userAgent : u.userAgent = i.userAgent
  handshake : u.handshake = i.handshake
  before : u.now < i.expires

structure TicketSystem.Good (s : TicketSystem) : Prop where
  registry : s.registry.Good s.issues
  values : (s.issues.map (·.value)).Nodup
  once : (s.uses.map (·.value)).Nodup
  gone : ∀ u ∈ s.uses, s.registry.tickets.lookup u.value = none
  bound : ∀ u ∈ s.uses, ∃ i ∈ s.issues, u.Of i

namespace TicketSystem.Good

variable {s : TicketSystem}

section

variable (h : s.Good)
include h

lemma shrink {r : TicketRegistry} (hr : r.Good s.issues)
    (hsub : ∀ value ticket, r.tickets.lookup value = some ticket →
      s.registry.tickets.lookup value = some ticket)
    (clock : Int) (timers : List (Bytes × Int)) :
    TicketSystem.Good { s with registry := r, clock := clock, timers := timers } := by
  refine ⟨hr, h.values, h.once, fun u hu => ?_, h.bound⟩
  cases hlk : r.tickets.lookup u.value with
  | none => rfl
  | some ticket => cases (h.gone u hu).symm.trans (hsub _ _ hlk)

lemma cleanup (now : Int) : TicketSystem.Good { s with registry := s.registry.cleanupLocked now } :=
  h.shrink (h.registry.cleanupLocked now) (fun _ _ => lookup_cleanupLocked) s.clock s.timers

lemma discard {value : Bytes} {ticket : SshTicket}
    (htck : s.registry.tickets.lookup value = some ticket) (timers : List (Bytes × Int)) :
    TicketSystem.Good { s with registry := s.registry.discard value ticket, timers := timers } := by
  exact h.shrink (h.registry.discard htck)
    (fun _ _ ht => (NameTable.lookup_erase_eq_some.mp ht).2) s.clock timers

/-- A ticket that is used is gone, and so can not be used again. -/
lemma use {value : Bytes} {ticket : SshTicket} {claims : Claims} {userAgent : Bytes} {now : Int}
    (htck : s.registry.tickets.lookup value = some ticket) (htime : now < ticket.expires)
    (hprin : ticket.principal = claims.principal) (hagent : ticket.userAgent = userAgent) :
    TicketSystem.Good { s with
      registry := s.registry.discard value ticket
      uses := s.uses ++ [⟨value, claims, userAgent,
        ⟨ticket.username, s.registry.buffers.getD ticket.password [], ticket.port⟩, now⟩] } := by
  have hdisc := h.discard htck s.timers
  refine ⟨hdisc.registry, h.values, ?_, fun u hu => ?_, fun u hu => ?_⟩
  · rw [map_append, map_singleton, ← concat_eq_append]
    refine h.once.concat fun hv => ?_
    obtain ⟨u, hu, rfl⟩ := mem_map.mp hv
    cases (h.gone u hu).symm.trans htck
  · rcases mem_append.mp hu with hu | hu
    · exact hdisc.gone u hu
    · obtain rfl := mem_singleton.mp hu
      exact lookup_erase _ _
  · rcases mem_append.mp hu with hu | hu
    · exact h.bound u hu
    · obtain rfl := mem_singleton.mp hu
      obtain ⟨i, hi, hvalue, hof⟩ := h.registry.issued value ticket htck
      refine ⟨i, hi, hvalue.symm, ?_, ?_, hof.handshake_eq, hof.expires ▸ htime⟩
      · exact Claims.principal_injective (hprin.symm.trans hof.principal)
      · exact hagent.symm.trans hof.userAgent

lemma store {value : Bytes} {claims : Claims} {userAgent : Bytes} {handshake : Handshake}
    {expires : Int} (hrm : s.registry.tickets.size < maxPendingSSHTickets)
    (hfh : ∀ i ∈ s.issues, i.value ≠ value) (timers : List (Bytes × Int)) :
    TicketSystem.Good { s with
      registry := s.registry.store value claims.principal userAgent handshake expires
      timers := timers
      issues := s.issues ++ [⟨value, claims, userAgent, handshake, expires⟩] } := by
  refine ⟨h.registry.store hrm hfh, ?_, h.once, fun u hu => ?_, fun u hu => ?_⟩
  · rw [map_append, map_singleton, ← concat_eq_append]
    refine h.values.concat fun hv => ?_
    obtain ⟨i, hi, hvalue⟩ := mem_map.mp hv
    exact hfh i hi hvalue
  · obtain ⟨i, hi, hof⟩ := h.bound u hu
    rw [TicketRegistry.store, NameTable.lookup_bind, if_neg (hof.value ▸ hfh i hi)]
    exact h.gone u hu
  · obtain ⟨i, hi, hof⟩ := h.bound u hu
    exact ⟨i, mem_append_left _ hi, hof⟩

lemma issue {ctx : SshContext} {handshake : Handshake} {random : Bytes} {now : Int}
    (hfh : ∀ value, (s.registry.issue ctx handshake random now).1 = .ok value → ∀ i ∈ s.issues,
      i.value ≠ value) :
    (s.issue ctx handshake random now).Good := by
  unfold TicketSystem.issue
  rcases issue_cases s.registry ctx handshake random now with
    ⟨err, heq⟩ | heq | ⟨claims, value, hclaims, hrm, heq⟩
  · simpa only [heq] using h
  · simpa only [heq] using h.cleanup now
  · simpa only [heq, hclaims] using (h.cleanup now).store hrm (hfh value (congrArg Prod.fst heq)) _

lemma consume (ctx : SshContext) (now : Int) : (s.consume ctx now).Good := by
  unfold TicketSystem.consume
  rcases consume_cases s.registry ctx now with
    heq | heq | ⟨claims, value, ticket, hclaims, hcookie, htck, heq, hres⟩
  · simpa only [heq] using h
  · simpa only [heq] using h.cleanup now
  · rcases hres with hno | ⟨hso, htime, hprin, hagent⟩
    · simpa only [heq, hno] using (h.cleanup now).discard htck s.timers
    · simpa only [heq, hso, hclaims, hcookie] using (h.cleanup now).use htck htime hprin hagent

lemma expire (value : Bytes) (expires : Int) (timers : List (Bytes × Int)) :
    TicketSystem.Good { s with registry := s.registry.expire value expires, timers := timers } := by
  have hkeep : TicketSystem.Good { s with timers := timers } :=
    h.shrink h.registry (fun _ _ ht => ht) s.clock timers
  unfold TicketRegistry.expire
  split
  · exact hkeep
  next ticket htck =>
    split
    · exact h.discard htck timers
    · exact hkeep

/-- **Every step keeps it.** -/
theorem step {t : TicketSystem} (hst : TicketStep s t) : t.Good := by
  cases hst with
  | tick clock _ => exact h.shrink h.registry (fun _ _ ht => ht) clock s.timers
  | issue ctx handshake random now _ hfh => exact h.issue hfh
  | consume ctx now _ => exact h.consume ctx now
  | expire timer _ _ => exact h.expire timer.1 timer.2 _

end

lemma start (clock : Int) : (TicketSystem.start clock).Good := by
  have hno : ∀ value, (TicketSystem.start clock).registry.tickets.lookup value = none :=
    fun value => lookup_empty value
  refine ⟨⟨Nat.zero_le _, fun value ticket ht => ?_, fun value _ ticket _ ht => ?_, fun n buffer hn => ?_⟩,
    nodup_nil, nodup_nil, fun u hu => ?_, fun u hu => ?_⟩
  · cases (hno value).symm.trans ht
  · cases (hno value).symm.trans ht
  · cases hn
  · cases hu
  · cases hu

end TicketSystem.Good

/-- **A ticket is used once, by the one it was issued to, and its password is wiped.** In every run a
value is consumed at most once; whoever consumed it has the claims and the `User-Agent` it was issued
to, came before it expired, and got what was issued. At most sixty-four tickets are pending, and a
buffer that belongs to none of them holds zeros. -/
theorem ssh_tickets_single_use {clock : Int} {s : TicketSystem}
    (hrun : Reaches TicketStep (.start clock) s) :
    (s.uses.map (·.value)).Nodup ∧ (s.issues.map (·.value)).Nodup ∧
    (∀ u ∈ s.uses, ∃ i ∈ s.issues, u.value = i.value ∧ u.claims.id = i.claims.id ∧
      u.claims.username = i.claims.username ∧ u.userAgent = i.userAgent ∧ u.handshake = i.handshake ∧
      u.now < i.expires) ∧
    s.registry.tickets.size ≤ 64 ∧
    ∀ n buffer, s.registry.buffers[n]? = some buffer →
      (∀ value ticket, s.registry.tickets.lookup value = some ticket → ticket.password ≠ n) →
      ∀ b ∈ buffer, b = 0 := by
  have h : s.Good := hrun.invariant (TicketSystem.Good.start clock) fun _ _ hu hstep => hu.step hstep
  refine ⟨h.once, h.values, fun u hu => ?_, h.registry.size_le, h.registry.wiped⟩
  obtain ⟨i, hi, hof⟩ := h.bound u hu
  exact ⟨i, hi, hof.value, congrArg Claims.id hof.claims, congrArg Claims.username hof.claims,
    hof.userAgent, hof.handshake, hof.before⟩

/-- **Who gets a ticket.** In every run, `consume` hands a handshake out exactly if it was issued, under
the value of the cookie, to the caller's claims and `User-Agent`, has not expired, and is pending. -/
theorem ticket_redeemed_iff {clock : Int} {s : TicketSystem}
    (hrun : Reaches TicketStep (.start clock) s) (ctx : SshContext) (now : Int) (handshake : Handshake) :
    (s.registry.consume ctx now).1 = some handshake ↔ ∃ i ∈ s.issues, i.handshake = handshake ∧
      sshClaims ctx = some i.claims ∧ ticketCookie ctx = some i.value ∧ ctx.userAgent = i.userAgent ∧
      now < i.expires ∧ (s.registry.tickets.lookup i.value).isSome := by
  have h : s.Good := hrun.invariant (TicketSystem.Good.start clock) fun _ _ hu hstep => hu.step hstep
  have hgood := h.registry.cleanupLocked now
  constructor
  · intro hsome
    rcases consume_cases s.registry ctx now with heq | heq |
      ⟨claims, value, ticket, hclaims, hcookie, htck, -, hno | ⟨hso, htime, hprin, hagent⟩⟩
    · simp [heq] at hsome
    · simp [heq] at hsome
    · simp [hno] at hsome
    obtain ⟨i, hi, rfl, hof⟩ := hgood.issued value ticket htck
    obtain rfl := Claims.principal_injective (hof.principal.symm.trans hprin)
    refine ⟨i, hi, hof.handshake_eq.symm.trans (some.inj (hso.symm.trans hsome)), hclaims, hcookie,
      hagent.symm.trans hof.userAgent, hof.expires ▸ htime, ?_⟩
    simp [lookup_cleanupLocked htck]
  · rintro ⟨i, hi, rfl, hclaims, hcookie, hagent, hnow, hpend⟩
    obtain ⟨ticket, htck⟩ := isSome_iff_exists.mp hpend
    -- Values are issued once, so the pending ticket is that of `i`.
    have hsame {j : TicketIssue} (hj : j ∈ s.issues) (heq : j.value = i.value) : j = i :=
      inj_on_of_nodup_map h.values hj hi heq
    obtain ⟨j, hj, hvalue, hof⟩ := h.registry.issued _ _ htck
    cases hsame hj hvalue
    have hkept := lookup_cleanupLocked_of_lt htck (hof.expires ▸ hnow)
    obtain ⟨j, hj, hvalue, hof⟩ := hgood.issued _ _ hkept
    cases hsame hj hvalue
    rw [← hof.handshake_eq]
    simp [TicketRegistry.consume, sshPrincipal, hclaims, hcookie, hkept, TicketRegistry.redeem,
      hof.expires, hnow, hof.principal, hof.userAgent, hagent]

def sampleContext (cookies : List (Bytes × Bytes)) : SshContext := ⟨some ⟨7, [117]⟩, [98], cookies⟩

def sampleRandom : Bytes := List.replicate 32 1

def sampleIssued : TicketSystem :=
  (TicketSystem.start 0).issue (sampleContext []) ⟨[114], [1, 2], [50, 50]⟩ sampleRandom 0

def sampleTickets : TicketSystem :=
  sampleIssued.consume (sampleContext [(sshTicketCookieName, base64RawURL sampleRandom)]) 0

theorem sampleTickets_single_use : Reaches TicketStep (.start 0) sampleTickets ∧
    sampleTickets.uses.map (·.handshake) = [⟨[114], [1, 2], [50, 50]⟩] ∧
    sampleTickets.registry.buffers = [[0, 0]] ∧ (sampleTickets.uses.map (·.value)).Nodup := by
  have hissued : TicketStep (.start 0) sampleIssued :=
    .issue _ _ _ _ _ le_rfl (fun _ _ _ hi => nomatch hi)
  have hclock : sampleIssued.clock = 0 := by decide +kernel
  have hused : TicketStep sampleIssued sampleTickets := .consume _ _ _ (le_of_eq hclock.symm)
  have hrun : Reaches TicketStep (.start 0) sampleTickets :=
    (Relation.ReflTransGen.single hissued).tail hused
  exact ⟨hrun, by decide +kernel, by decide +kernel, (ssh_tickets_single_use hrun).1⟩

theorem sampleIssued_redeemed : ∃ i ∈ sampleIssued.issues, i.handshake = ⟨[114], [1, 2], [50, 50]⟩ := by
  have hrun : Reaches TicketStep (.start 0) sampleIssued :=
    .single (.issue _ _ _ _ _ le_rfl fun _ _ _ hi => nomatch hi)
  obtain ⟨i, hi, hissued, -⟩ := (ticket_redeemed_iff hrun
    (sampleContext [(sshTicketCookieName, base64RawURL sampleRandom)]) 5 ⟨[114], [1, 2], [50, 50]⟩).1
    (by decide +kernel)
  exact ⟨i, hi, hissued⟩

end ReCasaOS.Ssh
