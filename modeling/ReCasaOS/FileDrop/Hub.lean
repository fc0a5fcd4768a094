/-
# The file-drop hub

`route/v1/file.go`, `ConnectWebSocket` and what it starts. Peers are connected to a hub with room for
thirty-two. A peer has a queue of messages, which its write pump empties; the hub has a queue too, of
messages for everyone, which the monitoring loop hands out. Both are Go channels of capacity 64.

Three kinds of sends fill the queue of a peer. The monitoring loop and the read pumps of other peers
give up when it is full (`Peer.offer`). The handler that connects the peer does not: it puts three
messages into the queue and waits for room, and it starts the write pump only after them. All this
time the peer is in the hub, and its queue is open to the others.

A hub is a list of peers, by their connection; connections have fresh ids. One step of the system is one
channel operation, one section under the lock of the hub, or one message from a socket. A message that
came from a socket is what `normalizeClientPeerMessage` makes of it. The database of peers plays no part.
-/
import ReCasaOS.Lib.Bytes
import ReCasaOS.Lib.Transition

namespace ReCasaOS.FileDrop

open Lib List Option

/-! ## 1. Peers -/

inductive HubMessage
  | peerJoined (peer : Nat)
  | peerLeft (peer : Nat)
  | ping
  | peers (ids : List Nat)
  | displayName (peer : Nat)
  /-- A message of a peer, with its sender. -/
  | chat (sender : Nat) (payload : Bytes)
  deriving DecidableEq

/-- How far `ConnectWebSocket` is, after `tryAdd`. -/
inductive HandlerPhase
  | refused
  /-- Before `handler.broadcast <- pby`. -/
  | announcing
  /-- Before `snapshot`. -/
  | listing
  /-- The messages that are still to be put into `client.send`. -/
  | sending (left : List HubMessage)
  | started
  deriving DecidableEq

inductive ReadPump
  | off
  | reading
  /-- Before `c.handler.broadcast <- message`. -/
  | sending (message : HubMessage) (leave : Bool)
  /-- Before `c.handler.get(target)`. -/
  | targeting (target : Nat) (message : HubMessage)
  /-- Before `toC.send <- message`. -/
  | offering (target : Nat) (message : HubMessage)
  /-- Before `shutdown`. -/
  | leaving
  | done
  deriving DecidableEq

inductive WritePump
  | off
  | waiting
  | writing
  /-- Before `shutdown`. -/
  | leaving
  | done
  deriving DecidableEq

/-- `Client`, and the goroutines it has. -/
structure Peer where
  phase : HandlerPhase
  /-- It is in `handler.clients`. -/
  member : Bool
  /-- `client.send`. -/
  queue : List HubMessage
  readPump : ReadPump
  writePump : WritePump
  /-- `client.done` is closed, and the connection. -/
  closed : Bool
  deriving DecidableEq

/-- The capacity of `client.send`. -/
def sendCapacity : Nat := 64

/-- The capacity of `handler.broadcast`. -/
def broadcastCapacity : Nat := 64

def maxFilePeers : Nat := 32

namespace Peer

/-- `select { case client.send <- message: default: }`. -/
def offer (message : HubMessage) (p : Peer) : Peer :=
  if p.queue.length < sendCapacity then { p with queue := p.queue ++ [message] } else p

def shutdown (p : Peer) : Peer := { p with member := false, closed := true }

/-- `client.send <- message` in the handler. -/
def sendNext (p : Peer) : Option Peer :=
  match p.phase with
  | .sending (message :: left) =>
    if p.queue.length < sendCapacity then
      some { p with phase := .sending left, queue := p.queue ++ [message] }
    else none
  | _ => none

/-- `go client.writePump()` and `go client.readPump()`. -/
def startPumps (p : Peer) : Option Peer :=
  if p.phase = .sending [] then
    some { p with phase := .started, readPump := .reading, writePump := .waiting }
  else none

/-- The next step of the write pump: a message from the queue, which can be written if `ok`. -/
def writeStep (ok : Bool) (p : Peer) : Option Peer :=
  match p.writePump, p.queue with
  | .waiting, _ :: queue => some { p with queue := queue, writePump := .writing }
  | .writing, _ => some { p with writePump := if ok then .waiting else .leaving }
  | .leaving, _ => some { p with writePump := .done }.shutdown
  | _, _ => none

/-- The write pump stops waiting, at the end of its lifetime or because the peer is closed. -/
def endWrite (p : Peer) : Option Peer :=
  if p.writePump = .waiting then some { p with writePump := .leaving } else none

end Peer

/-- What `ReadMessage` and `normalizeClientPeerMessage` return. -/
inductive Incoming
  | readError
  | malformed
  | disconnect
  | pong
  | targeted (target : Nat) (payload : Bytes)
  | everyone (payload : Bytes)

/-! ## 2. The hub -/

/-- `monitoring`. -/
inductive Monitor
  | idle
  /-- Before `snapshot`. -/
  | received (message : HubMessage)
  /-- The peers to which the message has still to be offered. -/
  | delivering (message : HubMessage) (ids : List Nat)
  deriving DecidableEq

structure Hub where
  peers : List Peer
  /-- `handler.broadcast`. -/
  broadcast : List HubMessage
  monitor : Monitor
  /-- Goroutines of the timer, which wait to broadcast a ping. -/
  pings : Nat

/-- Who makes the next step. -/
inductive HubAction
  /-- `tryAdd`. -/
  | connect
  | announce (i : Nat)
  | list (i : Nat)
  | send (i : Nat)
  | start (i : Nat)
  | tick
  | ping
  | monitor
  | receive (i : Nat) (input : Incoming)
  | read (i : Nat)
  | write (i : Nat) (ok : Bool)
  | endWrite (i : Nat)

namespace Hub

def empty : Hub := ⟨[], [], .idle, 0⟩

/-- The ids in `handler.clients`. -/
def members (h : Hub) : List Nat :=
  (List.range h.peers.length).filter fun i => (h.peers[i]?.map Peer.member).getD false

/-- A peer after `tryAdd(client, 32)`. -/
def newPeer (h : Hub) : Peer :=
  let admitted := decide (h.members.length < maxFilePeers)
  ⟨if admitted then .announcing else .refused, admitted, [], .off, .off, false⟩

def onPeer (h : Hub) (i : Nat) (f : Peer → Option Peer) : Option Hub := do
  let p ← h.peers[i]?
  let p' ← f p
  some { h with peers := h.peers.set i p' }

/-- `handler.broadcast <- message`. -/
def say (h : Hub) (message : HubMessage) : Option Hub :=
  if h.broadcast.length < broadcastCapacity then some { h with broadcast := h.broadcast ++ [message] }
  else none

/-- What `readPump` does with a message. Only an error comes from a connection that is closed. -/
def receive (i : Nat) (input : Incoming) (p : Peer) : Option Peer :=
  if p.readPump ≠ .reading then none
  else
    match input with
    | .readError => some { p with readPump := .sending (.peerLeft i) true }
    | input =>
      if p.closed then none
      else
        match input with
        | .disconnect => some { p with readPump := .sending (.peerLeft i) true }
        | .targeted target payload => some { p with readPump := .targeting target (.chat i payload) }
        | .everyone payload => some { p with readPump := .sending (.chat i payload) false }
        | _ => some p

/-- The next step of the read pump. -/
def readStep (h : Hub) (i : Nat) (p : Peer) : Option Hub :=
  match p.readPump with
  | .sending message leave =>
    { h with peers := h.peers.set i { p with readPump :=
      if leave then .leaving else .reading } }.say message
  | .targeting target message =>
    let next := if target ∈ h.members then .offering target message else .reading
    some { h with peers := h.peers.set i { p with readPump := next } }
  | .offering target message =>
    let peers := h.peers.set i { p with readPump := .reading }
    some { h with peers := peers.modify target (Peer.offer message) }
  | .leaving => some { h with peers := h.peers.set i { p with readPump := .done }.shutdown }
  | _ => none

/-- The next step of `monitoring`. -/
def monitorStep (h : Hub) : Option Hub :=
  match h.monitor with
  | .idle =>
    match h.broadcast with
    | [] => none
    | message :: rest => some { h with broadcast := rest, monitor := .received message }
  | .received message => some { h with monitor := .delivering message h.members }
  | .delivering _ [] => some { h with monitor := .idle }
  | .delivering message (i :: ids) =>
    some { h with peers := h.peers.modify i (Peer.offer message), monitor := .delivering message ids }

def act (h : Hub) : HubAction → Option Hub
  | .connect => some { h with peers := h.peers ++ [h.newPeer] }
  | .announce i => do
    let h ← h.onPeer i fun p => if p.phase = .announcing then some { p with phase := .listing } else none
    h.say (.peerJoined i)
  | .list i => h.onPeer i fun p =>
    if p.phase = .listing then
      some { p with phase := .sending [.peers h.members, .ping, .displayName i] }
    else none
  | .send i => h.onPeer i Peer.sendNext
  | .start i => h.onPeer i Peer.startPumps
  | .tick => some { h with pings := h.pings + 1 }
  | .ping => if 0 < h.pings then { h with pings := h.pings - 1 }.say .ping else none
  | .monitor => h.monitorStep
  | .receive i input => h.onPeer i (receive i input)
  | .read i => h.peers[i]?.bind (h.readStep i)
  | .write i ok => h.onPeer i (Peer.writeStep ok)
  | .endWrite i => h.onPeer i Peer.endWrite

end Hub

def HubStep (h t : Hub) : Prop := ∃ a, h.act a = some t

/-! ## 3. What a step does to a peer -/

/-- The handler has not come to an end. -/
def HandlerPhase.Starting : HandlerPhase → Prop
  | .refused => False
  | .started => False
  | _ => True

/-- The messages that the handler has still to put into the queue of its peer. -/
def HandlerPhase.sendsLeft : HandlerPhase → Nat
  | .announcing => 3
  | .listing => 3
  | .sending left => left.length
  | _ => 0

/-- The pumps of a peer do not run before its handler has started them, and a peer stays in the hub until
then. -/
structure Peer.Good (p : Peer) : Prop where
  queue_le : p.queue.length ≤ sendCapacity
  pumps_off : p.phase ≠ .started → p.readPump = .off ∧ p.writePump = .off
  member : p.phase.Starting → p.member

inductive PeerStep (p p' : Peer) : Prop
  | stay : p' = p → PeerStep p p'
  | offered (message : HubMessage) : p' = p.offer message → PeerStep p p'
  | announced : p.phase = .announcing → p' = { p with phase := .listing } → PeerStep p p'
  | listed (a b c : HubMessage) : p.phase = .listing → p' = { p with phase := .sending [a, b, c] } →
    PeerStep p p'
  | sent (message : HubMessage) (left : List HubMessage) : p.phase = .sending (message :: left) →
    p.queue.length < sendCapacity →
    p' = { p with phase := .sending left, queue := p.queue ++ [message] } → PeerStep p p'
  | begun : p.phase = .sending [] →
    p' = { p with phase := .started, readPump := .reading, writePump := .waiting } → PeerStep p p'
  /-- A step of a pump. -/
  | pumped : p.phase = .started → p'.phase = .started → p'.queue.length ≤ sendCapacity → PeerStep p p'

/-- What a step does to the peers that there are. -/
structure PeersStep (l l' : List Peer) : Prop where
  length_eq : l'.length = l.length
  step : ∀ (i : Nat) (p : Peer), l[i]? = some p → ∃ p', l'[i]? = some p' ∧ PeerStep p p'

def Hub.Good (h : Hub) : Prop := ∀ p ∈ h.peers, p.Good

section

variable {s t : Hub} {p p' : Peer} {i : Nat}

lemma Peer.phase_offer (message : HubMessage) (p : Peer) : (p.offer message).phase = p.phase := by
  unfold Peer.offer
  split <;> rfl

lemma Peer.length_offer_le {message : HubMessage} (hp : p.queue.length ≤ sendCapacity) :
    (p.offer message).queue.length ≤ sendCapacity := by
  unfold Peer.offer
  split
  · rw [length_append, length_singleton]
    omega
  · exact hp

lemma onPeer_eq_some {f : Peer → Option Peer} : s.onPeer i f = some t ↔
      ∃ p p', s.peers[i]? = some p ∧ f p = some p' ∧ { s with peers := s.peers.set i p' } = t := by
  unfold Hub.onPeer
  simp only [bind_eq_bind, bind_eq_some_iff, some.injEq]
  constructor
  · rintro ⟨p, hp, p', hp', rfl⟩
    exact ⟨p, p', hp, hp', rfl⟩
  · rintro ⟨p, p', hp, hp', rfl⟩
    exact ⟨p, hp, p', hp', rfl⟩

lemma say_eq_some {message : HubMessage} :
    s.say message = some t ↔ s.broadcast.length < broadcastCapacity ∧
      { s with broadcast := s.broadcast ++ [message] } = t := by
  unfold Hub.say
  split
  · simp_all
  · simp_all

variable {l : List Peer}

lemma PeersStep.set (hp : l[i]? = some p) (hst : PeerStep p p') : PeersStep l (l.set i p') := by
  refine ⟨length_set, fun j q hq => ?_⟩
  by_cases hij : i = j
  · subst hij
    obtain rfl := some.inj (hp.symm.trans hq)
    exact ⟨p', getElem?_set_self (List.getElem?_eq_some_iff.mp hp).1, hst⟩
  · exact ⟨q, by rw [getElem?_set_ne hij]; exact hq, .stay rfl⟩

lemma PeersStep.offer (message : HubMessage) (i : Nat) :
    PeersStep l (l.modify i (Peer.offer message)) := by
  refine ⟨length_modify _ _ _, fun j q hq => ?_⟩
  rw [getElem?_modify, hq]
  split
  · exact ⟨_, rfl, .offered message rfl⟩
  · exact ⟨_, rfl, .stay rfl⟩

lemma PeersStep.refl (l : List Peer) : PeersStep l l := ⟨rfl, fun _ p hp => ⟨p, hp, .stay rfl⟩⟩

/-- The read pump of a peer, and what it offers to another one. -/
lemma PeersStep.read (p' : Peer) (hp : l[i]? = some p) (hph : p.phase = .started)
    (hph' : p'.phase = .started) (hqueue : p'.queue.length ≤ sendCapacity) (target : Nat)
    (message : HubMessage) : PeersStep l ((l.set i p').modify target (Peer.offer message)) := by
  refine ⟨(length_modify _ _ _).trans length_set, fun j q hq => ?_⟩
  by_cases hij : i = j
  · subst hij
    obtain rfl := some.inj (hp.symm.trans hq)
    rw [getElem?_modify, getElem?_set_self (List.getElem?_eq_some_iff.mp hp).1]
    refine ⟨_, rfl, .pumped hph ?_ ?_⟩
    · split
      · exact (Peer.phase_offer message p').trans hph'
      · exact hph'
    · split
      · exact Peer.length_offer_le hqueue
      · exact hqueue
  · rw [getElem?_modify, getElem?_set_ne hij, hq]
    split
    · exact ⟨_, rfl, .offered message rfl⟩
    · exact ⟨_, rfl, .stay rfl⟩

/-- **A step keeps a peer good.** -/
theorem PeerStep.good (hst : PeerStep p p') (hp : p.Good) : p'.Good := by
  cases hst with
  | stay heq => exact heq ▸ hp
  | offered message heq =>
    subst heq
    refine ⟨Peer.length_offer_le hp.queue_le, fun hph => ?_, fun hph => ?_⟩
    · rw [Peer.phase_offer] at hph
      unfold Peer.offer
      split <;> exact hp.pumps_off hph
    · rw [Peer.phase_offer] at hph
      unfold Peer.offer
      split <;> exact hp.member hph
  | announced hph heq | listed _ _ _ hph heq =>
    subst heq
    exact ⟨hp.queue_le, fun _ => hp.pumps_off (by simp [hph]),
      fun _ => hp.member (by simp [hph, HandlerPhase.Starting])⟩
  | sent message left hph hrm heq =>
    subst heq
    refine ⟨?_, fun _ => hp.pumps_off (by simp [hph]),
      fun _ => hp.member (by simp [hph, HandlerPhase.Starting])⟩
    rw [length_append, length_singleton]
    omega
  | begun hph heq =>
    subst heq
    exact ⟨hp.queue_le, fun hne => absurd rfl hne, fun hf => hf.elim⟩
  | pumped hph hph' hqueue =>
    exact ⟨hqueue, fun hne => absurd hph' hne, fun hstrt => by
      rw [hph'] at hstrt
      exact hstrt.elim⟩

/-- A pump that is on belongs to a handler that is done. -/
lemma Peer.Good.started (hp : p.Good) (hon : p.readPump ≠ .off ∨ p.writePump ≠ .off) :
    p.phase = .started := by
  by_contra hph
  obtain ⟨hrd, hwrt⟩ := hp.pumps_off hph
  exact hon.elim (fun h => h hrd) fun h => h hwrt

lemma PeerStep.of_sendNext (h : p.sendNext = some p') : PeerStep p p' := by
  unfold Peer.sendNext at h
  split at h
  next message left hph =>
    split at h
    next hrm =>
      exact .sent message left hph hrm (some.inj h).symm
    · cases h
  · cases h

lemma PeerStep.of_startPumps (h : p.startPumps = some p') : PeerStep p p' := by
  unfold Peer.startPumps at h
  split at h
  next hph =>
    exact .begun hph (some.inj h).symm
  · cases h

lemma PeerStep.of_writeStep {ok : Bool} (hp : p.Good) (h : p.writeStep ok = some p') :
    PeerStep p p' := by
  have hqueue := hp.queue_le
  unfold Peer.writeStep at h
  split at h
  next message queue hpump hmsgs =>
    have hbg := hp.started (Or.inr (by simp [hpump]))
    cases h
    rw [hmsgs, length_cons] at hqueue
    exact .pumped hbg hbg (by simp only; omega)
  next hpump =>
    have hbg := hp.started (Or.inr (by simp [hpump]))
    cases h
    exact .pumped hbg hbg hqueue
  next hpump =>
    have hbg := hp.started (Or.inr (by simp [hpump]))
    cases h
    exact .pumped hbg hbg hqueue
  · cases h

lemma PeerStep.of_endWrite (hp : p.Good) (h : p.endWrite = some p') : PeerStep p p' := by
  unfold Peer.endWrite at h
  split at h
  next hpump =>
    have hbg := hp.started (Or.inr (by simp [hpump]))
    cases h
    exact .pumped hbg hbg hp.queue_le
  · cases h

lemma PeerStep.of_receive {input : Incoming} (hp : p.Good) (h : Hub.receive i input p = some p') :
    PeerStep p p' := by
  unfold Hub.receive at h
  split at h
  · cases h
  next hpump =>
    have hbg := hp.started (Or.inl (by rw [not_not.mp hpump]; simp))
    have hpumped : ∀ pump, PeerStep p { p with readPump := pump } := fun pump =>
      .pumped hbg hbg hp.queue_le
    split at h
    · exact some.inj h ▸ hpumped _
    · split at h
      · cases h
      · split at h
        · exact some.inj h ▸ hpumped _
        · exact some.inj h ▸ hpumped _
        · exact some.inj h ▸ hpumped _
        · exact .stay (some.inj h).symm

lemma PeersStep.of_onPeer {f : Peer → Option Peer} (h : s.onPeer i f = some t)
    (hf : ∀ p p', s.peers[i]? = some p → f p = some p' → PeerStep p p') : PeersStep s.peers t.peers := by
  obtain ⟨p, p', hp, hp', rfl⟩ := onPeer_eq_some.mp h
  exact PeersStep.set hp (hf p p' hp hp')

lemma PeersStep.of_readStep (hp : s.peers[i]? = some p) (hg : p.Good)
    (h : s.readStep i p = some t) : PeersStep s.peers t.peers := by
  have hpumped : ∀ pump, p.readPump ≠ .off → PeerStep p { p with readPump := pump } := fun pump hon =>
    .pumped (hg.started (.inl hon)) (hg.started (.inl hon)) hg.queue_le
  unfold Hub.readStep at h
  split at h
  next message leave hpump =>
    obtain ⟨-, rfl⟩ := say_eq_some.mp h
    exact PeersStep.set hp (hpumped _ (by simp [hpump]))
  next target message hpump =>
    cases h
    exact PeersStep.set hp (hpumped _ (by simp [hpump]))
  next target message hpump =>
    cases h
    have hbg := hg.started (Or.inl (by simp [hpump]))
    exact PeersStep.read { p with readPump := .reading } hp hbg hbg hg.queue_le target message
  next hpump =>
    cases h
    have hbg := hg.started (Or.inl (by simp [hpump]))
    exact PeersStep.set hp (.pumped hbg hbg hg.queue_le)
  · cases h

lemma PeersStep.of_monitorStep (h : s.monitorStep = some t) : PeersStep s.peers t.peers := by
  unfold Hub.monitorStep at h
  split at h
  · split at h
    · cases h
    · cases h
      exact .refl _
  · cases h
    exact .refl _
  · cases h
    exact .refl _
  · cases h
    exact .offer _ _

variable {a : HubAction}

/-- **What any step does to the peers.** -/
theorem peers_of_act (hs : s.Good) (h : s.act a = some t) :
    t.peers = s.peers ++ [s.newPeer] ∨ PeersStep s.peers t.peers := by
  have hg : ∀ {i : Nat} {p : Peer}, s.peers[i]? = some p → p.Good := fun hp => hs _ (mem_of_getElem? hp)
  cases a with
  | connect =>
    cases h
    exact .inl rfl
  | announce i =>
    right
    obtain ⟨u, hu, hsay⟩ := bind_eq_some_iff.mp h
    have hpeers : t.peers = u.peers := by
      obtain ⟨-, rfl⟩ := say_eq_some.mp hsay
      rfl
    rw [hpeers]
    refine PeersStep.of_onPeer hu fun p p' hp hp' => ?_
    split at hp'
    next hph =>
      exact .announced hph (some.inj hp').symm
    · cases hp'
  | list i =>
    right
    refine PeersStep.of_onPeer h fun p p' hp hp' => ?_
    split at hp'
    next hph =>
      exact .listed _ _ _ hph (some.inj hp').symm
    · cases hp'
  | send i => exact .inr (PeersStep.of_onPeer h fun _ _ _ hp' => .of_sendNext hp')
  | start i => exact .inr (PeersStep.of_onPeer h fun _ _ _ hp' => .of_startPumps hp')
  | tick =>
    right
    cases h
    exact .refl _
  | ping =>
    right
    change (if 0 < s.pings then _ else none) = some t at h
    split at h
    · obtain ⟨-, rfl⟩ := say_eq_some.mp h
      exact .refl _
    · cases h
  | monitor => exact .inr (PeersStep.of_monitorStep h)
  | receive i input => exact .inr (PeersStep.of_onPeer h fun _ _ hp hp' => .of_receive (hg hp) hp')
  | read i =>
    right
    obtain ⟨p, hp, h⟩ := bind_eq_some_iff.mp h
    exact .of_readStep hp (hg hp) h
  | write i ok => exact .inr (PeersStep.of_onPeer h fun _ _ hp hp' => .of_writeStep (hg hp) hp')
  | endWrite i => exact .inr (PeersStep.of_onPeer h fun _ _ hp hp' => .of_endWrite (hg hp) hp')

lemma good_newPeer (s : Hub) : s.newPeer.Good := by
  refine ⟨Nat.zero_le _, fun _ => ⟨rfl, rfl⟩, fun hstrt => ?_⟩
  unfold Hub.newPeer at hstrt ⊢
  by_cases hrm : s.members.length < maxFilePeers
  · simp [hrm]
  · simp [hrm, HandlerPhase.Starting] at hstrt

lemma getElem?_of_act (hs : s.Good) (h : s.act a = some t) (hp : s.peers[i]? = some p) :
    ∃ p', t.peers[i]? = some p' ∧ PeerStep p p' := by
  rcases peers_of_act hs h with hnew | hst
  · refine ⟨p, ?_, .stay rfl⟩
    rw [hnew, getElem?_append_left (List.getElem?_eq_some_iff.mp hp).1]
    exact hp
  · exact hst.step i p hp

/-- **Every step keeps all peers good.** -/
theorem Hub.Good.act (hs : s.Good) (h : s.act a = some t) : t.Good := by
  intro q hq
  rcases peers_of_act hs h with hnew | hst
  · rw [hnew] at hq
    rcases mem_append.mp hq with hq | hq
    · exact hs q hq
    · exact mem_singleton.mp hq ▸ good_newPeer s
  · obtain ⟨i, hi⟩ := mem_iff_getElem?.mp hq
    have hlt : i < s.peers.length := hst.length_eq ▸ (List.getElem?_eq_some_iff.mp hi).1
    obtain ⟨q', hq', hpeer⟩ := hst.step i s.peers[i] (getElem?_eq_getElem hlt)
    obtain rfl := some.inj (hi.symm.trans hq')
    exact hpeer.good (hs _ (getElem_mem hlt))

/-- What the queue of a peer will hold once its handler has put everything into it. -/
def Peer.demand (p : Peer) : Nat := p.queue.length + p.phase.sendsLeft

/-- The queue will not take all that the handler still has to send. -/
def Peer.Stuck (p : Peer) : Prop := p.phase.Starting ∧ sendCapacity < p.demand

/-- **Once stuck, always stuck**: what the others put in only adds to it, what the handler puts in was
counted, and nothing is taken out. -/
theorem PeerStep.stuck (hst : PeerStep p p') (hp : p.Good) (hstuck : p.Stuck) : p'.Stuck := by
  obtain ⟨hstrt, hdem⟩ := hstuck
  unfold Peer.demand at hdem
  cases hst with
  | stay heq => exact heq ▸ ⟨hstrt, hdem⟩
  | offered message heq =>
    subst heq
    refine ⟨(Peer.phase_offer message p).symm ▸ hstrt, ?_⟩
    unfold Peer.demand
    rw [Peer.phase_offer]
    refine hdem.trans_le (Nat.add_le_add_right ?_ _)
    unfold Peer.offer
    split
    · rw [length_append]
      exact Nat.le_add_right _ _
    · exact le_refl _
  | announced hph heq =>
    subst heq
    rw [hph] at hdem
    exact ⟨trivial, hdem⟩
  | listed a b c hph heq =>
    subst heq
    rw [hph] at hdem
    exact ⟨trivial, hdem⟩
  | sent message left hph hrm heq =>
    subst heq
    rw [hph] at hdem
    refine ⟨trivial, ?_⟩
    unfold Peer.demand
    simp only [HandlerPhase.sendsLeft, length_cons, length_append, length_nil] at hdem ⊢
    omega
  | begun hph heq =>
    -- An empty list of messages and a queue within its capacity do not exceed the capacity.
    rw [hph] at hdem
    exact absurd hp.queue_le (not_le.mpr hdem)
  | pumped hph _ _ =>
    rw [hph] at hstrt
    exact hstrt.elim

/-- The handler of the peer is stuck. -/
def Hub.StuckAt (i : Nat) (s : Hub) : Prop := s.Good ∧ ∃ p, s.peers[i]? = some p ∧ p.Stuck

lemma Hub.StuckAt.of_reaches (hs : s.StuckAt i) (hrun : Reaches HubStep s t) : t.StuckAt i := by
  refine hrun.invariant hs ?_
  rintro u v ⟨hu, q, hq, hqstuck⟩ ⟨a, ha⟩
  obtain ⟨q', hq', hst⟩ := getElem?_of_act hu ha hq
  exact ⟨hu.act ha, q', hq', hst.stuck (hu q (mem_of_getElem? hq)) hqstuck⟩

end

/-! ## 6. Who is served -/

def Hub.run (h : Hub) : List HubAction → Option Hub
  | [] => some h
  | a :: actions => (h.act a).bind fun t => t.run actions

end ReCasaOS.FileDrop
