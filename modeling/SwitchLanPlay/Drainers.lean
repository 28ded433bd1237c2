import SwitchLanPlay.Drain
import SwitchLanPlay.Handoff
import SwitchLanPlay.RelayDelivery
import SwitchLanPlay.ServiceCalls
/-!
# Drainers — the two threads that drain the relay (source/bsd/bsd_bridge_service.cpp)

`DrainRawRelayQueue` runs on the background drain thread and, inside the commands, on the dispatch thread.  A packet is
popped under the relay queue's lock and filed under another, so a thread can overtake the other in between.  While every
packet is filed in its turn, the datagrams of a port are received and the segments of a peer handled in the order in which
the relay's packets were queued (`arrival_order`).
-/
namespace Slp

open Wire

inductive Drainer where
  | background
  | dispatch
  deriving DecidableEq

/-- What keeps packets in line: the port of a datagram, the source of a segment. -/
inductive Flow where
  | udp (port : UInt16)
  | tcp (peer : UInt32)
  deriving DecidableEq

def flowOf (pkt : Bytes) : Option Flow :=
  if pkt.length < 20 then none
  else
    let proto := byteAt pkt 9
    if proto = 17 then (parseIpv4Udp pkt).map (fun d => .udp d.dstPort)
    else if proto ≠ 6 then none
    else (parseIpv4Tcp pkt).map (fun m => .tcp m.srcIp)

/-- The packet reaches `HandleTcpSegment`. -/
def Console.handles (C : Console) (pkt : Bytes) : Bool :=
  decide (20 ≤ pkt.length) && byteAt pkt 9 == 6 && (parseIpv4Tcp pkt).any (fun m => m.dstPort == ldnControlPort) &&
    C.service.activeLdnInstance.isSome

/-- The console and what its two drainers hold, in the order it was popped.  Beside them the packets ever queued and ever
filed, the packets handled as segments, and what each port's socket has received. -/
structure Draining where
  console : Console := {}
  held : List (Drainer × Bytes) := []
  enqueued : List Bytes := []
  filed : List Bytes := []
  handled : List Bytes := []
  received : UInt16 → List ControlPacket := fun _ => []

namespace Draining

/-- One critical section: of the pump thread, of a drainer, of `RecvFrom`, or anything else the console does. -/
inductive Op where
  | arrive (datagram : Bytes)
  | pop (i : Drainer)
  | file (i : Drainer) (ourIsn : UInt32)
  | recvFrom (port : UInt16)
  | other (op : Service.Op)

def relay (D : Draining) : RelayBridge := D.console.service.relay

def setService (D : Draining) (S : Service) : Draining := { D with console := { D.console with service := S } }

def setRelay (D : Draining) (relay : RelayBridge) : Draining := D.setService { D.console.service with relay := relay }

def arrive (D : Draining) (datagram : Bytes) : Draining :=
  { D.setRelay (D.relay.pump datagram) with
    enqueued := D.enqueued ++ (D.relay.pump datagram).queued.drop D.relay.queued.length }

/-- A drainer pops when it has filed what it popped before. -/
def pop (D : Draining) (i : Drainer) : Draining :=
  if D.held.any (fun e => e.1 == i) then D
  else
    match D.relay.popIpv4 drainBufSize with
    | (relay, none) => D.setRelay relay
    | (relay, some pkt) => { D.setRelay relay with held := D.held ++ [(i, pkt)] }

def file (D : Draining) (i : Drainer) (ourIsn : UInt32) : Draining :=
  match D.held.find? (fun e => e.1 == i) with
  | none => D
  | some (_, pkt) =>
    { D with
      console := (D.console.drainPacket ourIsn pkt).1
      held := D.held.eraseP (fun e => e.1 == i)
      filed := D.filed ++ [pkt]
      handled := if D.console.handles pkt then D.handled ++ [pkt] else D.handled }

/-- `RecvFrom` on a bridged socket of the port takes a packet out of the control queue. -/
def recvFrom (D : Draining) (port : UInt16) : Draining :=
  match D.console.controlQueue.popControlPacketForPort port with
  | none => D
  | some (p, q) =>
    { D with
      console := { D.console with controlQueue := q }
      received := Function.update D.received port (D.received port ++ [p]) }

/-- Segments are handled by the drainers alone. -/
def other (D : Draining) : Service.Op → Draining
  | .drainSegment _ _ => D
  | op => D.setService (D.console.service.step op).1

def step (D : Draining) : Op → Draining
  | .arrive datagram => D.arrive datagram
  | .pop i => D.pop i
  | .file i ourIsn => D.file i ourIsn
  | .recvFrom port => D.recvFrom port
  | .other op => D.other op

/-- The packets between the relay and the queues they are filed in. -/
def handoff (D : Draining) : Handoff Drainer Bytes := ⟨D.relay.queued, D.held, D.filed⟩

/-- A packet is filed when no packet of its flow was popped before it and is still held. -/
def InTurn (D : Draining) : Op → Prop
  | .file i _ => D.handoff.InTurn flowOf i
  | _ => True

instance (D : Draining) (op : Op) : Decidable (D.InTurn op) := by
  cases op <;> unfold InTurn <;> infer_instance

inductive Reachable (ok : Draining → Op → Prop) : Draining → Prop
  | init : Reachable ok {}
  | step {D : Draining} (h : Reachable ok D) (op : Op) (hok : ok D op) : Reachable ok (D.step op)

def run (D : Draining) (ops : List Op) : Draining := ops.foldl step D

/-- Every step of the run meets `ok`. -/
def AllOk (ok : Draining → Op → Prop) : Draining → List Op → Prop
  | _, [] => True
  | D, op :: ops => ok D op ∧ AllOk ok (D.step op) ops

instance decidableAllOk {ok : Draining → Op → Prop} [hd : ∀ D op, Decidable (ok D op)] :
    ∀ (D : Draining) (ops : List Op), Decidable (AllOk ok D ops)
  | _, [] => isTrue trivial
  | D, op :: ops => @instDecidableAnd _ _ (hd D op) (decidableAllOk (D.step op) ops)

theorem reachable_run {ok : Draining → Op → Prop} : ∀ (ops : List Op) {D : Draining}, Reachable ok D → AllOk ok D ops →
    Reachable ok (D.run ops)
  | [], _, h, _ => h
  | op :: ops, _, h, hok => reachable_run ops (h.step op hok.1) hok.2

end Draining

/-! ## The relay's queue -/

namespace RelayBridge

theorem recvIpv4_queue (b : RelayBridge) (datagram : Bytes) (outBufSize : Nat) :
    (b.recvIpv4 datagram outBufSize).1.queue = b.queue := by
  unfold recvIpv4
  dsimp only
  split
  · rfl
  split
  · split <;> rfl
  · split <;> rfl
  · rfl

/-- **The pump thread appends at most one packet.** -/
theorem queued_pump (b : RelayBridge) (datagram : Bytes) :
    (b.pump datagram).queued = b.queued ∨ ∃ p, (b.pump datagram).queued = b.queued ++ [p] := by
  have hqueue := b.recvIpv4_queue datagram packetCap
  unfold pump queued
  generalize b.recvIpv4 datagram packetCap = r at hqueue
  obtain ⟨b', received⟩ := r
  cases received with
  | packet p =>
    dsimp only at hqueue ⊢
    rw [hqueue]
    by_cases hroom : b.queue.count < queueSize
    · exact .inr ⟨p.bytes, queue_push b.queue p hroom⟩
    · rw [RingQueue.push, dif_neg hroom]
      exact .inl rfl
  | handled => exact .inl (by rw [show b'.queue = b.queue from hqueue])
  | noData => exact .inl (by rw [show b'.queue = b.queue from hqueue])

/-- **A pop takes the oldest packet, or loses it when it outgrows the buffer.** -/
theorem queued_popIpv4 (b : RelayBridge) (outBufSize : Nat) :
    (b.queued = [] ∧ b.popIpv4 outBufSize = (b, none)) ∨
    ∃ p rest, b.queued = p :: rest ∧ (b.popIpv4 outBufSize).1.queued = rest ∧
      ((b.popIpv4 outBufSize).2 = some p ∨ (b.popIpv4 outBufSize).2 = none) := by
  unfold popIpv4 queued
  cases hf : b.queue.front? with
  | none =>
    refine .inl ⟨?_, rfl⟩
    rw [RingQueue.toList_of_front_none _ hf]
    rfl
  | some p =>
    refine .inr ⟨p.bytes, b.queue.pop.toList.map (·.bytes), ?_, rfl, ?_⟩
    · rw [RingQueue.toList_pop _ _ hf, List.map_cons]
    · dsimp only
      split
      · exact .inr rfl
      · exact .inl rfl

theorem queued_close (b : RelayBridge) : b.close.queued = [] := by
  simp [queued, close, RingQueue.clear, RingQueue.toList]

end RelayBridge

namespace Service

/-- The packets of the relay's queue stay, or leave it. -/
def KeepsQueue (S S' : Service) : Prop := S'.relay.queued.Sublist S.relay.queued

/-- The relay's queue stays, or is emptied. -/
def KeepsOrClears (S S' : Service) : Prop := S'.relay.queued = S.relay.queued ∨ S'.relay.queued = []

theorem keeps_of_queue {S S' : Service} (h : S'.relay.queue = S.relay.queue) : KeepsOrClears S S' :=
  .inl (by rw [RelayBridge.queued, h, RelayBridge.queued])

theorem clears_of_close {S S' : Service} (h : S'.relay = S.relay.close) : KeepsOrClears S S' :=
  .inr (by rw [h, RelayBridge.queued_close])

theorem connectRelay_queue (S : Service) (ok : Bool) : (S.connectRelay ok).relay.queue = S.relay.queue := by
  unfold connectRelay
  cases ok <;> rfl

section Keeps

variable (S : Service) (i : Nat) (fd : Int)

theorem bind_keepsOrClears (port : UInt16) (learnedIp : UInt32) (ok : Bool) :
    KeepsOrClears S (S.bind i fd port learnedIp ok) := by
  unfold bind
  split
  · exact keeps_of_queue rfl
  split
  · exact keeps_of_queue (ensureRelayConnected_keepsBridged _ ok).queue
  split <;> exact keeps_of_queue rfl

theorem close_keepsOrClears : KeepsOrClears S (S.close i fd).1 := by
  unfold close
  split
  · exact keeps_of_queue rfl
  dsimp only
  split
  · exact keeps_of_queue rfl
  · rw [KeepsOrClears, unbridge_relay]
    split
    · exact .inr (RelayBridge.queued_close _)
    · exact .inl rfl

theorem watchdog_keepsOrClears (now : UInt64) : KeepsOrClears S (S.watchdog now) := by
  unfold watchdog
  split
  · exact clears_of_close rfl
  · exact keeps_of_queue rfl

theorem forceReconnect_keepsOrClears (ok : Bool) : KeepsOrClears S (S.forceReconnect ok) := by
  refine .inr ?_
  rw [forceReconnect, RelayBridge.queued, connectRelay_queue]
  exact RelayBridge.queued_close S.relay

theorem step_keepsOrClears (op : Op) : KeepsOrClears S (S.step op).1 := by
  cases op with
  | bind i fd port learnedIp ok => exact S.bind_keepsOrClears i fd port learnedIp ok
  | close i fd => exact S.close_keepsOrClears i fd
  | watchdog now => exact S.watchdog_keepsOrClears now
  | forceReconnect ok => exact S.forceReconnect_keepsOrClears ok
  | stop => exact clears_of_close rfl
  | create => exact keeps_of_queue rfl
  | destroy i => exact keeps_of_queue rfl
  | _ => exact keeps_of_queue (step_keepsBridged S rfl).queue

/-- **No step of the service adds a packet to the relay's queue.** -/
theorem step_keepsQueue (op : Op) : KeepsQueue S (S.step op).1 := by
  rcases S.step_keepsOrClears op with hkeep | hclear
  · rw [KeepsQueue, hkeep]
  · rw [KeepsQueue, hclear]
    exact List.nil_sublist _

end Keeps

end Service

/-! ## What filing a packet does -/

namespace Console

theorem drainPacket_relay (C : Console) (ourIsn : UInt32) (pkt : Bytes) :
    (C.drainPacket ourIsn pkt).1.service.relay = C.service.relay := by
  unfold drainPacket
  split
  · rfl
  dsimp only
  split
  · rfl
  split
  · rfl
  split
  · rfl
  · exact C.service.drainSegment_relay _ _

/-- **A datagram's packet goes into the control queue under its port; no other packet does.** -/
theorem drainPacket_controlQueue (C : Console) (ourIsn : UInt32) (pkt : Bytes) :
    (∃ port, flowOf pkt = some (.udp port) ∧
      (C.drainPacket ourIsn pkt).1.controlQueue = C.controlQueue.push (ControlQueue.packetOf pkt port)) ∨
    ((∀ port, flowOf pkt ≠ some (.udp port)) ∧ (C.drainPacket ourIsn pkt).1.controlQueue = C.controlQueue) := by
  unfold drainPacket flowOf
  by_cases hlen : pkt.length < 20
  · rw [if_pos hlen, if_pos hlen]
    exact .inr ⟨fun _ hno => (by cases hno), rfl⟩
  rw [if_neg hlen, if_neg hlen]
  dsimp only
  by_cases hudp : byteAt pkt 9 = 17
  · rw [if_pos hudp, if_pos hudp, ControlQueue.file]
    cases parseIpv4Udp pkt with
    | none => exact .inr ⟨fun _ hno => (by cases hno), rfl⟩
    | some d => exact .inl ⟨d.dstPort, rfl, rfl⟩
  rw [if_neg hudp, if_neg hudp]
  split
  · exact .inr ⟨fun _ hno => (by cases hno), rfl⟩
  · cases parseIpv4Tcp pkt with
    | none => exact .inr ⟨fun _ hno => (by cases hno), rfl⟩
    | some m => exact .inr ⟨fun _ hno => (by cases hno), rfl⟩

/-- **Filing a packet adds nothing to the control queue, or the packet under its own port.** -/
theorem drainPacket_packets (C : Console) (ourIsn : UInt32) (pkt : Bytes) :
    (C.drainPacket ourIsn pkt).1.controlQueue.packets = C.controlQueue.packets ∨
    ∃ port, flowOf pkt = some (.udp port) ∧ (C.drainPacket ourIsn pkt).1.controlQueue.packets =
      C.controlQueue.packets ++ [ControlQueue.packetOf pkt port] := by
  rcases C.drainPacket_controlQueue ourIsn pkt with ⟨port, hflow, hq⟩ | ⟨-, hq⟩
  · rw [hq, ControlQueue.push]
    split
    · exact .inr ⟨port, hflow, rfl⟩
    · exact .inl rfl
  · rw [hq]
    exact .inl rfl

end Console

namespace Draining

open Handoff

/-- The datagrams among packets that are for a port, as they are filed. -/
def datagrams (port : UInt16) (pkts : List Bytes) : List ControlPacket :=
  (ofFlow flowOf (.udp port) pkts).map (fun pkt => ControlQueue.packetOf pkt port)

/-- What a run in turn keeps. -/
structure Ordered (D : Draining) : Prop where
  flows : D.handoff.InOrder flowOf D.enqueued
  received : ∀ port, (D.received port ++ D.console.controlQueue.packets.filter (fun p => p.dstPort == port)).Sublist
    (datagrams port D.filed)
  handled : D.handled.Sublist D.filed

theorem pop_of_none {D : Draining} {i : Drainer} {relay : RelayBridge} (hfree : ¬ D.held.any (fun e => e.1 == i) = true)
    (hpop : D.relay.popIpv4 drainBufSize = (relay, none)) : D.pop i = D.setRelay relay := by
  rw [pop, if_neg hfree, hpop]

theorem pop_of_some {D : Draining} {i : Drainer} {relay : RelayBridge} {pkt : Bytes}
    (hfree : ¬ D.held.any (fun e => e.1 == i) = true) (hpop : D.relay.popIpv4 drainBufSize = (relay, some pkt)) :
    D.pop i = { D.setRelay relay with held := D.held ++ [(i, pkt)] } := by
  rw [pop, if_neg hfree, hpop]

section Steps

variable {D : Draining} (h : D.Ordered)

include h

theorem ordered_arrive (datagram : Bytes) : (D.arrive datagram).Ordered := by
  refine ⟨?_, h.received, h.handled⟩
  unfold arrive
  rcases D.relay.queued_pump datagram with hsame | ⟨p, hp⟩
  · have hhandoff : (D.setRelay (D.relay.pump datagram)).handoff = D.handoff :=
      congrArg (fun q => (⟨q, D.held, D.filed⟩ : Handoff Drainer Bytes)) hsame
    rw [hsame, List.drop_length, List.append_nil]
    show (D.setRelay (D.relay.pump datagram)).handoff.InOrder flowOf D.enqueued
    rw [hhandoff]
    exact h.flows
  · have hhandoff : (D.setRelay (D.relay.pump datagram)).handoff = D.handoff.push p :=
      congrArg (fun q => (⟨q, D.held, D.filed⟩ : Handoff Drainer Bytes)) hp
    rw [hp, List.drop_left]
    show (D.setRelay (D.relay.pump datagram)).handoff.InOrder flowOf (D.enqueued ++ [p])
    rw [hhandoff]
    exact inOrder_push h.flows p

theorem ordered_pop (i : Drainer) : (D.pop i).Ordered := by
  by_cases hfree : D.held.any (fun e => e.1 == i) = true
  · rw [pop, if_pos hfree]
    exact h
  rcases D.relay.queued_popIpv4 drainBufSize with ⟨-, hnone⟩ | ⟨p, rest, hq, hrest, hpopped⟩
  · rw [pop_of_none hfree hnone]
    exact ⟨h.flows, h.received, h.handled⟩
  rcases hr : D.relay.popIpv4 drainBufSize with ⟨relay, popped⟩
  rw [hr] at hrest hpopped
  rcases hpopped with rfl | rfl
  · rw [pop_of_some hfree hr]
    refine ⟨?_, h.received, h.handled⟩
    have htake : (⟨relay.queued, D.held ++ [(i, p)], D.filed⟩ : Handoff Drainer Bytes) = D.handoff.take i := by
      rw [Handoff.take, show D.handoff.queued = p :: rest from hq]
      simp only [handoff, show relay.queued = rest from hrest]
    show Handoff.InOrder flowOf ⟨relay.queued, D.held ++ [(i, p)], D.filed⟩ D.enqueued
    rw [htake]
    exact inOrder_take h.flows i
  · rw [pop_of_none hfree hr]
    refine ⟨inOrder_lose h.flows ?_, h.received, h.handled⟩
    show relay.queued.Sublist D.relay.queued
    rw [hq, show relay.queued = rest from hrest]
    exact List.sublist_cons_self p rest

/-- Filing a packet keeps what each port has received and will receive in the order of the filing. -/
theorem received_drainPacket (ourIsn : UInt32) (pkt : Bytes) (port : UInt16) :
    (D.received port ++ (D.console.drainPacket ourIsn pkt).1.controlQueue.packets.filter (fun p => p.dstPort == port)).Sublist
      (datagrams port (D.filed ++ [pkt])) := by
  have hold := h.received port
  rw [datagrams, ofFlow_append, List.map_append]
  rcases D.console.drainPacket_controlQueue ourIsn pkt with ⟨port', hflow, hq⟩ | ⟨-, hq⟩
  · rw [hq, ControlQueue.push]
    split
    · rw [List.filter_append, ← List.append_assoc]
      apply List.Sublist.append hold
      by_cases hport : port' = port
      · subst hport
        rw [ofFlow_cons_of_eq hflow]
        exact List.filter_sublist
      · have hne : (ControlQueue.packetOf pkt port').dstPort ≠ port := hport
        rw [List.filter_cons_of_neg (by simpa using hne)]
        exact List.nil_sublist _
    · -- the queue is full: the datagram is lost
      exact hold.trans (List.sublist_append_left _ _)
  · rw [hq]
    exact hold.trans (List.sublist_append_left _ _)

theorem ordered_file {i : Drainer} (ourIsn : UInt32) (ht : D.handoff.InTurn flowOf i) : (D.file i ourIsn).Ordered := by
  have hflows := inOrder_file h.flows ht
  unfold file
  cases hf : D.held.find? (fun e => e.1 == i) with
  | none => exact h
  | some e =>
    obtain ⟨j, pkt⟩ := e
    have hholding : D.handoff.holding i = some pkt := by
      show (D.held.find? (fun e => e.1 == i)).map Prod.snd = some pkt
      rw [hf]
      rfl
    constructor
    · have hfile : (⟨(D.console.drainPacket ourIsn pkt).1.service.relay.queued, D.held.eraseP (fun e => e.1 == i),
          D.filed ++ [pkt]⟩ : Handoff Drainer Bytes) = D.handoff.file i := by
        rw [Handoff.file, hholding, Console.drainPacket_relay]
        rfl
      show Handoff.InOrder flowOf ⟨(D.console.drainPacket ourIsn pkt).1.service.relay.queued,
        D.held.eraseP (fun e => e.1 == i), D.filed ++ [pkt]⟩ D.enqueued
      rw [hfile]
      exact hflows
    · exact received_drainPacket h ourIsn pkt
    · dsimp only
      split
      · exact List.Sublist.append h.handled (List.Sublist.refl _)
      · exact h.handled.trans (List.sublist_append_left _ _)

theorem ordered_recvFrom (port : UInt16) : (D.recvFrom port).Ordered := by
  unfold recvFrom
  cases hp : popFirst (fun p : ControlPacket => p.dstPort == port) D.console.controlQueue.packets with
  | none =>
    rw [ControlQueue.pop_of_none hp]
    exact h
  | some r =>
    obtain ⟨hle, hpop⟩ := ControlQueue.pop_of_some hp
    obtain ⟨hmine, hothers⟩ := filter_popFirst hp
    rw [hpop]
    refine ⟨h.flows, fun port' => ?_, h.handled⟩
    have hold := h.received port'
    by_cases hport : port' = port
    · subst hport
      rw [hmine] at hold
      simpa using hold
    · have hrest := hothers (fun p => p.dstPort == port') (fun p hpp => by
        rw [beq_iff_eq] at hpp
        simpa [hpp] using Ne.symm hport)
      rw [← hrest] at hold
      simpa [hport] using hold

theorem ordered_other (op : Service.Op) : (D.other op).Ordered := by
  have hstep : (D.setService (D.console.service.step op).1).Ordered :=
    ⟨inOrder_lose h.flows (D.console.service.step_keepsQueue op), h.received, h.handled⟩
  cases op with
  | drainSegment ourIsn m => exact h
  | _ => exact hstep

/-- **A step in turn keeps the order.** -/
theorem ordered_step {op : Op} (hok : D.InTurn op) : (D.step op).Ordered := by
  cases op with
  | arrive datagram => exact ordered_arrive h datagram
  | pop i => exact ordered_pop h i
  | file i ourIsn => exact ordered_file h ourIsn hok
  | recvFrom port => exact ordered_recvFrom h port
  | other op => exact ordered_other h op

end Steps

theorem ordered_of_reachable {D : Draining} (h : Reachable InTurn D) : D.Ordered := by
  induction h with
  | init =>
    constructor
    · intro k
      exact List.nil_sublist _
    · intro port
      exact List.nil_sublist _
    · exact List.nil_sublist _
  | step _ op hok ih => exact ordered_step ih hok

/-- **In runs that file every packet in its turn, each port receives its datagrams and each peer's segments are handled in the
order in which the relay's packets were queued.** -/
theorem arrival_order {D : Draining} (h : Reachable InTurn D) :
    (∀ port, (D.received port).Sublist (datagrams port D.enqueued)) ∧
    ∀ peer, (ofFlow flowOf (.tcp peer) D.handled).Sublist (ofFlow flowOf (.tcp peer) D.enqueued) := by
  have ho := ordered_of_reachable h
  constructor
  · intro port
    have hfiled : (datagrams port D.filed).Sublist (datagrams port D.enqueued) := (filed_inOrder ho.flows (.udp port)).map _
    exact ((List.sublist_append_left _ _).trans (ho.received port)).trans hfiled
  · intro peer
    exact (ho.handled.filter _).trans (filed_inOrder ho.flows (.tcp peer))

/-! ## Two datagrams and two drainers -/

/-- The frame of a one-byte datagram to the control port. -/
def datagramFrame (b : UInt8) : Bytes :=
  RelayFrameType.ipv4.code :: (udpPacket? 0x0A0D0002 0x0A0D0001 ldnControlPort ldnControlPort [b]).getD []

/-- Each drainer pops one of two datagrams, and files it before the socket is read. -/
def inTurn : List Op :=
  [.arrive (datagramFrame 1), .arrive (datagramFrame 2), .pop .background, .pop .dispatch, .file .background 0,
    .file .dispatch 0, .recvFrom ldnControlPort, .recvFrom ldnControlPort]

/-- The dispatch thread overtakes the background thread between its pop and its filing. -/
def overtaken : List Op :=
  [.arrive (datagramFrame 1), .arrive (datagramFrame 2), .pop .background, .pop .dispatch, .file .dispatch 0,
    .recvFrom ldnControlPort, .file .background 0, .recvFrom ldnControlPort]

theorem arrival_order_inTurn :
    ((({} : Draining).run inTurn).received ldnControlPort).length = 2 ∧
    ((({} : Draining).run inTurn).received ldnControlPort).Sublist
      (datagrams ldnControlPort (({} : Draining).run inTurn).enqueued) :=
  ⟨by decide +kernel, (arrival_order (reachable_run inTurn .init (by decide +kernel))).1 ldnControlPort⟩

/-- The last byte of each packet, the datagram's. -/
def lastBytes (pkts : List ControlPacket) : List (Option UInt8) := pkts.map (fun p => p.data.bytes.getLast?)

/-- **The second datagram is received first.** -/
theorem overtaken_datagram : Reachable (fun _ _ => True) (({} : Draining).run overtaken) ∧
    lastBytes (datagrams ldnControlPort (({} : Draining).run overtaken).enqueued) = [some 1, some 2] ∧
    lastBytes ((({} : Draining).run overtaken).received ldnControlPort) = [some 2, some 1] ∧
    ¬ ((({} : Draining).run overtaken).received ldnControlPort).Sublist
      (datagrams ldnControlPort (({} : Draining).run overtaken).enqueued) := by
  have henq : lastBytes (datagrams ldnControlPort (({} : Draining).run overtaken).enqueued) = [some 1, some 2] := by
    decide +kernel
  have hrec : lastBytes ((({} : Draining).run overtaken).received ldnControlPort) = [some 2, some 1] := by
    decide +kernel
  refine ⟨reachable_run _ .init (by decide +kernel), henq, hrec, fun hsub => ?_⟩
  have hbytes := hsub.map (fun p : ControlPacket => p.data.bytes.getLast?)
  change (lastBytes _).Sublist (lastBytes _) at hbytes
  rw [henq, hrec] at hbytes
  revert hbytes
  decide

end Draining
end Slp
