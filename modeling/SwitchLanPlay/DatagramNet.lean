import SwitchLanPlay.Drainers
import SwitchLanPlay.PacketRoundTrip
import SwitchLanPlay.RelayIntegrity
import SwitchLanPlay.Traces
/-!
# DatagramNet — consoles that send datagrams to each other's sockets

Any number of consoles share one relay.  A `SendTo` on a bridged socket builds a packet, `SendIpv4` frames it whole or in
fragments, the relay keeps every frame for good and brings it to any console, where the pump thread queues the packet, a
drainer files it and a `RecvFrom` takes it out of the control queue.  TCP segments travel the same way.  Whatever a `RecvFrom`
reports was sent before, to that port, with that payload, from that address and port, in any run that does not use a fragment
id and source address for two packets (`datagram_integrity`).
-/
namespace Slp

open Wire RelayBridge

/-! ## Frames -/

/-- A frame on its way: a whole packet, a fragment, or a datagram of another frame type. -/
inductive Carried where
  | whole (p : Bytes)
  | part (f : InFlight)
  | other (datagram : Bytes)
deriving DecidableEq

namespace Carried

def datagram : Carried → Bytes
  | whole p => RelayFrameType.ipv4.code :: p
  | part f => f.frame
  | other datagram => datagram

/-- The datagram carries no packet and no part of one. -/
def IsOther (datagram : Bytes) : Prop :=
  ∀ tag body, datagram = tag :: body →
    RelayFrameType.ofByte? (tag &&& 0x7F) ≠ some .ipv4 ∧ RelayFrameType.ofByte? (tag &&& 0x7F) ≠ some .ipv4Frag

def part? : Carried → Option InFlight
  | part f => some f
  | _ => none

end Carried

/-- What of a `SendIpv4` reached the socket. -/
def carried (b : RelayBridge) (sendto : Nat → Bool) (p : Bytes) : List Carried :=
  if !b.connected then []
  else if p.length ≤ relayMtu then (if sendto 0 then [.whole p] else [])
  else (FragNet.launched b sendto p).map Carried.part

/-- **What reaches the socket are the frames of `SendIpv4`.** -/
theorem carried_frames (b : RelayBridge) (sendto : Nat → Bool) (p : Bytes) :
    (carried b sendto p).map Carried.datagram = (b.sendIpv4 sendto p).frames := by
  unfold carried sendIpv4 sendRaw
  cases hc : b.connected with
  | false => simp
  | true =>
    by_cases hle : p.length ≤ relayMtu
    · cases hs : sendto 0 with
      | true =>
        simp only [Bool.not_true, Bool.false_eq_true, if_false, if_true, hle, List.map_singleton, Carried.datagram]
        rw [if_neg (by omega)]
      | false => simp [hle]
    · have hframes := (FragNet.frames_launched b sendto p).1
      simp only [Bool.not_true, Bool.false_eq_true, if_false, hle, List.map_map, ← hframes]
      rfl

/-! ## The consoles and the relay -/

inductive DatagramEvent (ι : Type) where
  | sent (i : ι) (d : UdpSend)
  | received (j : ι) (port : UInt16) (bufSize addrSize : Nat) (out : RecvFromOut)
deriving DecidableEq

/-- `passed` are the packets ever given to `SendIpv4`; `begunBy j k` is the fragment that slot `k` of console `j` was last
claimed for. -/
structure DatagramNet (ι : Type) where
  nodes : ι → Draining := fun _ => {}
  network : List Carried := []
  passed : List Bytes := []
  begunBy : ι → Fin numSlots → InFlight := fun _ _ => ⟨[], 0, 0⟩
  trace : List (DatagramEvent ι) := []

namespace DatagramNet

variable {ι : Type}

inductive Op (ι : Type) where
  -- the console starts again
  | boot (i : ι)
  -- `SendTo` by an instance of a console, with the outcome of each `sendto` of the relay socket
  | sendTo (i : ι) (inst : Nat) (env : Env) (fd flags : Int) (buffer addr : Bytes) (sendto : Nat → Nat → Bool)
  -- the end of a `RecvFrom`, its relay drained
  | recvFrom (j : ι) (inst : Nat) (fd : Int) (bufSize addrSize : Nat)
  | arrive (j : ι) (c : Carried)
  | pop (j : ι) (drainer : Drainer)
  | file (j : ι) (drainer : Drainer) (ourIsn : UInt32) (sendto : Nat → Nat → Bool)
  -- anything else the service does, and the segments it sends
  | other (j : ι) (op : Service.Op) (sendto : Nat → Nat → Bool)

variable [DecidableEq ι]

def setNode (N : DatagramNet ι) (i : ι) (D : Draining) : DatagramNet ι := { N with nodes := Function.update N.nodes i D }

/-- `SendIpv4` of one packet. -/
def transmit (N : DatagramNet ι) (i : ι) (sendto : Nat → Bool) (p : Bytes) : DatagramNet ι :=
  { N.setNode i ((N.nodes i).setRelay ((N.nodes i).relay.sendIpv4 sendto p).bridge) with
    network := N.network ++ carried (N.nodes i).relay sendto p
    passed := N.passed ++ [p] }

def transmitAll (i : ι) : (Nat → Nat → Bool) → List Bytes → DatagramNet ι → DatagramNet ι
  | _, [], N => N
  | sendto, p :: ps, N => transmitAll i (fun k => sendto (k + 1)) ps (N.transmit i (sendto 0) p)

def sendTo (N : DatagramNet ι) (i : ι) (o : Outcome) (sendto : Nat → Nat → Bool) : DatagramNet ι :=
  transmitAll i sendto (o.segs.filterMap Segment.packet? ++ o.udp.filterMap UdpSend.packet?)
    { N.setNode i { N.nodes i with console := o.console } with trace := N.trace ++ o.udp.map (.sent i) }

/-- The instance's descriptor is the bridged socket, and no virtual connection. -/
def readsRelay (C : Console) (inst : Nat) (fd : Int) : Option Instance :=
  (C.service.instance? inst).filter (fun s => s.isBridged fd && (C.service.vtcp.findVTcpConnByFd (C.service.owns inst) fd).isNone)

def recvFrom (N : DatagramNet ι) (j : ι) (inst : Nat) (fd : Int) (bufSize addrSize : Nat) : DatagramNet ι :=
  match readsRelay (N.nodes j).console inst fd with
  | none => N
  | some s =>
    let port := s.bridgedLocalPort
    { N.setNode j ((N.nodes j).recvFrom port) with
      trace := N.trace ++
        [.received j port bufSize addrSize ((N.nodes j).console.controlQueue.recvFrom port bufSize addrSize).2] }

/-- The slot a fragment claims was begun by it. -/
def begin (r : Reassembler) (begun : Fin numSlots → InFlight) (f : InFlight) : Fin numSlots → InFlight :=
  match r.pickSlot f.id f.srcIp with
  | some (k, false) => Function.update begun k f
  | _ => begun

def arrive (N : DatagramNet ι) (j : ι) (c : Carried) : DatagramNet ι :=
  { N.setNode j ((N.nodes j).arrive c.datagram) with
    begunBy := c.part?.elim N.begunBy
      (fun f => Function.update N.begunBy j (begin (N.nodes j).relay.reassembler (N.begunBy j) f)) }

def file (N : DatagramNet ι) (j : ι) (drainer : Drainer) (ourIsn : UInt32) (sendto : Nat → Nat → Bool) : DatagramNet ι :=
  let segs :=
    match (N.nodes j).held.find? (fun e => e.1 == drainer) with
    | none => []
    | some e => ((N.nodes j).console.drainPacket ourIsn e.2).2
  transmitAll j sendto (segs.filterMap Segment.packet?) (N.setNode j ((N.nodes j).file drainer ourIsn))

def other (N : DatagramNet ι) (j : ι) (op : Service.Op) (sendto : Nat → Nat → Bool) : DatagramNet ι :=
  transmitAll j sendto (((N.nodes j).console.service.step op).2.filterMap Segment.packet?) (N.setNode j ((N.nodes j).other op))

def step (N : DatagramNet ι) : Op ι → DatagramNet ι
  | .boot i => N.setNode i {}
  | .sendTo i inst env fd flags buffer addr sendto =>
    N.sendTo i ((N.nodes i).console.command inst env (.sendTo fd flags buffer addr)) sendto
  | .recvFrom j inst fd bufSize addrSize => N.recvFrom j inst fd bufSize addrSize
  | .arrive j c => N.arrive j c
  | .pop j drainer => N.setNode j ((N.nodes j).pop drainer)
  | .file j drainer ourIsn sendto => N.file j drainer ourIsn sendto
  | .other j op sendto => N.other j op sendto

/-- What arrives was sent, or carries nothing. -/
def May (N : DatagramNet ι) : Op ι → Prop
  | .arrive _ (.other datagram) => Carried.IsOther datagram
  | .arrive _ c => c ∈ N.network
  | _ => True

abbrev Reachable : DatagramNet ι → Prop := Runs.Reachable step May {}

/-- The fragments that were ever sent. -/
def inFlight (N : DatagramNet ι) : List InFlight := N.network.filterMap Carried.part?

/-- No id was used for two packets of one source address. -/
def IdsUnique (N : DatagramNet ι) : Prop :=
  ∀ f ∈ N.inFlight, ∀ g ∈ N.inFlight, f.id = g.id → f.srcIp = g.srcIp → f.packet = g.packet

/-- A `RecvFrom` finds nothing, or a datagram that some console sent to its port. -/
def Authentic (before : List (DatagramEvent ι)) : DatagramEvent ι → Prop
  | .sent _ _ => True
  | .received _ port bufSize addrSize out => out = .wouldBlock ∨
      ∃ i d, .sent i d ∈ before ∧ d.dstPort = port ∧ out = .delivered d.payload d.srcIp d.srcPort bufSize addrSize

end DatagramNet

/-! ## What a console holds -/

namespace RelayBridge

theorem mem_queue_push {q : RingQueue queueSize (ByteBuf packetCap)} {a p : ByteBuf packetCap} (h : p ∈ (q.push a).toList) :
    p ∈ q.toList ∨ p = a := by
  by_cases hroom : q.count < queueSize
  · rw [RingQueue.toList_push q a hroom] at h
    simpa using h
  · rw [RingQueue.push, dif_neg hroom] at h
    exact .inl h

theorem pump_whole (b : RelayBridge) {p : Bytes} (hp : p.length ≤ relayMtu) :
    ∃ q : ByteBuf packetCap, q.bytes = p ∧ b.pump (RelayFrameType.ipv4.code :: p) = { b with queue := b.queue.push q } := by
  have htake : (RelayFrameType.ipv4.code :: p).take (1 + relayMtu + fragHeaderSize) = RelayFrameType.ipv4.code :: p :=
    List.take_of_length_le (by simp; omega)
  have hcap : p.length ≤ packetCap := by unfold packetCap; omega
  have htag : RelayFrameType.ofByte? (RelayFrameType.ipv4.code &&& 0x7F) = some .ipv4 := by decide
  refine ⟨⟨p, hcap⟩, rfl, ?_⟩
  simp only [pump, recvIpv4, htake, htag, dif_pos hcap]

theorem pump_other (b : RelayBridge) {datagram : Bytes} (h : Carried.IsOther datagram) : b.pump datagram = b := by
  unfold pump recvIpv4
  cases datagram with
  | nil => rfl
  | cons tag body =>
    obtain ⟨hwhole, hfrag⟩ := h tag body rfl
    rw [Nat.add_assoc, Nat.add_comm 1, List.take_succ_cons]
    dsimp only
    cases hty : RelayFrameType.ofByte? (tag &&& 0x7F) with
    | none => rfl
    | some ty =>
      cases ty with
      | ipv4 => exact absurd hty hwhole
      | ipv4Frag => exact absurd hty hfrag
      | _ => rfl

end RelayBridge

namespace Service

theorem ensureRelayConnected_reassembler (S : Service) (ok : Bool) :
    (S.ensureRelayConnected ok).1.relay.reassembler = S.relay.reassembler := by
  unfold ensureRelayConnected connectRelay
  split
  · rfl
  split
  · rfl
  split
  · rfl
  · cases ok <;> rfl

theorem connect_reassembler (S : Service) (i : Nat) (fd : Int) (dstIp : UInt32) (dstPort : UInt16) (ourIsn : UInt32)
    (ok : Bool) : (S.connect i fd dstIp dstPort ourIsn ok).1.relay.reassembler = S.relay.reassembler := by
  have hup := S.ensureRelayConnected_reassembler ok
  unfold connect
  split
  · rfl
  split
  · split
    · rename_i hS
      rw [hS] at hup
      exact hup
    · rename_i hS
      rw [hS] at hup
      split <;> exact hup
  · rfl

theorem sendTo_reassembler (S : Service) (i : Nat) (fd : Int) (buf : Bytes) (ok relayOk : Bool) (now : UInt64) :
    (S.sendTo i fd buf ok relayOk now).1.relay.reassembler = S.relay.reassembler := by
  have hup := S.ensureRelayConnected_reassembler ok
  unfold sendTo
  split
  · rfl
  split
  · split
    · rfl
    split
    · rename_i hS
      rw [hS] at hup
      exact hup
    · rename_i hS
      rw [hS] at hup
      dsimp only
      split <;> exact hup
  split
  · split
    · rename_i hS
      rw [hS] at hup
      exact hup
    · rename_i hS
      rw [hS] at hup
      dsimp only
      split <;> exact hup
  · rfl

/-- **The reassembly slots belong to the pump thread**: nothing else the service does touches them. -/
theorem step_reassembler (S : Service) (op : Op) : (S.step op).1.relay.reassembler = S.relay.reassembler := by
  cases op with
  | bind i fd port learnedIp ok =>
    show (S.bind i fd port learnedIp ok).relay.reassembler = _
    unfold bind
    split
    · rfl
    split
    · exact ensureRelayConnected_reassembler _ ok
    · split <;> rfl
  | connect i fd dstIp dstPort ourIsn ok => exact S.connect_reassembler i fd dstIp dstPort ourIsn ok
  | sendTo i fd buf ok relayOk now => exact S.sendTo_reassembler i fd buf ok relayOk now
  | close i fd =>
    show (S.close i fd).1.relay.reassembler = _
    unfold close
    split
    · rfl
    dsimp only
    split
    · rfl
    · rw [unbridge_relay]
      split <;> rfl
  | watchdog now =>
    show (S.watchdog now).relay.reassembler = _
    unfold watchdog
    split <;> rfl
  | forceReconnect ok =>
    show (S.forceReconnect ok).relay.reassembler = _
    cases ok <;> rfl
  | start ok =>
    show (S.start ok).relay.reassembler = _
    unfold start
    dsimp only
    split
    · rfl
    · cases ok <;> rfl
  | socket i type ret =>
    show (S.socket i type ret).relay.reassembler = _
    unfold socket
    split <;> rfl
  | listen i fd =>
    show (S.listen i fd).relay.reassembler = _
    unfold listen
    split
    · rfl
    · split <;> rfl
  | accept i fd =>
    show (S.accept i fd).relay.reassembler = _
    unfold accept
    split
    · rfl
    split
    · split <;> rfl
    · rfl
  | recvFrom i fd bufSize addrSize now =>
    show (S.recvFrom i fd bufSize addrSize now).relay.reassembler = _
    unfold recvFrom
    split
    · rfl
    · dsimp only
      split <;> rfl
  | drainSegment ourIsn m => exact congrArg RelayBridge.reassembler (S.drainSegment_relay ourIsn m)
  | drainRetransmits now => exact congrArg RelayBridge.reassembler (S.drainRetransmits_relay now)
  | _ => rfl

end Service

namespace Draining

/-- Every packet on the console's way has `P`: those queued, those a drainer holds, and those that were filed. -/
structure HoldsOnly (P : Bytes → Prop) (D : Draining) : Prop where
  queued : ∀ p ∈ D.relay.queued, P p
  held : ∀ e ∈ D.held, P e.2
  filed : ∀ c ∈ D.console.controlQueue.packets, ∃ p, P p ∧ flowOf p = some (.udp c.dstPort) ∧
    c = ControlQueue.packetOf p c.dstPort

section HoldsOnly

variable {P : Bytes → Prop} {D : Draining}

theorem holdsOnly_mono {Q : Bytes → Prop} (hPQ : ∀ p, P p → Q p) (h : D.HoldsOnly P) : D.HoldsOnly Q where
  queued p hp := hPQ p (h.queued p hp)
  held e he := hPQ e.2 (h.held e he)
  filed c hc := by
    obtain ⟨p, hp, hrest⟩ := h.filed c hc
    exact ⟨p, hPQ p hp, hrest⟩

theorem holdsOnly_init : HoldsOnly P {} where
  queued p hp := by
    rw [show ({} : Draining).relay.queued = [] from rfl] at hp
    cases hp
  held e he := by cases he
  filed c hc := by cases hc

/-- A relay that queues no more, or one more packet, keeps it. -/
theorem holdsOnly_setRelay (h : D.HoldsOnly P) {relay : RelayBridge} (hq : ∀ p ∈ relay.queued, P p) :
    (D.setRelay relay).HoldsOnly P :=
  ⟨hq, h.held, h.filed⟩

theorem holdsOnly_setService (h : D.HoldsOnly P) {S : Service} (hq : S.relay.queued.Sublist D.relay.queued) :
    (D.setService S).HoldsOnly P :=
  ⟨fun p hp => h.queued p (hq.subset hp), h.held, h.filed⟩

theorem holdsOnly_pop (h : D.HoldsOnly P) (i : Drainer) : (D.pop i).HoldsOnly P := by
  by_cases hfree : D.held.any (fun e => e.1 == i) = true
  · rw [pop, if_pos hfree]
    exact h
  rcases D.relay.queued_popIpv4 drainBufSize with ⟨-, hnone⟩ | ⟨p, rest, hq, hrest, hpopped⟩
  · rw [pop_of_none hfree hnone]
    exact h
  rcases hr : D.relay.popIpv4 drainBufSize with ⟨relay, popped⟩
  rw [hr] at hrest hpopped
  have hqueued : ∀ b ∈ relay.queued, P b := fun b hb =>
    h.queued b (by rw [hq]; exact List.mem_cons_of_mem _ (by rwa [show relay.queued = rest from hrest] at hb))
  rcases hpopped with rfl | rfl
  · rw [pop_of_some hfree hr]
    refine ⟨hqueued, fun e he => ?_, h.filed⟩
    rcases List.mem_append.1 he with he | he
    · exact h.held e he
    · rw [List.mem_singleton.1 he]
      exact h.queued p (by rw [hq]; exact List.mem_cons_self)
  · rw [pop_of_none hfree hr]
    exact holdsOnly_setRelay h hqueued

theorem holdsOnly_file (h : D.HoldsOnly P) (i : Drainer) (ourIsn : UInt32) : (D.file i ourIsn).HoldsOnly P := by
  unfold file
  cases hf : D.held.find? (fun e => e.1 == i) with
  | none => exact h
  | some e =>
    have hpkt : P e.2 := h.held e (List.mem_of_find?_eq_some hf)
    refine ⟨fun p hp => ?_, fun b hb => h.held b (List.mem_of_mem_eraseP hb), fun c hc => ?_⟩
    · have hqueued : p ∈ (D.console.drainPacket ourIsn e.2).1.service.relay.queued := hp
      rw [Console.drainPacket_relay] at hqueued
      exact h.queued p hqueued
    · rcases D.console.drainPacket_packets ourIsn e.2 with hsame | ⟨port, hflow, hone⟩
      · exact h.filed c (by rwa [hsame] at hc)
      · rw [hone] at hc
        rcases List.mem_append.1 hc with hc | hc
        · exact h.filed c hc
        · rw [List.mem_singleton.1 hc]
          exact ⟨e.2, hpkt, hflow, rfl⟩

theorem holdsOnly_recvFrom (h : D.HoldsOnly P) (port : UInt16) : (D.recvFrom port).HoldsOnly P := by
  unfold recvFrom
  cases hp : popFirst (fun p : ControlPacket => p.dstPort == port) D.console.controlQueue.packets with
  | none =>
    rw [ControlQueue.pop_of_none hp]
    exact h
  | some r =>
    obtain ⟨hle, hpop⟩ := ControlQueue.pop_of_some hp
    rw [hpop]
    exact ⟨h.queued, h.held, fun c hc => h.filed c ((mem_popFirst hp).2.2 c hc)⟩

theorem holdsOnly_other (h : D.HoldsOnly P) (op : Service.Op) : (D.other op).HoldsOnly P := by
  have hstep : (D.setService (D.console.service.step op).1).HoldsOnly P :=
    holdsOnly_setService h (D.console.service.step_keepsQueue op)
  cases op with
  | drainSegment ourIsn m => exact h
  | _ => exact hstep

/-- **What a `RecvFrom` reports** is nothing, or a filed packet for the port. -/
theorem recvFrom_filed (h : D.HoldsOnly P) (port : UInt16) (bufSize addrSize : Nat) :
    (D.console.controlQueue.recvFrom port bufSize addrSize).2 = .wouldBlock ∨
    ∃ p q, P p ∧ flowOf p = some (.udp port) ∧
      D.console.controlQueue.popControlPacketForPort port = some (ControlQueue.packetOf p port, q) := by
  cases hp : popFirst (fun p : ControlPacket => p.dstPort == port) D.console.controlQueue.packets with
  | none =>
    rw [ControlQueue.recvFrom, ControlQueue.pop_of_none hp]
    exact .inl rfl
  | some r =>
    obtain ⟨hmem, hport, -⟩ := mem_popFirst hp
    obtain ⟨p, hP, hflow, heq⟩ := h.filed r.1 hmem
    obtain ⟨hle, hpop⟩ := ControlQueue.pop_of_some hp
    rw [beq_iff_eq.1 hport] at hflow heq
    exact .inr ⟨p, _, hP, hflow, by rw [hpop, heq]⟩

end HoldsOnly

end Draining

/-! ## What the packets are -/

/-- A segment's packet is no datagram. -/
theorem flowOf_segment {m : Segment} {p : Bytes} (h : m.packet? = some p) (port : UInt16) : flowOf p ≠ some (.udp port) := by
  have hparse := parseIpv4Tcp_packet h
  have hproto : byteAt p 9 = 6 := by
    unfold parseIpv4Tcp at hparse
    split at hparse
    · cases hparse
    dsimp only at hparse
    split at hparse
    · cases hparse
    · rename_i hno
      by_contra hne
      exact hno (.inl hne)
  unfold flowOf
  split
  · exact fun hno => by cases hno
  · rw [hproto, hparse]
    exact fun hno => by cases hno

theorem flowOf_datagram {d : UdpSend} {p : Bytes} (h : d.packet? = some p) :
    d.payload.length ≤ maxBridgedPayload ∧ flowOf p = some (.udp d.dstPort) := by
  have hle : d.payload.length ≤ maxBridgedPayload := by
    unfold UdpSend.packet? udpPacket? at h
    dsimp only at h
    split at h
    · cases h
    · omega
  have hparse := parseIpv4Udp_packet h hle
  have hacc := (parseIpv4Udp_iff.1 hparse).1
  have hlen := hacc.length
  rw [flowOf, if_neg (by omega)]
  dsimp only
  rw [if_pos hacc.proto, hparse]
  exact ⟨hle, rfl⟩

namespace DatagramNet

variable {ι : Type}

/-- The packet is one of a segment, or of a datagram that was sent. -/
def Built (trace : List (DatagramEvent ι)) (p : Bytes) : Prop :=
  (∃ m : Segment, m.packet? = some p) ∨ ∃ i d, .sent i d ∈ trace ∧ UdpSend.packet? d = some p

theorem built_append {trace : List (DatagramEvent ι)} {p : Bytes} (h : Built trace p) (es : List (DatagramEvent ι)) :
    Built (trace ++ es) p := by
  rcases h with hm | ⟨i, d, hd, hp⟩
  · exact .inl hm
  · exact .inr ⟨i, d, List.mem_append_left es hd, hp⟩

theorem length_of_built {trace : List (DatagramEvent ι)} {p : Bytes} (h : Built trace p) : 20 ≤ p.length := by
  rcases h with ⟨m, hm⟩ | ⟨i, d, -, hp⟩
  · have := Segment.length_packet hm
    omega
  · have := length_udpPacket hp
    omega

/-- **A packet filed for a port is that of a datagram sent to it.** -/
theorem sent_of_flow {trace : List (DatagramEvent ι)} {p : Bytes} (h : Built trace p) {port : UInt16}
    (hflow : flowOf p = some (.udp port)) :
    ∃ i d, .sent i d ∈ trace ∧ UdpSend.packet? d = some p ∧ d.payload.length ≤ maxBridgedPayload ∧ d.dstPort = port := by
  rcases h with ⟨m, hm⟩ | ⟨i, d, hd, hp⟩
  · exact absurd hflow (flowOf_segment hm port)
  · obtain ⟨hle, hown⟩ := flowOf_datagram hp
    rw [hown] at hflow
    cases hflow
    exact ⟨i, d, hd, hp, hle, rfl⟩

/-- The fragments and one console's reassembly slots. -/
def view (N : DatagramNet ι) (j : ι) : FragNet ι where
  senders i := (N.nodes i).relay
  passed := N.passed
  network := N.inFlight
  receiver := (N.nodes j).relay.reassembler
  begunBy := N.begunBy j
  returned := []

structure Inv (N : DatagramNet ι) : Prop where
  view : ∀ j, (N.view j).Inv
  whole : ∀ p, .whole p ∈ N.network → p ∈ N.passed ∧ p.length ≤ relayMtu
  holds : ∀ j, (N.nodes j).HoldsOnly (· ∈ N.passed)
  built : ∀ p ∈ N.passed, Built N.trace p
  justified : Traces.Justified Authentic N.trace

theorem inv_init : Inv ({} : DatagramNet ι) where
  view _ := by
    constructor
    · intro f hf; cases hf
    · intro f hf; cases hf
    · intro f hf; cases hf
    · intro f hf; cases hf
    · intro k hk; cases hk
    · intro k hk; cases hk
    · intro p hp; cases hp
  whole p hp := by cases hp
  holds _ := Draining.holdsOnly_init
  built p hp := by cases hp
  justified := Traces.justified_nil

/-- A view changes with what it shows. -/
theorem inv_view_congr {N N' : DatagramNet ι} {j : ι} (h : (N.view j).Inv) (hnetwork : N'.network = N.network)
    (hpassed : N'.passed = N.passed) (hbegun : N'.begunBy j = N.begunBy j)
    (hslots : (N'.nodes j).relay.reassembler = (N.nodes j).relay.reassembler) : (N'.view j).Inv := by
  have hview : N'.view j = { N.view j with senders := fun i => (N'.nodes i).relay } := by
    simp only [DatagramNet.view, inFlight, hnetwork, hpassed, hbegun, hslots]
  rw [hview]
  exact ⟨h.passed, h.length, h.part_lt, h.parts_lt, h.begun, h.collects, h.returned⟩

variable [DecidableEq ι] {N : DatagramNet ι}

@[simp] theorem nodes_setNode_self (N : DatagramNet ι) (i : ι) (D : Draining) : (N.setNode i D).nodes i = D := by
  simp [setNode]

theorem nodes_setNode_of_ne (N : DatagramNet ι) {i j : ι} (h : j ≠ i) (D : Draining) :
    (N.setNode i D).nodes j = N.nodes j := by
  simp [setNode, h]

theorem reassembler_setNode {i : ι} {D : Draining} (hD : D.relay.reassembler = (N.nodes i).relay.reassembler) (j : ι) :
    ((N.setNode i D).nodes j).relay.reassembler = (N.nodes j).relay.reassembler := by
  by_cases hj : j = i
  · subst hj
    rw [nodes_setNode_self, hD]
  · rw [nodes_setNode_of_ne N hj]

theorem holds_setNode (h : N.Inv) {i : ι} {D : Draining} (hD : D.HoldsOnly (· ∈ N.passed)) (j : ι) :
    ((N.setNode i D).nodes j).HoldsOnly (· ∈ N.passed) := by
  by_cases hj : j = i
  · subst hj
    rw [nodes_setNode_self]
    exact hD
  · rw [nodes_setNode_of_ne N hj]
    exact h.holds j

theorem inv_setNode (h : N.Inv) {i : ι} {D : Draining} (hslots : D.relay.reassembler = (N.nodes i).relay.reassembler)
    (hD : D.HoldsOnly (· ∈ N.passed)) : (N.setNode i D).Inv where
  view j := inv_view_congr (h.view j) rfl rfl rfl (reassembler_setNode hslots j)
  whole := h.whole
  holds := holds_setNode h hD
  built := h.built
  justified := h.justified

/-! ## Sending -/

theorem sendIpv4_bridge (b : RelayBridge) (sendto : Nat → Bool) (p : Bytes) :
    (b.sendIpv4 sendto p).bridge.reassembler = b.reassembler ∧ (b.sendIpv4 sendto p).bridge.queue = b.queue := by
  unfold sendIpv4 sendFragmented
  split
  · exact ⟨rfl, rfl⟩
  split
  · exact ⟨rfl, rfl⟩
  split <;> exact ⟨rfl, rfl⟩

theorem inFlight_append (network cs : List Carried) :
    (network ++ cs).filterMap Carried.part? = network.filterMap Carried.part? ++ cs.filterMap Carried.part? :=
  List.filterMap_append

theorem parts_carried (b : RelayBridge) (sendto : Nat → Bool) (p : Bytes) :
    (carried b sendto p).filterMap Carried.part? = [] ∨
    (carried b sendto p).filterMap Carried.part? = FragNet.launched b sendto p := by
  unfold carried
  split
  · exact .inl rfl
  split
  · split <;> exact .inl rfl
  · right
    rw [List.filterMap_map]
    exact List.filterMap_some

theorem whole_carried {b : RelayBridge} {sendto : Nat → Bool} {p q : Bytes} (h : .whole q ∈ carried b sendto p) :
    q = p ∧ p.length ≤ relayMtu := by
  unfold carried at h
  split at h
  · cases h
  split at h
  · rename_i hle
    split at h
    · rw [List.mem_singleton] at h
      cases h
      exact ⟨rfl, hle⟩
    · cases h
  · obtain ⟨f, -, hf⟩ := List.mem_map.1 h
    cases hf

theorem inv_view_transmit (h : N.Inv) (i : ι) (sendto : Nat → Bool) {p : Bytes} (hp : 20 ≤ p.length) (j : ι) :
    ((N.transmit i sendto p).view j).Inv := by
  have hbridge : ((N.nodes i).setRelay ((N.nodes i).relay.sendIpv4 sendto p).bridge).relay.reassembler =
      (N.nodes i).relay.reassembler := (sendIpv4_bridge (N.nodes i).relay sendto p).1
  have hslots : ((N.transmit i sendto p).nodes j).relay.reassembler = (N.nodes j).relay.reassembler :=
    reassembler_setNode hbridge j
  have hold := h.view j
  rcases parts_carried (N.nodes i).relay sendto p with hnone | hparts
  · have hview : (N.transmit i sendto p).view j =
        { N.view j with senders := fun i' => ((N.transmit i sendto p).nodes i').relay, passed := N.passed ++ [p] } := by
      rw [DatagramNet.view, hslots]
      simp only [DatagramNet.view, inFlight, transmit, inFlight_append, hnone, List.append_nil, setNode]
    rw [hview]
    exact ⟨fun f hf => List.mem_append_left _ (hold.passed f hf), hold.length, hold.part_lt, hold.parts_lt, hold.begun,
      hold.collects, fun q hq => by cases hq⟩
  · have hsend := FragNet.inv_send hold i sendto hp
    have hview : (N.transmit i sendto p).view j =
        { (N.view j).send i sendto p with senders := fun i' => ((N.transmit i sendto p).nodes i').relay } := by
      rw [DatagramNet.view, hslots]
      simp only [DatagramNet.view, inFlight, transmit, inFlight_append, hparts, setNode, FragNet.send, FragNet.setSender]
    rw [hview]
    exact ⟨hsend.passed, hsend.length, hsend.part_lt, hsend.parts_lt, hsend.begun, hsend.collects, hsend.returned⟩

theorem inv_transmit (h : N.Inv) (i : ι) (sendto : Nat → Bool) {p : Bytes} (hp : Built N.trace p) :
    (N.transmit i sendto p).Inv where
  view := inv_view_transmit h i sendto (length_of_built hp)
  whole q hq := by
    rcases List.mem_append.1 hq with hq | hq
    · exact ⟨List.mem_append_left _ (h.whole q hq).1, (h.whole q hq).2⟩
    · obtain ⟨rfl, hle⟩ := whole_carried hq
      exact ⟨List.mem_append_right _ (List.mem_singleton_self _), hle⟩
  holds j := by
    have hsame := (sendIpv4_bridge (N.nodes i).relay sendto p).2
    have hnode : ((N.nodes i).setRelay ((N.nodes i).relay.sendIpv4 sendto p).bridge).HoldsOnly (· ∈ N.passed) :=
      Draining.holdsOnly_setRelay (h.holds i) (fun q hq => (h.holds i).queued q (by
        rwa [RelayBridge.queued, hsame] at hq))
    exact Draining.holdsOnly_mono (fun q hq => List.mem_append_left _ hq) (holds_setNode h hnode j)
  built q hq := by
    rcases List.mem_append.1 hq with hq | hq
    · exact h.built q hq
    · rw [List.mem_singleton.1 hq]
      exact hp
  justified := h.justified

theorem inv_transmitAll (i : ι) : ∀ (ps : List Bytes) {N : DatagramNet ι} (sendto : Nat → Nat → Bool), N.Inv →
    (∀ p ∈ ps, Built N.trace p) → (transmitAll i sendto ps N).Inv
  | [], _, _, h, _ => h
  | p :: ps, _, sendto, h, hps =>
    inv_transmitAll i ps (fun k => sendto (k + 1)) (inv_transmit h i (sendto 0) (hps p List.mem_cons_self))
      (fun q hq => hps q (List.mem_cons_of_mem _ hq))

omit [DecidableEq ι] in
theorem built_of_segs {trace : List (DatagramEvent ι)} {segs : List Segment} {p : Bytes}
    (hp : p ∈ segs.filterMap Segment.packet?) : Built trace p := by
  obtain ⟨m, -, hm⟩ := List.mem_filterMap.1 hp
  exact .inl ⟨m, hm⟩

/-! ## Arriving -/

theorem inv_arrive_queued (h : N.Inv) {j : ι} {c : Carried} (hbegun : (N.arrive j c).begunBy = N.begunBy)
    (hslots : ((N.nodes j).relay.pump c.datagram).reassembler = (N.nodes j).relay.reassembler)
    (hq : ∀ p ∈ ((N.nodes j).relay.pump c.datagram).queued, p ∈ N.passed) : (N.arrive j c).Inv := by
  have hnode : ((N.nodes j).arrive c.datagram).relay.reassembler = (N.nodes j).relay.reassembler := hslots
  exact ⟨fun j' => inv_view_congr (h.view j') rfl rfl (congrFun hbegun j') (reassembler_setNode hnode j'), h.whole,
    holds_setNode h ⟨hq, (h.holds j).held, (h.holds j).filed⟩, h.built, h.justified⟩

omit [DecidableEq ι] in
/-- **A fragment joins a group of its own packet**, the ids being unique. -/
theorem joinsOwn_of_idsUnique (h : N.Inv) (hids : N.IdsUnique) {j : ι} {f : InFlight} (hf : f ∈ N.inFlight) :
    (N.view j).JoinsOwn (.deliver f packetCap) := by
  intro k hpick
  obtain ⟨hused, hid, hsrc⟩ := FragNet.group_joined (h.view j) hpick
  exact hids _ ((h.view j).begun k hused) f hf hid hsrc

theorem inv_arrive_part (h : N.Inv) (hids : N.IdsUnique) (j : ι) {f : InFlight} (hf : f ∈ N.inFlight) :
    (N.arrive j (.part f)).Inv := by
  have hdeliver := FragNet.inv_deliver (h.view j) (f := f) hf (joinsOwn_of_idsUnique h hids hf)
  have hpump := RelayBridge.pump_fragFrame (N.nodes j).relay ((h.view j).length f hf) f.id f.part
  refine ⟨fun j' => ?_, h.whole, holds_setNode h ⟨fun p hp => ?_, (h.holds j).held, (h.holds j).filed⟩, h.built, h.justified⟩
  · by_cases hj : j' = j
    · subst hj
      have hslots : ((N.arrive j' (.part f)).nodes j').relay.reassembler =
          ((N.nodes j').relay.reassembler.reassembleFrag f.body packetCap).1 := by
        show ((N.setNode j' _).nodes j').relay.reassembler = _
        rw [nodes_setNode_self]
        exact congrArg RelayBridge.reassembler hpump
      have hview : (N.arrive j' (.part f)).view j' =
          { (N.view j').deliver f packetCap with
            senders := fun i => ((N.arrive j' (.part f)).nodes i).relay, returned := [] } := by
        have hbegun : (N.arrive j' (.part f)).begunBy j' = begin (N.nodes j').relay.reassembler (N.begunBy j') f :=
          Function.update_self j' _ N.begunBy
        rw [DatagramNet.view, hslots, hbegun]
        rfl
      rw [hview]
      exact ⟨hdeliver.passed, hdeliver.length, hdeliver.part_lt, hdeliver.parts_lt, hdeliver.begun, hdeliver.collects,
        fun p hp => by cases hp⟩
    · exact inv_view_congr (h.view j') rfl rfl (Function.update_of_ne hj _ _)
        (congrArg (fun D : Draining => D.relay.reassembler) (nodes_setNode_of_ne N hj _))
  · -- what the reassembler gives out is a packet that was passed
    have hqueue : p ∈ ((N.nodes j).relay.pump f.frame).queued := hp
    rw [InFlight.frame, hpump, RelayBridge.queued] at hqueue
    obtain ⟨q, hq, rfl⟩ := List.mem_map.1 hqueue
    have hold : ∀ q ∈ (N.nodes j).relay.queue.toList, q.bytes ∈ N.passed := fun q hq =>
      (h.holds j).queued q.bytes (List.mem_map_of_mem hq)
    have hret := hdeliver.returned
    cases hout : ((N.nodes j).relay.reassembler.reassembleFrag (fragment f.packet f.id f.part) packetCap).2 with
    | none =>
      rw [hout] at hq
      exact hold q hq
    | some out =>
      rw [hout] at hq
      rcases RelayBridge.mem_queue_push hq with hq | rfl
      · exact hold q hq
      · apply hret
        show q.bytes ∈ [] ++ (((N.nodes j).relay.reassembler.reassembleFrag f.body packetCap).2.map (·.bytes)).toList
        rw [InFlight.body, hout]
        simp

theorem inv_arrive (h : N.Inv) (hids : N.IdsUnique) {j : ι} {c : Carried} (hmay : N.May (.arrive j c)) :
    (N.arrive j c).Inv := by
  cases c with
  | whole p =>
    obtain ⟨hpassed, hle⟩ := h.whole p hmay
    obtain ⟨q, rfl, hpump⟩ := RelayBridge.pump_whole (N.nodes j).relay hle
    refine inv_arrive_queued h rfl (by rw [Carried.datagram, hpump]) (fun b hb => ?_)
    rw [Carried.datagram, hpump] at hb
    obtain ⟨a, ha, rfl⟩ := List.mem_map.1 hb
    rcases RelayBridge.mem_queue_push ha with ha | rfl
    · exact (h.holds j).queued a.bytes (List.mem_map_of_mem ha)
    · exact hpassed
  | part f => exact inv_arrive_part h hids j (List.mem_filterMap.2 ⟨.part f, hmay, rfl⟩)
  | other datagram =>
    have hpump := RelayBridge.pump_other (N.nodes j).relay hmay
    refine inv_arrive_queued h rfl (by rw [Carried.datagram, hpump]) (fun b hb => ?_)
    rw [Carried.datagram, hpump] at hb
    exact (h.holds j).queued b hb

/-! ## The other steps -/

omit [DecidableEq ι] in
theorem inv_append_sent (h : N.Inv) (i : ι) (ds : List UdpSend) :
    Inv { N with trace := N.trace ++ ds.map (DatagramEvent.sent i) } where
  view := h.view
  whole := h.whole
  holds := h.holds
  built p hp := built_append (h.built p hp) _
  justified := Traces.justified_append_free _ h.justified (fun e he before => by
    obtain ⟨d, -, rfl⟩ := List.mem_map.1 he
    trivial)

omit [DecidableEq ι] in
/-- A `SendTo` takes at most a step of the service. -/
theorem console_sendTo (C : Console) (inst : Nat) (env : Env) (fd flags : Int) (buffer addr : Bytes) :
    ∃ S, (C.command inst env (.sendTo fd flags buffer addr)).console = C.setService S ∧
      S.relay.reassembler = C.service.relay.reassembler ∧ S.relay.queued.Sublist C.service.relay.queued := by
  have hstep : (C.service.sendTo inst fd buffer env.relayUp env.relayOk env.now).1.relay.reassembler =
      C.service.relay.reassembler ∧
      (C.service.sendTo inst fd buffer env.relayUp env.relayOk env.now).1.relay.queued.Sublist C.service.relay.queued :=
    ⟨C.service.step_reassembler (.sendTo inst fd buffer env.relayUp env.relayOk env.now),
      C.service.step_keepsQueue (.sendTo inst fd buffer env.relayUp env.relayOk env.now)⟩
  unfold Console.command
  cases C.service.instance? inst with
  | none => exact ⟨C.service, rfl, rfl, List.Sublist.refl _⟩
  | some s =>
    show ∃ S, (C.sendTo inst s env fd flags buffer addr).console = _ ∧ _
    unfold Console.sendTo
    split
    · exact ⟨_, rfl, hstep⟩
    split
    · unfold Console.sendToRelay
      dsimp only
      split
      · exact ⟨_, rfl, hstep⟩
      · split <;> exact ⟨_, rfl, hstep⟩
    · exact ⟨C.service, rfl, rfl, List.Sublist.refl _⟩

theorem inv_sendTo (h : N.Inv) (i : ι) (inst : Nat) (env : Env) (fd flags : Int) (buffer addr : Bytes)
    (sendto : Nat → Nat → Bool) :
    (N.sendTo i ((N.nodes i).console.command inst env (.sendTo fd flags buffer addr)) sendto).Inv := by
  obtain ⟨S, hconsole, hslots, hqueued⟩ := console_sendTo (N.nodes i).console inst env fd flags buffer addr
  have hD : Draining.HoldsOnly (· ∈ N.passed)
      { N.nodes i with console := ((N.nodes i).console.command inst env (.sendTo fd flags buffer addr)).console } := by
    rw [hconsole]
    exact Draining.holdsOnly_setService (h.holds i) hqueued
  have hsent := inv_append_sent (inv_setNode h (by rw [hconsole]; exact hslots) hD) i
    ((N.nodes i).console.command inst env (.sendTo fd flags buffer addr)).udp
  refine inv_transmitAll i _ sendto hsent (fun p hp => ?_)
  rcases List.mem_append.1 hp with hp | hp
  · exact built_of_segs hp
  · obtain ⟨d, hd, hpacket⟩ := List.mem_filterMap.1 hp
    exact .inr ⟨i, d, List.mem_append_right _ (List.mem_map_of_mem hd), hpacket⟩

omit [DecidableEq ι] in
/-- **What is reported was sent to the port.** -/
theorem authentic_recvFrom (h : N.Inv) (j : ι) (port : UInt16) (bufSize addrSize : Nat) :
    Authentic N.trace
      (.received j port bufSize addrSize ((N.nodes j).console.controlQueue.recvFrom port bufSize addrSize).2) := by
  rcases Draining.recvFrom_filed (h.holds j) port bufSize addrSize with hnone | ⟨p, q, hp, hflow, hpop⟩
  · exact .inl hnone
  · obtain ⟨i, d, hd, hpacket, hle, hport⟩ := sent_of_flow (h.built p hp) hflow
    rw [← hport] at hpop
    refine .inr ⟨i, d, hd, hport, ?_⟩
    rw [← hport, ControlQueue.recvFrom_of_packet hpacket hle hpop]

theorem inv_recvFrom (h : N.Inv) (j : ι) (inst : Nat) (fd : Int) (bufSize addrSize : Nat) :
    (N.recvFrom j inst fd bufSize addrSize).Inv := by
  unfold recvFrom
  split
  · exact h
  · rename_i s hs
    have hnode : ((N.nodes j).recvFrom s.bridgedLocalPort).relay.reassembler = (N.nodes j).relay.reassembler := by
      unfold Draining.recvFrom
      split <;> rfl
    have hset := inv_setNode h hnode (Draining.holdsOnly_recvFrom (h.holds j) s.bridgedLocalPort)
    exact ⟨hset.view, hset.whole, hset.holds, fun p hp => built_append (hset.built p hp) _,
      Traces.justified_append_singleton.2 ⟨h.justified, authentic_recvFrom h j s.bridgedLocalPort bufSize addrSize⟩⟩

theorem reassembler_file (D : Draining) (drainer : Drainer) (ourIsn : UInt32) :
    (D.file drainer ourIsn).relay.reassembler = D.relay.reassembler := by
  unfold Draining.file
  split
  · rfl
  · exact congrArg RelayBridge.reassembler (Console.drainPacket_relay _ _ _)

theorem reassembler_pop (D : Draining) (drainer : Drainer) : (D.pop drainer).relay.reassembler = D.relay.reassembler := by
  have hpop : (D.relay.popIpv4 drainBufSize).1.reassembler = D.relay.reassembler := by
    unfold RelayBridge.popIpv4
    split <;> rfl
  unfold Draining.pop
  split
  · rfl
  · split
    · rename_i hr
      rw [hr] at hpop
      exact hpop
    · rename_i hr
      rw [hr] at hpop
      exact hpop

theorem reassembler_other (D : Draining) (op : Service.Op) : (D.other op).relay.reassembler = D.relay.reassembler := by
  cases op with
  | drainSegment ourIsn m => rfl
  | _ => exact D.console.service.step_reassembler _

theorem inv_boot (h : N.Inv) (i : ι) : (N.setNode i {}).Inv := by
  refine ⟨fun j => ?_, h.whole, holds_setNode h Draining.holdsOnly_init, h.built, h.justified⟩
  have hold := h.view j
  by_cases hj : j = i
  · subst hj
    have hview : (N.setNode j {}).view j = { N.view j with
        senders := fun i' => ((N.setNode j {}).nodes i').relay, receiver := ({} : Draining).relay.reassembler } := by
      rw [DatagramNet.view, nodes_setNode_self]
      rfl
    rw [hview]
    refine ⟨hold.passed, hold.length, hold.part_lt, hold.parts_lt, fun k hk => ?_, fun k hk => ?_, hold.returned⟩
    · cases hk
    · cases hk
  · exact inv_view_congr hold rfl rfl rfl (congrArg (fun D : Draining => D.relay.reassembler) (nodes_setNode_of_ne N hj _))

/-- **Every step keeps the invariant**, the ids being unique. -/
theorem inv_step (h : N.Inv) (hids : N.IdsUnique) {op : Op ι} (hmay : N.May op) : (N.step op).Inv := by
  cases op with
  | boot i => exact inv_boot h i
  | sendTo i inst env fd flags buffer addr sendto => exact inv_sendTo h i inst env fd flags buffer addr sendto
  | recvFrom j inst fd bufSize addrSize => exact inv_recvFrom h j inst fd bufSize addrSize
  | arrive j c => exact inv_arrive h hids hmay
  | pop j drainer => exact inv_setNode h (reassembler_pop _ _) (Draining.holdsOnly_pop (h.holds j) drainer)
  | file j drainer ourIsn sendto =>
    have hset := inv_setNode h (reassembler_file _ _ _) (Draining.holdsOnly_file (h.holds j) drainer ourIsn)
    exact inv_transmitAll j _ sendto hset (fun p hp => built_of_segs hp)
  | other j op sendto =>
    have hset := inv_setNode h (reassembler_other _ _) (Draining.holdsOnly_other (h.holds j) op)
    exact inv_transmitAll j _ sendto hset (fun p hp => built_of_segs hp)

/-! ## Nothing leaves the network -/

theorem network_transmitAll (i : ι) : ∀ (ps : List Bytes) (N : DatagramNet ι) (sendto : Nat → Nat → Bool),
    N.network ⊆ (transmitAll i sendto ps N).network
  | [], _, _ => List.Subset.refl _
  | p :: ps, N, sendto =>
    List.Subset.trans (List.subset_append_left _ _)
      (network_transmitAll i ps (N.transmit i (sendto 0) p) (fun k => sendto (k + 1)))

theorem network_step (N : DatagramNet ι) (op : Op ι) : N.network ⊆ (N.step op).network := by
  cases op with
  | boot i => exact List.Subset.refl _
  | sendTo i inst env fd flags buffer addr sendto => exact network_transmitAll i _ { N.setNode i _ with trace := _ } sendto
  | recvFrom j inst fd bufSize addrSize =>
    show N.network ⊆ (N.recvFrom j inst fd bufSize addrSize).network
    unfold recvFrom
    split <;> exact List.Subset.refl _
  | arrive j c => exact List.Subset.refl _
  | pop j drainer => exact List.Subset.refl _
  | file j drainer ourIsn sendto => exact network_transmitAll j _ (N.setNode j _) sendto
  | other j op sendto => exact network_transmitAll j _ (N.setNode j _) sendto

theorem idsUnique_of_step {op : Op ι} (h : (N.step op).IdsUnique) : N.IdsUnique := by
  have hsub : N.inFlight ⊆ (N.step op).inFlight := fun f hf => by
    obtain ⟨c, hc, hpart⟩ := List.mem_filterMap.1 hf
    exact List.mem_filterMap.2 ⟨c, network_step N op hc, hpart⟩
  exact fun f hf g hg => h f (hsub hf) g (hsub hg)

theorem inv_of_reachable (h : Reachable N) (hids : N.IdsUnique) : N.Inv := by
  have hstep : ∀ (M : DatagramNet ι) (op : Op ι), (M.IdsUnique → M.Inv) → M.May op → (M.step op).IdsUnique → (M.step op).Inv :=
    fun M op hM hmay hnext => inv_step (hM (idsUnique_of_step hnext)) (idsUnique_of_step hnext) hmay
  exact Runs.Reachable.keeps (P := fun M : DatagramNet ι => M.IdsUnique → M.Inv) (fun _ => inv_init) hstep h hids

instance decidableIsOther : ∀ datagram : Bytes, Decidable (Carried.IsOther datagram)
  | [] => isTrue fun _ _ h => by cases h
  | tag :: _ => decidable_of_iff (RelayFrameType.ofByte? (tag &&& 0x7F) ≠ some .ipv4 ∧
      RelayFrameType.ofByte? (tag &&& 0x7F) ≠ some .ipv4Frag)
    ⟨fun h _ _ he => by cases he; exact h, fun h => h tag _ rfl⟩

instance decidableMay (N : DatagramNet ι) : ∀ op : Op ι, Decidable (N.May op)
  | .arrive _ (.whole p) => inferInstanceAs (Decidable (Carried.whole p ∈ N.network))
  | .arrive _ (.part f) => inferInstanceAs (Decidable (Carried.part f ∈ N.network))
  | .arrive _ (.other datagram) => inferInstanceAs (Decidable (Carried.IsOther datagram))
  | .boot _ | .sendTo .. | .recvFrom .. | .pop .. | .file .. | .other .. => isTrue trivial

instance (N : DatagramNet ι) : Decidable N.IdsUnique := by
  unfold IdsUnique
  infer_instance

/-- Every `sendto` succeeds. -/
def allSent : Nat → Nat → Bool := fun _ _ => true

/-- An instance of the console binds its control socket. -/
def bindsControl (i : Bool) (ip : UInt32) : List (Op Bool) :=
  [.create, .socket 0 SOCK_DGRAM 3, .bind 0 3 ldnControlPort ip true].map (.other i · allSent)

/-- A datagram whose packet is too long for one frame. -/
def longDatagram : UdpSend := ⟨0x0A0D0001, 0x0A0D0002, ldnControlPort, ldnControlPort, List.replicate 1380 7⟩

/-- One console sends it to the other, which gets its fragments in the wrong order and the second of them twice. -/
def exchange : List (Op Bool) :=
  let p := longDatagram.packet?.getD []
  bindsControl false 0x0A0D0001 ++ bindsControl true 0x0A0D0002 ++
    [.sendTo false 0 Console.quietEnv 3 0 longDatagram.payload (sockaddrBytes 0x0A0D0002 ldnControlPort) allSent,
      .arrive true (.part ⟨p, 0, 1⟩), .arrive true (.part ⟨p, 0, 1⟩), .arrive true (.part ⟨p, 0, 0⟩), .pop true .dispatch,
      .file true .dispatch 0 allSent, .recvFrom true 0 3 2048 16]

def exchanged : DatagramNet Bool := Runs.run step {} exchange

/-- The length a `RecvFrom` reports. -/
def reported : DatagramEvent Bool → Option Int
  | .sent _ _ => none
  | .received _ _ _ _ out => some out.ret

end DatagramNet
end Slp
