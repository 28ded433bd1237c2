import SwitchLanPlay.PacketParsing
/-!
# PacketRoundTrip — what the builders write, the parsers read

`SendTcpSegment` and the bridged `SendTo` write their headers byte by byte, and the two parsers and `RecvFrom` read them so.
Every field and every payload up to `maxBridgedPayload` survives the way (`packets_round_trip`): a datagram sent on one
bridged socket is read on another under the sender's bound address and port.
-/
namespace Slp

open Wire

/-! ## The UDP packet -/

section UdpPacket

variable {srcIp dstIp : UInt32} {srcPort dstPort : UInt16} {payload p : Bytes}

theorem udpPacket_of_le (srcIp dstIp : UInt32) (srcPort dstPort : UInt16) (h : payload.length ≤ maxBridgedPayload) :
    ∃ p, udpPacket? srcIp dstIp srcPort dstPort payload = some p := by
  unfold udpPacket?
  exact ⟨_, if_neg (by omega)⟩

theorem Segment.packet_of_le {s : Segment} (h : s.payload.length ≤ maxBridgedPayload) : ∃ p, s.packet? = some p := by
  unfold Segment.packet?
  exact ⟨_, if_neg (by omega)⟩

/-- The packet's bytes: those of its header, its ports and its length, and the payload. -/
theorem udpPacket_cons (h : udpPacket? srcIp dstIp srcPort dstPort payload = some p) : ∃ a b c d,
    p = [0x45, 0x00, a, b, 0, 0, 0, 0, 64, 17, c, d] ++ be32 srcIp ++ be32 dstIp ++ be16 srcPort ++ be16 dstPort ++
      be16 (UInt16.ofNat (8 + payload.length)) ++ [0, 0] ++ payload := by
  simp only [udpPacket?] at h
  split at h
  · cases h
  · obtain ⟨a, b, c, d, hip⟩ := ipHeader_cons 17 (20 + 8 + payload.length) srcIp dstIp
      (ipChecksum (ipHeader 17 (20 + 8 + payload.length) srcIp dstIp 0))
    rw [ipHeaderSummed, hip] at h
    exact ⟨a, b, c, d, by rw [← Option.some.inj h]; simp [be32]⟩

theorem length_udpPacket (h : udpPacket? srcIp dstIp srcPort dstPort payload = some p) : p.length = 28 + payload.length := by
  obtain ⟨a, b, c, d, rfl⟩ := udpPacket_cons h
  simp [be32, be16]
  omega

theorem ihlOf_udpPacket (h : udpPacket? srcIp dstIp srcPort dstPort payload = some p) : ihlOf p = 20 := by
  obtain ⟨a, b, c, d, rfl⟩ := udpPacket_cons h
  simp [ihlOf, byteAt]

theorem udpLengthOf_udpPacket (h : udpPacket? srcIp dstIp srcPort dstPort payload = some p)
    (hle : payload.length ≤ maxBridgedPayload) : udpLengthOf p = 8 + payload.length := by
  have hihl := ihlOf_udpPacket h
  obtain ⟨a, b, c, d, rfl⟩ := udpPacket_cons h
  rw [udpLengthOf, hihl]
  simp only [byteAt, be32, be16, List.cons_append, List.nil_append, List.getD_cons_succ, List.getD_cons_zero, read16_be16]
  rw [UInt16.toNat_ofNat', Nat.mod_eq_of_lt]
  unfold maxBridgedPayload vtcpInboxCap at hle
  omega

/-- **What a bridged `SendTo` builds, `ParseIpv4Udp` reads back.** -/
theorem parseIpv4Udp_packet (h : udpPacket? srcIp dstIp srcPort dstPort payload = some p)
    (hle : payload.length ≤ maxBridgedPayload) : parseIpv4Udp p = some ⟨srcIp, dstPort, payload⟩ := by
  have hlen := length_udpPacket h
  have hihl := ihlOf_udpPacket h
  have hudp := udpLengthOf_udpPacket h hle
  have hproto : byteAt p 9 = 17 := by
    obtain ⟨a, b, c, d, rfl⟩ := udpPacket_cons h
    rfl
  refine parseIpv4Udp_iff.2 ⟨⟨by omega, hproto, by omega, by omega⟩, ?_⟩
  rw [udpOf, hihl, hudp]
  obtain ⟨a, b, c, d, rfl⟩ := udpPacket_cons h
  simp [srcIpOf, byteAt, bytesAt, be32, be16]

/-- **`RecvFrom` reads the sender's port** where the UDP header has it. -/
theorem srcPort_udpPacket (h : udpPacket? srcIp dstIp srcPort dstPort payload = some p) :
    read16 (byteAt p (ihlOf p)) (byteAt p (ihlOf p + 1)) = srcPort := by
  rw [ihlOf_udpPacket h]
  obtain ⟨a, b, c, d, rfl⟩ := udpPacket_cons h
  simp [byteAt, be32, be16]

theorem dstIp_udpPacket (h : udpPacket? srcIp dstIp srcPort dstPort payload = some p) : dstIpOf p = dstIp := by
  obtain ⟨a, b, c, d, rfl⟩ := udpPacket_cons h
  simp [dstIpOf, byteAt, be32]

end UdpPacket

/-! ## From `SendTo` to `RecvFrom` -/

/-- The packet of a datagram for the relay. -/
def UdpSend.packet? (d : UdpSend) : Option Bytes := udpPacket? d.srcIp d.dstIp d.srcPort d.dstPort d.payload

/-- The destination a `SendTo` reads from its address buffer: 0.0.0.0:0 when that holds no `sockaddr_in`. -/
def destinationOf (addr : Bytes) : UInt32 × UInt16 := (sockaddrIn? addr).getD (0, 0)

theorem destinationOf_sockaddrBytes (ip : UInt32) (port : UInt16) : destinationOf (sockaddrBytes ip port) = (ip, port) := by
  simp [destinationOf, sockaddrIn?, sockaddrBytes, RecvFromOut.sockaddrSize, be16, be32, byteAt]

/-- **A read that takes the packet** returns its payload, its source address and its source port. -/
theorem ControlQueue.recvFrom_of_packet {q q' : ControlQueue} {port : UInt16} {srcIp dstIp : UInt32} {srcPort dstPort : UInt16}
    {payload p : Bytes} (hp : udpPacket? srcIp dstIp srcPort dstPort payload = some p)
    (hle : payload.length ≤ maxBridgedPayload) (hpop : q.popControlPacketForPort port = some (packetOf p dstPort, q'))
    (bufSize addrSize : Nat) :
    q.recvFrom port bufSize addrSize = (q', .delivered payload srcIp srcPort bufSize addrSize) := by
  have hbytes : (packetOf p dstPort).data.bytes = p := by
    have hlen := length_udpPacket hp
    exact List.take_of_length_le (by unfold controlPacketCap; omega)
  rw [recvFrom, hpop]
  simp only [hbytes, parseIpv4Udp_packet hp hle, srcPort_udpPacket hp]

namespace Console

/-- The instance's bridged socket, with no virtual connection under its descriptor. -/
structure BridgedAt (C : Console) (i : Nat) (s : Instance) (fd : Int) : Prop where
  instance_eq : C.service.instance? i = some s
  no_conn : C.service.vtcp.findVTcpConnByFd (C.service.owns i) fd = none
  bridged : s.isBridged fd = true

variable {C : Console} {i : Nat} {s : Instance} {fd : Int}

theorem udp_sendTo (h : C.BridgedAt i s fd) {env : Env} (hup : (C.service.ensureRelayConnected env.relayUp).2 = true)
    {buffer : Bytes} (hle : buffer.length ≤ maxBridgedPayload) (flags : Int) (addr : Bytes) :
    (C.command i env (.sendTo fd flags buffer addr)).udp =
      [⟨s.bridgedLocalIp, (destinationOf addr).1, s.bridgedLocalPort, (destinationOf addr).2, buffer⟩] := by
  rw [command, h.instance_eq]
  show (C.sendTo i s env fd flags buffer addr).udp = _
  rw [sendTo, h.no_conn]
  dsimp only
  rw [if_pos h.bridged, sendToRelay]
  dsimp only
  rw [if_neg (by simp [hup]), if_neg (by omega)]
  rfl

theorem reply_recvFrom (hs : C.service.instance? i = some s) {env : Env}
    (h : (C.drainRawRelayQueue env.drained).1.service.vtcp.findVTcpConnByFd
      ((C.drainRawRelayQueue env.drained).1.service.owns i) fd = none) (hb : s.isBridged fd = true) (flags : Int)
    (buffer addrOut : Nat) :
    (C.command i env (.recvFrom fd flags buffer addrOut)).reply =
      ((C.drainRawRelayQueue env.drained).1.controlQueue.recvFrom s.bridgedLocalPort buffer addrOut).2.answer := by
  rw [command, hs]
  show (C.recvFrom i s env fd flags buffer addrOut).reply = _
  unfold recvFrom
  dsimp only
  rw [h]
  dsimp only
  rw [if_pos hb]
  rfl

/-- **The builders and the parsers are inverse.**  A segment of `SendTcpSegment` is read back field for field.  A `SendTo` on a
bridged socket sends one packet, which is read back with the sender's bound address, the port it is for and its payload; and
the `RecvFrom` that takes it from the control queue, whatever the sizes of its buffers, reports the payload and the sender's
bound address and port. -/
theorem packets_round_trip :
    (∀ m : Segment, m.payload.length ≤ maxBridgedPayload → ∃ p, m.packet? = some p ∧ parseIpv4Tcp p = some m.received) ∧
    (∀ (C : Console) (i : Nat) (s : Instance) (fd flags : Int) (env : Env) (buffer addr : Bytes), C.BridgedAt i s fd →
      (C.service.ensureRelayConnected env.relayUp).2 = true → buffer.length ≤ maxBridgedPayload →
      ∃ d p, (C.command i env (.sendTo fd flags buffer addr)).udp = [d] ∧ d.packet? = some p ∧
        dstIpOf p = (destinationOf addr).1 ∧ parseIpv4Udp p = some ⟨s.bridgedLocalIp, (destinationOf addr).2, buffer⟩ ∧
        (∀ (C' : Console) (ourIsn : UInt32), (C'.drainPacket ourIsn p).1.controlQueue =
          C'.controlQueue.push (ControlQueue.packetOf p (destinationOf addr).2)) ∧
        ∀ (C' : Console) (j : Nat) (s' : Instance) (fd' flags' : Int) (env' : Env) (q : ControlQueue) (bufSize addrSize : Nat),
          C'.service.instance? j = some s' → (C'.drainRawRelayQueue env'.drained).1.BridgedAt j s' fd' →
          (C'.drainRawRelayQueue env'.drained).1.controlQueue.popControlPacketForPort s'.bridgedLocalPort =
            some (ControlQueue.packetOf p (destinationOf addr).2, q) →
          (C'.command j env' (.recvFrom fd' flags' bufSize addrSize)).reply =
            (RecvFromOut.delivered buffer s.bridgedLocalIp s.bridgedLocalPort bufSize addrSize).answer) := by
  constructor
  · intro m hle
    obtain ⟨p, hp⟩ := Segment.packet_of_le hle
    exact ⟨p, hp, parseIpv4Tcp_packet hp⟩
  · intro C i s fd flags env buffer addr h hup hle
    obtain ⟨p, hp⟩ := udpPacket_of_le s.bridgedLocalIp (destinationOf addr).1 s.bridgedLocalPort (destinationOf addr).2 hle
    have hparse := parseIpv4Udp_packet hp hle
    refine ⟨_, p, udp_sendTo h hup hle flags addr, hp, dstIp_udpPacket hp, hparse, ?_, ?_⟩
    · intro C' ourIsn
      have hacc := (parseIpv4Udp_iff.1 hparse).1
      have hlen := hacc.length
      rw [drainPacket, if_neg (by omega)]
      dsimp only
      rw [if_pos hacc.proto]
      simp only [ControlQueue.file, hparse]
    · intro C' j s' fd' flags' env' q bufSize addrSize hs' h' hpop
      rw [reply_recvFrom hs' h'.no_conn h'.bridged, ControlQueue.recvFrom_of_packet hp hle hpop]

theorem bridgedAt_of (C : Console) (i : Nat) (fd : Int) (port : UInt16)
    (hconn : C.service.vtcp.findVTcpConnByFd (C.service.owns i) fd = none)
    (hb : (C.service.instance? i).any (fun s => s.isBridged fd && s.bridgedLocalPort == port) = true) :
    ∃ s, C.BridgedAt i s fd ∧ s.bridgedLocalPort = port := by
  cases hs : C.service.instance? i with
  | none =>
    rw [hs] at hb
    cases hb
  | some s =>
    rw [hs, Option.any_some, Bool.and_eq_true, beq_iff_eq] at hb
    exact ⟨s, ⟨hs, hconn, hb.1⟩, hb.2⟩

theorem bridgedAt_hostConsole : ∃ s, hostConsole.BridgedAt 0 s 3 := by
  obtain ⟨s, hs, -⟩ := bridgedAt_of hostConsole 0 3 ldnControlPort (by decide +kernel) (by decide +kernel)
  exact ⟨s, hs⟩

/-- A byte from the host to a station, port to port. -/
def hostDatagram : UdpSend := ⟨0x0A0D0001, 0x0A0D0002, ldnControlPort, ldnControlPort, [7]⟩

/-- A console with the same socket, to which the packet has come. -/
def readingConsole : Console := (hostConsole.drainPacket 0 (hostDatagram.packet?.getD [])).1

theorem packets_round_trip_hostConsole : (∃ p, oneByte.packet? = some p ∧ parseIpv4Tcp p = some oneByte.received) ∧
    ∃ s p, hostConsole.BridgedAt 0 s 3 ∧
      (hostConsole.command 0 quietEnv (.sendTo 3 0 [7] (sockaddrBytes 0x0A0D0002 ldnControlPort))).udp = [hostDatagram] ∧
      hostDatagram.packet? = some p ∧ parseIpv4Udp p = some ⟨s.bridgedLocalIp, ldnControlPort, [7]⟩ ∧
      (readingConsole.command 0 quietEnv (.recvFrom 3 0 64 16)).reply =
        (RecvFromOut.delivered [7] s.bridgedLocalIp s.bridgedLocalPort 64 16).answer := by
  obtain ⟨s, hs⟩ := bridgedAt_hostConsole
  obtain ⟨d, p, hd, hp, -, hparse, -, hread⟩ := packets_round_trip.2 hostConsole 0 s 3 0 quietEnv [7]
    (sockaddrBytes 0x0A0D0002 ldnControlPort) hs (by decide +kernel) (by decide)
  rw [destinationOf_sockaddrBytes] at hparse hread
  have hsent : (hostConsole.command 0 quietEnv (.sendTo 3 0 [7] (sockaddrBytes 0x0A0D0002 ldnControlPort))).udp =
      [hostDatagram] := by decide +kernel
  rw [hsent, List.cons.injEq] at hd
  obtain ⟨rfl, -⟩ := hd
  have hqueued : (readingConsole.drainRawRelayQueue quietEnv.drained).1.controlQueue.packets =
      [ControlQueue.packetOf (hostDatagram.packet?.getD []) ldnControlPort] := rfl
  rw [hp, Option.getD_some] at hqueued
  have hfirst : popFirst (fun c : ControlPacket => c.dstPort == ldnControlPort)
      (readingConsole.drainRawRelayQueue quietEnv.drained).1.controlQueue.packets =
        some (ControlQueue.packetOf p ldnControlPort, []) := by
    rw [hqueued]
    rfl
  obtain ⟨_, hpop⟩ := ControlQueue.pop_of_some hfirst
  obtain ⟨s', hs', hport⟩ := bridgedAt_of (readingConsole.drainRawRelayQueue quietEnv.drained).1 0 3 ldnControlPort
    (by decide +kernel) (by decide +kernel)
  refine ⟨packets_round_trip.1 oneByte (by decide), s, p, hs, hsent, hp, hparse, ?_⟩
  exact hread readingConsole 0 s' 3 0 quietEnv _ 64 16 hs'.instance_eq hs' (by rw [hport]; exact hpop)

end Console
end Slp
