import SwitchLanPlay.Bytes
/-!
# Packets — the IPv4/UDP and IPv4/TCP packets of the bridge (source/bsd/bsd_bridge_service.cpp)

The two parsers, the two builders and their checksums.  A TCP segment is `Segment`, the arguments of `SendTcpSegment`;
`TcpSegment` is what `ParseIpv4Tcp` reads from a packet, which leaves the destination address out.  What one end
builds the other end parses back (`parseIpv4Tcp_packet`).
-/
namespace Slp

open Wire

def vtcpInboxCap : Nat := 2048

def maxBridgedPayload : Nat := vtcpInboxCap

def ldnControlPort : UInt16 := 11452

def TCP_FIN : UInt8 := 0x01
def TCP_SYN : UInt8 := 0x02
def TCP_RST : UInt8 := 0x04
def TCP_PSH : UInt8 := 0x08
def TCP_ACK : UInt8 := 0x10

/-! ## Parsing -/

structure UdpDatagram where
  srcIp : UInt32
  dstPort : UInt16
  payload : Bytes
deriving DecidableEq

structure TcpSegment where
  srcIp : UInt32
  srcPort : UInt16
  dstPort : UInt16
  seq : UInt32
  ack : UInt32
  flags : UInt8
  payload : Bytes
deriving DecidableEq

/-- The header length of byte 0, in bytes. -/
def ihlOf (pkt : Bytes) : Nat := (byteAt pkt 0 &&& 0x0F).toNat * 4

def parseIpv4Udp (pkt : Bytes) : Option UdpDatagram :=
  if pkt.length < 28 then none
  else
    let ihl := ihlOf pkt
    if byteAt pkt 9 ≠ 17 ∨ pkt.length < ihl + 8 then none
    else
      let udpLen := (read16 (byteAt pkt (ihl + 4)) (byteAt pkt (ihl + 5))).toNat
      let payloadLen := if 8 ≤ udpLen then udpLen - 8 else 0
      if pkt.length < ihl + udpLen then none
      else some
        { srcIp := read32 (byteAt pkt 12) (byteAt pkt 13) (byteAt pkt 14) (byteAt pkt 15)
          dstPort := read16 (byteAt pkt (ihl + 2)) (byteAt pkt (ihl + 3))
          payload := bytesAt pkt (ihl + 8) payloadLen }

def parseIpv4Tcp (pkt : Bytes) : Option TcpSegment :=
  if pkt.length < 40 then none
  else
    let ihl := ihlOf pkt
    if byteAt pkt 9 ≠ 6 ∨ pkt.length < ihl + 20 then none
    else
      let dataOffset := (byteAt pkt (ihl + 12) >>> 4).toNat * 4
      if dataOffset < 20 ∨ pkt.length < ihl + dataOffset then none
      else some
        { srcIp := read32 (byteAt pkt 12) (byteAt pkt 13) (byteAt pkt 14) (byteAt pkt 15)
          srcPort := read16 (byteAt pkt ihl) (byteAt pkt (ihl + 1))
          dstPort := read16 (byteAt pkt (ihl + 2)) (byteAt pkt (ihl + 3))
          seq := read32 (byteAt pkt (ihl + 4)) (byteAt pkt (ihl + 5)) (byteAt pkt (ihl + 6)) (byteAt pkt (ihl + 7))
          ack := read32 (byteAt pkt (ihl + 8)) (byteAt pkt (ihl + 9)) (byteAt pkt (ihl + 10)) (byteAt pkt (ihl + 11))
          flags := byteAt pkt (ihl + 13)
          payload := pkt.drop (ihl + dataOffset) }

/-! ## Checksums -/

/-- `while (sum >> 16) sum = (sum & 0xFFFF) + (sum >> 16);`: a 32-bit sum is folded after three turns. -/
def foldCarry : Nat → UInt32 → UInt32
  | 0, sum => sum
  | n + 1, sum => if sum >>> 16 = 0 then sum else foldCarry n ((sum &&& (0xFFFF : UInt32)) + (sum >>> 16))

/-- The sum of a byte string's 16-bit words, an odd last byte being the high half of one. -/
def wordSum : Bytes → UInt32
  | [] => 0
  | [a] => a.toUInt32 <<< 8
  | a :: b :: rest => ((a.toUInt32 <<< 8) ||| b.toUInt32) + wordSum rest

/-- `IpChecksum` of the header's 20 bytes; its own field (offset 10) is skipped. -/
def ipChecksum (header : Bytes) : UInt16 :=
  let sum := wordSum (bytesAt header 0 10) + wordSum (bytesAt header 12 8)
  ~~~ (foldCarry 3 sum).toUInt16

/-- `TcpChecksum` of the pseudo header and the segment. -/
def tcpChecksum (srcIp dstIp : UInt32) (seg : Bytes) : UInt16 :=
  let sum := ((srcIp >>> 16) &&& (0xFFFF : UInt32)) + (srcIp &&& (0xFFFF : UInt32)) +
    ((dstIp >>> 16) &&& (0xFFFF : UInt32)) + (dstIp &&& (0xFFFF : UInt32)) + 6 + UInt32.ofNat seg.length + wordSum seg
  ~~~ (foldCarry 3 sum).toUInt16

/-! ## Building -/

/-- The IPv4 header both builders write, its checksum field given. -/
def ipHeader (proto : UInt8) (total : Nat) (srcIp dstIp : UInt32) (checksum : UInt16) : Bytes :=
  [0x45, 0x00] ++ be16 (UInt16.ofNat total) ++ [0, 0, 0, 0, 64, proto] ++ be16 checksum ++ be32 srcIp ++ be32 dstIp

def ipHeaderSummed (proto : UInt8) (total : Nat) (srcIp dstIp : UInt32) : Bytes :=
  ipHeader proto total srcIp dstIp (ipChecksum (ipHeader proto total srcIp dstIp 0))

/-- The arguments of `SendTcpSegment`. -/
structure Segment where
  srcIp : UInt32
  dstIp : UInt32
  srcPort : UInt16
  dstPort : UInt16
  seq : UInt32
  ack : UInt32
  flags : UInt8
  payload : Bytes := []
deriving DecidableEq

namespace Segment

/-- What the receiving end's parser makes of the segment. -/
def received (s : Segment) : TcpSegment where
  srcIp := s.srcIp
  srcPort := s.srcPort
  dstPort := s.dstPort
  seq := s.seq
  ack := s.ack
  flags := s.flags
  payload := s.payload

def tcpBytes (s : Segment) (checksum : UInt16) : Bytes :=
  be16 s.srcPort ++ be16 s.dstPort ++ be32 s.seq ++ be32 s.ack ++ [(5 : UInt8) <<< 4, s.flags, 0x20, 0x00] ++ be16 checksum
    ++ [0, 0] ++ s.payload

/-- `SendTcpSegment`'s packet, or nothing when the payload outgrows its buffer. -/
def packet? (s : Segment) : Option Bytes :=
  let total := 20 + (20 + s.payload.length)
  if 20 + 20 + maxBridgedPayload < total then none
  else some (ipHeaderSummed 6 total s.srcIp s.dstIp ++
    s.tcpBytes (tcpChecksum s.srcIp s.dstIp (s.tcpBytes 0)))

end Segment

/-- The packet a bridged `SendTo` builds, or nothing when the payload outgrows its buffer. -/
def udpPacket? (srcIp dstIp : UInt32) (srcPort dstPort : UInt16) (payload : Bytes) : Option Bytes :=
  let total := 20 + 8 + payload.length
  if 20 + 8 + maxBridgedPayload < total then none
  else some (ipHeaderSummed 17 total srcIp dstIp ++ be16 srcPort ++ be16 dstPort ++
    be16 (UInt16.ofNat (8 + payload.length)) ++ [0, 0] ++ payload)

/-! ## Results -/

/-- The errno values the bridge sets itself. -/
inductive Errno where
  | none
  | EIO
  | EMSGSIZE
  | EWOULDBLOCK
  | ENOBUFS
  | ETIMEDOUT
deriving DecidableEq

/-- What a bridged `RecvFrom` answers: the return value, the bytes copied out, and the source address with the length
copied of it. -/
structure RecvFromOut where
  ret : Int
  errno : Errno
  payload : Bytes := []
  src : Option (UInt32 × UInt16) := Option.none
  addrlen : Nat := 0
deriving DecidableEq

namespace RecvFromOut

def wouldBlock : RecvFromOut where
  ret := -1
  errno := .EWOULDBLOCK

/-- `sizeof(struct sockaddr_in)`. -/
def sockaddrSize : Nat := 16

/-- A delivery into buffers of `bufSize` and `addrSize` bytes. -/
def delivered (payload : Bytes) (srcIp : UInt32) (srcPort : UInt16) (bufSize addrSize : Nat) : RecvFromOut where
  ret := (payload.take bufSize).length
  errno := .none
  payload := payload.take bufSize
  src := some (srcIp, srcPort)
  addrlen := min addrSize sockaddrSize

end RecvFromOut

/-! ## Facts -/

theorem ipHeader_cons (proto : UInt8) (total : Nat) (srcIp dstIp : UInt32) (checksum : UInt16) :
    ∃ a b c d, ipHeader proto total srcIp dstIp checksum =
      [0x45, 0x00, a, b, 0, 0, 0, 0, 64, proto, c, d,
        (srcIp >>> 24).toUInt8, (srcIp >>> 16).toUInt8, (srcIp >>> 8).toUInt8, srcIp.toUInt8,
        (dstIp >>> 24).toUInt8, (dstIp >>> 16).toUInt8, (dstIp >>> 8).toUInt8, dstIp.toUInt8] :=
  ⟨_, _, _, _, rfl⟩

theorem length_ipHeader (proto : UInt8) (total : Nat) (srcIp dstIp : UInt32) (checksum : UInt16) :
    (ipHeader proto total srcIp dstIp checksum).length = 20 := rfl

theorem Segment.length_packet {s : Segment} {p : Bytes} (h : s.packet? = some p) :
    p.length = 40 + s.payload.length := by
  simp only [packet?] at h
  split at h
  · cases h
  · cases h
    simp [ipHeaderSummed, length_ipHeader, tcpBytes]
    omega

/-- **What `SendTcpSegment` builds, `ParseIpv4Tcp` reads back.** -/
theorem parseIpv4Tcp_packet {s : Segment} {p : Bytes} (h : s.packet? = some p) : parseIpv4Tcp p = some s.received := by
  have hlen := Segment.length_packet h
  simp only [Segment.packet?] at h
  split at h
  · cases h
  · have hp := Option.some.inj h
    obtain ⟨a, b, c, d, hip⟩ := ipHeader_cons 6 (20 + (20 + s.payload.length)) s.srcIp s.dstIp
      (ipChecksum (ipHeader 6 (20 + (20 + s.payload.length)) s.srcIp s.dstIp 0))
    rw [ipHeaderSummed, hip] at hp
    have hihl : ihlOf p = 20 := by rw [← hp]; simp [ihlOf, byteAt]
    have hproto : byteAt p 9 = 6 := by rw [← hp]; rfl
    have hoff : (byteAt p (20 + 12) >>> 4).toNat * 4 = 20 := by
      rw [← hp]
      simp [byteAt, Segment.tcpBytes, be16, be32]
    rw [parseIpv4Tcp, if_neg (by omega)]
    simp only [hihl, hproto, hoff, hlen]
    rw [if_neg (by simp), if_neg (by omega), ← hp]
    simp [byteAt, Segment.tcpBytes, be16, be32, Segment.received]

end Slp
