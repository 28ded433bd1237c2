import Mathlib.Algebra.Group.Int.Defs
import SwitchLanPlay.Checksums
import SwitchLanPlay.NetworkInfo
import SwitchLanPlay.RelayPeer
/-!
# LdnWire — the tools' packets beside the bridge's (tools/slp_ldn.py, tools/slp_fake_player.py)

The tools build and parse the bridge's packets with code of their own.  A TCP segment of `_build_tcp_segment` is the one that
`SendTcpSegment` builds but for the checksum of the IP header, which the tools leave 0, for every payload that the length field
can tell; and `_parse_ipv4_tcp` accepts what `ParseIpv4Tcp` accepts and reads the same of it (`tcp_codec`).

Of the socket only the size that a datagram can have is looked at: `send_control` raises a little before its own lengths are
full.  The tools' parsers of datagrams are not the bridge's.  `_recv_loop` looks at no length, and takes what is there of a datagram
that is cut off; `parse_udp` asks for a total length and a UDP length that fit.  Both read what the bridge reads of the packets
that all of them accept (`udp_codec`).
-/
namespace Slp
namespace LdnWire

open Wire OnesComplement

/-- What packing, indexing and sending raise: `messageTooLong` is the `OSError` of `EMSGSIZE`. -/
inductive BuildError where
  | structError
  | indexError
  | messageTooLong
deriving DecidableEq

/-! ## Python's byte strings -/

/-- `b[i:j]`. -/
def slice (b : Bytes) (i j : Nat) : Bytes := (b.take j).drop i

/-- `int.from_bytes(b, "big")`. -/
def fromBytes (b : Bytes) : Nat := leValue b.reverse

/-- A field "H" of `struct.pack`. -/
def packU16 (n : Int) : Except BuildError Bytes :=
  if 0 ≤ n ∧ n < 65536 then .ok (be16 (UInt16.ofNat n.toNat)) else .error .structError

/-- A field "B". -/
def packU8 (n : Int) : Except BuildError Bytes :=
  if 0 ≤ n ∧ n < 256 then .ok [UInt8.ofNat n.toNat] else .error .structError

/-! ## TCP segments (slp_ldn.py) -/

/-- `(b[i] << 8) | b[i + 1]`. -/
def wordAt (b : Bytes) (i : Nat) : Except BuildError Nat :=
  match b[i]?, b[i + 1]? with
  | some hi, some lo => .ok ((hi.toNat <<< 8) ||| lo.toNat)
  | _, _ => .error .indexError

/-- The loop of `_tcp_checksum` over the segment, and its odd last byte. -/
def segmentSum : Bytes → Nat
  | [] => 0
  | [a] => a.toNat <<< 8
  | a :: b :: rest => ((a.toNat <<< 8) ||| b.toNat) + segmentSum rest

/-- `while s >> 16: s = (s & 0xFFFF) + (s >> 16)`, on integers that do not wrap. -/
def foldSum (s : Nat) : Nat :=
  if s >>> 16 = 0 then s else foldSum ((s &&& 0xFFFF) + (s >>> 16))
termination_by s
decreasing_by
  rename_i h
  have hand : s &&& 65535 = s % 65536 := Nat.and_two_pow_sub_one_eq_mod s 16
  simp only [Nat.shiftRight_eq_div_pow, Nat.reducePow] at h ⊢
  omega

/-- `_tcp_checksum`. -/
def tcpChecksum (srcIp dstIp seg : Bytes) : Except BuildError UInt16 := do
  let s0 ← wordAt srcIp 0
  let s1 ← wordAt srcIp 2
  let d0 ← wordAt dstIp 0
  let d1 ← wordAt dstIp 2
  return ~~~ UInt16.ofNat (foldSum (s0 + s1 + d0 + d1 + 6 + seg.length + segmentSum seg))

/-- `_build_tcp_segment`. -/
def buildTcpSegment (srcIp dstIp : Bytes) (srcPort dstPort seq ack flags : Int) (payload : Bytes) :
    Except BuildError Bytes := do
  let total ← packU16 (20 + (20 + payload.length))
  let ipHdr := [0x45, 0x00] ++ total ++ [0, 0, 0, 0, 64, 6] ++ be16 0 ++ Ldn.fit 4 srcIp ++ Ldn.fit 4 dstIp
  let srcPort ← packU16 srcPort
  let dstPort ← packU16 dstPort
  let flags ← packU8 flags
  let tcpHdr := srcPort ++ dstPort ++ be32 (UInt32.ofInt seq) ++ be32 (UInt32.ofInt ack) ++ [(5 : UInt8) <<< 4] ++ flags ++
    [0x20, 0x00] ++ be16 0 ++ [0, 0]
  let seg := tcpHdr ++ payload
  let csum ← tcpChecksum srcIp dstIp seg
  return ipHdr ++ (seg.take 16 ++ be16 csum ++ seg.drop 18)

/-- What `_parse_ipv4_tcp` returns. -/
structure ParsedTcp where
  srcIp : Bytes
  dstIp : Bytes
  srcPort : Nat
  dstPort : Nat
  seq : Nat
  ack : Nat
  flags : Nat
  payload : Bytes
deriving DecidableEq

/-- `_parse_ipv4_tcp`. -/
def parseIpv4Tcp (pkt : Bytes) : Option ParsedTcp :=
  if pkt.length < 40 then none
  else
    let ihl := (byteAt pkt 0 &&& 0x0F).toNat * 4
    if byteAt pkt 9 ≠ 6 ∨ pkt.length < ihl + 20 then none
    else
      let tcp := pkt.drop ihl
      let dataOffset := (byteAt tcp 12 >>> 4).toNat * 4
      if dataOffset < 20 ∨ pkt.length < ihl + dataOffset then none
      else some
        { srcIp := slice pkt 12 16
          dstIp := slice pkt 16 20
          srcPort := fromBytes (slice tcp 0 2)
          dstPort := fromBytes (slice tcp 2 4)
          seq := fromBytes (slice tcp 4 8)
          ack := fromBytes (slice tcp 8 12)
          flags := (byteAt tcp 13).toNat
          payload := pkt.drop (ihl + dataOffset) }

/-! ## Datagrams -/

/-- The most that a UDP datagram holds over IPv4, beside the headers of the two. -/
def udpMax : Nat := 65535 - 20 - 8

/-- `sock.sendto` on a datagram: the system takes none that is larger. -/
def sendto (data : Bytes) : Except BuildError Bytes :=
  if data.length ≤ udpMax then .ok data else .error .messageTooLong

/-- What `send_control` hands over at the node of address `ip`, with the packet and the frame that it builds. -/
def controlFrame (ip dst payload : Bytes) : Except BuildError Bytes := do
  let len ← packU16 (8 + payload.length)
  let udp := be16 ldnControlPort ++ be16 ldnControlPort ++ len ++ [0, 0] ++ payload
  let total ← packU16 (20 + udp.length)
  let pkt := [0x45, 0x00] ++ total ++ [0, 0, 0, 0, 64, 17] ++ be16 0 ++ Ldn.fit 4 ip ++ Ldn.fit 4 dst
  sendto (0x01 :: (pkt ++ udp))

/-- What `_recv_loop` makes of a datagram: nothing, a packet for `_on_tcp_frame`, or an entry of the inbox. -/
inductive Taken where
  | ignored
  | tcp (pkt : Bytes)
  | control (src dst payload : Bytes)
deriving DecidableEq

/-- One turn of `_recv_loop`, on a datagram from `addr`. -/
def recvLoop (bindIp : Option UInt32) (addr : UInt32) (data : Bytes) : Taken :=
  if bindIp = some addr then .ignored
  else
    match data with
    | [] => .ignored
    | typ :: pkt =>
      if typ &&& 0x7F ≠ 0x01 then .ignored
      else if pkt.length < 20 then .ignored
      else if byteAt pkt 9 = 6 then .tcp pkt
      else
        let uoff := (byteAt pkt 0 &&& 0x0F).toNat * 4
        if byteAt pkt 9 ≠ 17 then .ignored
        else
          let dport := fromBytes (slice pkt (uoff + 2) (uoff + 4))
          let ulen := fromBytes (slice pkt (uoff + 4) (uoff + 6))
          if dport ≠ ldnControlPort.toNat then .ignored
          else .control (slice pkt 12 16) (slice pkt 16 20) (slice pkt (uoff + 8) (uoff + ulen))

/-- What `parse_udp` returns. -/
structure ParsedUdp where
  src : Bytes
  dst : Bytes
  sport : Nat
  dport : Nat
  payload : Bytes
deriving DecidableEq

/-- `parse_udp`. -/
def parseUdp (pkt : Bytes) : Option ParsedUdp :=
  if pkt.length < 20 then none
  else
    let ihl := (byteAt pkt 0 &&& 0x0F).toNat * 4
    if pkt.length < ihl + 8 ∨ byteAt pkt 9 ≠ 17 then none
    else
      let total := fromBytes (slice pkt 2 4)
      if total < ihl + 8 ∨ pkt.length < total then none
      else
        let ulen := fromBytes (slice pkt (ihl + 4) (ihl + 6))
        if ulen < 8 ∨ total < ihl + ulen then none
        else some
          { src := slice pkt 12 16
            dst := slice pkt 16 20
            sport := fromBytes (slice pkt ihl (ihl + 2))
            dport := fromBytes (slice pkt (ihl + 2) (ihl + 4))
            payload := slice pkt (ihl + 8) (ihl + ulen) }

/-! ## Slices -/

theorem slice_eq_bytesAt (b : Bytes) (i j : Nat) : slice b i j = bytesAt b i (j - i) := by
  rw [slice, bytesAt, List.drop_take]

section Fields

variable {b : Bytes} {i : Nat}

theorem slice_pair (h : i + 2 ≤ b.length) : slice b i (i + 2) = [byteAt b i, byteAt b (i + 1)] := by
  apply List.ext_getElem
  · simp [slice]
    omega
  · intro k h1 h2
    have hk : k = 0 ∨ k = 1 := by
      simp at h2
      omega
    rcases hk with rfl | rfl <;> simp [slice, byteAt, List.getD_eq_getElem?_getD, show i < b.length by omega,
      show i + 1 < b.length by omega]

theorem slice_quad (h : i + 4 ≤ b.length) :
    slice b i (i + 4) = [byteAt b i, byteAt b (i + 1), byteAt b (i + 2), byteAt b (i + 3)] := by
  have hsplit : slice b i (i + 4) = slice b i (i + 2) ++ slice b (i + 2) (i + 2 + 2) := by
    rw [slice_eq_bytesAt, slice_eq_bytesAt, slice_eq_bytesAt, bytesAt, bytesAt, bytesAt, ← List.drop_drop,
      show i + 4 - i = 2 + 2 by omega, show i + 2 - i = 2 by omega, show i + 2 + 2 - (i + 2) = 2 by omega, List.take_add]
  rw [hsplit, slice_pair (by omega), slice_pair (by omega)]
  rfl

theorem fromBytes_pair (h : i + 2 ≤ b.length) :
    fromBytes (slice b i (i + 2)) = (read16 (byteAt b i) (byteAt b (i + 1))).toNat := by
  rw [slice_pair h, toNat_read16]
  simp [fromBytes, leValue]
  omega

theorem fromBytes_quad (h : i + 4 ≤ b.length) : fromBytes (slice b i (i + 4)) =
    (read32 (byteAt b i) (byteAt b (i + 1)) (byteAt b (i + 2)) (byteAt b (i + 3))).toNat := by
  rw [slice_quad h, toNat_read32]
  simp [fromBytes, leValue]
  omega

theorem byteAt_drop (b : Bytes) (i k : Nat) : byteAt (b.drop i) k = byteAt b (i + k) := by
  simp [byteAt, List.getD_eq_getElem?_getD]

theorem slice_drop (b : Bytes) (i k l : Nat) : slice (b.drop i) k l = slice b (i + k) (i + l) := by
  rw [slice_eq_bytesAt, slice_eq_bytesAt, bytesAt, bytesAt, List.drop_drop, Nat.add_sub_add_left]

end Fields

/-- The four bytes of an address that is read. -/
theorem be32_read32 (a b c d : UInt8) : be32 (read32 a b c d) = [a, b, c, d] := by
  have ha := a.toNat_lt
  have hb := b.toNat_lt
  have hc := c.toNat_lt
  have hd := d.toNat_lt
  have hvalue := toNat_read32 a b c d
  generalize read32 a b c d = x at hvalue
  simp only [be32, List.cons.injEq, and_true]
  refine ⟨?_, ?_, ?_, ?_⟩
  all_goals
    apply UInt8.toNat_inj.1
    simp [Nat.shiftRight_eq_div_pow, hvalue]
    try omega

/-- The four bytes of an address that stands in a packet. -/
theorem slice_address {pkt : Bytes} {i : Nat} (h : i + 4 ≤ pkt.length) : slice pkt i (i + 4) =
    be32 (read32 (byteAt pkt i) (byteAt pkt (i + 1)) (byteAt pkt (i + 2)) (byteAt pkt (i + 3))) := by
  rw [be32_read32, slice_quad h]

/-! ## The checksum -/

theorem byte_pair (a b : UInt8) : (a.toNat <<< 8) ||| b.toNat = a.toNat * 256 + b.toNat := by
  have hor := Nat.shiftLeft_add_eq_or_of_lt (i := 8) b.toNat_lt a.toNat
  rw [← hor, Nat.shiftLeft_eq]

theorem segmentSum_eq : ∀ b : Bytes, segmentSum b = (words b).sum
  | [] => rfl
  | [a] => by simp [segmentSum, words, Nat.shiftLeft_eq]
  | a :: b :: rest => by
    rw [segmentSum, words, List.sum_cons, byte_pair, segmentSum_eq rest]

theorem wordAt_be32 (x : UInt32) : ∃ hi lo, wordAt (be32 x) 0 = .ok hi ∧ wordAt (be32 x) 2 = .ok lo ∧
    hi + lo = (words (be32 x)).sum := by
  refine ⟨_, _, rfl, rfl, ?_⟩
  rw [byte_pair, byte_pair]
  simp [be32, words]

/-- **The loop brings every sum down to its word.** -/
theorem foldSum_eq (s : Nat) : foldSum s = reduce 0xFFFF s := by
  induction s using foldSum.induct with
  | case1 s h =>
    rw [foldSum, if_pos h, reduce_of_le]
    simp only [Nat.shiftRight_eq_div_pow, Nat.reducePow] at h
    omega
  | case2 s h ih =>
    have hand : s &&& 65535 = s % 65536 := Nat.and_two_pow_sub_one_eq_mod s 16
    have hcarry : (s &&& 0xFFFF) + (s >>> 16) = carry 0xFFFF s := by
      rw [hand, Nat.shiftRight_eq_div_pow, carry]
    rw [foldSum, if_neg h, ih, hcarry, reduce_carry]

/-- The tools' checksum of a segment: the complement of the words it covers, however many. -/
def checksumOf (s : Segment) : UInt16 := UInt16.ofNat (0xFFFF - reduce 0xFFFF s.tcpWords.sum)

theorem tcpChecksum_eq (s : Segment) : tcpChecksum (be32 s.srcIp) (be32 s.dstIp) (s.tcpBytes 0) = .ok (checksumOf s) := by
  obtain ⟨s0, s1, hs0, hs1, hsrc⟩ := wordAt_be32 s.srcIp
  obtain ⟨d0, d1, hd0, hd1, hdst⟩ := wordAt_be32 s.dstIp
  have haddr : words (be32 s.srcIp ++ be32 s.dstIp) = words (be32 s.srcIp) ++ words (be32 s.dstIp) :=
    words_append _ (by rw [length_be32])
  have hsum : s0 + s1 + d0 + d1 + 6 + (s.tcpBytes 0).length + segmentSum (s.tcpBytes 0) = s.tcpWords.sum := by
    rw [segmentSum_eq, s.words_tcpBytes, Segment.tcpWords, haddr, s.length_tcpBytes]
    simp only [List.sum_append, List.sum_cons, List.sum_nil, UInt16.toNat_zero]
    omega
  have hle := reduce_le (m := 0xFFFF) (by decide) s.tcpWords.sum
  have hnot : ~~~ UInt16.ofNat (reduce 0xFFFF s.tcpWords.sum) = checksumOf s := by
    apply UInt16.toNat_inj.1
    rw [checksumOf, UInt16.toNat_not, UInt16.toNat_ofNat', UInt16.toNat_ofNat']
    rw [Nat.mod_eq_of_lt (by omega), Nat.mod_eq_of_lt (by omega)]
    rfl
  rw [tcpChecksum, hs0, hs1, hd0, hd1]
  show Except.ok (~~~ UInt16.ofNat (foldSum _)) = _
  rw [hsum, foldSum_eq, hnot]

/-- **The bridge's checksum is the tools'** of every segment that it sends. -/
theorem checksumOf_eq {s : Segment} (h : s.payload.length ≤ maxBridgedPayload) :
    checksumOf s = Slp.tcpChecksum s.srcIp s.dstIp (s.tcpBytes 0) := by
  have hnat := s.toNat_tcpChecksum h
  apply UInt16.toNat_inj.1
  rw [checksumOf, hnat, UInt16.toNat_ofNat', Nat.mod_eq_of_lt (by omega)]

/-! ## TCP segments -/

/-- The packet of `_build_tcp_segment`. -/
def tcpPacket (s : Segment) : Bytes :=
  ipHeader 6 (20 + (20 + s.payload.length)) s.srcIp s.dstIp 0 ++ s.tcpBytes (checksumOf s)

theorem ok_bind {α β : Type} (a : α) (f : α → Except BuildError β) : (Except.ok a >>= f) = f a := rfl

theorem packU16_ok {n : Int} (h : 0 ≤ n ∧ n < 65536) : packU16 n = .ok (be16 (UInt16.ofNat n.toNat)) := if_pos h

theorem packU16_error {n : Int} (h : ¬ (0 ≤ n ∧ n < 65536)) : packU16 n = .error .structError := if_neg h

theorem packU8_ok {n : Int} (h : 0 ≤ n ∧ n < 256) : packU8 n = .ok [UInt8.ofNat n.toNat] := if_pos h

theorem packU8_error {n : Int} (h : ¬ (0 ≤ n ∧ n < 256)) : packU8 n = .error .structError := if_neg h

/-- The ports, the flags and the size are within the fields they are written into. -/
structure Packs (srcPort dstPort flags : Int) (payload : Bytes) : Prop where
  srcPort : 0 ≤ srcPort ∧ srcPort < 65536
  dstPort : 0 ≤ dstPort ∧ dstPort < 65536
  flags : 0 ≤ flags ∧ flags < 256
  length : 40 + payload.length < 65536

/-- The segment of the arguments of `_build_tcp_segment`. -/
def segmentOf (srcIp dstIp : UInt32) (srcPort dstPort seq ack flags : Int) (payload : Bytes) : Segment where
  srcIp := srcIp
  dstIp := dstIp
  srcPort := UInt16.ofNat srcPort.toNat
  dstPort := UInt16.ofNat dstPort.toNat
  seq := UInt32.ofInt seq
  ack := UInt32.ofInt ack
  flags := UInt8.ofNat flags.toNat
  payload := payload

section Build

variable (srcIp dstIp : UInt32) (srcPort dstPort seq ack flags : Int) (payload : Bytes)

theorem buildTcpSegment_ok (h : Packs srcPort dstPort flags payload) :
    buildTcpSegment (be32 srcIp) (be32 dstIp) srcPort dstPort seq ack flags payload =
      .ok (tcpPacket (segmentOf srcIp dstIp srcPort dstPort seq ack flags payload)) := by
  obtain ⟨hsrc, hdst, hflags, hlen⟩ := h
  have hsum := tcpChecksum_eq (segmentOf srcIp dstIp srcPort dstPort seq ack flags payload)
  rw [buildTcpSegment, packU16_ok (by omega), packU16_ok hsrc, packU16_ok hdst, packU8_ok hflags, ok_bind, ok_bind, ok_bind,
    ok_bind]
  simp only [Segment.tcpBytes, segmentOf] at hsum
  simp only [List.append_assoc, List.cons_append, List.nil_append] at hsum ⊢
  have htotal : (20 + (20 + (payload.length : Int))).toNat = 20 + (20 + payload.length) := by omega
  rw [hsum, ok_bind, htotal]
  simp [tcpPacket, ipHeader, Segment.tcpBytes, segmentOf, Ldn.fit, be16, be32]
  rfl

theorem buildTcpSegment_error (h : ¬ Packs srcPort dstPort flags payload) :
    buildTcpSegment (be32 srcIp) (be32 dstIp) srcPort dstPort seq ack flags payload = .error .structError := by
  rw [buildTcpSegment]
  by_cases hlen : 40 + payload.length < 65536
  · rw [packU16_ok (by omega), ok_bind]
    by_cases hsrc : 0 ≤ srcPort ∧ srcPort < 65536
    · rw [packU16_ok hsrc, ok_bind]
      by_cases hdst : 0 ≤ dstPort ∧ dstPort < 65536
      · rw [packU16_ok hdst, ok_bind, packU8_error fun hflags => h ⟨hsrc, hdst, hflags, hlen⟩]
        rfl
      · rw [packU16_error hdst]
        rfl
    · rw [packU16_error hsrc]
      rfl
  · rw [packU16_error (by omega)]
    rfl

end Build

theorem length_tcpPacket (s : Segment) : (tcpPacket s).length = 40 + s.payload.length := by
  rw [tcpPacket, List.length_append, length_ipHeader, s.length_tcpBytes]
  omega

/-- **The bridge reads the segment back**, whatever its size. -/
theorem parse_tcpPacket (s : Segment) : Slp.parseIpv4Tcp (tcpPacket s) = some s.received := by
  have hlen := length_tcpPacket s
  obtain ⟨a, b, c, d, hip⟩ := ipHeader_cons 6 (20 + (20 + s.payload.length)) s.srcIp s.dstIp 0
  have hp := tcpPacket.eq_1 s
  rw [hip] at hp
  have hihl : ihlOf (tcpPacket s) = 20 := by
    rw [hp]
    simp [ihlOf, byteAt]
  have hproto : byteAt (tcpPacket s) 9 = 6 := by
    rw [hp]
    rfl
  have hoff : dataOffsetOf (tcpPacket s) = 20 := by
    rw [dataOffsetOf, hihl, hp]
    simp [byteAt, Segment.tcpBytes, be16, be32]
  refine parseIpv4Tcp_iff.2 ⟨⟨by omega, hproto, by omega, by omega, by omega⟩, ?_⟩
  rw [tcpOf, hihl, hoff, hp]
  simp [srcIpOf, byteAt, Segment.tcpBytes, be16, be32, Segment.received]

theorem dstIp_tcpPacket (s : Segment) : dstIpOf (tcpPacket s) = s.dstIp := by
  obtain ⟨a, b, c, d, hip⟩ := ipHeader_cons 6 (20 + (20 + s.payload.length)) s.srcIp s.dstIp 0
  rw [tcpPacket, hip]
  simp [dstIpOf, byteAt]

/-- **Only the checksum of the IP header tells the tools' segment from the bridge's.** -/
theorem tcpPacket_eq_bridge {s : Segment} {q : Bytes} (h : s.packet? = some q) :
    tcpPacket s = q.take 10 ++ [0, 0] ++ q.drop 12 := by
  have hle : s.payload.length ≤ maxBridgedPayload := by
    simp only [Segment.packet?] at h
    split at h
    · cases h
    · omega
  rw [Segment.packet?, if_neg (by omega)] at h
  rw [tcpPacket, checksumOf_eq hle, ← Option.some.inj h]
  rfl

/-- What the tools' parser returns of a packet that the bridge reads as `m`. -/
def readTcp (pkt : Bytes) (m : TcpSegment) : ParsedTcp where
  srcIp := be32 m.srcIp
  dstIp := be32 (dstIpOf pkt)
  srcPort := m.srcPort.toNat
  dstPort := m.dstPort.toNat
  seq := m.seq.toNat
  ack := m.ack.toNat
  flags := m.flags.toNat
  payload := m.payload

theorem parseIpv4Tcp_eq (pkt : Bytes) : parseIpv4Tcp pkt =
    if pkt.length < 40 then none
    else if byteAt pkt 9 ≠ 6 ∨ pkt.length < ihlOf pkt + 20 then none
    else if dataOffsetOf pkt < 20 ∨ pkt.length < ihlOf pkt + dataOffsetOf pkt then none
    else some
      { srcIp := slice pkt 12 16
        dstIp := slice pkt 16 20
        srcPort := fromBytes (slice pkt (ihlOf pkt + 0) (ihlOf pkt + 2))
        dstPort := fromBytes (slice pkt (ihlOf pkt + 2) (ihlOf pkt + 4))
        seq := fromBytes (slice pkt (ihlOf pkt + 4) (ihlOf pkt + 8))
        ack := fromBytes (slice pkt (ihlOf pkt + 8) (ihlOf pkt + 12))
        flags := (byteAt pkt (ihlOf pkt + 13)).toNat
        payload := pkt.drop (ihlOf pkt + dataOffsetOf pkt) } := by
  simp only [parseIpv4Tcp, byteAt_drop, slice_drop]
  rfl

/-- **The two parsers accept the same packets and read the same.** -/
theorem parseIpv4Tcp_eq_bridge (pkt : Bytes) : parseIpv4Tcp pkt = (Slp.parseIpv4Tcp pkt).map (readTcp pkt) := by
  rw [parseIpv4Tcp_eq, Slp.parseIpv4Tcp_eq]
  by_cases hlen : pkt.length < 40
  · rw [if_pos hlen, if_pos hlen]
    rfl
  rw [if_neg hlen, if_neg hlen]
  by_cases hproto : byteAt pkt 9 ≠ 6 ∨ pkt.length < ihlOf pkt + 20
  · rw [if_pos hproto, if_pos hproto]
    rfl
  rw [if_neg hproto, if_neg hproto]
  have hheader : ihlOf pkt + 20 ≤ pkt.length := Nat.not_lt.1 (not_or.1 hproto).2
  by_cases hoff : dataOffsetOf pkt < 20 ∨ pkt.length < ihlOf pkt + dataOffsetOf pkt
  · rw [if_pos hoff, if_pos hoff]
    rfl
  rw [if_neg hoff, if_neg hoff, slice_address (i := 12) (by omega), slice_address (i := 16) (by omega), fromBytes_pair (by omega),
    fromBytes_pair (i := ihlOf pkt + 2) (by omega), fromBytes_quad (i := ihlOf pkt + 4) (by omega),
    fromBytes_quad (i := ihlOf pkt + 8) (by omega)]
  rfl

/-- **The tools' TCP segments are the bridge's.**  `_build_tcp_segment` raises exactly on what its fields cannot tell; else the
bridge parses what was passed from its packet, and the packet is `SendTcpSegment`'s but for the two bytes of the IP header's
checksum.  `_parse_ipv4_tcp` and `ParseIpv4Tcp` agree on every packet. -/
theorem tcp_codec (srcIp dstIp : UInt32) (srcPort dstPort seq ack flags : Int) (payload : Bytes) :
    let built := buildTcpSegment (be32 srcIp) (be32 dstIp) srcPort dstPort seq ack flags payload
    let s := segmentOf srcIp dstIp srcPort dstPort seq ack flags payload
    ((∃ p, built = .ok p) ↔ Packs srcPort dstPort flags payload) ∧
    (∀ p, built = .ok p →
      Slp.parseIpv4Tcp p = some s.received ∧ parseIpv4Tcp p = some ⟨be32 srcIp, be32 dstIp, srcPort.toNat, dstPort.toNat,
        (seq % 2 ^ 32).toNat, (ack % 2 ^ 32).toNat, flags.toNat, payload⟩ ∧
      ∀ q, s.packet? = some q → p = q.take 10 ++ [0, 0] ++ q.drop 12) ∧
    ∀ pkt, parseIpv4Tcp pkt = (Slp.parseIpv4Tcp pkt).map (readTcp pkt) := by
  intro built s
  by_cases h : Packs srcPort dstPort flags payload
  · have hbuilt : built = .ok (tcpPacket s) := buildTcpSegment_ok srcIp dstIp srcPort dstPort seq ack flags payload h
    refine ⟨⟨fun _ => h, fun _ => ⟨_, hbuilt⟩⟩, fun p hp => ?_, parseIpv4Tcp_eq_bridge⟩
    have hpeq : tcpPacket s = p := Except.ok.inj (hbuilt.symm.trans hp)
    subst hpeq
    have hparse := parse_tcpPacket s
    refine ⟨hparse, ?_, fun q hq => tcpPacket_eq_bridge hq⟩
    obtain ⟨hsrc, hdst, hflags, -⟩ := h
    rw [parseIpv4Tcp_eq_bridge, hparse, Option.map_some, readTcp, dstIp_tcpPacket]
    have h1 : srcPort.toNat % 65536 = srcPort.toNat := Nat.mod_eq_of_lt (by omega)
    have h2 : dstPort.toNat % 65536 = dstPort.toNat := Nat.mod_eq_of_lt (by omega)
    have h3 : flags.toNat % 256 = flags.toNat := Nat.mod_eq_of_lt (by omega)
    have hword : ∀ n : Int, (UInt32.ofInt n).toNat = (n % 2 ^ 32).toNat := by
      intro n
      rw [UInt32.ofInt, UInt32.toNat_ofNat', Nat.mod_eq_of_lt (by omega)]
    simp [s, segmentOf, Segment.received, h1, h2, h3, hword]
  · have hbuilt : built = .error .structError := buildTcpSegment_error srcIp dstIp srcPort dstPort seq ack flags payload h
    refine ⟨⟨fun hex => ?_, fun hp => absurd hp h⟩, fun p hp => ?_, parseIpv4Tcp_eq_bridge⟩
    · obtain ⟨p, hp⟩ := hex
      rw [hbuilt] at hp
      cases hp
    · rw [hbuilt] at hp
      cases hp

/-- The segment of a Connect of 76 bytes. -/
theorem tcp_codec_connect : ∃ p, buildTcpSegment (be32 0x0A0D2502) (be32 0x0A0DC84D) 40000 11452 (-1) 7 0x18
    (List.replicate 76 1) = .ok p ∧ (Slp.parseIpv4Tcp p).map TcpSegment.seq = some 0xFFFFFFFF := by
  have h := tcp_codec 0x0A0D2502 0x0A0DC84D 40000 11452 (-1) 7 0x18 (List.replicate 76 1)
  obtain ⟨p, hp⟩ := h.1.2 ⟨by decide, by decide, by decide, by decide⟩
  refine ⟨p, hp, ?_⟩
  rw [(h.2.1 p hp).1]
  rfl

/-! ## Datagrams -/

/-- What `parse_udp` asks for beyond the bridge's tests. -/
structure Fits (pkt : Bytes) : Prop where
  header : ihlOf pkt + 8 ≤ totalLengthOf pkt
  total : totalLengthOf pkt ≤ pkt.length
  udpLength : 8 ≤ udpLengthOf pkt
  within_total : ihlOf pkt + udpLengthOf pkt ≤ totalLengthOf pkt

instance (pkt : Bytes) : Decidable (Fits pkt) :=
  decidable_of_iff (ihlOf pkt + 8 ≤ totalLengthOf pkt ∧ totalLengthOf pkt ≤ pkt.length ∧ 8 ≤ udpLengthOf pkt ∧
    ihlOf pkt + udpLengthOf pkt ≤ totalLengthOf pkt) ⟨fun ⟨h1, h2, h3, h4⟩ => ⟨h1, h2, h3, h4⟩,
      fun ⟨h1, h2, h3, h4⟩ => ⟨h1, h2, h3, h4⟩⟩

/-- What `parse_udp` returns of a packet that the bridge reads as `d`. -/
def readUdp (pkt : Bytes) (d : UdpDatagram) : ParsedUdp where
  src := be32 d.srcIp
  dst := be32 (dstIpOf pkt)
  sport := (read16 (byteAt pkt (ihlOf pkt)) (byteAt pkt (ihlOf pkt + 1))).toNat
  dport := d.dstPort.toNat
  payload := d.payload

theorem udp_payload (pkt : Bytes) :
    slice pkt (ihlOf pkt + 8) (ihlOf pkt + udpLengthOf pkt) = bytesAt pkt (ihlOf pkt + 8) (udpLengthOf pkt - 8) := by
  have hlen : ihlOf pkt + udpLengthOf pkt - (ihlOf pkt + 8) = udpLengthOf pkt - 8 := by omega
  rw [slice_eq_bytesAt, hlen]

/-- **`parse_udp` reads what the bridge reads**, of the packets whose lengths fit into each other. -/
theorem parseUdp_eq_bridge {pkt : Bytes} (hlen : 28 ≤ pkt.length) :
    parseUdp pkt = if Fits pkt then (Slp.parseIpv4Udp pkt).map (readUdp pkt) else none := by
  have hihl : (byteAt pkt 0 &&& 0x0F).toNat * 4 = ihlOf pkt := rfl
  have htotal : fromBytes (slice pkt 2 4) = totalLengthOf pkt := fromBytes_pair (i := 2) (by omega)
  have h20 : ¬ pkt.length < 20 := by omega
  have h28 : ¬ pkt.length < 28 := by omega
  simp only [parseUdp, hihl, htotal]
  rw [if_neg h20, parseIpv4Udp_eq, if_neg h28]
  by_cases hproto : byteAt pkt 9 ≠ 17 ∨ pkt.length < ihlOf pkt + 8
  · rw [if_pos (Or.symm hproto), if_pos hproto, Option.map_none, ite_self]
  rw [if_neg fun h => hproto (Or.symm h), if_neg hproto]
  have hheader : ihlOf pkt + 8 ≤ pkt.length := Nat.not_lt.1 (not_or.1 hproto).2
  have hulen : fromBytes (slice pkt (ihlOf pkt + 4) (ihlOf pkt + 6)) = udpLengthOf pkt :=
    fromBytes_pair (i := ihlOf pkt + 4) (by omega)
  rw [hulen]
  by_cases hfits : Fits pkt
  · obtain ⟨h1, h2, h3, h4⟩ := id hfits
    have htot : ¬ (totalLengthOf pkt < ihlOf pkt + 8 ∨ pkt.length < totalLengthOf pkt) := by omega
    have hwithin : ¬ (udpLengthOf pkt < 8 ∨ totalLengthOf pkt < ihlOf pkt + udpLengthOf pkt) := by omega
    have hcut : ¬ pkt.length < ihlOf pkt + udpLengthOf pkt := by omega
    rw [if_neg htot, if_neg hwithin, if_pos hfits, if_neg hcut, Option.map_some, readUdp, udp_payload,
      slice_address (i := 12) (by omega), slice_address (i := 16) (by omega), fromBytes_pair (by omega),
      fromBytes_pair (i := ihlOf pkt + 2) (by omega)]
    rfl
  · rw [if_neg hfits]
    by_cases htot : totalLengthOf pkt < ihlOf pkt + 8 ∨ pkt.length < totalLengthOf pkt
    · rw [if_pos htot]
    · rw [if_neg htot, if_pos]
      by_contra hulen'
      rw [not_or] at htot hulen'
      exact hfits ⟨by omega, by omega, by omega, by omega⟩

/-- What the bridge makes of the datagram, seen as a node sees it. -/
def bridgeTakes (pkt : Bytes) : Taken :=
  match Slp.parseIpv4Udp pkt with
  | some d => if d.dstPort = ldnControlPort then .control (be32 d.srcIp) (be32 (dstIpOf pkt)) d.payload else .ignored
  | none => .ignored

/-- A packet long enough for the node to look at, to its port; the packet may end before the port's field does. -/
def ToControl (pkt : Bytes) : Prop :=
  20 ≤ pkt.length ∧ byteAt pkt 9 = 17 ∧ fromBytes (slice pkt (ihlOf pkt + 2) (ihlOf pkt + 4)) = ldnControlPort.toNat

section Recv

variable {bindIp : Option UInt32} {addr : UInt32} {typ : UInt8} {pkt : Bytes}

theorem recvLoop_of_toControl (hown : bindIp ≠ some addr) (htyp : typ &&& 0x7F = 0x01) (h : ToControl pkt) :
    recvLoop bindIp addr (typ :: pkt) = .control (slice pkt 12 16) (slice pkt 16 20)
      (slice pkt (ihlOf pkt + 8) (ihlOf pkt + fromBytes (slice pkt (ihlOf pkt + 4) (ihlOf pkt + 6)))) := by
  obtain ⟨hlen, hproto, hport⟩ := h
  have hihl : (byteAt pkt 0 &&& 0x0F).toNat * 4 = ihlOf pkt := rfl
  have hnot6 : byteAt pkt 9 ≠ 6 := by
    rw [hproto]
    decide
  simp only [recvLoop, hihl]
  rw [if_neg hown, if_neg (not_not_intro htyp), if_neg (by omega), if_neg hnot6, if_neg (not_not_intro hproto),
    if_neg (not_not_intro hport)]

theorem recvLoop_of_not (hproto : byteAt pkt 9 ≠ 6) (h : ¬ ToControl pkt) :
    recvLoop bindIp addr (typ :: pkt) = .ignored := by
  have hihl : (byteAt pkt 0 &&& 0x0F).toNat * 4 = ihlOf pkt := rfl
  simp only [recvLoop, hihl]
  by_cases hown : bindIp = some addr
  · rw [if_pos hown]
  rw [if_neg hown]
  by_cases htyp : typ &&& 0x7F ≠ 0x01
  · rw [if_pos htyp]
  rw [if_neg htyp]
  by_cases hlen : pkt.length < 20
  · rw [if_pos hlen]
  rw [if_neg hlen, if_neg hproto]
  by_cases h17 : byteAt pkt 9 ≠ 17
  · rw [if_pos h17]
  rw [if_neg h17, if_pos]
  exact fun hport => h ⟨Nat.not_lt.1 hlen, not_not.1 h17, hport⟩

/-- **The node and the bridge take the same of a packet, unless it is to the node and cut off.** -/
theorem recvLoop_eq_bridge_iff (hown : bindIp ≠ some addr) (htyp : typ &&& 0x7F = 0x01) (hproto : byteAt pkt 9 ≠ 6) :
    recvLoop bindIp addr (typ :: pkt) = bridgeTakes pkt ↔ (ToControl pkt → AcceptsUdp pkt) := by
  constructor
  · intro h hto
    by_contra hacc
    have hnone : Slp.parseIpv4Udp pkt = none := by
      cases hp : Slp.parseIpv4Udp pkt with
      | none => rfl
      | some d => exact absurd (parseIpv4Udp_iff.1 hp).1 hacc
    rw [recvLoop_of_toControl hown htyp hto, bridgeTakes, hnone] at h
    cases h
  · intro h
    by_cases hacc : AcceptsUdp pkt
    · have hheader := hacc.header
      have hlen := hacc.length
      have hport : fromBytes (slice pkt (ihlOf pkt + 2) (ihlOf pkt + 4)) = (udpOf pkt).dstPort.toNat :=
        fromBytes_pair (i := ihlOf pkt + 2) (by omega)
      rw [bridgeTakes, parseIpv4Udp_iff.2 ⟨hacc, rfl⟩]
      by_cases hdst : (udpOf pkt).dstPort = ldnControlPort
      · have hulen : fromBytes (slice pkt (ihlOf pkt + 4) (ihlOf pkt + 6)) = udpLengthOf pkt :=
          fromBytes_pair (i := ihlOf pkt + 4) (by omega)
        have hto : ToControl pkt := ⟨by omega, hacc.proto, by rw [hport, hdst]⟩
        rw [recvLoop_of_toControl hown htyp hto, hulen, udp_payload, slice_address (i := 12) (by omega),
          slice_address (i := 16) (by omega)]
        exact (if_pos hdst).symm
      · rw [recvLoop_of_not hproto fun hto => hdst (UInt16.toNat_inj.1 (hport.symm.trans hto.2.2))]
        exact (if_neg hdst).symm
    · have hnone : Slp.parseIpv4Udp pkt = none := by
        cases hp : Slp.parseIpv4Udp pkt with
        | none => rfl
        | some d => exact absurd (parseIpv4Udp_iff.1 hp).1 hacc
      rw [recvLoop_of_not hproto fun hto => hacc (h hto), bridgeTakes, hnone]

end Recv

/-- The packet of `send_control`. -/
def controlPacket (ip dst : UInt32) (payload : Bytes) : Bytes :=
  ipHeader 17 (28 + payload.length) ip dst 0 ++ be16 ldnControlPort ++ be16 ldnControlPort ++
    be16 (UInt16.ofNat (8 + payload.length)) ++ [0, 0] ++ payload

section Control

variable (ip dst : UInt32) (payload : Bytes)

/-- What the lengths can tell is packed, and comes to the socket. -/
theorem controlFrame_packed (h : 28 + payload.length < 65536) :
    controlFrame (be32 ip) (be32 dst) payload = sendto (0x01 :: controlPacket ip dst payload) := by
  have hudp : ∀ l : Bytes, l.length = 2 →
      (be16 ldnControlPort ++ be16 ldnControlPort ++ l ++ [0, 0] ++ payload).length = 8 + payload.length := by
    intro l hl
    simp [hl]
    omega
  have hlen : (8 + (payload.length : Int)).toNat = 8 + payload.length := by omega
  have htotal : (20 + ((8 + payload.length : Nat) : Int)).toNat = 28 + payload.length := by omega
  rw [controlFrame, packU16_ok (by omega), ok_bind]
  simp only []
  rw [hudp _ (length_be16 _), packU16_ok (by omega), ok_bind, hlen, htotal]
  simp [controlPacket, ipHeader, Ldn.fit, be16, be32]

theorem length_controlPacket : (controlPacket ip dst payload).length = 28 + payload.length := by
  simp [controlPacket, length_ipHeader]
  omega

theorem controlFrame_structError (h : 65508 ≤ payload.length) :
    controlFrame (be32 ip) (be32 dst) payload = .error .structError := by
  rw [controlFrame]
  by_cases hlen : 8 + payload.length < 65536
  · rw [packU16_ok (by omega), ok_bind]
    simp only [List.length_append, length_be16, List.length_cons, List.length_nil]
    rw [packU16_error (by omega)]
    rfl
  · rw [packU16_error (by omega)]
    rfl

/-- **The socket gives out before the lengths do**: the frame has 29 bytes besides the payload. -/
theorem controlFrame_by_length : controlFrame (be32 ip) (be32 dst) payload =
    if payload.length ≤ 65478 then .ok (0x01 :: controlPacket ip dst payload)
    else if payload.length ≤ 65507 then .error .messageTooLong
    else .error .structError := by
  have hlen : (0x01 :: controlPacket ip dst payload).length = 29 + payload.length := by
    rw [List.length_cons, length_controlPacket]
    omega
  by_cases hok : payload.length ≤ 65478
  · rw [if_pos hok, controlFrame_packed ip dst payload (by omega), sendto, hlen, if_pos (by unfold udpMax; omega)]
  rw [if_neg hok]
  by_cases hpack : payload.length ≤ 65507
  · rw [if_pos hpack, controlFrame_packed ip dst payload (by omega), sendto, hlen, if_neg (by unfold udpMax; omega)]
  · rw [if_neg hpack, controlFrame_structError ip dst payload (by omega)]

theorem controlFrame_iff {frame : Bytes} : controlFrame (be32 ip) (be32 dst) payload = .ok frame ↔
    payload.length ≤ 65478 ∧ 0x01 :: controlPacket ip dst payload = frame := by
  rw [controlFrame_by_length]
  split
  · rw [Except.ok.injEq, and_iff_right ‹_›]
  · split <;> simp only [reduceCtorEq, false_iff, not_and] <;> omega

theorem ihlOf_controlPacket : ihlOf (controlPacket ip dst payload) = 20 := by
  simp [controlPacket, ipHeader, ihlOf, byteAt]

theorem udpLengthOf_controlPacket (h : 28 + payload.length < 65536) :
    udpLengthOf (controlPacket ip dst payload) = 8 + payload.length := by
  obtain ⟨a, b, c, d, hip⟩ := ipHeader_cons 17 (28 + payload.length) ip dst 0
  rw [udpLengthOf, ihlOf_controlPacket, controlPacket, hip]
  simp only [byteAt, be16, List.cons_append, List.nil_append, List.getD_cons_succ, List.getD_cons_zero, read16_be16]
  rw [UInt16.toNat_ofNat', Nat.mod_eq_of_lt (by omega)]

theorem totalLengthOf_controlPacket (h : 28 + payload.length < 65536) :
    totalLengthOf (controlPacket ip dst payload) = 28 + payload.length := by
  have hread : totalLengthOf (controlPacket ip dst payload) = (UInt16.ofNat (28 + payload.length)).toNat :=
    congrArg UInt16.toNat (read16_be16 _)
  rw [hread, UInt16.toNat_ofNat', Nat.mod_eq_of_lt (by omega)]

theorem dstIp_controlPacket : dstIpOf (controlPacket ip dst payload) = dst := by
  obtain ⟨a, b, c, d, hip⟩ := ipHeader_cons 17 (28 + payload.length) ip dst 0
  rw [controlPacket, hip]
  simp [dstIpOf, byteAt]

theorem accepts_controlPacket (h : 28 + payload.length < 65536) : AcceptsUdp (controlPacket ip dst payload) := by
  have hlen := length_controlPacket ip dst payload
  have hihl := ihlOf_controlPacket ip dst payload
  have hudp := udpLengthOf_controlPacket ip dst payload h
  exact ⟨by omega, rfl, by omega, by omega⟩

/-- **The bridge reads the datagram back.** -/
theorem parse_controlPacket (h : 28 + payload.length < 65536) :
    Slp.parseIpv4Udp (controlPacket ip dst payload) = some ⟨ip, ldnControlPort, payload⟩ := by
  refine parseIpv4Udp_iff.2 ⟨accepts_controlPacket ip dst payload h, ?_⟩
  obtain ⟨a, b, c, d, hip⟩ := ipHeader_cons 17 (28 + payload.length) ip dst 0
  rw [udpOf, ihlOf_controlPacket, udpLengthOf_controlPacket _ _ _ h, controlPacket, hip]
  simp [srcIpOf, byteAt, bytesAt, be16]

/-- **So does `parse_udp`.** -/
theorem parseUdp_controlPacket (h : 28 + payload.length < 65536) : parseUdp (controlPacket ip dst payload) =
    some ⟨be32 ip, be32 dst, ldnControlPort.toNat, ldnControlPort.toNat, payload⟩ := by
  have hlen := length_controlPacket ip dst payload
  have hihl := ihlOf_controlPacket ip dst payload
  have hudp := udpLengthOf_controlPacket ip dst payload h
  have htotal := totalLengthOf_controlPacket ip dst payload h
  have hsport : read16 (byteAt (controlPacket ip dst payload) 20) (byteAt (controlPacket ip dst payload) 21) =
      ldnControlPort := by
    obtain ⟨a, b, c, d, hip⟩ := ipHeader_cons 17 (28 + payload.length) ip dst 0
    rw [controlPacket, hip]
    simp [byteAt, be16]
  rw [parseUdp_eq_bridge (by omega), if_pos ⟨by omega, by omega, by omega, by omega⟩, parse_controlPacket _ _ _ h,
    Option.map_some, readUdp, hihl, hsport, dstIp_controlPacket]

/-- **And every node takes it.** -/
theorem recvLoop_controlPacket (h : 28 + payload.length < 65536) {bindIp : Option UInt32} {addr : UInt32}
    (hown : bindIp ≠ some addr) :
    recvLoop bindIp addr (0x01 :: controlPacket ip dst payload) = .control (be32 ip) (be32 dst) payload := by
  have hproto : byteAt (controlPacket ip dst payload) 9 ≠ 6 := by
    have h17 : byteAt (controlPacket ip dst payload) 9 = 17 := rfl
    rw [h17]
    decide
  rw [(recvLoop_eq_bridge_iff hown (by decide) hproto).2 fun _ => accepts_controlPacket ip dst payload h, bridgeTakes,
    parse_controlPacket _ _ _ h, dstIp_controlPacket]
  exact if_pos rfl

end Control

/-- The addresses are cut or filled up, so that any two are those of a packet. -/
theorem controlFrame_eq (ip dst payload : Bytes) : ∃ x y, be32 x = Ldn.fit 4 ip ∧ be32 y = Ldn.fit 4 dst ∧
    controlFrame ip dst payload = controlFrame (be32 x) (be32 y) payload := by
  have hfit : ∀ b : Bytes, ∃ x, be32 x = Ldn.fit 4 b := by
    intro b
    have hlen := Ldn.length_fit 4 b
    generalize Ldn.fit 4 b = l at hlen
    match l, hlen with
    | [a, b, c, d], _ => exact ⟨read32 a b c d, be32_read32 a b c d⟩
  have hcut : ∀ b : Bytes, Ldn.fit 4 (Ldn.fit 4 b) = Ldn.fit 4 b := fun b => Ldn.fit_of_length (Ldn.length_fit 4 b)
  obtain ⟨x, hx⟩ := hfit ip
  obtain ⟨y, hy⟩ := hfit dst
  refine ⟨x, y, hx, hy, ?_⟩
  rw [controlFrame, controlFrame, hx, hy, hcut, hcut]

theorem exists_controlFrame (ip dst : Bytes) {payload : Bytes} (h : payload.length ≤ 65478) :
    ∃ frame, controlFrame ip dst payload = .ok frame := by
  obtain ⟨x, y, -, -, heq⟩ := controlFrame_eq ip dst payload
  exact ⟨_, heq.trans ((controlFrame_iff x y payload).2 ⟨h, rfl⟩)⟩

/-- **Whatever the addresses it is given, `send_control` sends what every node takes.** -/
theorem recvLoop_controlFrame {ip dst payload frame : Bytes} (h : controlFrame ip dst payload = .ok frame)
    {bindIp : Option UInt32} {addr : UInt32} (hown : bindIp ≠ some addr) :
    recvLoop bindIp addr frame = .control (Ldn.fit 4 ip) (Ldn.fit 4 dst) payload := by
  obtain ⟨x, y, hx, hy, heq⟩ := controlFrame_eq ip dst payload
  rw [heq] at h
  obtain ⟨hlen, rfl⟩ := (controlFrame_iff x y payload).1 h
  rw [recvLoop_controlPacket x y payload (by omega) hown, hx, hy]

/-- The datagram that a bridge makes of a frame, in the pump loop and the parser after it. -/
def bridgeReads (b : RelayBridge) (frame : Bytes) : Option UdpDatagram :=
  match (b.recvIpv4 frame packetCap).2 with
  | .packet p => Slp.parseIpv4Udp p.bytes
  | _ => none

theorem bridgeReads_frame (b : RelayBridge) (pkt : Bytes) :
    bridgeReads b (0x01 :: pkt) = Slp.parseIpv4Udp (pkt.take (relayMtu + fragHeaderSize)) := by
  have htake : (0x01 :: pkt).take (1 + relayMtu + fragHeaderSize) = 0x01 :: pkt.take (relayMtu + fragHeaderSize) := by
    rw [Nat.add_assoc, Nat.add_comm 1, List.take_succ_cons]
  have htag : RelayFrameType.ofByte? ((0x01 : UInt8) &&& 0x7F) = some .ipv4 := by decide
  have hcap : (pkt.take (relayMtu + fragHeaderSize)).length ≤ packetCap := by
    have hle : (pkt.take (relayMtu + fragHeaderSize)).length ≤ relayMtu + fragHeaderSize := List.length_take_le _ _
    have hroom : relayMtu + fragHeaderSize ≤ packetCap := by decide
    omega
  rw [bridgeReads, RelayBridge.recvIpv4]
  simp only [htake, htag]
  rw [dif_pos hcap]

/-- **A bridge reads the datagrams that its frame buffer holds**: the others are cut off there, and refused. -/
theorem bridgeReads_controlPacket (b : RelayBridge) (ip dst : UInt32) {payload : Bytes} (h : 28 + payload.length < 65536) :
    bridgeReads b (0x01 :: controlPacket ip dst payload) =
      if payload.length ≤ 1388 then some ⟨ip, ldnControlPort, payload⟩ else none := by
  have hlen := length_controlPacket ip dst payload
  have hroom : relayMtu + fragHeaderSize = 1416 := rfl
  rw [bridgeReads_frame, hroom]
  by_cases hfit : payload.length ≤ 1388
  · rw [List.take_of_length_le (by omega), parse_controlPacket _ _ _ h, if_pos hfit]
  · have hbyte : ∀ i, i < 1416 → byteAt ((controlPacket ip dst payload).take 1416) i =
        byteAt (controlPacket ip dst payload) i := by
      intro i hi
      simp [byteAt, List.getD_eq_getElem?_getD, hi]
    have hihl : ihlOf ((controlPacket ip dst payload).take 1416) = 20 := by
      rw [ihlOf, hbyte 0 (by omega)]
      exact ihlOf_controlPacket ip dst payload
    have hudp : udpLengthOf ((controlPacket ip dst payload).take 1416) = 8 + payload.length := by
      have hwhole := udpLengthOf_controlPacket ip dst payload h
      rw [udpLengthOf, ihlOf_controlPacket] at hwhole
      rw [udpLengthOf, hihl, hbyte _ (by omega), hbyte _ (by omega), hwhole]
    rw [if_neg hfit]
    cases hp : Slp.parseIpv4Udp ((controlPacket ip dst payload).take 1416) with
    | none => rfl
    | some d =>
      have hfits := (parseIpv4Udp_iff.1 hp).1.fits
      rw [hihl, hudp, List.length_take] at hfits
      omega

end LdnWire
end Slp
