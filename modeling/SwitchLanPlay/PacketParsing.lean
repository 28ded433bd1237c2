import SwitchLanPlay.Forwarding
/-!
# PacketParsing — what the two parsers accept, and what follows the packet

`AcceptsUdp` and `AcceptsTcp` are the tests of the parsers in terms of the header fields: a packet is read exactly when it
passes them (`parseIpv4Udp_iff`, `parseIpv4Tcp_iff`), and its payload is then the slice the lengths denote
(`accepted_slices`).  Neither parser reads the IP version, the fragment field or the total length, nor asks for a header of
20 bytes (`accepted_malformed`).

A UDP payload ends where the UDP length says.  A TCP payload ends where the packet buffer does, so bytes that trail the packet
are read as stream data (`padding_ignored_iff`).
-/
namespace Slp

open Wire

/-! ## Header fields -/

def versionOf (pkt : Bytes) : Nat := (byteAt pkt 0 >>> 4).toNat

/-- The IP total length. -/
def totalLengthOf (pkt : Bytes) : Nat := (read16 (byteAt pkt 2) (byteAt pkt 3)).toNat

/-- More fragments follow, or this one is not the first. -/
def IsIpFragment (pkt : Bytes) : Prop := read16 (byteAt pkt 6) (byteAt pkt 7) &&& 0x3FFF ≠ 0

instance (pkt : Bytes) : Decidable (IsIpFragment pkt) := by
  unfold IsIpFragment
  infer_instance

def udpLengthOf (pkt : Bytes) : Nat := (read16 (byteAt pkt (ihlOf pkt + 4)) (byteAt pkt (ihlOf pkt + 5))).toNat

/-- The TCP header's length, in bytes. -/
def dataOffsetOf (pkt : Bytes) : Nat := (byteAt pkt (ihlOf pkt + 12) >>> 4).toNat * 4

/-- The tests of `ParseIpv4Udp`. -/
structure AcceptsUdp (pkt : Bytes) : Prop where
  length : 28 ≤ pkt.length
  proto : byteAt pkt 9 = 17
  header : ihlOf pkt + 8 ≤ pkt.length
  fits : ihlOf pkt + udpLengthOf pkt ≤ pkt.length

/-- The tests of `ParseIpv4Tcp`. -/
structure AcceptsTcp (pkt : Bytes) : Prop where
  length : 40 ≤ pkt.length
  proto : byteAt pkt 9 = 6
  header : ihlOf pkt + 20 ≤ pkt.length
  offset : 20 ≤ dataOffsetOf pkt
  fits : ihlOf pkt + dataOffsetOf pkt ≤ pkt.length

/-- The datagram the header fields denote. -/
def udpOf (pkt : Bytes) : UdpDatagram where
  srcIp := srcIpOf pkt
  dstPort := read16 (byteAt pkt (ihlOf pkt + 2)) (byteAt pkt (ihlOf pkt + 3))
  payload := bytesAt pkt (ihlOf pkt + 8) (udpLengthOf pkt - 8)

/-- The segment the header fields denote. -/
def tcpOf (pkt : Bytes) : TcpSegment where
  srcIp := srcIpOf pkt
  srcPort := read16 (byteAt pkt (ihlOf pkt)) (byteAt pkt (ihlOf pkt + 1))
  dstPort := read16 (byteAt pkt (ihlOf pkt + 2)) (byteAt pkt (ihlOf pkt + 3))
  seq := read32 (byteAt pkt (ihlOf pkt + 4)) (byteAt pkt (ihlOf pkt + 5)) (byteAt pkt (ihlOf pkt + 6))
    (byteAt pkt (ihlOf pkt + 7))
  ack := read32 (byteAt pkt (ihlOf pkt + 8)) (byteAt pkt (ihlOf pkt + 9)) (byteAt pkt (ihlOf pkt + 10))
    (byteAt pkt (ihlOf pkt + 11))
  flags := byteAt pkt (ihlOf pkt + 13)
  payload := pkt.drop (ihlOf pkt + dataOffsetOf pkt)

theorem parseIpv4Udp_eq (pkt : Bytes) : parseIpv4Udp pkt =
    if pkt.length < 28 then none
    else if byteAt pkt 9 ≠ 17 ∨ pkt.length < ihlOf pkt + 8 then none
    else if pkt.length < ihlOf pkt + udpLengthOf pkt then none
    else some (udpOf pkt) := by
  have hpayload : (if 8 ≤ udpLengthOf pkt then udpLengthOf pkt - 8 else 0) = udpLengthOf pkt - 8 := by
    split <;> omega
  rw [udpOf, ← hpayload]
  rfl

theorem parseIpv4Tcp_eq (pkt : Bytes) : parseIpv4Tcp pkt =
    if pkt.length < 40 then none
    else if byteAt pkt 9 ≠ 6 ∨ pkt.length < ihlOf pkt + 20 then none
    else if dataOffsetOf pkt < 20 ∨ pkt.length < ihlOf pkt + dataOffsetOf pkt then none
    else some (tcpOf pkt) := rfl

/-- **The UDP parser reads the datagram the fields denote, of the packets that pass its tests.** -/
theorem parseIpv4Udp_iff {pkt : Bytes} {d : UdpDatagram} : parseIpv4Udp pkt = some d ↔ AcceptsUdp pkt ∧ d = udpOf pkt := by
  rw [parseIpv4Udp_eq]
  constructor
  · intro h
    split at h
    · cases h
    rename_i hlen
    split at h
    · cases h
    rename_i hproto
    split at h
    · cases h
    rename_i hfits
    rw [not_or, not_not] at hproto
    exact ⟨⟨by omega, hproto.1, by omega, Nat.not_lt.1 hfits⟩, (Option.some.inj h).symm⟩
  · rintro ⟨h, rfl⟩
    have hproto : ¬ (byteAt pkt 9 ≠ 17 ∨ pkt.length < ihlOf pkt + 8) :=
      not_or.2 ⟨not_not_intro h.proto, Nat.not_lt.2 h.header⟩
    rw [if_neg (Nat.not_lt.2 h.length), if_neg hproto, if_neg (Nat.not_lt.2 h.fits)]

/-- **The TCP parser reads the segment the fields denote, of the packets that pass its tests.** -/
theorem parseIpv4Tcp_iff {pkt : Bytes} {m : TcpSegment} : parseIpv4Tcp pkt = some m ↔ AcceptsTcp pkt ∧ m = tcpOf pkt := by
  rw [parseIpv4Tcp_eq]
  constructor
  · intro h
    split at h
    · cases h
    rename_i hlen
    split at h
    · cases h
    rename_i hproto
    split at h
    · cases h
    rename_i hoffset
    rw [not_or, not_not] at hproto
    rw [not_or] at hoffset
    exact ⟨⟨by omega, hproto.1, by omega, Nat.not_lt.1 hoffset.1, Nat.not_lt.1 hoffset.2⟩, (Option.some.inj h).symm⟩
  · rintro ⟨h, rfl⟩
    have hproto : ¬ (byteAt pkt 9 ≠ 6 ∨ pkt.length < ihlOf pkt + 20) :=
      not_or.2 ⟨not_not_intro h.proto, Nat.not_lt.2 h.header⟩
    have hoffset : ¬ (dataOffsetOf pkt < 20 ∨ pkt.length < ihlOf pkt + dataOffsetOf pkt) :=
      not_or.2 ⟨Nat.not_lt.2 h.offset, Nat.not_lt.2 h.fits⟩
    rw [if_neg (Nat.not_lt.2 h.length), if_neg hproto, if_neg hoffset]

/-! ## What is accepted -/

/-- **Every accepted packet holds what its lengths denote.**  The transport header follows the `IHL * 4` bytes of the IP
header and lies inside the packet; the payload is the slice of the UDP length after the UDP header, nothing when that length
is below 8, or everything behind the TCP data offset. -/
theorem accepted_slices (pkt : Bytes) :
    (∀ d, parseIpv4Udp pkt = some d → AcceptsUdp pkt ∧ d = udpOf pkt ∧
      ihlOf pkt + 8 + (udpLengthOf pkt - 8) ≤ pkt.length ∧ d.payload.length = udpLengthOf pkt - 8) ∧
    (∀ m, parseIpv4Tcp pkt = some m → AcceptsTcp pkt ∧ m = tcpOf pkt ∧
      pkt.take (ihlOf pkt + dataOffsetOf pkt) ++ m.payload = pkt ∧
      m.payload.length = pkt.length - (ihlOf pkt + dataOffsetOf pkt)) := by
  constructor
  · intro d hd
    obtain ⟨h, rfl⟩ := parseIpv4Udp_iff.1 hd
    have hheader := h.header
    have hfits := h.fits
    exact ⟨h, rfl, by omega, length_bytesAt _ _ _ (by omega)⟩
  · intro m hm
    obtain ⟨h, rfl⟩ := parseIpv4Tcp_iff.1 hm
    exact ⟨h, rfl, List.take_append_drop _ _, List.length_drop⟩

/-- A byte of stream data from the station that `acceptedHost` accepted. -/
def oneByte : Segment where
  srcIp := 0x0A0D0002
  dstIp := 0x0A0D0001
  srcPort := ldnControlPort
  dstPort := ldnControlPort
  seq := 101
  ack := 78
  flags := TCP_ACK
  payload := [7]

def oneBytePacket : Bytes := oneByte.packet?.getD []

theorem accepted_slices_oneByte :
    (∃ d, parseIpv4Udp (ControlQueue.datagramTo 9) = some d ∧ AcceptsUdp (ControlQueue.datagramTo 9) ∧ d.payload = [7] ∧
      d.payload.length = udpLengthOf (ControlQueue.datagramTo 9) - 8) ∧
    (∃ m, parseIpv4Tcp oneBytePacket = some m ∧ AcceptsTcp oneBytePacket ∧ m.payload = [7] ∧
      oneBytePacket.take (ihlOf oneBytePacket + dataOffsetOf oneBytePacket) ++ m.payload = oneBytePacket) := by
  have hudp : parseIpv4Udp (ControlQueue.datagramTo 9) = some (udpOf (ControlQueue.datagramTo 9)) := by decide +kernel
  have htcp : parseIpv4Tcp oneBytePacket = some (tcpOf oneBytePacket) := by decide +kernel
  obtain ⟨haccU, -, -, hlenU⟩ := (accepted_slices _).1 _ hudp
  obtain ⟨haccT, -, hsplit, -⟩ := (accepted_slices _).2 _ htcp
  exact ⟨⟨_, hudp, haccU, by decide +kernel, hlenU⟩, ⟨_, htcp, haccT, by decide +kernel, hsplit⟩⟩

/-- The smallest UDP packet with this first byte, fragment field and UDP length. -/
def udpWith (first : UInt8) (frag udpLength : UInt16) : Bytes :=
  [first, 0] ++ be16 28 ++ [0, 0] ++ be16 frag ++ [64, 17, 0, 0] ++ be32 0x500D0002 ++ be32 0x0A0D0001 ++
    be16 ldnControlPort ++ be16 ldnControlPort ++ be16 udpLength ++ [0, 0]

/-- The smallest TCP packet with this first byte and fragment field. -/
def tcpWith (first : UInt8) (frag : UInt16) : Bytes :=
  [first, 0] ++ be16 40 ++ [0, 0] ++ be16 frag ++ [64, 6, 0, 0] ++ be32 0x500D0002 ++ be32 0x0A0D0001 ++
    be16 ldnControlPort ++ be16 ldnControlPort ++ be32 1 ++ be32 1 ++ [0x50, TCP_ACK, 0, 0, 0, 0, 0, 0]

/-- **Both parsers accept** another IP version, an IP header of no bytes at all and a fragment, and the UDP parser a UDP
length that does not cover its own header. -/
theorem malformed_accepted :
    ((parseIpv4Udp (udpWith 0x65 0 8)).isSome = true ∧ versionOf (udpWith 0x65 0 8) ≠ 4) ∧
    ((parseIpv4Udp (udpWith 0x40 0 8)).isSome = true ∧ ¬ 20 ≤ ihlOf (udpWith 0x40 0 8)) ∧
    ((parseIpv4Udp (udpWith 0x45 1 8)).isSome = true ∧ IsIpFragment (udpWith 0x45 1 8)) ∧
    ((parseIpv4Udp (udpWith 0x45 0 7)).isSome = true ∧ ¬ 8 ≤ udpLengthOf (udpWith 0x45 0 7)) ∧
    ((parseIpv4Tcp (tcpWith 0x65 0)).isSome = true ∧ versionOf (tcpWith 0x65 0) ≠ 4) ∧
    ((parseIpv4Tcp (tcpWith 0x40 0)).isSome = true ∧ ¬ 20 ≤ ihlOf (tcpWith 0x40 0)) ∧
    ((parseIpv4Tcp (tcpWith 0x45 1)).isSome = true ∧ IsIpFragment (tcpWith 0x45 1)) := by
  decide +kernel

/-! ## What follows the packet -/

section Append

variable {pkt : Bytes}

theorem byteAt_append {i : Nat} (h : i < pkt.length) (t : Bytes) : byteAt (pkt ++ t) i = byteAt pkt i := by
  simp [byteAt, List.getD_eq_getElem?_getD, List.getElem?_append_left h]

theorem bytesAt_append {off n : Nat} (h : off + n ≤ pkt.length) (t : Bytes) :
    bytesAt (pkt ++ t) off n = bytesAt pkt off n := by
  rw [bytesAt, bytesAt, List.drop_append_of_le_length (by omega),
    List.take_append_of_le_length (by rw [List.length_drop]; omega)]

theorem ihlOf_append (h : 0 < pkt.length) (t : Bytes) : ihlOf (pkt ++ t) = ihlOf pkt := by
  rw [ihlOf, byteAt_append h, ihlOf]

/-- **The UDP length ends the payload**, whatever follows. -/
theorem parseIpv4Udp_append {d : UdpDatagram} (h : parseIpv4Udp pkt = some d) (t : Bytes) :
    parseIpv4Udp (pkt ++ t) = some d := by
  obtain ⟨hacc, rfl⟩ := parseIpv4Udp_iff.1 h
  obtain ⟨hlen, hproto, hheader, hfits⟩ := hacc
  have hbyte := fun {i : Nat} (hi : i < pkt.length) => byteAt_append hi t
  have hihl := ihlOf_append (show 0 < pkt.length by omega) t
  have hudp : udpLengthOf (pkt ++ t) = udpLengthOf pkt := by
    rw [udpLengthOf, hihl, hbyte (by omega), hbyte (by omega), udpLengthOf]
  have hle : pkt.length ≤ (pkt ++ t).length := by
    rw [List.length_append]
    omega
  refine parseIpv4Udp_iff.2 ⟨⟨by omega, by rwa [hbyte (by omega)], by omega, by omega⟩, ?_⟩
  simp (disch := omega) only [udpOf, srcIpOf, hihl, hudp, hbyte, bytesAt_append]

/-- **The TCP payload runs to the end of what it is given.** -/
theorem parseIpv4Tcp_append {m : TcpSegment} (h : parseIpv4Tcp pkt = some m) (t : Bytes) :
    parseIpv4Tcp (pkt ++ t) = some { m with payload := m.payload ++ t } := by
  obtain ⟨hacc, rfl⟩ := parseIpv4Tcp_iff.1 h
  obtain ⟨hlen, hproto, hheader, hoffset, hfits⟩ := hacc
  have hbyte := fun {i : Nat} (hi : i < pkt.length) => byteAt_append hi t
  have hihl := ihlOf_append (show 0 < pkt.length by omega) t
  have hoff : dataOffsetOf (pkt ++ t) = dataOffsetOf pkt := by
    rw [dataOffsetOf, hihl, hbyte (by omega), dataOffsetOf]
  have hle : pkt.length ≤ (pkt ++ t).length := by
    rw [List.length_append]
    omega
  refine parseIpv4Tcp_iff.2 ⟨⟨by omega, by rwa [hbyte (by omega)], by omega, by omega, by omega⟩, ?_⟩
  simp (disch := omega) only [tcpOf, srcIpOf, hihl, hoff, hbyte, List.drop_append_of_le_length]

end Append

/-- An IPv4/TCP packet as a sender makes it: the total length is its size. -/
structure WellFormedTcp (pkt : Bytes) : Prop where
  version : versionOf pkt = 4
  ihl : 20 ≤ ihlOf pkt
  proto : byteAt pkt 9 = 6
  total : totalLengthOf pkt = pkt.length
  offset : 20 ≤ dataOffsetOf pkt
  fits : ihlOf pkt + dataOffsetOf pkt ≤ pkt.length

/-- An IPv4/UDP packet as a sender makes it. -/
structure WellFormedUdp (pkt : Bytes) : Prop where
  version : versionOf pkt = 4
  ihl : 20 ≤ ihlOf pkt
  proto : byteAt pkt 9 = 17
  total : totalLengthOf pkt = pkt.length
  udpLength : 8 ≤ udpLengthOf pkt
  fits : ihlOf pkt + udpLengthOf pkt ≤ pkt.length

theorem WellFormedTcp.accepts {pkt : Bytes} (h : WellFormedTcp pkt) : AcceptsTcp pkt := by
  obtain ⟨-, hihl, hproto, -, hoffset, hfits⟩ := h
  exact ⟨by omega, hproto, by omega, hoffset, hfits⟩

theorem WellFormedUdp.accepts {pkt : Bytes} (h : WellFormedUdp pkt) : AcceptsUdp pkt := by
  obtain ⟨-, hihl, hproto, -, hlen, hfits⟩ := h
  exact ⟨by omega, hproto, by omega, hfits⟩

section Trailer

variable {c : VTcpConn} {m : TcpSegment} (localIp : UInt32)

theorem VTcpConn.receive_of_plainAck (hm : m.PlainAck) : c.receive localIp m = c.handleAck localIp m := by
  obtain ⟨hrst, hsyn, hfin, hack⟩ := hm
  simp only [receive, hrst, hsyn, hfin, hack, Bool.false_eq_true, if_false, Bool.false_and, Bool.not_true]

/-- **A trailer is stream data to a connection in order**: it goes to the inbox behind the payload, and the next sequence
number expected counts it. -/
theorem VTcpConn.receive_padded (hest : c.established = true) (hm : m.PlainAck) (hseq : m.seq = c.theirSeq) {t : Bytes}
    (ht : t ≠ []) (hfit : c.inbox.size + (m.payload ++ t).length ≤ vtcpInboxCap) :
    (c.receive localIp { m with payload := m.payload ++ t }).1.inbox.bytes = c.inbox.bytes ++ (m.payload ++ t) ∧
    (c.receive localIp { m with payload := m.payload ++ t }).1.theirSeq = c.theirSeq + seqLen (m.payload ++ t) := by
  have hpadded : TcpSegment.PlainAck { m with payload := m.payload ++ t } := ⟨hm.no_rst, hm.no_syn, hm.no_fin, hm.ack⟩
  have hkeeps : (c.handleAckNumber m.ack).established = c.established ∧ (c.handleAckNumber m.ack).inbox = c.inbox ∧
      (c.handleAckNumber m.ack).theirSeq = c.theirSeq := by
    unfold handleAckNumber
    split <;> exact ⟨rfl, rfl, rfl⟩
  rw [receive_of_plainAck localIp hpadded, handleAck]
  generalize c.handleAckNumber m.ack = c' at hkeeps
  obtain ⟨hest', hinbox, htheir⟩ := hkeeps
  rw [← hinbox] at hfit
  have hbig : (m.payload ++ t).length ≤ vtcpInboxCap := by omega
  rw [handleData, if_neg (by simp [hest', hest, ht]), if_neg (by rw [not_not, htheir]; exact hseq),
    if_neg (Nat.not_lt.2 hbig), dif_pos hfit]
  exact ⟨by rw [← hinbox]; rfl, by rw [← htheir]⟩

end Trailer

/-- **Padding is ignored by the UDP parser, and by the TCP parser exactly where there is none**: a packet followed by `t` is
read, and acts on every console, as the packet alone does, if and only if `t` is empty. -/
theorem padding_ignored_iff (pkt t : Bytes) :
    (WellFormedUdp pkt → parseIpv4Udp (pkt ++ t) = parseIpv4Udp pkt) ∧
    (WellFormedTcp pkt →
      ((parseIpv4Tcp (pkt ++ t) = parseIpv4Tcp pkt ∧
        ∀ (C : Console) (ourIsn : UInt32), C.drainPacket ourIsn (pkt ++ t) = C.drainPacket ourIsn pkt) ↔ t = [])) := by
  constructor
  · intro h
    have hpkt := parseIpv4Udp_iff.2 ⟨h.accepts, rfl⟩
    rw [parseIpv4Udp_append hpkt, hpkt]
  · intro h
    have hpkt := parseIpv4Tcp_iff.2 ⟨h.accepts, rfl⟩
    constructor
    · rintro ⟨hsame, -⟩
      rw [parseIpv4Tcp_append hpkt, hpkt] at hsame
      have hpayload := congrArg TcpSegment.payload (Option.some.inj hsame)
      exact List.append_right_eq_self.1 hpayload
    · rintro rfl
      simp only [List.append_nil, implies_true, and_self]

theorem wellFormed_oneBytePacket : WellFormedTcp oneBytePacket where
  version := by decide +kernel
  ihl := by decide +kernel
  proto := by decide +kernel
  total := by decide +kernel
  offset := by decide +kernel
  fits := by decide +kernel

theorem padding_ignored_iff_oneBytePacket :
    (parseIpv4Tcp (oneBytePacket ++ [0]) = parseIpv4Tcp oneBytePacket ∧ ∀ (C : Console) (ourIsn : UInt32),
      C.drainPacket ourIsn (oneBytePacket ++ [0]) = C.drainPacket ourIsn oneBytePacket) ↔ ([0] : Bytes) = [] :=
  (padding_ignored_iff oneBytePacket [0]).2 wellFormed_oneBytePacket

/-- **A byte of padding desynchronises the stream**: the accepted connection reads it as data, and expects the next segment one
byte too far. -/
theorem padding_read : WellFormedTcp oneBytePacket ∧
    (parseIpv4Tcp (oneBytePacket ++ [0])).map TcpSegment.payload = some [7, 0] ∧
    Service.Reachable (fun _ _ => True) Console.acceptedHost.service ∧
    let alone := (Console.acceptedHost.drainPacket 0 oneBytePacket).1.service.vtcp.conns ⟨0, by decide⟩
    let padded := (Console.acceptedHost.drainPacket 0 (oneBytePacket ++ [0])).1.service.vtcp.conns ⟨0, by decide⟩
    (alone.inbox.bytes = [7] ∧ alone.theirSeq = 102) ∧ (padded.inbox.bytes = [7, 0] ∧ padded.theirSeq = 103) :=
  ⟨wellFormed_oneBytePacket, by decide +kernel, Service.reachable_run _ .init (by decide +kernel), by decide +kernel⟩

end Slp
