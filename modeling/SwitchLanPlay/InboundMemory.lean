import SwitchLanPlay.Memory
import SwitchLanPlay.ArrayQueue
import SwitchLanPlay.ControlQueue
import SwitchLanPlay.PacketParsing
/-!
# InboundMemory — a popped packet, from the parser to the caller's buffer

The two parsers, the filing in the control queue and the bridged `RecvFrom` over checked memory (`Checked`).  A payload is a
slice, an offset and a length into the packet; an entry of the control queue is an array with a recorded length, and the queue
an array of entries.  None of them faults, on any bytes, as long as the queue's count and its entries' lengths are in range
(`HoldsQueue`), and they compute what the model does.
-/
namespace Slp
namespace Checked

open Wire

/-! ## The parsers -/

/-- What `ParseIpv4Udp` hands out; the payload is `len` bytes of the packet from `off` on. -/
structure UdpSlice where
  srcIp : UInt32
  dstPort : UInt16
  off : Nat
  len : Nat
deriving DecidableEq

/-- What `ParseIpv4Tcp` hands out: the fields, the header's `payload` being empty, and the slice of the payload. -/
structure TcpSlice where
  header : TcpSegment
  off : Nat
  len : Nat
deriving DecidableEq

def parseIpv4Udp (pkt : Bytes) : Option (Option UdpSlice) :=
  if pkt.length < 28 then some none
  else do
    let first ← loadByte pkt 0
    let ihl := (first &&& 0x0F).toNat * 4
    let proto ← loadByte pkt 9
    if proto ≠ 17 ∨ pkt.length < ihl + 8 then return none
    let srcIp ← load32 pkt 12
    let dstPort ← load16 pkt (ihl + 2)
    let udpLen ← load16 pkt (ihl + 4)
    let payloadLen := if 8 ≤ udpLen.toNat then udpLen.toNat - 8 else 0
    if pkt.length < ihl + udpLen.toNat then return none
    return some ⟨srcIp, dstPort, ihl + 8, payloadLen⟩

def parseIpv4Tcp (pkt : Bytes) : Option (Option TcpSlice) :=
  if pkt.length < 40 then some none
  else do
    let first ← loadByte pkt 0
    let ihl := (first &&& 0x0F).toNat * 4
    let proto ← loadByte pkt 9
    if proto ≠ 6 ∨ pkt.length < ihl + 20 then return none
    let srcIp ← load32 pkt 12
    let srcPort ← load16 pkt ihl
    let dstPort ← load16 pkt (ihl + 2)
    let seq ← load32 pkt (ihl + 4)
    let ack ← load32 pkt (ihl + 8)
    let offset ← loadByte pkt (ihl + 12)
    let flags ← loadByte pkt (ihl + 13)
    let dataOffset := (offset >>> 4).toNat * 4
    if dataOffset < 20 ∨ pkt.length < ihl + dataOffset then return none
    return some ⟨⟨srcIp, srcPort, dstPort, seq, ack, flags, []⟩, ihl + dataOffset, pkt.length - ihl - dataOffset⟩

/-- The slice of an accepted UDP packet. -/
def udpSliceOf (pkt : Bytes) : UdpSlice where
  srcIp := (udpOf pkt).srcIp
  dstPort := (udpOf pkt).dstPort
  off := ihlOf pkt + 8
  len := udpLengthOf pkt - 8

/-- The slice of an accepted TCP packet. -/
def tcpSliceOf (pkt : Bytes) : TcpSlice where
  header := { tcpOf pkt with payload := [] }
  off := ihlOf pkt + dataOffsetOf pkt
  len := pkt.length - ihlOf pkt - dataOffsetOf pkt

/-- **`ParseIpv4Udp` reads inside the packet**, whatever its bytes. -/
theorem parseIpv4Udp_checked (pkt : Bytes) :
    parseIpv4Udp pkt = some ((Slp.parseIpv4Udp pkt).map (fun _ => udpSliceOf pkt)) := by
  have hpayload : (if 8 ≤ udpLengthOf pkt then udpLengthOf pkt - 8 else 0) = udpLengthOf pkt - 8 := by
    split <;> omega
  rw [parseIpv4Udp, parseIpv4Udp_eq]
  split
  · rfl
  rw [loadByte_eq (by omega), loadByte_eq (by omega)]
  simp only [Option.bind_eq_bind, Option.bind_some, Option.pure_def]
  rw [show (byteAt pkt 0 &&& 0x0F).toNat * 4 = ihlOf pkt from rfl]
  split
  · rfl
  rename_i hproto
  rw [not_or] at hproto
  rw [load32_eq (by omega), load16_eq (by omega), load16_eq (by omega)]
  simp only [Option.bind_some]
  rw [show (read16 (byteAt pkt (ihlOf pkt + 4)) (byteAt pkt (ihlOf pkt + 4 + 1))).toNat = udpLengthOf pkt from rfl, hpayload]
  split <;> rfl

/-- **`ParseIpv4Tcp` reads inside the packet**, whatever its bytes. -/
theorem parseIpv4Tcp_checked (pkt : Bytes) :
    parseIpv4Tcp pkt = some ((Slp.parseIpv4Tcp pkt).map (fun _ => tcpSliceOf pkt)) := by
  rw [parseIpv4Tcp, parseIpv4Tcp_eq]
  split
  · rfl
  rw [loadByte_eq (by omega), loadByte_eq (by omega)]
  simp only [Option.bind_eq_bind, Option.bind_some, Option.pure_def]
  rw [show (byteAt pkt 0 &&& 0x0F).toNat * 4 = ihlOf pkt from rfl]
  split
  · rfl
  rename_i hproto
  rw [not_or] at hproto
  rw [load32_eq (by omega), load16_eq (by omega), load16_eq (by omega), load32_eq (by omega), load32_eq (by omega),
    loadByte_eq (by omega), loadByte_eq (by omega)]
  simp only [Option.bind_some]
  rw [show (byteAt pkt (ihlOf pkt + 12) >>> 4).toNat * 4 = dataOffsetOf pkt from rfl]
  split
  · rfl
  · rfl

/-- **The slices lie inside the packet**, and are the payloads of the model. -/
theorem udpSliceOf_inside {pkt : Bytes} {d : UdpDatagram} (h : Slp.parseIpv4Udp pkt = some d) :
    (udpSliceOf pkt).off + (udpSliceOf pkt).len ≤ pkt.length ∧
    bytesAt pkt (udpSliceOf pkt).off (udpSliceOf pkt).len = d.payload := by
  obtain ⟨hacc, rfl⟩ := parseIpv4Udp_iff.1 h
  have hheader := hacc.header
  have hfits := hacc.fits
  refine ⟨?_, rfl⟩
  show ihlOf pkt + 8 + (udpLengthOf pkt - 8) ≤ pkt.length
  omega

theorem tcpSliceOf_inside {pkt : Bytes} {m : TcpSegment} (h : Slp.parseIpv4Tcp pkt = some m) :
    (tcpSliceOf pkt).off + (tcpSliceOf pkt).len = pkt.length ∧
    bytesAt pkt (tcpSliceOf pkt).off (tcpSliceOf pkt).len = m.payload ∧
    m = { (tcpSliceOf pkt).header with payload := m.payload } := by
  obtain ⟨hacc, rfl⟩ := parseIpv4Tcp_iff.1 h
  have hfits := hacc.fits
  have hoff : (tcpSliceOf pkt).off + (tcpSliceOf pkt).len = pkt.length := by
    show ihlOf pkt + dataOffsetOf pkt + (pkt.length - ihlOf pkt - dataOffsetOf pkt) = pkt.length
    omega
  refine ⟨hoff, ?_, rfl⟩
  exact List.take_of_length_le (by rw [List.length_drop]; omega)

/-! ## The control queue -/

/-- A `ControlPacket` in memory: `data` and its `len`. -/
structure EntryMemory where
  dstPort : UInt16
  data : Block controlPacketCap

def EntryMemory.packet (e : EntryMemory) : ControlPacket := ⟨e.dstPort, e.data.toBuf⟩

/-- `g_control_queue` and `g_control_count`. -/
abbrev QueueMemory := ArrayQueue controlQueueSize EntryMemory

def emptyQueue : QueueMemory := ⟨fun _ => ⟨0, .zero⟩, 0⟩

/-- The UDP branch of `DrainRawRelayQueue`, after the parse. -/
def fileEntry (q : QueueMemory) (pkt : Bytes) (dstPort : UInt16) : Option QueueMemory :=
  if q.count < controlQueueSize then do
    let slot ← q.get q.count
    let copyLen := min pkt.length controlPacketCap
    let bytes ← load pkt 0 copyLen
    let data ← slot.data.assign bytes
    q.append ⟨dstPort, data⟩
  else some q

def file (q : QueueMemory) (pkt : Bytes) : Option QueueMemory := do
  match ← parseIpv4Udp pkt with
  | none => return q
  | some d => fileEntry q pkt d.dstPort

/-- The first entry for the port, and the queue with the entries behind it moved down. -/
def popControlPacketForPort (q : QueueMemory) (port : UInt16) : Option (Option (EntryMemory × QueueMemory)) :=
  q.takeFirst (fun e => e.dstPort == port)

variable {bufSize addrSize : Nat}

/-- The end of `RecvFrom`: the source port, the payload and the source address, cut to the caller's buffers. -/
def copyOut (ipPacket : Bytes) (d : UdpSlice) (buf : ByteArr bufSize) (addr : ByteArr addrSize) : Option RecvFromOut := do
  let first ← loadByte ipPacket 0
  let srcPort ← load16 ipPacket ((first &&& 0x0F).toNat * 4)
  let payloadLen := min d.len bufSize
  let payload ← load ipPacket d.off payloadLen
  let _ ← buf.store 0 payload
  let addrlen := min addrSize RecvFromOut.sockaddrSize
  let _ ← addr.store 0 ((sockaddrBytes d.srcIp srcPort).take addrlen)
  return { ret := payloadLen, errno := .none, payload := payload, src := some (d.srcIp, srcPort), addrlen := addrlen }

/-- The bridged `RecvFrom` after the drain: `ip_packet` is a local copy of the entry, parsed again. -/
def recvFrom (q : QueueMemory) (port : UInt16) (buf : ByteArr bufSize) (addr : ByteArr addrSize) :
    Option (QueueMemory × RecvFromOut) := do
  match ← popControlPacketForPort q port with
  | none => return (q, .wouldBlock)
  | some (pkt, q') =>
    let ipLen := min pkt.data.len controlPacketCap
    let bytes ← pkt.data.cells.fetch 0 ipLen
    let copy ← (Block.zero : Block controlPacketCap).assign bytes
    let ipPacket ← copy.cells.fetch 0 copy.len
    match ← parseIpv4Udp ipPacket with
    | none => return (q', .wouldBlock)
    | some d =>
      let out ← copyOut ipPacket d buf addr
      return (q', out)

/-- The memory is this queue: its count is in the array, each entry's length in the entry, and the bytes are the packets'. -/
structure HoldsQueue (mem : QueueMemory) (q : ControlQueue) : Prop where
  count : mem.count ≤ controlQueueSize
  lens : ∀ e ∈ mem.toList, e.data.len ≤ controlPacketCap
  packets : mem.toList.map EntryMemory.packet = q.packets

theorem HoldsQueue.count_eq {mem : QueueMemory} {q : ControlQueue} (h : HoldsQueue mem q) : q.packets.length = mem.count := by
  rw [← h.packets, List.length_map, ArrayQueue.length_toList h.count]

theorem holdsQueue_empty : HoldsQueue emptyQueue .empty where
  count := Nat.zero_le _
  lens := fun _ he => absurd he List.not_mem_nil
  packets := rfl

/-- **Filing a packet stays inside the array and the entry.** -/
theorem file_checked {mem : QueueMemory} {q : ControlQueue} (h : HoldsQueue mem q) (pkt : Bytes) :
    ∃ mem', file mem pkt = some mem' ∧ HoldsQueue mem' (q.file pkt) := by
  rw [file, parseIpv4Udp_checked]
  simp only [Option.bind_eq_bind, Option.bind_some, ControlQueue.file]
  cases hparse : Slp.parseIpv4Udp pkt with
  | none => exact ⟨mem, rfl, h⟩
  | some d =>
    have hport : (udpSliceOf pkt).dstPort = d.dstPort := by
      obtain ⟨-, rfl⟩ := parseIpv4Udp_iff.1 hparse
      rfl
    have hcount := h.count_eq
    simp only [Option.map_some, hport, fileEntry]
    by_cases hroom : mem.count < controlQueueSize
    · have hload : load pkt 0 (min pkt.length controlPacketCap) = some (pkt.take controlPacketCap) := by
        rw [load_eq (by omega), bytesAt, List.drop_zero, Nat.min_comm, ← List.take_take, List.take_length]
      have hle : (pkt.take controlPacketCap).length ≤ controlPacketCap := List.length_take_le _ _
      obtain ⟨data, hdata, hlen, hbytes⟩ := (mem.cells ⟨mem.count, hroom⟩).data.assign_holds hle
      obtain ⟨mem', hmem', hcount', hlist⟩ := ArrayQueue.append_eq hroom ⟨d.dstPort, data⟩
      refine ⟨mem', ?_, by omega, fun e he => ?_, ?_⟩
      · rw [if_pos hroom, ArrayQueue.get_eq hroom]
        simp only [Option.bind_eq_bind, Option.bind_some, hload, hdata, hmem']
      · rw [hlist] at he
        rcases List.mem_append.1 he with he | he
        · exact h.lens e he
        · rw [List.mem_singleton.1 he]
          exact hlen
      · rw [hlist, List.map_append, h.packets, ControlQueue.push, dif_pos (by omega)]
        congr 1
        simp only [List.map_singleton, EntryMemory.packet, ControlQueue.packetOf]
        congr 2
        exact ByteBuf.ext hbytes
    · refine ⟨mem, if_neg hroom, ?_⟩
      rwa [ControlQueue.push, dif_neg (by omega)]

theorem copyOut_checked {p : Bytes} {d : UdpDatagram} (h : Slp.parseIpv4Udp p = some d) (buf : ByteArr bufSize)
    (addr : ByteArr addrSize) : copyOut p (udpSliceOf p) buf addr = some (.delivered d.payload d.srcIp
      (read16 (byteAt p (ihlOf p)) (byteAt p (ihlOf p + 1))) bufSize addrSize) := by
  obtain ⟨hin, hpayload⟩ := udpSliceOf_inside h
  obtain ⟨hacc, hd⟩ := parseIpv4Udp_iff.1 h
  have hlen := hacc.length
  have hheader := hacc.header
  have hsize : d.payload.length = (udpSliceOf p).len := by
    rw [← hpayload]
    exact length_bytesAt _ _ _ hin
  have htake : bytesAt p (udpSliceOf p).off (min (udpSliceOf p).len bufSize) = d.payload.take bufSize := by
    rw [← hpayload, bytesAt, bytesAt, List.take_take, Nat.min_comm]
  have hbuf : (d.payload.take bufSize).length ≤ bufSize := List.length_take_le _ _
  have hsrc : (udpSliceOf p).srcIp = d.srcIp := by rw [hd]; rfl
  rw [copyOut, loadByte_eq (by omega)]
  simp only [Option.bind_eq_bind, Option.bind_some]
  rw [show (byteAt p 0 &&& 0x0F).toNat * 4 = ihlOf p from rfl, load16_eq (by omega), Option.bind_some,
    load_eq (by omega), Option.bind_some, htake, buf.store_eq (by omega), Option.bind_some, hsrc]
  have haddr : ∀ b : Bytes, (b.take (min addrSize RecvFromOut.sockaddrSize)).length ≤ addrSize := fun b => by
    rw [List.length_take]
    omega
  rw [addr.store_eq (by rw [Nat.zero_add]; exact haddr _), Option.bind_some, RecvFromOut.delivered, List.length_take, hsize,
    Nat.min_comm]
  rfl

/-- **`PopControlPacketForPort` stays inside the array** and takes out what the model takes. -/
theorem pop_checked {mem : QueueMemory} {q : ControlQueue} (h : HoldsQueue mem q) (port : UInt16) :
    (popControlPacketForPort mem port = some none ∧ q.popControlPacketForPort port = none) ∨
    ∃ e mem' q', popControlPacketForPort mem port = some (some (e, mem')) ∧
      q.popControlPacketForPort port = some (e.packet, q') ∧ e.data.len ≤ controlPacketCap ∧ HoldsQueue mem' q' := by
  rcases mem.takeFirst_cases (fun e => e.dstPort == port) h.count with
    ⟨htake, hnone⟩ | ⟨before, e, after, mem', htake, hlist, hbefore, he, hlist', hcount⟩
  · refine Or.inl ⟨htake, ControlQueue.pop_of_none ?_⟩
    rw [← h.packets]
    refine popFirst_eq_none_iff.2 (fun p hp => ?_)
    obtain ⟨e, he, rfl⟩ := List.mem_map.1 hp
    exact hnone e he
  · have hpop : popFirst (fun p : ControlPacket => p.dstPort == port) q.packets =
        some (e.packet, before.map EntryMemory.packet ++ after.map EntryMemory.packet) := by
      rw [← h.packets, hlist, List.map_append, List.map_cons]
      refine popFirst_append (fun p hp => ?_) he
      obtain ⟨b, hb, rfl⟩ := List.mem_map.1 hp
      exact hbefore b hb
    obtain ⟨hle, hq⟩ := ControlQueue.pop_of_some hpop
    have hmemcount := h.count
    refine Or.inr ⟨e, mem', _, htake, hq, h.lens e (by simp [hlist]), by omega, fun e' he' => h.lens e' ?_, ?_⟩
    · rw [hlist'] at he'
      rw [hlist]
      rcases List.mem_append.1 he' with he' | he'
      · exact List.mem_append_left _ he'
      · exact List.mem_append_right _ (List.mem_cons_of_mem _ he')
    · rw [hlist', List.map_append]

/-- **`RecvFrom` stays inside the entry, its own copy and the caller's buffers**, whatever their sizes. -/
theorem recvFrom_checked {mem : QueueMemory} {q : ControlQueue} (h : HoldsQueue mem q) (port : UInt16) (buf : ByteArr bufSize)
    (addr : ByteArr addrSize) :
    ∃ mem', recvFrom mem port buf addr = some (mem', (q.recvFrom port bufSize addrSize).2) ∧
      HoldsQueue mem' (q.recvFrom port bufSize addrSize).1 := by
  rw [recvFrom]
  rcases pop_checked h port with ⟨hmem, hpop⟩ | ⟨e, mem', q', hmem, hpop, helen, hold⟩
  · rw [hmem, ControlQueue.recvFrom, hpop]
    exact ⟨mem, rfl, h⟩
  · have hbytes : e.packet.data.bytes = e.data.cells.read e.data.len := rfl
    have hsize : (e.data.cells.read e.data.len).length ≤ controlPacketCap := by
      rw [ByteArr.length_read _ helen]
      exact helen
    obtain ⟨copy, hcopy, hcopylen, hcopybytes⟩ := (Block.zero : Block controlPacketCap).assign_holds hsize
    have hcopybytes' : copy.cells.read copy.len = e.data.cells.read e.data.len := hcopybytes
    rw [hmem, ControlQueue.recvFrom, hpop]
    simp only [Option.bind_eq_bind, Option.bind_some, Nat.min_eq_left helen, ByteArr.fetch_front _ helen, hcopy,
      ByteArr.fetch_front _ hcopylen, hcopybytes', hbytes, parseIpv4Udp_checked]
    cases hparse : Slp.parseIpv4Udp (e.data.cells.read e.data.len) with
    | none => exact ⟨mem', rfl, hold⟩
    | some d =>
      refine ⟨mem', ?_, hold⟩
      simp only [Option.map_some, copyOut_checked hparse buf addr, Option.bind_some]
      rfl

end Checked
end Slp
