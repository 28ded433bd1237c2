import Mathlib.Algebra.Group.Nat.Defs
import SwitchLanPlay.Bytes
import SwitchLanPlay.SlotTable
import SwitchLanPlay.RingQueue
/-!
# RelayBridge — raw IPv4 over UDP to the relay (source/relay_bridge.hpp)

A frame is a type byte and a payload.  A packet of at most `relayMtu` bytes is one IPV4 frame, a larger one is cut into
IPV4_FRAG frames (`sendFragmented`) that the receiving bridge puts together in one of four slots (`reassembleFrag`).
The pump thread hands every datagram to `recvIpv4` and queues the packets that come out in a 64-entry ring, which
`popIpv4` empties.

The outcome of each `sendto` of the relay socket is an input (`sendto i` is the `i`-th one of the call), and so is the
datagram each `recvfrom` returns.  Keepalives carry nothing and are left out.
-/
namespace Slp

open Wire

def relayMtu : Nat := 1400

inductive RelayFrameType where
  | keepalive
  | ipv4
  | ping
  | ipv4Frag
  | authMe
deriving DecidableEq

namespace RelayFrameType

def code : RelayFrameType → UInt8
  | keepalive => 0x00
  | ipv4 => 0x01
  | ping => 0x02
  | ipv4Frag => 0x03
  | authMe => 0x04

/-- The frame types a byte can name; the switch's default branch takes the others. -/
def ofByte? (b : UInt8) : Option RelayFrameType :=
  if b = 0x00 then some keepalive
  else if b = 0x01 then some ipv4
  else if b = 0x02 then some ping
  else if b = 0x03 then some ipv4Frag
  else if b = 0x04 then some authMe
  else none

end RelayFrameType

/-! ## The frag header -/

structure FragHeader where
  srcIp : Bytes
  dstIp : Bytes
  id : UInt16
  part : UInt8
  totalPart : UInt8
  len : UInt16
  pmtu : UInt16
deriving DecidableEq

/-- `sizeof(FragHeader)`. -/
def fragHeaderSize : Nat := 16

namespace FragHeader

def encode (h : FragHeader) : Bytes :=
  h.srcIp ++ h.dstIp ++ be16 h.id ++ [h.part, h.totalPart] ++ be16 h.len ++ be16 h.pmtu

/-- The header of `data`, which the caller knows to hold one. -/
def decode (data : Bytes) : FragHeader where
  srcIp := bytesAt data 0 4
  dstIp := bytesAt data 4 4
  id := read16 (byteAt data 8) (byteAt data 9)
  part := byteAt data 10
  totalPart := byteAt data 11
  len := read16 (byteAt data 12) (byteAt data 13)
  pmtu := read16 (byteAt data 14) (byteAt data 15)

theorem length_encode (h : FragHeader) (hs : h.srcIp.length = 4) (hd : h.dstIp.length = 4) :
    h.encode.length = fragHeaderSize := by
  simp [encode, hs, hd, fragHeaderSize]

/-- **A header reads back, whatever follows it.** -/
theorem decode_encode (h : FragHeader) (rest : Bytes) (hs : h.srcIp.length = 4) (hd : h.dstIp.length = 4) :
    decode (h.encode ++ rest) = h := by
  obtain ⟨src, dst, id, part, total, len, pmtu⟩ := h
  simp only at hs hd
  obtain ⟨a, b, c, d, rfl⟩ := List.length_eq_four.1 hs
  obtain ⟨e, f, g, i, rfl⟩ := List.length_eq_four.1 hd
  simp [decode, encode, bytesAt, byteAt, be16]

end FragHeader

/-! ## Reassembly slots -/

/-- `sizeof(ReassemblySlot::buffer)`. -/
def slotBufferSize : Nat := relayMtu * 4

structure ReassemblySlot where
  used : Bool := false
  id : UInt16 := 0
  srcIp : Bytes := [0, 0, 0, 0]
  partMask : Nat := 0
  totalLen : Nat := 0
  buffer : ByteArr slotBufferSize := fun _ => 0

/-- `NUM_SLOTS`. -/
def numSlots : Nat := 4

/-- `m_slots` and `m_most_success_frag_id`. -/
structure Reassembler where
  slots : Fin numSlots → ReassemblySlot := fun _ => {}
  mostSuccessFragId : UInt16 := 0

namespace Reassembler

/-- The slot accumulates the group a header belongs to. -/
def isGroup (id : UInt16) (srcIp : Bytes) (s : ReassemblySlot) : Bool := s.used && s.id == id && s.srcIp == srcIp

/-- `abs((int)s.id - (int)m_most_success_frag_id)`. -/
def dist (r : Reassembler) (s : ReassemblySlot) : Nat := ((s.id.toNat : Int) - (r.mostSuccessFragId.toNat : Int)).natAbs

/-- One step of the eviction scan: the candidate and its distance, replaced by a used slot that is farther. -/
def evictStep (r : Reassembler) (best : Option (Fin numSlots) × Nat) (k : Fin numSlots) : Option (Fin numSlots) × Nat :=
  if (r.slots k).used && decide (best.2 < r.dist (r.slots k)) then (some k, r.dist (r.slots k)) else best

/-- The most stale slot and its distance. -/
def toEvict (r : Reassembler) : Option (Fin numSlots) × Nat := (List.finRange numSlots).foldl r.evictStep (none, 0)

/-- The slot a fragment goes to, and whether it already holds the fragment's group: the group's own slot, a free one,
or the most stale one when it drifted more than 10 ids from the last completed group. -/
def pickSlot (r : Reassembler) (id : UInt16) (srcIp : Bytes) : Option (Fin numSlots × Bool) :=
  match SlotTable.first (isGroup id srcIp) r.slots with
  | some k => some (k, true)
  | none =>
    match SlotTable.first (fun s => !s.used) r.slots with
    | some k => some (k, false)
    | none =>
      match r.toEvict with
      | (some k, maxDist) => if 10 < maxDist then some (k, false) else none
      | (none, _) => none

end Reassembler

namespace ReassemblySlot

/-- A fresh claim resets everything but the buffer's bytes. -/
def claim (s : ReassemblySlot) (id : UInt16) (srcIp : Bytes) : ReassemblySlot :=
  { s with used := true, id := id, partMask := 0, totalLen := 0, srcIp := srcIp }

def release (s : ReassemblySlot) : ReassemblySlot := { s with used := false }

/-- The mask of a complete group of `total` parts. -/
def expectedMask (total : Nat) : Nat := if 32 ≤ total then 0xFFFFFFFF else 2 ^ total - 1

/-- Copy one part in and mark it; the last part fixes the length. -/
def accept (s : ReassemblySlot) (hdr : FragHeader) (chunk : Bytes) : ReassemblySlot :=
  { s with
    buffer := s.buffer.write (hdr.part.toNat * hdr.pmtu.toNat) (chunk.take hdr.len.toNat)
    partMask := s.partMask ||| 2 ^ hdr.part.toNat
    totalLen :=
      if hdr.part.toNat + 1 = hdr.totalPart.toNat then
        (hdr.totalPart.toNat - 1) * hdr.pmtu.toNat + hdr.len.toNat
      else s.totalLen }

def isComplete (s : ReassemblySlot) (total : Nat) : Bool := s.partMask == expectedMask total && decide (0 < s.totalLen)

/-- The first `totalLen` bytes, once they are known to fit the caller's buffer. -/
def packet (s : ReassemblySlot) (outBufSize : Nat) (h : s.totalLen ≤ outBufSize) : ByteBuf outBufSize :=
  ⟨s.buffer.read s.totalLen, by
    have : (s.buffer.read s.totalLen).length ≤ s.totalLen := List.length_take_le _ _
    omega⟩

/-- A part that fits no slot frees the slot; a completed group is delivered, or dropped when it outgrows the caller's
buffer, and frees it too. -/
def fill (s : ReassemblySlot) (hdr : FragHeader) (chunk : Bytes) (outBufSize : Nat) :
    ReassemblySlot × Option (ByteBuf outBufSize) :=
  if 32 ≤ hdr.part.toNat ∨ slotBufferSize < hdr.part.toNat * hdr.pmtu.toNat + hdr.len.toNat then (s.release, none)
  else
    let s' := s.accept hdr chunk
    if s'.isComplete hdr.totalPart.toNat then
      if h : s'.totalLen ≤ outBufSize then (s'.release, some (s'.packet outBufSize h)) else (s'.release, none)
    else (s', none)

end ReassemblySlot

namespace Reassembler

/-- `ReassembleFrag`: one fragment, without its type byte. -/
def reassembleFrag (r : Reassembler) (data : Bytes) (outBufSize : Nat) :
    Reassembler × Option (ByteBuf outBufSize) :=
  if data.length < fragHeaderSize then (r, none)
  else
    let hdr := FragHeader.decode data
    let chunk := data.drop fragHeaderSize
    if chunk.length < hdr.len.toNat then (r, none)
    else
      match r.pickSlot hdr.id hdr.srcIp with
      | none => (r, none)
      | some (k, isExistingGroup) =>
        let slot := if isExistingGroup then r.slots k else (r.slots k).claim hdr.id hdr.srcIp
        let (slot', out) := slot.fill hdr chunk outBufSize
        ({ slots := Function.update r.slots k slot'
           mostSuccessFragId := if out.isSome then hdr.id else r.mostSuccessFragId }, out)

end Reassembler

/-! ## The bridge -/

/-- `sizeof(Packet::data)`, also the size of the pump loop's buffer. -/
def packetCap : Nat := 20 + 8 + relayMtu

/-- `QueueSize`. -/
def queueSize : Nat := 64

structure RelayBridge where
  connected : Bool
  nextFragId : UInt16
  reassembler : Reassembler
  queue : RingQueue queueSize (ByteBuf packetCap)

namespace RelayBridge

/-- The bridge as constructed. -/
def init : RelayBridge where
  connected := false
  nextFragId := 0
  reassembler := {}
  queue := RingQueue.ofCells (fun _ => ByteBuf.empty) (by decide)

/-- `Connect` once the socket is made and the host's name resolved. -/
def connect (b : RelayBridge) : RelayBridge := { b with connected := true }

/-- `Close` empties the queue; the reassembly slots and the ids go on. -/
def close (b : RelayBridge) : RelayBridge := { b with queue := b.queue.clear, connected := false }

/-- What a sending call leaves: the bridge, the frames that reached the socket, and the value returned. -/
structure Sent where
  bridge : RelayBridge
  frames : List Bytes
  ret : Int

def sendRaw (b : RelayBridge) (ok : Bool) (frame : Bytes) : Int :=
  if !b.connected then -1 else if ok then frame.length else -1

/-- `RELAY_MTU - sizeof(FragHeader)`. -/
def fragChunk : Nat := relayMtu - fragHeaderSize

def totalParts (packet : Bytes) : Nat := (packet.length + fragChunk - 1) / fragChunk

/-- The bytes of one part.  Every part before the last is a full chunk, so `pos` is `part * chunk`. -/
def partBytes (packet : Bytes) (part : Nat) : Bytes :=
  let pos := part * fragChunk
  bytesAt packet pos (if packet.length - pos < fragChunk then packet.length - pos else fragChunk)

def fragHeader (packet : Bytes) (id : UInt16) (part : Nat) : FragHeader where
  srcIp := bytesAt packet 12 4
  dstIp := bytesAt packet 16 4
  id := id
  part := UInt8.ofNat part
  totalPart := UInt8.ofNat (totalParts packet)
  len := UInt16.ofNat (partBytes packet part).length
  pmtu := UInt16.ofNat fragChunk

/-- One fragment, as it follows the type byte. -/
def fragment (packet : Bytes) (id : UInt16) (part : Nat) : Bytes :=
  (fragHeader packet id part).encode ++ partBytes packet part

def fragFrame (packet : Bytes) (id : UInt16) (part : Nat) : Bytes :=
  RelayFrameType.ipv4Frag.code :: fragment packet id part

/-- The sending loop: it stops at the first part the socket refuses. -/
def sendParts (b : RelayBridge) (sendto : Nat → Bool) (packet : Bytes) (id : UInt16) : List Nat → List Bytes × Int
  | [] => ([], packet.length)
  | part :: rest =>
    let rc := b.sendRaw (sendto part) (fragFrame packet id part)
    if rc < 0 then ([], rc)
    else
      let (frames, ret) := sendParts b sendto packet id rest
      (fragFrame packet id part :: frames, ret)

def sendFragmented (b : RelayBridge) (sendto : Nat → Bool) (packet : Bytes) : Sent :=
  if 0xFF < totalParts packet then ⟨b, [], -1⟩
  else
    let (frames, ret) := b.sendParts sendto packet b.nextFragId (List.range (totalParts packet))
    ⟨{ b with nextFragId := b.nextFragId + 1 }, frames, ret⟩

def sendIpv4 (b : RelayBridge) (sendto : Nat → Bool) (packet : Bytes) : Sent :=
  if !b.connected then ⟨b, [], -1⟩
  else if packet.length ≤ relayMtu then
    let frame := RelayFrameType.ipv4.code :: packet
    let rc := b.sendRaw (sendto 0) frame
    ⟨b, if rc < 0 then [] else [frame], rc⟩
  else b.sendFragmented sendto packet

/-- The results 1, 0 and -1 of `RecvIpv4`. -/
inductive Received (outBufSize : Nat) where
  | packet (p : ByteBuf outBufSize)
  | handled
  | noData

/-- `RecvIpv4` on the datagram `recvfrom` returns, cut to the frame buffer. -/
def recvIpv4 (b : RelayBridge) (datagram : Bytes) (outBufSize : Nat) : RelayBridge × Received outBufSize :=
  let raw := datagram.take (1 + relayMtu + fragHeaderSize)
  match raw with
  | [] => (b, .noData)
  | tag :: body =>
    match RelayFrameType.ofByte? (tag &&& 0x7F) with
    | some .ipv4 => if h : body.length ≤ outBufSize then (b, .packet ⟨body, h⟩) else (b, .noData)
    | some .ipv4Frag =>
      if raw.length < 1 + fragHeaderSize then (b, .handled)
      else
        let (r, out) := b.reassembler.reassembleFrag body outBufSize
        ({ b with reassembler := r }, match out with | some p => .packet p | none => .handled)
    | _ => (b, .handled)

/-- One turn of the pump loop: a packet that finds the queue full is dropped. -/
def pump (b : RelayBridge) (datagram : Bytes) : RelayBridge :=
  match b.recvIpv4 datagram packetCap with
  | (b', .packet p) => { b' with queue := b'.queue.push p }
  | (b', _) => b'

/-- The pump thread over the datagrams that arrive. -/
def pumpAll (b : RelayBridge) (arrivals : List Bytes) : RelayBridge := arrivals.foldl pump b

/-- `PopIpv4`: a packet that outgrows the caller's buffer is dropped and nothing returned. -/
def popIpv4 (b : RelayBridge) (outBufSize : Nat) : RelayBridge × Option Bytes :=
  match b.queue.front? with
  | none => (b, none)
  | some p =>
    ({ b with queue := b.queue.pop }, if outBufSize < p.size then none else some p.bytes)

/-- `while (PopIpv4(...) == 1)`: at most as many turns as packets are queued. -/
def popWhile (outBufSize : Nat) : Nat → RelayBridge → RelayBridge × List Bytes
  | 0, b => (b, [])
  | n + 1, b =>
    match b.popIpv4 outBufSize with
    | (b', none) => (b', [])
    | (b', some p) =>
      let (b'', ps) := popWhile outBufSize n b'
      (b'', p :: ps)

def popAll (b : RelayBridge) (outBufSize : Nat) : RelayBridge × List Bytes := popWhile outBufSize b.queue.count b

end RelayBridge

end Slp
