import SwitchLanPlay.Packets
import SwitchLanPlay.SlotTable
/-!
# VTcp — the virtual TCP state (source/bsd/bsd_bridge_service.{hpp,cpp})

`g_vtcp_conns`, `g_pending_accepts`, `g_tcp_listen_fd` and `g_next_synthetic_fd` are one record, `VTcp`, shared by all
instances.  `own` is the test `this == g_active_ldn_instance` that guards each of its look-ups.  A segment handed to
`SendTcpSegment` is an output; whether the relay carries it is the network's business.

`VTcp.step` is one call of the owning instance, or of the drain thread on it.
-/
namespace Slp

open Wire

structure VTcpConn where
  used : Bool := false
  fd : Int := -1
  established : Bool := false
  synSentAwaitingSynack : Bool := false
  peerIp : UInt32 := 0
  peerPort : UInt16 := 0
  ourIsn : UInt32 := 0
  ourSeq : UInt32 := 0
  theirSeq : UInt32 := 0
  inbox : ByteBuf vtcpInboxCap := ByteBuf.empty
  peerClosed : Bool := false
  hasUnackedData : Bool := false
  unackedData : ByteBuf vtcpInboxCap := ByteBuf.empty
  unackedSeq : UInt32 := 0
  lastSendTickMs : UInt64 := 0
  retransmitCount : Nat := 0

structure PendingAccept where
  used : Bool := false
  peerIp : UInt32 := 0
  peerPort : UInt16 := 0
  ourIsn : UInt32 := 0
  theirIsn : UInt32 := 0
  gotFinalAck : Bool := false

/-- The length of a byte string as a distance in sequence numbers, `static_cast<u32>(len)`. -/
def seqLen (b : Bytes) : UInt32 := UInt32.ofNat b.length

namespace TcpSegment

def isSyn (m : TcpSegment) : Bool := m.flags &&& TCP_SYN != 0
def isAck (m : TcpSegment) : Bool := m.flags &&& TCP_ACK != 0
def isFin (m : TcpSegment) : Bool := m.flags &&& TCP_FIN != 0
def isRst (m : TcpSegment) : Bool := m.flags &&& TCP_RST != 0

/-- The segment is a connection request. -/
structure BareSyn (m : TcpSegment) : Prop where
  syn : m.isSyn = true
  no_ack : m.isAck = false
  no_rst : m.isRst = false

/-- The segment is neither RST nor SYN nor FIN and acknowledges something. -/
structure PlainAck (m : TcpSegment) : Prop where
  no_rst : m.isRst = false
  no_syn : m.isSyn = false
  no_fin : m.isFin = false
  ack : m.isAck = true

/-- The segment answered to `m`: back to its source, without payload. -/
def reply (m : TcpSegment) (localIp : UInt32) (seq ack : UInt32) (flags : UInt8) : Segment where
  srcIp := localIp
  dstIp := m.srcIp
  srcPort := ldnControlPort
  dstPort := m.srcPort
  seq := seq
  ack := ack
  flags := flags

end TcpSegment

/-! ## One connection -/

namespace VTcpConn

/-- A segment to the connection's peer. -/
def segment (c : VTcpConn) (localIp : UInt32) (seq : UInt32) (flags : UInt8) (payload : Bytes) : Segment where
  srcIp := localIp
  dstIp := c.peerIp
  srcPort := ldnControlPort
  dstPort := c.peerPort
  seq := seq
  ack := c.theirSeq
  flags := flags
  payload := payload

def handleRst (c : VTcpConn) : VTcpConn := { c with peerClosed := true }

/-- The SYN-ACK completes the handshake of a connection that waits for it. -/
def handleSynAck (c : VTcpConn) (localIp : UInt32) (m : TcpSegment) : VTcpConn × List Segment :=
  if c.synSentAwaitingSynack && m.ack == c.ourIsn + 1 then
    ({ c with
        theirSeq := m.seq + 1
        ourSeq := c.ourIsn + 1
        synSentAwaitingSynack := false
        established := true },
      [m.reply localIp (c.ourIsn + 1) (m.seq + 1) TCP_ACK])
  else (c, [])

/-- The FIN branch looks at neither the sequence number nor the payload. -/
def handleFin (c : VTcpConn) (localIp : UInt32) (m : TcpSegment) : VTcpConn × List Segment :=
  ({ c with peerClosed := true, theirSeq := m.seq + 1 }, [m.reply localIp c.ourSeq (m.seq + 1) TCP_ACK])

/-- The acknowledgement of exactly the pending segment stops its retransmission. -/
def handleAckNumber (c : VTcpConn) (ack : UInt32) : VTcpConn :=
  if c.hasUnackedData && ack == c.unackedSeq + seqLen c.unackedData.bytes then { c with hasUnackedData := false } else c

/-- A payload is appended to the inbox and acknowledged when it is the next one and fits. -/
def handleData (c : VTcpConn) (localIp : UInt32) (m : TcpSegment) : VTcpConn × List Segment :=
  if !c.established || m.payload.length == 0 then (c, [])
  else if m.seq ≠ c.theirSeq then (c, [])
  else if vtcpInboxCap < m.payload.length then (c, [])
  else if h : c.inbox.size + m.payload.length ≤ vtcpInboxCap then
    ({ c with inbox := c.inbox.append m.payload h, theirSeq := c.theirSeq + seqLen m.payload },
      [m.reply localIp c.ourSeq (c.theirSeq + seqLen m.payload) TCP_ACK])
  else (c, [])

/-- The branches of `HandleTcpSegment` that end in a connection, for a segment without SYN and RST. -/
def handleAck (c : VTcpConn) (localIp : UInt32) (m : TcpSegment) : VTcpConn × List Segment :=
  (c.handleAckNumber m.ack).handleData localIp m

/-- The branches of `HandleTcpSegment` as they act on the connection of the segment's source. -/
def receive (c : VTcpConn) (localIp : UInt32) (m : TcpSegment) : VTcpConn × List Segment :=
  if m.isRst then (c.handleRst, [])
  else if m.isSyn && !m.isAck then (c, [])
  else if m.isSyn && m.isAck then c.handleSynAck localIp m
  else if m.isFin then c.handleFin localIp m
  else if !m.isAck then (c, [])
  else c.handleAck localIp m

/-- **A connection answers a segment with acknowledgements of it.** -/
theorem reply_of_receive {c : VTcpConn} {localIp : UInt32} {m : TcpSegment} {s : Segment}
    (hs : s ∈ (c.receive localIp m).2) : ∃ seq ack, s = m.reply localIp seq ack TCP_ACK := by
  unfold receive at hs
  split at hs
  · cases hs
  split at hs
  · cases hs
  split at hs
  · unfold handleSynAck at hs
    split at hs
    · exact ⟨_, _, List.mem_singleton.1 hs⟩
    · cases hs
  split at hs
  · exact ⟨_, _, List.mem_singleton.1 hs⟩
  split at hs
  · cases hs
  · unfold handleAck handleData at hs
    split at hs
    · cases hs
    split at hs
    · cases hs
    split at hs
    · cases hs
    split at hs
    · exact ⟨_, _, List.mem_singleton.1 hs⟩
    · cases hs

/-- **A connection answers its segment's source.** -/
theorem dstIp_of_receive (c : VTcpConn) (localIp : UInt32) (m : TcpSegment) :
    ∀ s ∈ (c.receive localIp m).2, s.dstIp = m.srcIp := by
  intro s hs
  obtain ⟨seq, ack, rfl⟩ := reply_of_receive hs
  rfl

def dataRetransmitIntervalMs : UInt64 := 100
def maxDataRetransmits : Nat := 6

/-- One turn of `CheckDataRetransmits`. -/
def checkDataRetransmit (c : VTcpConn) (localIp : UInt32) (now : UInt64) : VTcpConn × List Segment :=
  if !c.used || !c.established || !c.hasUnackedData then (c, [])
  else if now - c.lastSendTickMs < dataRetransmitIntervalMs then (c, [])
  else if maxDataRetransmits ≤ c.retransmitCount then ({ c with hasUnackedData := false }, [])
  else
    ({ c with retransmitCount := c.retransmitCount + 1, lastSendTickMs := now },
      [c.segment localIp c.unackedSeq (TCP_PSH ||| TCP_ACK) c.unackedData.bytes])

/-- What `SendTo` sees of the relay: `EnsureRelayConnected`, whether `SendIpv4` succeeds, and the clock. -/
structure RelaySend where
  connected : Bool
  ok : Bool
  now : UInt64

/-- The TCP branch of `SendTo`, with its return value and errno. -/
def sendTo (c : VTcpConn) (localIp : UInt32) (relay : RelaySend) (buf : Bytes) :
    VTcpConn × List Segment × Int × Errno :=
  if !c.established || !relay.connected then (c, [], -1, Errno.EIO)
  else if h : buf.length ≤ vtcpInboxCap then
    if relay.ok then
      ({ c with
          hasUnackedData := true
          unackedData := ⟨buf, h⟩
          unackedSeq := c.ourSeq
          lastSendTickMs := relay.now
          retransmitCount := 0
          ourSeq := c.ourSeq + seqLen buf },
        [c.segment localIp c.ourSeq (TCP_PSH ||| TCP_ACK) buf], buf.length, .none)
    else (c, [], -1, Errno.EIO)
  else (c, [], -1, .EMSGSIZE)

/-- The TCP branch of `RecvFrom`. -/
def recvFrom (c : VTcpConn) (bufSize addrSize : Nat) : VTcpConn × RecvFromOut :=
  if c.inbox.size = 0 then
    (c, if c.peerClosed then { ret := 0, errno := .none } else .wouldBlock)
  else
    ({ c with inbox := c.inbox.drop bufSize },
      .delivered c.inbox.bytes c.peerIp c.peerPort bufSize addrSize)

/-- The TCP branch of `Close`: a FIN if the handshake was done, and the slot is cleared. -/
def close (c : VTcpConn) (localIp : UInt32) : List Segment :=
  if c.established then [c.segment localIp c.ourSeq (TCP_FIN ||| TCP_ACK) []] else []

/-- The fields by which a connection is looked up. -/
structure SameKeys (c c' : VTcpConn) : Prop where
  used : c'.used = c.used
  fd : c'.fd = c.fd
  peerIp : c'.peerIp = c.peerIp

section Keys

variable (c : VTcpConn) (localIp : UInt32)

theorem handleAck_sameKeys (m : TcpSegment) : SameKeys c (c.handleAck localIp m).1 := by
  have hack : SameKeys c (c.handleAckNumber m.ack) := by
    unfold handleAckNumber
    split <;> exact ⟨rfl, rfl, rfl⟩
  unfold handleAck handleData
  split
  · exact hack
  split
  · exact hack
  split
  · exact hack
  split
  · exact ⟨hack.used, hack.fd, hack.peerIp⟩
  · exact hack

/-- **No segment changes whose connection a slot holds.** -/
theorem receive_sameKeys (m : TcpSegment) : SameKeys c (c.receive localIp m).1 := by
  unfold receive
  split
  · exact ⟨rfl, rfl, rfl⟩
  split
  · exact ⟨rfl, rfl, rfl⟩
  split
  · unfold handleSynAck
    split <;> exact ⟨rfl, rfl, rfl⟩
  split
  · exact ⟨rfl, rfl, rfl⟩
  split
  · exact ⟨rfl, rfl, rfl⟩
  · exact handleAck_sameKeys c localIp m

theorem checkDataRetransmit_sameKeys (now : UInt64) : SameKeys c (c.checkDataRetransmit localIp now).1 := by
  unfold checkDataRetransmit
  split
  · exact ⟨rfl, rfl, rfl⟩
  split
  · exact ⟨rfl, rfl, rfl⟩
  split <;> exact ⟨rfl, rfl, rfl⟩

theorem sendTo_sameKeys (relay : RelaySend) (buf : Bytes) : SameKeys c (c.sendTo localIp relay buf).1 := by
  unfold sendTo
  split
  · exact ⟨rfl, rfl, rfl⟩
  split
  · split <;> exact ⟨rfl, rfl, rfl⟩
  · exact ⟨rfl, rfl, rfl⟩

theorem recvFrom_sameKeys (bufSize addrSize : Nat) : SameKeys c (c.recvFrom bufSize addrSize).1 := by
  unfold recvFrom
  split <;> exact ⟨rfl, rfl, rfl⟩

end Keys

end VTcpConn

/-! ## The table -/

def maxVTcpConns : Nat := 9
def maxPendingAccepts : Nat := 8

structure VTcp where
  conns : Fin maxVTcpConns → VTcpConn := fun _ => {}
  tcpListenFd : Int := -1
  pendingAccepts : Fin maxPendingAccepts → PendingAccept := fun _ => {}
  nextSyntheticFd : Int := 1000

namespace VTcp

def findVTcpConnByFd (t : VTcp) (own : Bool) (fd : Int) : Option (Fin maxVTcpConns) :=
  if own then SlotTable.first (fun c => c.used && c.fd == fd) t.conns else none

def findVTcpConnByPeer (t : VTcp) (own : Bool) (peerIp : UInt32) : Option (Fin maxVTcpConns) :=
  if own then SlotTable.first (fun c => c.used && c.peerIp == peerIp) t.conns else none

/-- The slot `AllocVTcpConn` resets and marks used. -/
def allocVTcpConn (t : VTcp) (own : Bool) : Option (Fin maxVTcpConns) :=
  if own then SlotTable.first (fun c => !c.used) t.conns else none

def isOwnTcpListenFd (t : VTcp) (own : Bool) (fd : Int) : Bool := own && fd == t.tcpListenFd

def setConn (t : VTcp) (k : Fin maxVTcpConns) (c : VTcpConn) : VTcp := { t with conns := Function.update t.conns k c }

def setPending (t : VTcp) (k : Fin maxPendingAccepts) (p : PendingAccept) : VTcp :=
  { t with pendingAccepts := Function.update t.pendingAccepts k p }

/-- Run one branch of `HandleTcpSegment` on the connection it found, if any. -/
def onConn (t : VTcp) (found : Option (Fin maxVTcpConns)) (f : VTcpConn → VTcpConn × List Segment) :
    VTcp × List Segment :=
  match found with
  | none => (t, [])
  | some k => (t.setConn k (f (t.conns k)).1, (f (t.conns k)).2)

/-- The entry a connection request from `m` leaves. -/
def pendingOf (m : TcpSegment) (ourIsn : UInt32) : PendingAccept where
  used := true
  peerIp := m.srcIp
  peerPort := m.srcPort
  ourIsn := ourIsn
  theirIsn := m.seq
  gotFinalAck := false

/-- The bare-SYN branch: `ourIsn` is the random initial sequence number. -/
def handleSyn (t : VTcp) (found : Option (Fin maxVTcpConns)) (localIp ourIsn : UInt32) (m : TcpSegment) :
    VTcp × List Segment :=
  if found.isSome then (t, [])
  else if (SlotTable.first (fun p => p.used && p.peerIp == m.srcIp) t.pendingAccepts).isSome then (t, [])
  else
    match SlotTable.first (fun p => !p.used) t.pendingAccepts with
    | none => (t, [])
    | some k =>
      (t.setPending k (pendingOf m ourIsn), [m.reply localIp ourIsn (m.seq + 1) (TCP_SYN ||| TCP_ACK)])

/-- A pending accept this segment acknowledges for the first time. -/
def awaitsFinalAck (m : TcpSegment) (p : PendingAccept) : Bool :=
  p.used && p.peerIp == m.srcIp && !p.gotFinalAck && m.ack == p.ourIsn + 1

/-- `HandleTcpSegment` on a parsed segment. -/
def handleTcpSegment (t : VTcp) (own : Bool) (localIp ourIsn : UInt32) (m : TcpSegment) : VTcp × List Segment :=
  let c := t.findVTcpConnByPeer own m.srcIp
  if m.isRst then t.onConn c (fun c => (c.handleRst, []))
  else if m.isSyn && !m.isAck then t.handleSyn c localIp ourIsn m
  else if m.isSyn && m.isAck then t.onConn c (·.handleSynAck localIp m)
  else if m.isFin then t.onConn c (·.handleFin localIp m)
  else if !m.isAck then (t, [])
  else
    match SlotTable.first (awaitsFinalAck m) t.pendingAccepts with
    | some k => (t.setPending k { t.pendingAccepts k with gotFinalAck := true }, [])
    | none => t.onConn c (·.handleAck localIp m)

def checkDataRetransmits (t : VTcp) (localIp : UInt32) (now : UInt64) : VTcp × List Segment :=
  ({ t with conns := fun k => ((t.conns k).checkDataRetransmit localIp now).1 },
    (List.finRange maxVTcpConns).flatMap (fun k => ((t.conns k).checkDataRetransmit localIp now).2))

/-- The connection a pending accept becomes. -/
def acceptedConn (p : PendingAccept) (fd : Int) : VTcpConn :=
  { used := true
    fd := fd
    established := true
    peerIp := p.peerIp
    peerPort := p.peerPort
    ourSeq := p.ourIsn + 1
    theirSeq := p.theirIsn + 1 }

/-- `Accept` on the instance's own listener: the first acknowledged request and the first free slot. -/
def accept (t : VTcp) (own : Bool) : Option (VTcp × Int) :=
  match SlotTable.first (fun p => p.used && p.gotFinalAck) t.pendingAccepts, t.allocVTcpConn own with
  | some p, some k =>
    some ({ (t.setPending p { t.pendingAccepts p with used := false }).setConn k
              (acceptedConn (t.pendingAccepts p) t.nextSyntheticFd) with
            nextSyntheticFd := t.nextSyntheticFd + 1 }, t.nextSyntheticFd)
  | _, _ => none

/-- The connection of a `Connect` that has sent its SYN. -/
def connectingConn (fd : Int) (dstIp : UInt32) (dstPort : UInt16) (ourIsn : UInt32) : VTcpConn :=
  { used := true, fd := fd, peerIp := dstIp, peerPort := dstPort, ourIsn := ourIsn, synSentAwaitingSynack := true }

/-- The SYN of a `Connect`; the retries send the same segment again. -/
def synSegment (localIp dstIp : UInt32) (dstPort : UInt16) (ourIsn : UInt32) : Segment where
  srcIp := localIp
  dstIp := dstIp
  srcPort := ldnControlPort
  dstPort := dstPort
  seq := ourIsn
  ack := 0
  flags := TCP_SYN

/-- `Connect` up to its first SYN, or nothing when no slot is free (ENOBUFS). -/
def connect (t : VTcp) (own : Bool) (localIp : UInt32) (fd : Int) (dstIp : UInt32) (dstPort : UInt16)
    (ourIsn : UInt32) : Option (VTcp × Segment) :=
  (t.allocVTcpConn own).map (fun k =>
    (t.setConn k (connectingConn fd dstIp dstPort ourIsn), synSegment localIp dstIp dstPort ourIsn))

/-- `Connect` after its last attempt (ETIMEDOUT). -/
def connectTimedOut (t : VTcp) (own : Bool) (fd : Int) : VTcp :=
  match t.findVTcpConnByFd own fd with
  | none => t
  | some k => t.setConn k {}

/-- `Close` on the connection of a descriptor, if any, and on the listener. -/
def close (t : VTcp) (own : Bool) (localIp : UInt32) (fd : Int) : VTcp × List Segment :=
  let (t', segs) := t.onConn (t.findVTcpConnByFd own fd) (fun c => ({}, c.close localIp))
  ({ t' with tcpListenFd := if t'.isOwnTcpListenFd own fd then -1 else t'.tcpListenFd }, segs)

/-! ## Calls of the owning instance -/

/-- A call that reaches the virtual TCP state, with what the environment contributes to it. -/
inductive Op where
  | segment (ourIsn : UInt32) (m : TcpSegment)
  | checkDataRetransmits (now : UInt64)
  | sendTo (fd : Int) (relay : VTcpConn.RelaySend) (buf : Bytes)
  | recvFrom (fd : Int) (bufSize addrSize : Nat)
  | listen (fd : Int)
  | accept
  | connect (fd : Int) (dstIp : UInt32) (dstPort : UInt16) (ourIsn : UInt32)
  | connectTimedOut (fd : Int)
  | close (fd : Int)

/-- What a call shows: the segments handed to `SendTcpSegment`, the bytes `SendTo` accepted and what `RecvFrom` answered
on a connection, with the connection's peer. -/
structure Out where
  segs : List Segment := []
  sent : Option (UInt32 × Bytes) := none
  received : Option (UInt32 × RecvFromOut) := none

def sendToStep (t : VTcp) (localIp : UInt32) (fd : Int) (relay : VTcpConn.RelaySend) (buf : Bytes) : VTcp × Out :=
  match t.findVTcpConnByFd true fd with
  | none => (t, {})
  | some k =>
    let (c, segs, ret, _) := (t.conns k).sendTo localIp relay buf
    (t.setConn k c, { segs := segs, sent := if 0 ≤ ret then some ((t.conns k).peerIp, buf) else none })

def recvFromStep (t : VTcp) (fd : Int) (bufSize addrSize : Nat) : VTcp × Out :=
  match t.findVTcpConnByFd true fd with
  | none => (t, {})
  | some k =>
    let (c, out) := (t.conns k).recvFrom bufSize addrSize
    (t.setConn k c, { received := some ((t.conns k).peerIp, out) })

def step (t : VTcp) (localIp : UInt32) : Op → VTcp × Out
  | .segment ourIsn m =>
    ((t.handleTcpSegment true localIp ourIsn m).1, { segs := (t.handleTcpSegment true localIp ourIsn m).2 })
  | .checkDataRetransmits now =>
    ((t.checkDataRetransmits localIp now).1, { segs := (t.checkDataRetransmits localIp now).2 })
  | .sendTo fd relay buf => t.sendToStep localIp fd relay buf
  | .recvFrom fd bufSize addrSize => t.recvFromStep fd bufSize addrSize
  | .listen fd => ({ t with tcpListenFd := fd }, {})
  | .accept => ((t.accept true).elim t (·.1), {})
  | .connect fd dstIp dstPort ourIsn =>
    match t.connect true localIp fd dstIp dstPort ourIsn with
    | none => (t, {})
    | some (t', syn) => (t', { segs := [syn] })
  | .connectTimedOut fd => (t.connectTimedOut true fd, {})
  | .close fd => ((t.close true localIp fd).1, { segs := (t.close true localIp fd).2 })

section Steps

variable {t : VTcp} {k : Fin maxVTcpConns} {fd : Int} (localIp : UInt32)

theorem step_sendTo_of_none (relay : VTcpConn.RelaySend) (buf : Bytes) (h : t.findVTcpConnByFd true fd = none) :
    t.step localIp (.sendTo fd relay buf) = (t, {}) := by
  show t.sendToStep localIp fd relay buf = _
  rw [sendToStep, h]

theorem step_sendTo_of_some (relay : VTcpConn.RelaySend) (buf : Bytes) (h : t.findVTcpConnByFd true fd = some k) :
    t.step localIp (.sendTo fd relay buf) = (t.setConn k ((t.conns k).sendTo localIp relay buf).1,
      { segs := ((t.conns k).sendTo localIp relay buf).2.1
        sent := if 0 ≤ ((t.conns k).sendTo localIp relay buf).2.2.1 then some ((t.conns k).peerIp, buf) else none }) := by
  show t.sendToStep localIp fd relay buf = _
  rw [sendToStep, h]

theorem step_recvFrom_of_none (bufSize addrSize : Nat) (h : t.findVTcpConnByFd true fd = none) :
    t.step localIp (.recvFrom fd bufSize addrSize) = (t, {}) := by
  show t.recvFromStep fd bufSize addrSize = _
  rw [recvFromStep, h]

theorem step_recvFrom_of_some (bufSize addrSize : Nat) (h : t.findVTcpConnByFd true fd = some k) :
    t.step localIp (.recvFrom fd bufSize addrSize) = (t.setConn k ((t.conns k).recvFrom bufSize addrSize).1,
      { received := some ((t.conns k).peerIp, ((t.conns k).recvFrom bufSize addrSize).2) }) := by
  show t.recvFromStep fd bufSize addrSize = _
  rw [recvFromStep, h]

end Steps

section Steps

variable {t : VTcp} {k : Fin maxVTcpConns} (localIp : UInt32) (fd : Int) (dstIp : UInt32) (dstPort : UInt16)
  (ourIsn : UInt32)

theorem step_connect : t.step localIp (.connect fd dstIp dstPort ourIsn) =
    match t.connect true localIp fd dstIp dstPort ourIsn with
    | none => (t, {})
    | some (t', syn) => (t', { segs := [syn] }) := rfl

theorem step_connect_of_none (h : t.allocVTcpConn true = none) :
    t.step localIp (.connect fd dstIp dstPort ourIsn) = (t, {}) := by
  rw [step_connect, connect, h, Option.map_none]

theorem step_connect_of_some (h : t.allocVTcpConn true = some k) :
    t.step localIp (.connect fd dstIp dstPort ourIsn) = (t.setConn k (connectingConn fd dstIp dstPort ourIsn),
      { segs := [synSegment localIp dstIp dstPort ourIsn] }) := by
  rw [step_connect, connect, h, Option.map_some]

end Steps

/-- A run of calls from a state, with what each shows. -/
def run (localIp : UInt32) : VTcp → List Op → VTcp × List Out
  | t, [] => (t, [])
  | t, op :: ops =>
    let (t', out) := t.step localIp op
    let (t'', outs) := run localIp t' ops
    (t'', out :: outs)

/-! ## What a segment can do -/

/-- The outcomes of `HandleTcpSegment`: nothing, a new pending entry, a pending entry acknowledged, or the connection's own
branch. -/
inductive Handled (t : VTcp) (localIp ourIsn : UInt32) (m : TcpSegment) : VTcp × List Segment → Prop
  | dropped : Handled t localIp ourIsn m (t, [])
  | requested (k : Fin maxPendingAccepts) (hsyn : m.BareSyn) (hconn : t.findVTcpConnByPeer true m.srcIp = none)
      (hnew : SlotTable.first (fun p => p.used && p.peerIp == m.srcIp) t.pendingAccepts = none)
      (hfree : (t.pendingAccepts k).used = false) :
      Handled t localIp ourIsn m
        (t.setPending k (pendingOf m ourIsn), [m.reply localIp ourIsn (m.seq + 1) (TCP_SYN ||| TCP_ACK)])
  | acknowledged (k : Fin maxPendingAccepts) (hack : m.PlainAck) (hk : awaitsFinalAck m (t.pendingAccepts k) = true) :
      Handled t localIp ourIsn m (t.setPending k { t.pendingAccepts k with gotFinalAck := true }, [])
  | received (k : Fin maxVTcpConns) (hk : t.findVTcpConnByPeer true m.srcIp = some k) :
      Handled t localIp ourIsn m
        (t.setConn k ((t.conns k).receive localIp m).1, ((t.conns k).receive localIp m).2)

theorem handled_onConn {t : VTcp} {localIp ourIsn : UInt32} {m : TcpSegment} {f : VTcpConn → VTcpConn × List Segment}
    (hf : ∀ c, f c = c.receive localIp m) :
    Handled t localIp ourIsn m (t.onConn (t.findVTcpConnByPeer true m.srcIp) f) := by
  cases hc : t.findVTcpConnByPeer true m.srcIp with
  | none => exact .dropped
  | some k =>
    rw [onConn, hf]
    exact .received k hc

theorem handled_handleSyn {t : VTcp} {localIp ourIsn : UInt32} {m : TcpSegment} (hsyn : m.BareSyn) :
    Handled t localIp ourIsn m (t.handleSyn (t.findVTcpConnByPeer true m.srcIp) localIp ourIsn m) := by
  unfold handleSyn
  cases hc : t.findVTcpConnByPeer true m.srcIp with
  | some k => exact .dropped
  | none =>
    cases hp : SlotTable.first (fun p => p.used && p.peerIp == m.srcIp) t.pendingAccepts with
    | some k => exact .dropped
    | none =>
      cases hf : SlotTable.first (fun p => !p.used) t.pendingAccepts with
      | none => exact .dropped
      | some k => exact .requested k hsyn hc hp (by simpa using SlotTable.apply_of_first hf)

theorem Handled.nextSyntheticFd {t : VTcp} {localIp ourIsn : UInt32} {m : TcpSegment} {r : VTcp × List Segment}
    (h : t.Handled localIp ourIsn m r) : r.1.nextSyntheticFd = t.nextSyntheticFd := by
  cases h <;> rfl

/-- **Every segment has one of these outcomes.** -/
theorem handleTcpSegment_cases (t : VTcp) (localIp ourIsn : UInt32) (m : TcpSegment) :
    Handled t localIp ourIsn m (t.handleTcpSegment true localIp ourIsn m) := by
  unfold handleTcpSegment
  by_cases hrst : m.isRst = true
  · rw [if_pos hrst]
    exact handled_onConn (fun c => by simp [VTcpConn.receive, hrst])
  rw [if_neg hrst]
  by_cases hsyn : m.isSyn = true
  · by_cases hack : m.isAck = true
    · rw [if_neg (by simp [hack]), if_pos (by simp [hsyn, hack])]
      exact handled_onConn (fun c => by simp [VTcpConn.receive, hrst, hsyn, hack])
    · rw [if_pos (by simp [hsyn, hack])]
      exact handled_handleSyn ⟨hsyn, by simpa using hack, by simpa using hrst⟩
  rw [if_neg (by simp [hsyn]), if_neg (by simp [hsyn])]
  by_cases hfin : m.isFin = true
  · rw [if_pos hfin]
    exact handled_onConn (fun c => by simp [VTcpConn.receive, hrst, hsyn, hfin])
  rw [if_neg hfin]
  by_cases hack : m.isAck = true
  · rw [if_neg (by simp [hack])]
    cases hp : SlotTable.first (awaitsFinalAck m) t.pendingAccepts with
    | some k =>
      exact .acknowledged k ⟨by simpa using hrst, by simpa using hsyn, by simpa using hfin, hack⟩
        (SlotTable.apply_of_first hp)
    | none => exact handled_onConn (fun c => by simp [VTcpConn.receive, hrst, hsyn, hfin, hack])
  · rw [if_pos (by simpa using hack)]
    exact .dropped

end VTcp

end Slp
