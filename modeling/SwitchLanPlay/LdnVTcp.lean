import SwitchLanPlay.Runs
import SwitchLanPlay.VTcpEndpoint
/-!
# LdnVTcp — the tools' virtual TCP endpoint beside the bridge's (VTcp in tools/slp_ldn.py)

The endpoint keeps one state, the bridge a pending entry and a connection with flags of its own.  They are fed the same
segments of one peer, draw the same initial sequence numbers, and what arrives is accepted and read at once.  They show the
same segments and deliver the same bytes at every step of exactly the runs in which every step is `Mirrored`
(`mirrors_iff`): the endpoint answers every SYN and FIN and takes payloads of every size, and the bridge does not; the bridge
goes on after an RST or a FIN, and the endpoint does not; and only the endpoint takes its own sequence number from
acknowledgements.
-/
namespace Slp
namespace Ldn

open Wire

/-- `_seq_gt`. -/
def seqGt (a b : UInt32) : Bool := a - b < 0x80000000 && a != b

inductive VTcpState where
  | closed
  | synSent
  | synRcvd
  | established
deriving DecidableEq

/-- A VTcp of the node at `ip`, on the control port. -/
structure VTcp where
  ip : UInt32
  peerIp : UInt32
  peerPort : UInt16
  state : VTcpState := .closed
  ourIsn : UInt32 := 0
  ourSeq : UInt32 := 0
  theirSeq : UInt32 := 0
  inbox : List Bytes := []

namespace VTcp

/-- A segment to the peer without payload. -/
def segment (v : VTcp) (seq ack : UInt32) (flags : UInt8) : Segment where
  srcIp := v.ip
  dstIp := v.peerIp
  srcPort := ldnControlPort
  dstPort := v.peerPort
  seq := seq
  ack := ack
  flags := flags

/-- `connect` up to its SYN. -/
def connect (v : VTcp) (isn : UInt32) : VTcp × List Segment :=
  ({ v with ourIsn := isn, ourSeq := isn, state := .synSent }, [v.segment isn 0 TCP_SYN])

/-- The sequence number after the peer's acknowledgement. -/
def ackedSeq (v : VTcp) (ack : UInt32) : UInt32 := if seqGt ack v.ourSeq then ack else v.ourSeq

/-- What an established endpoint does with an acknowledgement and its payload. -/
def onAck (v : VTcp) (m : TcpSegment) : VTcp × List Segment :=
  let seq := v.ackedSeq m.ack
  if m.payload.length = 0 then ({ v with ourSeq := seq }, [])
  else if m.seq = v.theirSeq then
    ({ v with ourSeq := seq, inbox := v.inbox ++ [m.payload], theirSeq := v.theirSeq + seqLen m.payload },
      [v.segment seq (v.theirSeq + seqLen m.payload) TCP_ACK])
  else ({ v with ourSeq := seq }, [])

/-- `on_segment`, with the number it draws for an answer to a SYN. -/
def onSegment (v : VTcp) (isn : UInt32) (m : TcpSegment) : VTcp × List Segment :=
  if m.isRst then ({ v with state := .closed }, [])
  else if m.isSyn && !m.isAck then
    ({ v with ourIsn := isn, theirSeq := m.seq + 1, state := .synRcvd, ourSeq := isn + 1 },
      [v.segment isn (m.seq + 1) (TCP_SYN ||| TCP_ACK)])
  else if m.isSyn && m.isAck then
    if v.state = .synSent ∧ m.ack = v.ourIsn + 1 then
      ({ v with theirSeq := m.seq + 1, ourSeq := v.ourIsn + 1, state := .established },
        [v.segment (v.ourIsn + 1) (m.seq + 1) TCP_ACK])
    else (v, [])
  else if m.isFin then
    ({ v with theirSeq := m.seq + 1, state := .closed }, [v.segment v.ourSeq (m.seq + 1) TCP_ACK])
  else if !m.isAck then (v, [])
  else if v.state = .synRcvd ∧ m.ack = v.ourIsn + 1 then ({ v with state := .established }, [])
  else if v.state ≠ .established then (v, [])
  else v.onAck m

/-- `recv`: the oldest payload. -/
def recv (v : VTcp) : VTcp × Option Bytes :=
  match v.inbox with
  | [] => (v, none)
  | b :: rest => ({ v with inbox := rest }, some b)

end VTcp

/-! ## The two of them -/

/-- What one end shows of a segment: its answers, and the bytes that it delivers. -/
structure Shown where
  segs : List Segment
  delivered : Bytes
deriving DecidableEq

/-- A segment at the endpoint, and a read. -/
def VTcp.turn (v : VTcp) (isn : UInt32) (m : TcpSegment) : VTcp × Shown :=
  let r := v.onSegment isn m
  (r.1.recv.1, ⟨r.2, r.1.recv.2.getD []⟩)

/-- A segment at the bridge, an `Accept`, and a `RecvFrom` on the peer's connection into a buffer of an inbox's size. -/
def bridgeTurn (t : Slp.VTcp) (localIp isn : UInt32) (m : TcpSegment) : Slp.VTcp × Shown :=
  let r := t.handleTcpSegment true localIp isn m
  let t' := (r.1.accept true).elim r.1 (·.1)
  match t'.findVTcpConnByPeer true m.srcIp with
  | none => (t', ⟨r.2, []⟩)
  | some k =>
    let read := t'.recvFromStep (t'.conns k).fd vtcpInboxCap 0
    (read.1, ⟨r.2, read.2.received.elim [] (·.2.payload)⟩)

/-- The kinds of segments, in the order in which both ends tell them apart. -/
inductive SegmentKind where
  | rst
  | syn
  | synAck
  | fin
  | other
  | ack
deriving DecidableEq

def segmentKind (m : TcpSegment) : SegmentKind :=
  if m.isRst then .rst
  else if m.isSyn && !m.isAck then .syn
  else if m.isSyn && m.isAck then .synAck
  else if m.isFin then .fin
  else if !m.isAck then .other
  else .ack

/-- The endpoint and the bridge of one node. -/
structure Ends where
  tool : VTcp
  bridge : Slp.VTcp

/-- A segment of the peer, and the number that both draw if it is a SYN. -/
structure Incoming where
  seq : UInt32
  ack : UInt32
  flags : UInt8
  payload : Bytes := []
  isn : UInt32 := 0

namespace Ends

def segment (s : Ends) (i : Incoming) : TcpSegment where
  srcIp := s.tool.peerIp
  srcPort := s.tool.peerPort
  dstPort := ldnControlPort
  seq := i.seq
  ack := i.ack
  flags := i.flags
  payload := i.payload

def toolTurn (s : Ends) (i : Incoming) : VTcp × Shown := s.tool.turn i.isn (s.segment i)

def bridgeTurn (s : Ends) (i : Incoming) : Slp.VTcp × Shown := Ldn.bridgeTurn s.bridge s.tool.ip i.isn (s.segment i)

def step (s : Ends) (i : Incoming) : Ends := ⟨(s.toolTurn i).1, (s.bridgeTurn i).1⟩

def SameShown (s : Ends) (i : Incoming) : Prop := (s.toolTurn i).2 = (s.bridgeTurn i).2

instance (s : Ends) (i : Incoming) : Decidable (s.SameShown i) := by
  unfold SameShown
  infer_instance

/-- The peer's connection at the bridge, and its pending entry. -/
def peer (s : Ends) : Endpoint := s.bridge.endpoint s.tool.peerIp

/-- The payload is the next one of a connection of the bridge. -/
def Next (c : VTcpConn) (m : TcpSegment) : Prop := c.established = true ∧ m.seq = c.theirSeq ∧ m.payload ≠ []

/-- A SYN of a peer that the bridge does not know; a SYN-ACK that does not complete the handshake of the bridge alone; a FIN to
a connection whose sequence number is the endpoint's; a next payload that fits the bridge's inbox and that the endpoint takes
under the connection's sequence number, or that neither takes; and every other segment. -/
def Mirrored (s : Ends) (i : Incoming) : Prop :=
  match segmentKind (s.segment i) with
  | .rst => True
  | .syn => s.peer.conn = none ∧ s.peer.pending = none
  | .synAck => ∀ c ∈ s.peer.conn, c.synSentAwaitingSynack = true → i.ack = c.ourIsn + 1 → s.tool.state = .synSent
  | .fin => ∃ c ∈ s.peer.conn, c.ourSeq = s.tool.ourSeq
  | .other => True
  | .ack =>
    ∀ c ∈ s.peer.conn, Next c (s.segment i) →
      if i.payload.length ≤ vtcpInboxCap then s.tool.state = .established ∧ s.tool.ackedSeq i.ack = c.ourSeq
      else s.tool.state ≠ .established

/-- The table has no connection and no pending entry. -/
structure Vacant (t : Slp.VTcp) : Prop where
  conns : ∀ k, (t.conns k).used = false
  pending : ∀ k, (t.pendingAccepts k).used = false

/-- The two ends of a connection that is yet to come: in the server role, or in the client role after its SYN. -/
inductive Started : Ends → Prop
  | server (ip peerIp : UInt32) (peerPort : UInt16) {t : Slp.VTcp} (ht : Vacant t) :
      Started ⟨{ ip := ip, peerIp := peerIp, peerPort := peerPort }, t⟩
  | client (ip peerIp : UInt32) (peerPort : UInt16) (isn : UInt32) (fd : Int) {t t' : Slp.VTcp} {syn : Segment} (ht : Vacant t)
      (hconnect : t.connect true ip fd peerIp peerPort isn = some (t', syn)) :
      Started ⟨(VTcp.connect { ip := ip, peerIp := peerIp, peerPort := peerPort } isn).1, t'⟩

end Ends

/-! ## The bridge with one peer -/

def front : Fin maxVTcpConns := ⟨0, by decide⟩

def frontPending : Fin maxPendingAccepts := ⟨0, by decide⟩

/-- The slots of the bridge but for the first ones are free. -/
structure Front (t : Slp.VTcp) : Prop where
  conns : ∀ k, k ≠ front → (t.conns k).used = false
  pending : ∀ k, k ≠ frontPending → (t.pendingAccepts k).used = false

section Bridge

variable {t : Slp.VTcp} {m : TcpSegment} (localIp isn : UInt32)

theorem setConn_front (t : Slp.VTcp) (c : VTcpConn) : (t.setConn front c).conns front = c := by
  simp [Slp.VTcp.setConn]

theorem setPending_front (t : Slp.VTcp) (p : PendingAccept) :
    (t.setPending frontPending p).pendingAccepts frontPending = p := by simp [Slp.VTcp.setPending]

theorem Front.setConn (hf : Front t) (c : VTcpConn) : Front (t.setConn front c) := by
  refine ⟨fun k hk => ?_, hf.pending⟩
  show (Function.update t.conns front c k).used = false
  rw [Function.update_of_ne hk]
  exact hf.conns k hk

theorem Front.setPending (hf : Front t) (p : PendingAccept) : Front (t.setPending frontPending p) := by
  refine ⟨hf.conns, fun k hk => ?_⟩
  show (Function.update t.pendingAccepts frontPending p k).used = false
  rw [Function.update_of_ne hk]
  exact hf.pending k hk

/-- A walk over the connections that passes the free ones. -/
theorem Front.first_conn (hf : Front t) {q : VTcpConn → Bool} (hq : ∀ c, c.used = false → q c = false) :
    SlotTable.first q t.conns = if q (t.conns front) then some front else none :=
  SlotTable.first_of_others fun k hk => hq _ (hf.conns k hk)

theorem Front.first_pending (hf : Front t) {q : PendingAccept → Bool} (hq : ∀ p, p.used = false → q p = false) :
    SlotTable.first q t.pendingAccepts = if q (t.pendingAccepts frontPending) then some frontPending else none :=
  SlotTable.first_of_others fun k hk => hq _ (hf.pending k hk)

theorem Front.findByPeer (hf : Front t) (ip : UInt32) : t.findVTcpConnByPeer true ip =
    if (t.conns front).used && (t.conns front).peerIp == ip then some front else none := by
  rw [Slp.VTcp.findVTcpConnByPeer, if_pos rfl]
  exact hf.first_conn (q := fun c => c.used && c.peerIp == ip) fun c hc => by rw [hc, Bool.false_and]

theorem Front.no_peer (hf : Front t) (hc : (t.conns front).used = false) (ip : UInt32) :
    t.findVTcpConnByPeer true ip = none := by
  rw [hf.findByPeer, hc, Bool.false_and, if_neg (by decide)]

theorem Front.findByFd (hf : Front t) (hc : (t.conns front).used = true) :
    t.findVTcpConnByFd true (t.conns front).fd = some front := by
  rw [Slp.VTcp.findVTcpConnByFd, if_pos rfl]
  refine (hf.first_conn (q := fun c => c.used && c.fd == (t.conns front).fd) fun c hc => ?_).trans ?_
  · rw [hc, Bool.false_and]
  · rw [hc, beq_self_eq_true, Bool.and_self, if_pos rfl]

theorem Front.awaits (hf : Front t) (m : TcpSegment) :
    SlotTable.first (Slp.VTcp.awaitsFinalAck m) t.pendingAccepts =
      if Slp.VTcp.awaitsFinalAck m (t.pendingAccepts frontPending) then some frontPending else none :=
  hf.first_pending fun p hp => by rw [Slp.VTcp.awaitsFinalAck, hp, Bool.false_and, Bool.false_and, Bool.false_and]

theorem first_front {q : VTcpConn → Bool} (h : q (t.conns front) = true) : SlotTable.first q t.conns = some front :=
  SlotTable.first_eq_some_iff.2 ⟨h, fun _ hj => absurd hj (Nat.not_lt_zero _)⟩

theorem alloc_front (hc : (t.conns front).used = false) : t.allocVTcpConn true = some front := by
  rw [Slp.VTcp.allocVTcpConn, if_pos rfl]
  exact first_front (by rw [hc]; rfl)

theorem Front.accept_none (hf : Front t) (hp : (t.pendingAccepts frontPending).used = false ∨
    (t.pendingAccepts frontPending).gotFinalAck = false) : t.accept true = none := by
  have hfirst := hf.first_pending (q := fun p => p.used && p.gotFinalAck) fun p hp => by rw [hp, Bool.false_and]
  have hno : ((t.pendingAccepts frontPending).used && (t.pendingAccepts frontPending).gotFinalAck) = false := by
    rcases hp with h | h <;> simp [h]
  rw [if_neg (by rw [hno]; decide)] at hfirst
  rw [Slp.VTcp.accept, hfirst]

/-- **A segment of a connected peer is its connection's.** -/
theorem handle_conn {k : Fin maxVTcpConns} (hfind : t.findVTcpConnByPeer true m.srcIp = some k)
    (hpend : SlotTable.first (Slp.VTcp.awaitsFinalAck m) t.pendingAccepts = none) :
    t.handleTcpSegment true localIp isn m =
      (t.setConn k ((t.conns k).receive localIp m).1, ((t.conns k).receive localIp m).2) := by
  have hself : t.setConn k (t.conns k) = t := by
    rw [Slp.VTcp.setConn, Function.update_eq_self]
  unfold Slp.VTcp.handleTcpSegment VTcpConn.receive
  rw [hfind]
  by_cases hrst : m.isRst = true
  · rw [if_pos hrst, if_pos hrst]
    rfl
  rw [if_neg hrst, if_neg hrst]
  by_cases hsyn : (m.isSyn && !m.isAck) = true
  · rw [if_pos hsyn, if_pos hsyn, hself]
    rfl
  rw [if_neg hsyn, if_neg hsyn]
  by_cases hsynAck : (m.isSyn && m.isAck) = true
  · rw [if_pos hsynAck, if_pos hsynAck]
    rfl
  rw [if_neg hsynAck, if_neg hsynAck]
  by_cases hfin : m.isFin = true
  · rw [if_pos hfin, if_pos hfin]
    rfl
  rw [if_neg hfin, if_neg hfin]
  by_cases hack : (!m.isAck) = true
  · rw [if_pos hack, if_pos hack, hself]
  · rw [if_neg hack, if_neg hack, hpend]
    rfl

/-- The connection with what is in its inbox read. -/
def readOut (c : VTcpConn) : VTcpConn := { c with inbox := ByteBuf.empty }

/-- **A read into a buffer of an inbox's size takes all that is in it.** -/
theorem read_conn (hf : Front t) (hc : (t.conns front).used = true) : ∃ out,
    t.recvFromStep (t.conns front).fd vtcpInboxCap 0 = (t.setConn front (readOut (t.conns front)), out) ∧
      out.received.elim [] (·.2.payload) = (t.conns front).inbox.bytes := by
  rw [Slp.VTcp.recvFromStep, hf.findByFd hc]
  have hcap := (t.conns front).inbox.size_le
  simp only [VTcpConn.recvFrom]
  by_cases hsize : (t.conns front).inbox.size = 0
  · rw [if_pos hsize]
    have hnil : (t.conns front).inbox.bytes = [] := List.length_eq_zero_iff.1 hsize
    have hempty : (t.conns front).inbox = ByteBuf.empty := ByteBuf.ext hnil
    refine ⟨_, Prod.ext ?_ rfl, ?_⟩
    · rw [readOut, ← hempty]
    · rw [hnil]
      simp only [Option.elim_some]
      split <;> rfl
  · rw [if_neg hsize]
    have hdrop : (t.conns front).inbox.drop vtcpInboxCap = ByteBuf.empty := ByteBuf.ext (List.drop_eq_nil_of_le hcap)
    refine ⟨_, Prod.ext ?_ rfl, ?_⟩
    · rw [readOut, ← hdrop]
    · exact List.take_of_length_le hcap

/-- **A turn of a connected peer**: its connection receives the segment and is read. -/
theorem bridgeTurn_conn (hf : Front t) (hc : (t.conns front).used = true) (hpeer : (t.conns front).peerIp = m.srcIp)
    (hp : (t.pendingAccepts frontPending).used = false) :
    bridgeTurn t localIp isn m = (t.setConn front (readOut ((t.conns front).receive localIp m).1),
      ⟨((t.conns front).receive localIp m).2, ((t.conns front).receive localIp m).1.inbox.bytes⟩) := by
  have hkeys := VTcpConn.receive_sameKeys (t.conns front) localIp m
  have hpend : SlotTable.first (Slp.VTcp.awaitsFinalAck m) t.pendingAccepts = none := by
    rw [hf.awaits, Slp.VTcp.awaitsFinalAck, hp]
    rfl
  have hfind : ∀ t' : Slp.VTcp, Front t' → (t'.conns front).used = true → (t'.conns front).peerIp = m.srcIp →
      t'.findVTcpConnByPeer true m.srcIp = some front := by
    intro t' hf' hc' hpeer'
    rw [hf'.findByPeer, hc', hpeer', beq_self_eq_true, Bool.and_self, if_pos rfl]
  have hhandle := handle_conn localIp isn (hfind t hf hc hpeer) hpend
  have hf' := hf.setConn ((t.conns front).receive localIp m).1
  have hat := setConn_front t ((t.conns front).receive localIp m).1
  have hused : ((t.setConn front ((t.conns front).receive localIp m).1).conns front).used = true := by
    rw [hat, hkeys.used, hc]
  have haccept : (t.setConn front ((t.conns front).receive localIp m).1).accept true = none := hf'.accept_none (Or.inl hp)
  obtain ⟨out, hread, hout⟩ := read_conn hf' hused
  have hwritten : ∀ c c' : VTcpConn, (t.setConn front c).setConn front c' = t.setConn front c' := by
    intro c c'
    simp only [Slp.VTcp.setConn, Function.update_idem]
  unfold bridgeTurn
  rw [hhandle]
  simp only [haccept, Option.elim_none]
  rw [hfind _ hf' hused (by rw [hat, hkeys.peerIp, hpeer])]
  simp only [hread, hout]
  rw [hat, hwritten]

/-- **A turn of an unknown peer**: a SYN leaves a pending entry and is answered. -/
theorem bridgeTurn_none (hf : Front t) (hc : (t.conns front).used = false)
    (hp : (t.pendingAccepts frontPending).used = false) : bridgeTurn t localIp isn m =
      if m.isRst = false ∧ (m.isSyn && !m.isAck) = true then
        (t.setPending frontPending (Slp.VTcp.pendingOf m isn),
          ⟨[m.reply localIp isn (m.seq + 1) (TCP_SYN ||| TCP_ACK)], []⟩)
      else (t, ⟨[], []⟩) := by
  have hpend : SlotTable.first (Slp.VTcp.awaitsFinalAck m) t.pendingAccepts = none := by
    rw [hf.awaits, Slp.VTcp.awaitsFinalAck, hp]
    rfl
  have hnew : SlotTable.first (fun p => p.used && p.peerIp == m.srcIp) t.pendingAccepts = none := by
    rw [hf.first_pending fun p hp => by rw [hp, Bool.false_and], hp]
    rfl
  have hfree : SlotTable.first (fun p : PendingAccept => !p.used) t.pendingAccepts = some frontPending := by
    refine SlotTable.first_eq_some_iff.2 ⟨by rw [hp]; rfl, fun j hj => absurd hj (Nat.not_lt_zero _)⟩
  have hsyn : t.handleSyn none localIp isn m = (t.setPending frontPending (Slp.VTcp.pendingOf m isn),
      [m.reply localIp isn (m.seq + 1) (TCP_SYN ||| TCP_ACK)]) := by
    rw [Slp.VTcp.handleSyn, hnew, hfree]
    rfl
  have hhandle : t.handleTcpSegment true localIp isn m =
      if m.isRst = false ∧ (m.isSyn && !m.isAck) = true then
        (t.setPending frontPending (Slp.VTcp.pendingOf m isn),
          [m.reply localIp isn (m.seq + 1) (TCP_SYN ||| TCP_ACK)])
      else (t, []) := by
    unfold Slp.VTcp.handleTcpSegment
    simp only [hf.no_peer hc, hpend, hsyn]
    cases m.isRst <;> cases m.isSyn <;> cases m.isAck <;> cases m.isFin <;> rfl
  have hafter : ∀ t' : Slp.VTcp, Front t' → (t'.conns front).used = false →
      ((t'.pendingAccepts frontPending).used = false ∨ (t'.pendingAccepts frontPending).gotFinalAck = false) →
      (t'.accept true).elim t' (·.1) = t' ∧ t'.findVTcpConnByPeer true m.srcIp = none := by
    intro t' hf' hc' hp'
    rw [hf'.accept_none hp']
    exact ⟨rfl, hf'.no_peer hc' _⟩
  unfold bridgeTurn
  rw [hhandle]
  by_cases h : m.isRst = false ∧ (m.isSyn && !m.isAck) = true
  · have hat := setPending_front t (Slp.VTcp.pendingOf m isn)
    obtain ⟨haccept, hfind⟩ := hafter _ (hf.setPending (Slp.VTcp.pendingOf m isn)) hc (Or.inr (by rw [hat]; rfl))
    simp only [if_pos h, haccept, hfind]
  · obtain ⟨haccept, hfind⟩ := hafter t hf hc (Or.inl hp)
    simp only [if_neg h, haccept, hfind]

/-- The segment acknowledges the SYN-ACK of a pending entry. -/
def Completes (m : TcpSegment) (p : PendingAccept) : Prop := m.PlainAck ∧ m.ack = p.ourIsn + 1

section Pending

variable (hf : Front t) (hc : (t.conns front).used = false) (hp : (t.pendingAccepts frontPending).used = true)
  (hpeer : (t.pendingAccepts frontPending).peerIp = m.srcIp) (hgot : (t.pendingAccepts frontPending).gotFinalAck = false)

include hf hc hp hpeer hgot

/-- **A pending entry waits for the last acknowledgement of its handshake.** -/
theorem handle_pending : t.handleTcpSegment true localIp isn m =
    if m.isRst = false ∧ m.isSyn = false ∧ m.isFin = false ∧ m.isAck = true ∧
        m.ack = (t.pendingAccepts frontPending).ourIsn + 1 then
      (t.setPending frontPending { t.pendingAccepts frontPending with gotFinalAck := true }, [])
    else (t, []) := by
  have hsyn : t.handleSyn none localIp isn m = (t, []) := by
    have hfirst : SlotTable.first (fun p => p.used && p.peerIp == m.srcIp) t.pendingAccepts = some frontPending := by
      rw [hf.first_pending fun p hp => by rw [hp, Bool.false_and], hp, hpeer, beq_self_eq_true]
      rfl
    rw [Slp.VTcp.handleSyn, hfirst]
    rfl
  have hawait : Slp.VTcp.awaitsFinalAck m (t.pendingAccepts frontPending) =
      (m.ack == (t.pendingAccepts frontPending).ourIsn + 1) := by
    rw [Slp.VTcp.awaitsFinalAck, hp, hpeer, hgot, beq_self_eq_true]
    rfl
  unfold Slp.VTcp.handleTcpSegment
  simp only [hf.no_peer hc, hsyn, hf.awaits, hawait]
  by_cases hack : m.ack = (t.pendingAccepts frontPending).ourIsn + 1
  · rw [hack, beq_self_eq_true]
    cases m.isRst <;> cases m.isSyn <;> cases m.isAck <;> cases m.isFin <;> simp [Slp.VTcp.onConn]
  · have hno : (m.ack == (t.pendingAccepts frontPending).ourIsn + 1) = false := by simpa using hack
    rw [hno]
    cases m.isRst <;> cases m.isSyn <;> cases m.isAck <;> cases m.isFin <;> simp [Slp.VTcp.onConn, hack]

theorem bridgeTurn_waiting (h : ¬ Completes m (t.pendingAccepts frontPending)) :
    bridgeTurn t localIp isn m = (t, ⟨[], []⟩) := by
  have hhandle : t.handleTcpSegment true localIp isn m = (t, []) := by
    rw [handle_pending localIp isn hf hc hp hpeer hgot]
    exact if_neg fun ⟨hrst, hsyn, hfin, hack, heq⟩ => h ⟨⟨hrst, hsyn, hfin, hack⟩, heq⟩
  unfold bridgeTurn
  rw [hhandle]
  simp only [hf.accept_none (Or.inr hgot), Option.elim_none, hf.no_peer hc]

/-- **A turn that completes a handshake** leaves the connection that was accepted. -/
theorem bridgeTurn_completes (h : Completes m (t.pendingAccepts frontPending)) : ∃ t' fd,
    bridgeTurn t localIp isn m = (t', ⟨[], []⟩) ∧ Front t' ∧ (t'.pendingAccepts frontPending).used = false ∧
      t'.conns front = Slp.VTcp.acceptedConn (t.pendingAccepts frontPending) fd := by
  obtain ⟨⟨hrst, hsyn, hfin, hack⟩, heq⟩ := h
  generalize hp₁ : ({ t.pendingAccepts frontPending with gotFinalAck := true } : PendingAccept) = p₁
  have hhandle : t.handleTcpSegment true localIp isn m = (t.setPending frontPending p₁, []) := by
    rw [handle_pending localIp isn hf hc hp hpeer hgot, if_pos ⟨hrst, hsyn, hfin, hack, heq⟩, hp₁]
  have hf₁ := hf.setPending p₁
  have hat := setPending_front t p₁
  have hready : SlotTable.first (fun p => p.used && p.gotFinalAck) (t.setPending frontPending p₁).pendingAccepts =
      some frontPending := by
    rw [hf₁.first_pending fun p hp => by rw [hp, Bool.false_and], hat, ← hp₁]
    exact if_pos (by rw [hp]; rfl)
  have halloc : (t.setPending frontPending p₁).allocVTcpConn true = some front := alloc_front hc
  generalize ht₂ : ({ ((t.setPending frontPending p₁).setPending frontPending { p₁ with used := false }).setConn front
      (Slp.VTcp.acceptedConn p₁ t.nextSyntheticFd) with nextSyntheticFd := t.nextSyntheticFd + 1 } : Slp.VTcp) = t₂
  have haccept : (t.setPending frontPending p₁).accept true = some (t₂, t.nextSyntheticFd) := by
    rw [Slp.VTcp.accept, hready, halloc, ← ht₂]
    simp only [hat]
    rfl
  have hf₂ : Front t₂ := by
    have hf' := (hf₁.setPending { p₁ with used := false }).setConn (Slp.VTcp.acceptedConn p₁ t.nextSyntheticFd)
    rw [← ht₂]
    exact ⟨hf'.conns, hf'.pending⟩
  have hconn : t₂.conns front = Slp.VTcp.acceptedConn p₁ t.nextSyntheticFd := by
    rw [← ht₂]
    exact setConn_front ((t.setPending frontPending p₁).setPending frontPending { p₁ with used := false })
      (Slp.VTcp.acceptedConn p₁ t.nextSyntheticFd)
  have hgone : (t₂.pendingAccepts frontPending).used = false := by
    rw [← ht₂]
    exact congrArg PendingAccept.used (setPending_front (t.setPending frontPending p₁) { p₁ with used := false })
  have hpeer₁ : p₁.peerIp = m.srcIp := by rw [← hp₁, hpeer]
  have hfind : t₂.findVTcpConnByPeer true m.srcIp = some front := by
    rw [hf₂.findByPeer, hconn]
    exact if_pos (by rw [← hpeer₁]; exact beq_self_eq_true _)
  obtain ⟨out, hread, hout⟩ := read_conn hf₂ (by rw [hconn]; rfl)
  refine ⟨t₂.setConn front (readOut (t₂.conns front)), t.nextSyntheticFd, ?_, hf₂.setConn _, hgone, ?_⟩
  · unfold bridgeTurn
    rw [hhandle]
    simp only [haccept, Option.elim_some, hfind, hread, hout]
    rw [hconn]
    rfl
  · rw [setConn_front, hconn, ← hp₁]
    rfl

end Pending

end Bridge

/-! ## Kinds of segments -/

/-- What a kind says of the flags. -/
inductive IsKind (m : TcpSegment) : SegmentKind → Prop
  | rst (hrst : m.isRst = true) : IsKind m .rst
  | syn (hsyn : m.BareSyn) : IsKind m .syn
  | synAck (hrst : m.isRst = false) (hsyn : m.isSyn = true) (hack : m.isAck = true) : IsKind m .synAck
  | fin (hrst : m.isRst = false) (hsyn : m.isSyn = false) (hfin : m.isFin = true) : IsKind m .fin
  | other (hrst : m.isRst = false) (hsyn : m.isSyn = false) (hfin : m.isFin = false) (hack : m.isAck = false) :
      IsKind m .other
  | ack (hplain : m.PlainAck) : IsKind m .ack

theorem isKind (m : TcpSegment) : IsKind m (segmentKind m) := by
  unfold segmentKind
  cases hrst : m.isRst with
  | true => exact .rst hrst
  | false =>
    cases hsyn : m.isSyn with
    | true =>
      cases hack : m.isAck with
      | true => exact .synAck hrst hsyn hack
      | false => exact .syn ⟨hsyn, hack, hrst⟩
    | false =>
      cases hfin : m.isFin with
      | true => exact .fin hrst hsyn hfin
      | false =>
        cases hack : m.isAck with
        | true => exact .ack ⟨hrst, hsyn, hfin, hack⟩
        | false => exact .other hrst hsyn hfin hack

section Kinds

variable {m : TcpSegment} (v : VTcp) {c : VTcpConn} (localIp isn : UInt32)

theorem onSegment_rst (hrst : m.isRst = true) : v.onSegment isn m = ({ v with state := .closed }, []) := by
  rw [VTcp.onSegment, if_pos hrst]

theorem onSegment_syn (h : m.BareSyn) : v.onSegment isn m =
    ({ v with ourIsn := isn, theirSeq := m.seq + 1, state := .synRcvd, ourSeq := isn + 1 },
      [v.segment isn (m.seq + 1) (TCP_SYN ||| TCP_ACK)]) := by
  simp [VTcp.onSegment, h.no_rst, h.syn, h.no_ack]

theorem onSegment_synAck (hrst : m.isRst = false) (hsyn : m.isSyn = true) (hack : m.isAck = true) : v.onSegment isn m =
    if v.state = .synSent ∧ m.ack = v.ourIsn + 1 then
      ({ v with theirSeq := m.seq + 1, ourSeq := v.ourIsn + 1, state := .established },
        [v.segment (v.ourIsn + 1) (m.seq + 1) TCP_ACK])
    else (v, []) := by
  simp [VTcp.onSegment, hrst, hsyn, hack]

theorem onSegment_fin (hrst : m.isRst = false) (hsyn : m.isSyn = false) (hfin : m.isFin = true) : v.onSegment isn m =
    ({ v with theirSeq := m.seq + 1, state := .closed }, [v.segment v.ourSeq (m.seq + 1) TCP_ACK]) := by
  simp [VTcp.onSegment, hrst, hsyn, hfin]

theorem onSegment_other (hrst : m.isRst = false) (hsyn : m.isSyn = false) (hfin : m.isFin = false) (hack : m.isAck = false) :
    v.onSegment isn m = (v, []) := by
  simp [VTcp.onSegment, hrst, hsyn, hfin, hack]

theorem onSegment_ack (h : m.PlainAck) : v.onSegment isn m =
    if v.state = .synRcvd ∧ m.ack = v.ourIsn + 1 then ({ v with state := .established }, [])
    else if v.state ≠ .established then (v, [])
    else v.onAck m := by
  simp [VTcp.onSegment, h.no_rst, h.no_syn, h.no_fin, h.ack]

theorem onSegment_ack_idle (h : m.PlainAck) (hrcvd : v.state ≠ .synRcvd) (hest : v.state ≠ .established) :
    v.onSegment isn m = (v, []) := by
  rw [onSegment_ack v isn h, if_neg fun hs => hrcvd hs.1, if_pos hest]

theorem receive_ack (h : m.PlainAck) : c.receive localIp m = c.handleAck localIp m := by
  simp [VTcpConn.receive, h.no_rst, h.no_syn, h.no_fin, h.ack]

/-- The fields of a connection that an acknowledgement leaves alone. -/
structure SameConn (c c' : VTcpConn) : Prop where
  used : c'.used = c.used
  peerIp : c'.peerIp = c.peerIp
  established : c'.established = c.established
  synSentAwaitingSynack : c'.synSentAwaitingSynack = c.synSentAwaitingSynack
  ourIsn : c'.ourIsn = c.ourIsn

theorem handleAckNumber_same (c : VTcpConn) (ack : UInt32) : SameConn c (c.handleAckNumber ack) ∧
    (c.handleAckNumber ack).inbox = c.inbox ∧ (c.handleAckNumber ack).theirSeq = c.theirSeq ∧
      (c.handleAckNumber ack).ourSeq = c.ourSeq := by
  unfold VTcpConn.handleAckNumber
  split <;> exact ⟨⟨rfl, rfl, rfl, rfl, rfl⟩, rfl, rfl, rfl⟩

/-- **The next payload goes to the empty inbox of its connection if it fits.** -/
theorem handleAck_next (hnext : Ends.Next c m) (hlen : m.payload.length ≤ vtcpInboxCap) (hempty : c.inbox = ByteBuf.empty) :
    ∃ c', c.handleAck localIp m = (c', [m.reply localIp c.ourSeq (c.theirSeq + seqLen m.payload) TCP_ACK]) ∧
      SameConn c c' ∧ c'.inbox.bytes = m.payload ∧ c'.theirSeq = c.theirSeq + seqLen m.payload := by
  obtain ⟨hsame, hinbox, htheir, hour⟩ := handleAckNumber_same c m.ack
  obtain ⟨hest, hseq, hne⟩ := hnext
  unfold VTcpConn.handleAck VTcpConn.handleData
  have hgo : ¬ (!(c.handleAckNumber m.ack).established || m.payload.length == 0) = true := by
    simp [hsame.established, hest, hne]
  have hat : ¬ m.seq ≠ (c.handleAckNumber m.ack).theirSeq := by
    rw [htheir]
    exact not_not.2 hseq
  have hroom : (c.handleAckNumber m.ack).inbox.size + m.payload.length ≤ vtcpInboxCap := by
    rw [hinbox, hempty]
    exact (Nat.zero_add _).le.trans hlen
  rw [if_neg hgo, if_neg hat, if_neg (Nat.not_lt.2 hlen), dif_pos hroom, htheir, hour]
  refine ⟨_, rfl, ⟨hsame.used, hsame.peerIp, hsame.established, hsame.synSentAwaitingSynack, hsame.ourIsn⟩, ?_, rfl⟩
  show (c.handleAckNumber m.ack).inbox.bytes ++ m.payload = m.payload
  rw [hinbox, hempty]
  rfl

/-- Any other acknowledgement leaves no trace. -/
theorem handleAck_skip (h : ¬ (Ends.Next c m ∧ m.payload.length ≤ vtcpInboxCap)) : ∃ c', c.handleAck localIp m = (c', []) ∧
    SameConn c c' ∧ c'.inbox = c.inbox ∧ c'.theirSeq = c.theirSeq := by
  obtain ⟨hsame, hinbox, htheir, hour⟩ := handleAckNumber_same c m.ack
  refine ⟨c.handleAckNumber m.ack, ?_, hsame, hinbox, htheir⟩
  unfold VTcpConn.handleAck VTcpConn.handleData
  split
  · rfl
  rename_i hgo
  split
  · rfl
  rename_i hat
  split
  · rfl
  rename_i hlen
  refine absurd ⟨⟨?_, ?_, ?_⟩, Nat.not_lt.1 hlen⟩ h
  · rw [← hsame.established]
    simp_all
  · rw [← htheir]
    exact not_not.1 hat
  · intro hnil
    simp [hnil] at hgo

end Kinds

/-! ## How they stand to each other -/

namespace Ends

/-- A connection of the bridge beside the endpoint: established, or with its handshake begun here. -/
inductive Stage (v : VTcp) (c : VTcpConn) : Prop
  | connected (hest : c.established = true) (hdone : c.synSentAwaitingSynack = false)
      (hstate : v.state = .established ∧ v.theirSeq = c.theirSeq ∨ v.state = .closed)
  | awaiting (hest : c.established = false) (hwait : c.synSentAwaitingSynack = true) (hisn : v.ourIsn = c.ourIsn)
      (hstate : v.state = .synSent ∨ v.state = .closed)

/-- The endpoint and the first slots of the bridge: nothing yet, a handshake begun by the peer, or a connection.  The endpoint
may have closed at any of these. -/
inductive Phase (v : VTcp) (c : VTcpConn) (p : PendingAccept) : Prop
  | idle (hc : c.used = false) (hp : p.used = false) (hstate : v.state = .closed)
  | requested (hc : c.used = false) (hp : p.used = true) (hpeer : p.peerIp = v.peerIp) (hgot : p.gotFinalAck = false)
      (hstate : v.state = .synRcvd ∧ v.ourIsn = p.ourIsn ∧ v.theirSeq = p.theirIsn + 1 ∨ v.state = .closed)
  | held (hc : c.used = true) (hp : p.used = false) (hpeer : c.peerIp = v.peerIp) (hempty : c.inbox = ByteBuf.empty)
      (hstage : Stage v c)

structure Linked (s : Ends) : Prop where
  slots : Front s.bridge
  inbox : s.tool.inbox = []
  phase : Phase s.tool (s.bridge.conns front) (s.bridge.pendingAccepts frontPending)

section Turns

variable {s : Ends} {i : Incoming}

theorem peer_conn (hf : Front s.bridge) : s.peer.conn =
    if (s.bridge.conns front).used && (s.bridge.conns front).peerIp == s.tool.peerIp then some (s.bridge.conns front)
    else none := by
  have hfind : SlotTable.first (VTcpConn.ofPeer s.tool.peerIp) s.bridge.conns =
      if VTcpConn.ofPeer s.tool.peerIp (s.bridge.conns front) then some front else none :=
    hf.first_conn fun c hc => by rw [VTcpConn.ofPeer, hc, Bool.false_and]
  show SlotTable.lookup _ _ = _
  rw [SlotTable.lookup, hfind, apply_ite (Option.map s.bridge.conns)]
  rfl

theorem peer_pending (hf : Front s.bridge) : s.peer.pending =
    if (s.bridge.pendingAccepts frontPending).used && (s.bridge.pendingAccepts frontPending).peerIp == s.tool.peerIp then
      some (s.bridge.pendingAccepts frontPending)
    else none := by
  have hfind : SlotTable.first (PendingAccept.ofPeer s.tool.peerIp) s.bridge.pendingAccepts =
      if PendingAccept.ofPeer s.tool.peerIp (s.bridge.pendingAccepts frontPending) then some frontPending else none :=
    hf.first_pending fun p hp => by rw [PendingAccept.ofPeer, hp, Bool.false_and]
  show SlotTable.lookup _ _ = _
  rw [SlotTable.lookup, hfind, apply_ite (Option.map s.bridge.pendingAccepts)]
  rfl

/-- **A peer without a connection** is answered a SYN by both ends if it has no pending entry, and a FIN by the endpoint alone. -/
theorem mirrored_of_no_conn (hconn : s.peer.conn = none) : s.Mirrored i ↔
    segmentKind (s.segment i) ≠ .fin ∧ (segmentKind (s.segment i) = .syn → s.peer.pending = none) := by
  unfold Mirrored
  rw [hconn]
  cases segmentKind (s.segment i) <;> simp

/-- Whether both ends show the same of a segment is settled by `Mirrored`, and if they do they stay linked. -/
def Settled (s : Ends) (i : Incoming) : Prop := (s.SameShown i ↔ s.Mirrored i) ∧ (s.Mirrored i → (s.step i).Linked)

variable {v : VTcp} {t : Slp.VTcp} {segs : List Segment} {w : Shown}

theorem settled_same (htool : s.tool.onSegment i.isn (s.segment i) = (v, segs)) (hbridge : s.bridgeTurn i = (t, w))
    (hw : w = ⟨segs, v.inbox.headD []⟩) (hm : s.Mirrored i) (hl : Linked ⟨{ v with inbox := v.inbox.tail }, t⟩) :
    s.Settled i := by
  have hrecv : v.recv = ({ v with inbox := v.inbox.tail }, v.inbox.head?) := by
    unfold VTcp.recv
    split
    · rename_i hnil
      rw [hnil]
      cases v
      simp_all
    · rename_i hcons
      rw [hcons]
      rfl
  have hturn : s.toolTurn i = ({ v with inbox := v.inbox.tail }, w) := by
    show s.tool.turn i.isn (s.segment i) = _
    rw [VTcp.turn, htool, hw]
    simp only [hrecv]
    rw [← List.headD_eq_head?_getD]
  refine ⟨iff_of_true ?_ hm, fun _ => ?_⟩
  · rw [SameShown, hturn, hbridge]
  · rw [step, hturn, hbridge]
    exact hl

theorem settled_differ {segs' : List Segment} (htool : s.tool.onSegment i.isn (s.segment i) = (v, segs))
    (hbridge : s.bridgeTurn i = (t, w)) (hw : w.segs = segs') (hne : segs ≠ segs') (hm : ¬ s.Mirrored i) : s.Settled i := by
  refine ⟨iff_of_false (fun hsame => hne ?_) hm, fun h => absurd h hm⟩
  have hsegs := congrArg Shown.segs hsame
  rw [hbridge] at hsegs
  have htoolSegs : (s.toolTurn i).2.segs = segs := congrArg Prod.snd htool
  rw [← htoolSegs, ← hw]
  exact hsegs

theorem settled_answer (htool : s.tool.onSegment i.isn (s.segment i) = (v, segs)) (hv : v.inbox = [])
    (hbridge : s.bridgeTurn i = (t, ⟨segs, []⟩)) (hm : s.Mirrored i) (hl : Linked ⟨v, t⟩) : s.Settled i := by
  have hsame : ({ v with inbox := v.inbox.tail } : VTcp) = v := by
    cases v
    cases hv
    rfl
  exact settled_same htool hbridge (by rw [hv]; rfl) hm (by rw [hsame]; exact hl)

/-! ## A turn in each phase -/

section Unconnected

variable (hf : Front s.bridge) (hinbox : s.tool.inbox = []) (hc : (s.bridge.conns front).used = false)

include hf hinbox hc

theorem settled_idle (hp : (s.bridge.pendingAccepts frontPending).used = false) (hstate : s.tool.state = .closed) :
    s.Settled i := by
  have hbridge : s.bridgeTurn i = _ := bridgeTurn_none (m := s.segment i) s.tool.ip i.isn hf hc hp
  have hconn : s.peer.conn = none := by
    rw [peer_conn hf, hc]
    rfl
  have hpending : s.peer.pending = none := by
    rw [peer_pending hf, hp]
    rfl
  have hidle : Linked ⟨s.tool, s.bridge⟩ := ⟨hf, hinbox, .idle hc hp hstate⟩
  have hkind := isKind (s.segment i)
  generalize hk : segmentKind (s.segment i) = k at hkind
  have hm : k ≠ .fin → s.Mirrored i := fun hne => (mirrored_of_no_conn hconn).2 ⟨hk ▸ hne, fun _ => hpending⟩
  cases hkind with
  | rst hrst =>
    rw [if_neg (by simp [hrst])] at hbridge
    exact settled_answer (onSegment_rst s.tool i.isn hrst) hinbox hbridge (hm (by decide)) ⟨hf, hinbox, .idle hc hp rfl⟩
  | syn hsyn =>
    rw [if_pos ⟨hsyn.no_rst, by rw [hsyn.syn, hsyn.no_ack]; rfl⟩] at hbridge
    refine settled_answer (onSegment_syn s.tool i.isn hsyn) hinbox hbridge (hm (by decide)) ⟨hf.setPending _, hinbox, ?_⟩
    refine .requested hc ?_ ?_ ?_ (Or.inl ?_) <;> simp [setPending_front, Slp.VTcp.pendingOf, segment]
  | synAck hrst hsyn hack =>
    rw [if_neg (by simp [hack])] at hbridge
    have htool := onSegment_synAck s.tool i.isn hrst hsyn hack
    rw [if_neg (by simp [hstate])] at htool
    exact settled_answer htool hinbox hbridge (hm (by decide)) hidle
  | fin hrst hsyn hfin =>
    rw [if_neg (by simp [hsyn])] at hbridge
    exact settled_differ (onSegment_fin s.tool i.isn hrst hsyn hfin) hbridge rfl (by simp) fun h =>
      ((mirrored_of_no_conn hconn).1 h).1 hk
  | other hrst hsyn hfin hack =>
    rw [if_neg (by simp [hsyn])] at hbridge
    exact settled_answer (onSegment_other s.tool i.isn hrst hsyn hfin hack) hinbox hbridge (hm (by decide)) hidle
  | ack hplain =>
    rw [if_neg (by simp [hplain.no_syn])] at hbridge
    have htool := onSegment_ack_idle s.tool i.isn hplain (by simp [hstate]) (by simp [hstate])
    exact settled_answer htool hinbox hbridge (hm (by decide)) hidle

theorem settled_requested (hp : (s.bridge.pendingAccepts frontPending).used = true)
    (hpeer : (s.bridge.pendingAccepts frontPending).peerIp = s.tool.peerIp)
    (hgot : (s.bridge.pendingAccepts frontPending).gotFinalAck = false)
    (hstate : s.tool.state = .synRcvd ∧ s.tool.ourIsn = (s.bridge.pendingAccepts frontPending).ourIsn ∧
      s.tool.theirSeq = (s.bridge.pendingAccepts frontPending).theirIsn + 1 ∨ s.tool.state = .closed) : s.Settled i := by
  have hwaits : ¬ Completes (s.segment i) (s.bridge.pendingAccepts frontPending) → s.bridgeTurn i = (s.bridge, ⟨[], []⟩) :=
    bridgeTurn_waiting (m := s.segment i) s.tool.ip i.isn hf hc hp hpeer hgot
  have hconn : s.peer.conn = none := by
    rw [peer_conn hf, hc]
    rfl
  have hpending : s.peer.pending ≠ none := by
    rw [peer_pending hf, hp, hpeer, beq_self_eq_true, Bool.and_self, if_pos rfl]
    exact Option.some_ne_none _
  have hsame : Linked ⟨s.tool, s.bridge⟩ := ⟨hf, hinbox, .requested hc hp hpeer hgot hstate⟩
  have hnotSent : s.tool.state ≠ .synSent := by
    rcases hstate with ⟨h, -⟩ | h <;> simp [h]
  have hnotEst : s.tool.state ≠ .established := by
    rcases hstate with ⟨h, -⟩ | h <;> simp [h]
  have hkind := isKind (s.segment i)
  generalize hk : segmentKind (s.segment i) = k at hkind
  have hm : k ≠ .fin → k ≠ .syn → s.Mirrored i := fun hfin hsyn =>
    (mirrored_of_no_conn hconn).2 ⟨hk ▸ hfin, fun h => absurd (hk.symm.trans h) hsyn⟩
  cases hkind with
  | rst hrst =>
    have hbridge := hwaits fun h => by simp [h.1.no_rst] at hrst
    exact settled_answer (onSegment_rst s.tool i.isn hrst) hinbox hbridge (hm (by decide) (by decide))
      ⟨hf, hinbox, .requested hc hp hpeer hgot (Or.inr rfl)⟩
  | syn hsyn =>
    have hbridge := hwaits fun h => absurd (hsyn.syn.symm.trans h.1.no_syn) (by decide)
    exact settled_differ (onSegment_syn s.tool i.isn hsyn) hbridge rfl (by simp) fun h =>
      hpending (((mirrored_of_no_conn hconn).1 h).2 hk)
  | synAck hrst hsyn hack =>
    have hbridge := hwaits fun h => by simp [h.1.no_syn] at hsyn
    have htool := onSegment_synAck s.tool i.isn hrst hsyn hack
    rw [if_neg fun h => hnotSent h.1] at htool
    exact settled_answer htool hinbox hbridge (hm (by decide) (by decide)) hsame
  | fin hrst hsyn hfin =>
    have hbridge := hwaits fun h => by simp [h.1.no_fin] at hfin
    exact settled_differ (onSegment_fin s.tool i.isn hrst hsyn hfin) hbridge rfl (by simp) fun h =>
      ((mirrored_of_no_conn hconn).1 h).1 hk
  | other hrst hsyn hfin hack =>
    have hbridge := hwaits fun h => by simp [h.1.ack] at hack
    exact settled_answer (onSegment_other s.tool i.isn hrst hsyn hfin hack) hinbox hbridge (hm (by decide) (by decide)) hsame
  | ack hplain =>
    have hm := hm (by decide) (by decide)
    by_cases hdone : (s.segment i).ack = (s.bridge.pendingAccepts frontPending).ourIsn + 1
    · -- the bridge's handshake is done, and the endpoint's unless it closed
      obtain ⟨t', fd, hbridge, hf', hp', hat⟩ := bridgeTurn_completes s.tool.ip i.isn hf hc hp hpeer hgot
        ⟨hplain, hdone⟩
      have hconnected : ∀ v : VTcp, v.peerIp = s.tool.peerIp →
          (v.state = .established ∧ v.theirSeq = (s.bridge.pendingAccepts frontPending).theirIsn + 1 ∨ v.state = .closed) →
          Phase v (t'.conns front) (t'.pendingAccepts frontPending) := by
        intro v hv hstate'
        rw [hat]
        exact .held rfl hp' (hpeer.trans hv.symm) rfl (.connected rfl rfl hstate')
      rcases hstate with ⟨hrcvd, hisn, htheir⟩ | hclosed
      · have htool := onSegment_ack s.tool i.isn hplain
        rw [if_pos ⟨hrcvd, by rw [hisn]; exact hdone⟩] at htool
        exact settled_answer htool hinbox hbridge hm ⟨hf', hinbox, hconnected _ rfl (Or.inl ⟨rfl, htheir⟩)⟩
      · exact settled_answer (onSegment_ack_idle s.tool i.isn hplain (by simp [hclosed]) hnotEst) hinbox hbridge hm
          ⟨hf', hinbox, hconnected _ rfl (Or.inr hclosed)⟩
    · have hbridge := hwaits fun h => hdone h.2
      have htool := onSegment_ack s.tool i.isn hplain
      rw [if_neg, if_pos hnotEst] at htool
      · exact settled_answer htool hinbox hbridge hm hsame
      · rintro ⟨hrcvd, heq⟩
        rcases hstate with ⟨-, hisn, -⟩ | hclosed
        · exact hdone (hisn ▸ heq)
        · rw [hclosed] at hrcvd
          cases hrcvd

end Unconnected

theorem Stage.closed {v v' : VTcp} {c c' : VTcpConn} (h : Stage v c) (hstate : v'.state = .closed)
    (hisn : v'.ourIsn = v.ourIsn) (hc : SameConn c c') : Stage v' c' := by
  cases h with
  | connected hest hdone _ =>
    exact .connected (hc.established.trans hest) (hc.synSentAwaitingSynack.trans hdone) (Or.inr hstate)
  | awaiting hest hwait hisn' _ =>
    exact .awaiting (hc.established.trans hest) (hc.synSentAwaitingSynack.trans hwait)
      (hisn.trans (hisn'.trans hc.ourIsn.symm)) (Or.inr hstate)

section Held

variable (hf : Front s.bridge) (hc : (s.bridge.conns front).used = true)
  (hp : (s.bridge.pendingAccepts frontPending).used = false) (hpeer : (s.bridge.conns front).peerIp = s.tool.peerIp)

include hf hc hpeer

theorem peer_held : s.peer.conn = some (s.bridge.conns front) := by
  rw [peer_conn hf, hc, hpeer, beq_self_eq_true]
  rfl

theorem mirrored_ack (hk : segmentKind (s.segment i) = .ack) : s.Mirrored i ↔
    (Next (s.bridge.conns front) (s.segment i) →
      if i.payload.length ≤ vtcpInboxCap then
        s.tool.state = .established ∧ s.tool.ackedSeq i.ack = (s.bridge.conns front).ourSeq
      else s.tool.state ≠ .established) := by
  have hconn := peer_held hf hc hpeer
  rw [Mirrored, hk, hconn]
  simp

include hp

theorem bridgeTurn_receive {c : VTcpConn} (hreceive : (s.bridge.conns front).receive s.tool.ip (s.segment i) = (c, segs)) :
    s.bridgeTurn i = (s.bridge.setConn front (readOut c), ⟨segs, c.inbox.bytes⟩) := by
  have hturn := bridgeTurn_conn (m := s.segment i) s.tool.ip i.isn hf hc hpeer hp
  rw [hreceive] at hturn
  exact hturn

/-- What the bridge leaves of a connection is linked to an endpoint that has read everything. -/
theorem linked_held {v : VTcp} {c : VTcpConn} (hv : v.inbox = []) (hip : v.peerIp = s.tool.peerIp)
    (hsame : c.used = (s.bridge.conns front).used ∧ c.peerIp = (s.bridge.conns front).peerIp) (hstage : Stage v c) :
    Linked ⟨v, s.bridge.setConn front (readOut c)⟩ := by
  refine ⟨hf.setConn _, hv, ?_⟩
  show Phase v ((s.bridge.setConn front (readOut c)).conns front) (s.bridge.pendingAccepts frontPending)
  rw [setConn_front]
  refine .held (hsame.1.trans hc) hp (hsame.2.trans (hpeer.trans hip.symm)) rfl ?_
  cases hstage with
  | connected hest hdone hstate => exact .connected hest hdone hstate
  | awaiting hest hwait hisn hstate => exact .awaiting hest hwait hisn hstate

/-- A turn in which the connection answers what the endpoint answers, and nothing is delivered. -/
theorem settled_held_answer {c : VTcpConn} (htool : s.tool.onSegment i.isn (s.segment i) = (v, segs)) (hv : v.inbox = [])
    (hip : v.peerIp = s.tool.peerIp)
    (hreceive : (s.bridge.conns front).receive s.tool.ip (s.segment i) = (c, segs))
    (hsame : c.used = (s.bridge.conns front).used ∧ c.peerIp = (s.bridge.conns front).peerIp)
    (hread : c.inbox = ByteBuf.empty) (hm : s.Mirrored i) (hstage : Stage v c) : s.Settled i := by
  have hbridge := bridgeTurn_receive hf hc hp hpeer hreceive
  rw [hread] at hbridge
  exact settled_answer htool hv hbridge hm (linked_held hf hc hp hpeer hv hip hsame hstage)

/-- An acknowledgement with which the bridge does nothing settles the step if the endpoint does nothing either. -/
theorem settled_ack_quiet (hempty : (s.bridge.conns front).inbox = ByteBuf.empty)
    (hstage : Stage s.tool (s.bridge.conns front)) (hplain : (s.segment i).PlainAck)
    (htaken : ¬ (Next (s.bridge.conns front) (s.segment i) ∧ i.payload.length ≤ vtcpInboxCap))
    (htool : s.tool.onSegment i.isn (s.segment i) = (v, [])) (hv : v.inbox = []) (hip : v.peerIp = s.tool.peerIp)
    (hstate : v.state = s.tool.state) (htheirs : v.theirSeq = s.tool.theirSeq) (hisn : v.ourIsn = s.tool.ourIsn)
    (hm : s.Mirrored i) : s.Settled i := by
  obtain ⟨c, hreceive, hsame, hread, htheir⟩ := handleAck_skip s.tool.ip htaken
  rw [← receive_ack s.tool.ip hplain] at hreceive
  refine settled_held_answer hf hc hp hpeer htool hv hip hreceive ⟨hsame.used, hsame.peerIp⟩ (hread.trans hempty) hm ?_
  cases hstage with
  | connected hest hdone hst =>
    refine .connected (hsame.established.trans hest) (hsame.synSentAwaitingSynack.trans hdone) ?_
    rw [hstate, htheirs, htheir]
    exact hst
  | awaiting hest hwait hisn' hst =>
    refine .awaiting (hsame.established.trans hest) (hsame.synSentAwaitingSynack.trans hwait) ?_ (hstate ▸ hst)
    rw [hisn, hisn', hsame.ourIsn]

variable (hinbox : s.tool.inbox = []) (hempty : (s.bridge.conns front).inbox = ByteBuf.empty)

include hinbox hempty

/-- **A SYN-ACK completes the handshake at both ends, or at neither**, as long as the endpoint has not closed. -/
theorem settled_synAck (hstage : Stage s.tool (s.bridge.conns front)) (hrst : (s.segment i).isRst = false)
    (hsyn : (s.segment i).isSyn = true) (hack : (s.segment i).isAck = true)
    (hk : segmentKind (s.segment i) = .synAck) : s.Settled i := by
  have hconn := peer_held hf hc hpeer
  have htool := onSegment_synAck s.tool i.isn hrst hsyn hack
  have hreceive : (s.bridge.conns front).receive s.tool.ip (s.segment i) =
      (s.bridge.conns front).handleSynAck s.tool.ip (s.segment i) := by
    simp [VTcpConn.receive, hrst, hsyn, hack]
  have hm : s.Mirrored i ↔ ((s.bridge.conns front).synSentAwaitingSynack = true →
      (s.segment i).ack = (s.bridge.conns front).ourIsn + 1 → s.tool.state = .synSent) := by
    rw [Mirrored, hk, hconn]
    simp [segment]
  by_cases hdone : (s.bridge.conns front).synSentAwaitingSynack = true ∧
      (s.segment i).ack = (s.bridge.conns front).ourIsn + 1
  · -- the bridge's handshake is done
    rw [VTcpConn.handleSynAck, if_pos (by simp [hdone.1, hdone.2])] at hreceive
    cases hstage with
    | connected _ hno _ =>
      rw [hno] at hdone
      cases hdone.1
    | awaiting hest hwait hisn hstate =>
      rcases hstate with hsent | hclosed
      · rw [if_pos ⟨hsent, by rw [hisn]; exact hdone.2⟩, hisn] at htool
        exact settled_held_answer hf hc hp hpeer htool hinbox rfl hreceive ⟨rfl, rfl⟩ hempty
          (hm.2 fun _ _ => hsent) (.connected rfl rfl (Or.inl ⟨rfl, rfl⟩))
      · rw [if_neg (by simp [hclosed])] at htool
        refine settled_differ htool (bridgeTurn_receive hf hc hp hpeer hreceive) rfl (by simp) ?_
        rw [hm, hclosed]
        exact fun h => absurd (h hdone.1 hdone.2) (by decide)
  · rw [VTcpConn.handleSynAck, if_neg (by simpa using hdone)] at hreceive
    rw [if_neg] at htool
    · exact settled_held_answer hf hc hp hpeer htool hinbox rfl hreceive ⟨rfl, rfl⟩ hempty
        (hm.2 fun hw ha => absurd ⟨hw, ha⟩ hdone) hstage
    · rintro ⟨hsent, heq⟩
      cases hstage with
      | connected _ _ hstate => rcases hstate with ⟨h, -⟩ | h <;> simp [h] at hsent
      | awaiting _ hwait hisn _ => exact hdone ⟨hwait, hisn ▸ heq⟩

section Ack

variable (hstage : Stage s.tool (s.bridge.conns front)) (hplain : (s.segment i).PlainAck)
  (hk : segmentKind (s.segment i) = .ack)

include hstage hplain hk

/-- **A payload that the bridge takes** is taken by an endpoint in the same stage, under its own sequence number. -/
theorem settled_ack_taken (hnext : Next (s.bridge.conns front) (s.segment i)) (hlen : i.payload.length ≤ vtcpInboxCap) :
    s.Settled i := by
  have htool := onSegment_ack s.tool i.isn hplain
  obtain ⟨c, hreceive, hsame, hbytes, htheir⟩ := handleAck_next s.tool.ip hnext hlen hempty
  rw [← receive_ack s.tool.ip hplain] at hreceive
  have hbridge := bridgeTurn_receive hf hc hp hpeer hreceive
  have hm : s.Mirrored i ↔ s.tool.state = .established ∧ s.tool.ackedSeq i.ack = (s.bridge.conns front).ourSeq := by
    rw [mirrored_ack hf hc hpeer hk, if_pos hlen]
    exact ⟨fun h => h hnext, fun h _ => h⟩
  cases hstage with
  | awaiting hest _ _ _ => exact absurd (hest.symm.trans hnext.1) (by decide)
  | connected hest hdone hstate =>
    rcases hstate with ⟨hopen, htheirs⟩ | hclosed
    · have hpayload : ¬ (s.segment i).payload.length = 0 := fun h => hnext.2.2 (List.length_eq_zero_iff.1 h)
      rw [if_neg (by simp [hopen]), if_neg (not_not.2 hopen), VTcp.onAck, if_neg hpayload,
        if_pos (hnext.2.1.trans htheirs.symm), htheirs] at htool
      by_cases hseq : s.tool.ackedSeq i.ack = (s.bridge.conns front).ourSeq
      · have hw : (⟨[(s.segment i).reply s.tool.ip (s.bridge.conns front).ourSeq
            ((s.bridge.conns front).theirSeq + seqLen (s.segment i).payload) TCP_ACK], c.inbox.bytes⟩ : Shown) =
            ⟨[s.tool.segment (s.tool.ackedSeq (s.segment i).ack)
              ((s.bridge.conns front).theirSeq + seqLen (s.segment i).payload) TCP_ACK],
              (s.tool.inbox ++ [(s.segment i).payload]).headD []⟩ := by
          rw [hbytes, hinbox, ← hseq]
          rfl
        refine settled_same htool hbridge hw (hm.2 ⟨hopen, hseq⟩) (linked_held hf hc hp hpeer ?_ rfl
          ⟨hsame.used, hsame.peerIp⟩ ?_)
        · show (s.tool.inbox ++ [(s.segment i).payload]).tail = []
          rw [hinbox]
          rfl
        · exact .connected (hsame.established.trans hest) (hsame.synSentAwaitingSynack.trans hdone)
            (Or.inl ⟨hopen, htheir.symm⟩)
      · refine settled_differ htool hbridge rfl (fun heq => hseq ?_) (fun h => hseq (hm.1 h).2)
        exact congrArg Segment.seq (List.cons.inj heq).1
    · rw [if_neg (by simp [hclosed]), if_pos (by simp [hclosed])] at htool
      refine settled_differ htool hbridge rfl (by simp) fun h => ?_
      rw [hm, hclosed] at h
      cases h.1

/-- **A payload that the bridge does not take** is taken by an open endpoint only if it is the next one and too large. -/
theorem settled_ack_skipped (htaken : ¬ (Next (s.bridge.conns front) (s.segment i) ∧ i.payload.length ≤ vtcpInboxCap)) :
    s.Settled i := by
  have hquiet := fun v => settled_ack_quiet (v := v) hf hc hp hpeer hempty hstage hplain htaken
  have hm := mirrored_ack hf hc hpeer hk
  have hclosed : s.tool.state ≠ .synRcvd → s.tool.state ≠ .established → s.Settled i := by
    intro hrcvd hest
    refine hquiet s.tool (onSegment_ack_idle s.tool i.isn hplain hrcvd hest) hinbox rfl rfl rfl rfl (hm.2 fun hnext => ?_)
    rw [if_neg fun hlen => htaken ⟨hnext, hlen⟩]
    exact hest
  cases hstage with
  | awaiting _ _ _ hstate => rcases hstate with h | h <;> exact hclosed (by simp [h]) (by simp [h])
  | connected hest hdone hstate =>
    rcases hstate with ⟨hopen, htheirs⟩ | h
    swap
    · exact hclosed (by simp [h]) (by simp [h])
    have htool := onSegment_ack s.tool i.isn hplain
    rw [if_neg (by simp [hopen]), if_neg (not_not.2 hopen), VTcp.onAck] at htool
    by_cases hnext : Next (s.bridge.conns front) (s.segment i)
    · -- only the endpoint takes the payload
      obtain ⟨c, hreceive, -⟩ := handleAck_skip s.tool.ip htaken
      rw [← receive_ack s.tool.ip hplain] at hreceive
      have hpayload : ¬ (s.segment i).payload.length = 0 := fun h => hnext.2.2 (List.length_eq_zero_iff.1 h)
      rw [if_neg hpayload, if_pos (hnext.2.1.trans htheirs.symm)] at htool
      refine settled_differ htool (bridgeTurn_receive hf hc hp hpeer hreceive) rfl (by simp) fun h => ?_
      have hclose := hm.1 h hnext
      rw [if_neg fun hlen => htaken ⟨hnext, hlen⟩] at hclose
      exact hclose hopen
    · have hmirrored : s.Mirrored i := hm.2 fun h => absurd h hnext
      by_cases hpayload : (s.segment i).payload.length = 0
      · rw [if_pos hpayload] at htool
        exact hquiet _ htool hinbox rfl rfl rfl rfl hmirrored
      · rw [if_neg hpayload, if_neg] at htool
        · exact hquiet _ htool hinbox rfl rfl rfl rfl hmirrored
        · intro hseq
          exact hnext ⟨hest, hseq.trans htheirs, fun hnil => hpayload (by rw [hnil]; rfl)⟩

/-- **A next payload is taken by both ends under one sequence number, or by none.** -/
theorem settled_ack : s.Settled i := by
  by_cases htaken : Next (s.bridge.conns front) (s.segment i) ∧ i.payload.length ≤ vtcpInboxCap
  · exact settled_ack_taken hf hc hp hpeer hinbox hempty hstage hplain hk htaken.1 htaken.2
  · exact settled_ack_skipped hf hc hp hpeer hinbox hempty hstage hplain hk htaken

end Ack

theorem settled_held (hstage : Stage s.tool (s.bridge.conns front)) : s.Settled i := by
  have hconn := peer_held hf hc hpeer
  have hkind := isKind (s.segment i)
  generalize hk : segmentKind (s.segment i) = k at hkind
  cases hkind with
  | rst hrst =>
    have hreceive : (s.bridge.conns front).receive s.tool.ip (s.segment i) = ((s.bridge.conns front).handleRst, []) := by
      rw [VTcpConn.receive, if_pos hrst]
    refine settled_held_answer hf hc hp hpeer (onSegment_rst s.tool i.isn hrst) hinbox rfl hreceive ⟨rfl, rfl⟩ hempty ?_
      (hstage.closed rfl rfl ⟨rfl, rfl, rfl, rfl, rfl⟩)
    rw [Mirrored, hk]
    trivial
  | syn hsyn =>
    have hreceive : (s.bridge.conns front).receive s.tool.ip (s.segment i) = (s.bridge.conns front, []) := by
      simp [VTcpConn.receive, hsyn.no_rst, hsyn.syn, hsyn.no_ack]
    refine settled_differ (onSegment_syn s.tool i.isn hsyn) (bridgeTurn_receive hf hc hp hpeer hreceive) rfl (by simp) ?_
    rw [Mirrored, hk, hconn]
    simp
  | synAck hrst hsyn hack => exact settled_synAck hf hc hp hpeer hinbox hempty hstage hrst hsyn hack hk
  | fin hrst hsyn hfin =>
    have hreceive : (s.bridge.conns front).receive s.tool.ip (s.segment i) =
        (s.bridge.conns front).handleFin s.tool.ip (s.segment i) := by
      simp [VTcpConn.receive, hrst, hsyn, hfin]
    have hm : s.Mirrored i ↔ (s.bridge.conns front).ourSeq = s.tool.ourSeq := by
      rw [Mirrored, hk, hconn]
      simp
    by_cases hseq : (s.bridge.conns front).ourSeq = s.tool.ourSeq
    · rw [VTcpConn.handleFin, hseq] at hreceive
      exact settled_held_answer hf hc hp hpeer (onSegment_fin s.tool i.isn hrst hsyn hfin) hinbox rfl hreceive ⟨rfl, rfl⟩
        hempty (hm.2 hseq) (hstage.closed rfl rfl ⟨rfl, rfl, rfl, rfl, rfl⟩)
    · refine settled_differ (onSegment_fin s.tool i.isn hrst hsyn hfin) (bridgeTurn_receive hf hc hp hpeer hreceive) rfl ?_
        (fun h => hseq (hm.1 h))
      intro heq
      exact hseq (congrArg Segment.seq (List.cons.inj heq).1).symm
  | other hrst hsyn hfin hack =>
    have hreceive : (s.bridge.conns front).receive s.tool.ip (s.segment i) = (s.bridge.conns front, []) := by
      simp [VTcpConn.receive, hrst, hsyn, hfin, hack]
    refine settled_held_answer hf hc hp hpeer (onSegment_other s.tool i.isn hrst hsyn hfin hack) hinbox rfl hreceive ⟨rfl, rfl⟩
      hempty ?_ hstage
    rw [Mirrored, hk]
    trivial
  | ack hplain => exact settled_ack hf hc hp hpeer hinbox hempty hstage hplain hk

end Held

end Turns

/-! ## Runs -/

/-- **A linked step shows the same at both ends exactly if it is mirrored, and then keeps them linked.** -/
theorem Linked.settled {s : Ends} (h : s.Linked) (i : Incoming) : s.Settled i := by
  obtain ⟨hf, hinbox, hphase⟩ := h
  cases hphase with
  | idle hc hp hstate => exact settled_idle hf hinbox hc hp hstate
  | requested hc hp hpeer hgot hstate => exact settled_requested hf hinbox hc hp hpeer hgot hstate
  | held hc hp hpeer hempty hstage => exact settled_held hf hc hp hpeer hinbox hempty hstage

theorem Vacant.front {t : Slp.VTcp} (ht : Vacant t) : Front t := ⟨fun k _ => ht.conns k, fun k _ => ht.pending k⟩

theorem connect_vacant {t : Slp.VTcp} (ht : Vacant t) (localIp : UInt32) (fd : Int) (peerIp : UInt32) (peerPort : UInt16)
    (isn : UInt32) : t.connect true localIp fd peerIp peerPort isn =
      some (t.setConn Ldn.front (Slp.VTcp.connectingConn fd peerIp peerPort isn),
        Slp.VTcp.synSegment localIp peerIp peerPort isn) := by
  rw [Slp.VTcp.connect, alloc_front (ht.conns _)]
  rfl

theorem Started.linked {s : Ends} (h : Started s) : s.Linked := by
  cases h with
  | server ip peerIp peerPort ht => exact ⟨ht.front, rfl, .idle (ht.conns _) (ht.pending _) rfl⟩
  | client ip peerIp peerPort isn fd ht hconnect =>
    rw [connect_vacant ht] at hconnect
    cases hconnect
    refine ⟨ht.front.setConn _, rfl, ?_⟩
    show Phase _ ((Slp.VTcp.setConn _ Ldn.front _).conns Ldn.front) _
    rw [setConn_front]
    exact .held rfl (ht.pending _) rfl rfl (.awaiting rfl rfl rfl (Or.inl rfl))

/-- **The endpoint shows what the bridge shows at every step of exactly the runs in which every step is mirrored**, in either
role. -/
theorem mirrors_iff {s : Ends} (h : Started s) (ins : List Incoming) :
    Runs.AllOk step SameShown s ins ↔ Runs.AllOk step Mirrored s ins :=
  Runs.allOk_congr (P := Linked) (fun i _ _ hl => (hl.settled i).1) (fun i _ _ hl => (hl.settled i).2) h.linked

/-- A host at 10.13.200.77 that a console at 10.13.37.2 has yet to connect to. -/
def listening : Ends := ⟨{ ip := 0x0A0DC84D, peerIp := 0x0A0D2502, peerPort := 40000 }, { tcpListenFd := 5 }⟩

def peerSyn : Incoming := { seq := 100, ack := 0, flags := TCP_SYN, isn := 500 }

/-- A handshake, a payload, the same again, and a FIN. -/
def session : List Incoming :=
  [peerSyn, { seq := 101, ack := 501, flags := TCP_ACK },
    { seq := 101, ack := 501, flags := TCP_PSH ||| TCP_ACK, payload := [1, 2] },
    { seq := 101, ack := 501, flags := TCP_PSH ||| TCP_ACK, payload := [1, 2] },
    { seq := 103, ack := 501, flags := TCP_FIN ||| TCP_ACK }]

theorem mirrors_iff_session : Runs.AllOk step Mirrored listening session :=
  (mirrors_iff (.server 0x0A0DC84D 0x0A0D2502 40000 ⟨fun _ => rfl, fun _ => rfl⟩) session).1 (by decide +kernel)

/-- **A SYN that is sent again** is answered by the endpoint again, and not by the bridge. -/
theorem peerSyn_again : ¬ Runs.AllOk step SameShown listening [peerSyn, peerSyn] := by
  decide +kernel

end Ends

end Ldn
end Slp
