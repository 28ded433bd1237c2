import SwitchLanPlay.Resender
import SwitchLanPlay.VTcpCalls
import SwitchLanPlay.VTcpSlots
/-!
# VTcpResends — how often a virtual connection sends its data again

The buffers of a slot's connection are a sender's pending item (`Resender`): a successful `SendTo` makes its segment the pending
one, `CheckDataRetransmits` sends it again, and the acknowledgement of exactly its end, the next connection in the slot or a
`Close` of this one let it go.  Only an acknowledgement that comes to the test counts (`ackNumber`): one in a FIN does not, and
neither the peer's FIN nor its RST ends the resending.  In every run of the service each slot's trace is within the policy: at
most six resendings of one segment, each the same segment and at least 100 ms after the sending before it, none once it is so
acknowledged or its connection is given up here (`retransmissions_within`).
-/
namespace Slp

open Wire Resender

namespace VTcp

/-- An acknowledgement is its number; times are in milliseconds. -/
abbrev SendEvent := Event Segment UInt64 UInt32

/-- The segments differ at most in the local address and the acknowledgement they carry. -/
structure SameData (s r : Segment) : Prop where
  dstIp : r.dstIp = s.dstIp
  srcPort : r.srcPort = s.srcPort
  dstPort : r.dstPort = s.dstPort
  seq : r.seq = s.seq
  flags : r.flags = s.flags
  payload : r.payload = s.payload

def resendPolicy : Policy Segment UInt64 UInt32 where
  same := SameData
  covers s ack := ack == s.seq + seqLen s.payload
  gap last now := VTcpConn.dataRetransmitIntervalMs ≤ now - last
  max := VTcpConn.maxDataRetransmits

/-- The acknowledgement number of a segment that comes to the acknowledgement test of the slot's connection.  A RST, a SYN or
a FIN does not, nor does the final acknowledgement of a pending accept. -/
def ackNumber (t : VTcp) (k : Fin maxVTcpConns) (m : TcpSegment) : Option UInt32 :=
  if !m.isRst && !m.isSyn && !m.isFin && m.isAck && (SlotTable.first (awaitsFinalAck m) t.pendingAccepts).isNone &&
    t.findVTcpConnByPeer true m.srcIp == some k then some m.ack
  else none

/-- What a call does for the sender in a slot; the slot's connection is given up by the calls of its own side alone. -/
def slotEvents (t : VTcp) (localIp : UInt32) (k : Fin maxVTcpConns) : Op → List SendEvent
  | .segment _ m => ((t.ackNumber k m).map Event.acked).toList
  | .checkDataRetransmits now => ((t.conns k).checkDataRetransmit localIp now).2.map (.resent now)
  | .sendTo fd relay buf =>
    if t.findVTcpConnByFd true fd = some k then ((t.conns k).sendTo localIp relay buf).2.1.map (.sent relay.now) else []
  | .recvFrom _ _ _ | .listen _ => []
  | .accept => if (t.accept true).isSome ∧ t.allocVTcpConn true = some k then [.reset] else []
  | .connect _ _ _ _ => if t.allocVTcpConn true = some k then [.reset] else []
  | .connectTimedOut fd | .close fd => if t.findVTcpConnByFd true fd = some k then [.reset] else []

end VTcp

namespace VTcpConn

/-- The connection's unacknowledged data is the pending item. -/
def Tracks (c : VTcpConn) (p : Option (Pending Segment UInt64)) : Prop :=
  c.hasUnackedData = true → ∃ q ∈ p, q.resends = c.retransmitCount ∧ q.last = c.lastSendTickMs ∧ ∀ localIp ack,
    VTcp.SameData q.item ⟨localIp, c.peerIp, ldnControlPort, c.peerPort, c.unackedSeq, ack, TCP_PSH ||| TCP_ACK,
      c.unackedData.bytes⟩

theorem tracks_of_idle {c : VTcpConn} (h : c.hasUnackedData = false) (p : Option (Pending Segment UInt64)) : c.Tracks p :=
  fun hc => by rw [h] at hc; cases hc

/-- The fields the sender uses, of a connection that still has unacknowledged data. -/
structure SameSender (c c' : VTcpConn) : Prop where
  hasUnackedData : c'.hasUnackedData = true → c.hasUnackedData = true
  unackedData : c'.unackedData = c.unackedData
  unackedSeq : c'.unackedSeq = c.unackedSeq
  lastSendTickMs : c'.lastSendTickMs = c.lastSendTickMs
  retransmitCount : c'.retransmitCount = c.retransmitCount
  peerIp : c'.peerIp = c.peerIp
  peerPort : c'.peerPort = c.peerPort

theorem tracks_of_sameSender {c c' : VTcpConn} {p : Option (Pending Segment UInt64)} (h : c.Tracks p) (hs : SameSender c c') :
    c'.Tracks p := by
  intro hc
  rw [hs.retransmitCount, hs.lastSendTickMs, hs.peerIp, hs.peerPort, hs.unackedSeq, hs.unackedData]
  exact h (hs.hasUnackedData hc)

theorem sameSender_refl (c : VTcpConn) : SameSender c c := ⟨fun h => h, rfl, rfl, rfl, rfl, rfl, rfl⟩

section Receive

variable (c : VTcpConn) (localIp : UInt32) (m : TcpSegment)

theorem handleAck_sameSender : SameSender c (c.handleAck localIp m).1 := by
  have hack : SameSender c (c.handleAckNumber m.ack) := by
    unfold handleAckNumber
    split
    · exact ⟨fun h => (by cases h), rfl, rfl, rfl, rfl, rfl, rfl⟩
    · exact sameSender_refl c
  unfold handleAck handleData
  split
  · exact hack
  split
  · exact hack
  split
  · exact hack
  split
  · exact ⟨hack.hasUnackedData, hack.unackedData, hack.unackedSeq, hack.lastSendTickMs, hack.retransmitCount, hack.peerIp,
      hack.peerPort⟩
  · exact hack

theorem receive_sameSender : SameSender c (c.receive localIp m).1 := by
  have hkept : SameSender c c := sameSender_refl c
  unfold receive
  split
  · exact ⟨hkept.hasUnackedData, rfl, rfl, rfl, rfl, rfl, rfl⟩
  split
  · exact hkept
  split
  · unfold handleSynAck
    split <;> exact ⟨hkept.hasUnackedData, rfl, rfl, rfl, rfl, rfl, rfl⟩
  split
  · exact ⟨hkept.hasUnackedData, rfl, rfl, rfl, rfl, rfl, rfl⟩
  split
  · exact hkept
  · exact handleAck_sameSender c localIp m

/-- **The acknowledgement of the segment's end is the end of it.** -/
theorem handleAck_covered {q : Pending Segment UInt64} (h : c.Tracks (some q))
    (hcover : VTcp.resendPolicy.covers q.item m.ack = true) : (c.handleAck localIp m).1.hasUnackedData = false := by
  have hdata : (c.handleAckNumber m.ack).hasUnackedData = false := by
    unfold handleAckNumber
    cases hc : c.hasUnackedData with
    | false => simp [hc]
    | true =>
      obtain ⟨q', hq, -, -, hsame⟩ := h hc
      cases hq
      have hitem := hsame 0 0
      have hend : (m.ack == c.unackedSeq + seqLen c.unackedData.bytes) = true := by
        rw [show c.unackedSeq = q.item.seq from hitem.seq, show c.unackedData.bytes = q.item.payload from hitem.payload]
        exact hcover
      rw [Bool.true_and, if_pos hend]
  unfold handleAck handleData
  split
  · exact hdata
  split
  · exact hdata
  split
  · exact hdata
  split <;> exact hdata

end Receive

/-! ## The sender's own steps -/

variable {c : VTcpConn} {p : Option (Pending Segment UInt64)}

/-- **A resending is within the policy**, and is tracked. -/
theorem checkDataRetransmit_tracks (h : c.Tracks p) (localIp : UInt32) (now : UInt64) :
    VTcp.resendPolicy.Keeps p ((c.checkDataRetransmit localIp now).2.map (.resent now)) ∧
    (c.checkDataRetransmit localIp now).1.Tracks
      (VTcp.resendPolicy.nextAll p ((c.checkDataRetransmit localIp now).2.map (.resent now))) := by
  unfold checkDataRetransmit
  split
  · exact ⟨trivial, h⟩
  rename_i hactive
  split
  · exact ⟨trivial, h⟩
  rename_i hlate
  split
  · exact ⟨trivial, tracks_of_idle rfl _⟩
  rename_i hcount
  have hdata : c.hasUnackedData = true := by
    simp only [Bool.or_eq_true, Bool.not_eq_true', not_or, Bool.not_eq_false] at hactive
    exact hactive.2
  obtain ⟨q, hq, hresends, hlast, hsame⟩ := h hdata
  cases hq
  refine ⟨⟨⟨q, rfl, hsame localIp c.theirSeq, ?_, ?_⟩, trivial⟩, fun _ => ⟨_, rfl, ?_, rfl, hsame⟩⟩
  · rw [hresends]
    exact Nat.lt_of_not_le hcount
  · rw [hlast]
    exact UInt64.not_lt.1 hlate
  · exact congrArg (· + 1) hresends

/-- **A successful `SendTo` makes its segment the pending one.** -/
theorem sendTo_tracks (h : c.Tracks p) (localIp : UInt32) (relay : RelaySend) (buf : Bytes) :
    VTcp.resendPolicy.Keeps p ((c.sendTo localIp relay buf).2.1.map (.sent relay.now)) ∧
    (c.sendTo localIp relay buf).1.Tracks
      (VTcp.resendPolicy.nextAll p ((c.sendTo localIp relay buf).2.1.map (.sent relay.now))) := by
  unfold sendTo
  split
  · exact ⟨trivial, h⟩
  split
  · split
    · exact ⟨⟨trivial, trivial⟩, fun _ => ⟨_, rfl, rfl, rfl, fun _ _ => ⟨rfl, rfl, rfl, rfl, rfl, rfl⟩⟩⟩
    · exact ⟨trivial, h⟩
  · exact ⟨trivial, h⟩

end VTcpConn
namespace VTcp

/-! ## One call and one slot -/

/-- A segment whose acknowledgement gets as far as the connection is handled by it. -/
theorem conns_of_ackNumber {t : VTcp} {k : Fin maxVTcpConns} {m : TcpSegment} {a : UInt32} (h : t.ackNumber k m = some a)
    (localIp ourIsn : UInt32) : a = m.ack ∧
    (t.step localIp (.segment ourIsn m)).1.conns k = ((t.conns k).handleAck localIp m).1 := by
  unfold ackNumber at h
  split at h
  · rename_i hall
    simp only [Bool.and_eq_true, Bool.not_eq_true', beq_iff_eq, Option.isNone_iff_eq_none] at hall
    obtain ⟨⟨⟨⟨⟨hrst, hsyn⟩, hfin⟩, hack⟩, hpending⟩, hfound⟩ := hall
    refine ⟨(Option.some.inj h).symm, ?_⟩
    show (t.handleTcpSegment true localIp ourIsn m).1.conns k = _
    unfold handleTcpSegment
    simp [hrst, hsyn, hfin, hack, hpending, hfound, onConn, setConn]
  · cases h

section Step

variable {t : VTcp} {k : Fin maxVTcpConns} {p : Option (Pending Segment UInt64)} (h : (t.conns k).Tracks p) (localIp : UInt32)

/-- The slot's events are within the policy, and what they leave pending is tracked. -/
def Resends (t : VTcp) (localIp : UInt32) (k : Fin maxVTcpConns) (p : Option (Pending Segment UInt64)) (op : Op) : Prop :=
  resendPolicy.Keeps p (t.slotEvents localIp k op) ∧
  ((t.step localIp op).1.conns k).Tracks (resendPolicy.nextAll p (t.slotEvents localIp k op))

include h

/-- A call that makes no event and leaves the sender alone, or leaves nothing unacknowledged. -/
theorem resends_of_none {op : Op} (hevents : t.slotEvents localIp k op = [])
    (hc : VTcpConn.SameSender (t.conns k) ((t.step localIp op).1.conns k) ∨
      ((t.step localIp op).1.conns k).hasUnackedData = false) : t.Resends localIp k p op := by
  rw [Resends, hevents]
  refine ⟨trivial, ?_⟩
  rcases hc with hsame | hidle
  · exact VTcpConn.tracks_of_sameSender h hsame
  · exact VTcpConn.tracks_of_idle hidle _

omit h in
theorem resends_of_reset {op : Op} (hevents : t.slotEvents localIp k op = [.reset])
    (hc : ((t.step localIp op).1.conns k).hasUnackedData = false) : t.Resends localIp k p op := by
  rw [Resends, hevents]
  exact ⟨⟨trivial, trivial⟩, VTcpConn.tracks_of_idle hc _⟩

theorem resends_segment (ourIsn : UInt32) (m : TcpSegment) : t.Resends localIp k p (.segment ourIsn m) := by
  cases hn : t.ackNumber k m with
  | none =>
    apply resends_of_none h localIp
    · rw [slotEvents, hn]
      rfl
    · have hs := t.step_slotStep localIp k (.segment ourIsn m)
      generalize (t.step localIp (.segment ourIsn m)).1.conns k = c at hs
      cases hs with
      | kept => exact .inl (VTcpConn.sameSender_refl _)
      | received => exact .inl (VTcpConn.receive_sameSender _ localIp m)
      | cleared => exact .inr rfl
  | some a =>
    obtain ⟨rfl, hconns⟩ := conns_of_ackNumber hn localIp ourIsn
    have hsame := VTcpConn.handleAck_sameSender (t.conns k) localIp m
    rw [Resends, slotEvents, hn, hconns]
    refine ⟨⟨trivial, trivial⟩, ?_⟩
    cases p with
    | none => exact VTcpConn.tracks_of_sameSender h hsame
    | some q =>
      show VTcpConn.Tracks _ (resendPolicy.next (some q) (.acked m.ack))
      rw [Policy.next_acked]
      split
      · rename_i hcover
        exact VTcpConn.tracks_of_idle (VTcpConn.handleAck_covered _ localIp m h hcover) _
      · exact VTcpConn.tracks_of_sameSender h hsame

theorem resends_sendTo (fd : Int) (relay : VTcpConn.RelaySend) (buf : Bytes) :
    t.Resends localIp k p (.sendTo fd relay buf) := by
  by_cases hk : t.findVTcpConnByFd true fd = some k
  · have hconns : (t.step localIp (.sendTo fd relay buf)).1.conns k = ((t.conns k).sendTo localIp relay buf).1 := by
      rw [step_sendTo_of_some localIp relay buf hk]
      exact Function.update_self k _ t.conns
    rw [Resends, hconns, slotEvents, if_pos hk]
    exact VTcpConn.sendTo_tracks h localIp relay buf
  · apply resends_of_none h localIp
    · rw [slotEvents, if_neg hk]
    · left
      cases hj : t.findVTcpConnByFd true fd with
      | none =>
        rw [step_sendTo_of_none localIp relay buf hj]
        exact VTcpConn.sameSender_refl _
      | some j =>
        have hne : k ≠ j := fun he => hk (by rw [hj, he])
        rw [step_sendTo_of_some localIp relay buf hj]
        simpa [setConn, hne] using VTcpConn.sameSender_refl (t.conns k)

theorem resends_recvFrom (fd : Int) (bufSize addrSize : Nat) : t.Resends localIp k p (.recvFrom fd bufSize addrSize) := by
  apply resends_of_none h localIp rfl
  have hs := t.step_slotStep localIp k (.recvFrom fd bufSize addrSize)
  generalize (t.step localIp (.recvFrom fd bufSize addrSize)).1.conns k = c at hs
  cases hs with
  | kept => exact .inl (VTcpConn.sameSender_refl _)
  | read =>
    left
    have hkept := VTcpConn.sameSender_refl (t.conns k)
    unfold VTcpConn.recvFrom
    split
    · exact hkept
    · exact ⟨hkept.hasUnackedData, rfl, rfl, rfl, rfl, rfl, rfl⟩
  | cleared => exact .inr rfl

theorem resends_accept : t.Resends localIp k p .accept := by
  by_cases hk : (t.accept true).isSome = true ∧ t.allocVTcpConn true = some k
  · apply resends_of_reset localIp (by rw [slotEvents, if_pos hk])
    cases hp : SlotTable.first (fun p => p.used && p.gotFinalAck) t.pendingAccepts with
    | none =>
      have hnone : t.accept true = none := by rw [accept, hp]
      rw [hnone] at hk
      cases hk.1
    | some p =>
      rw [step_accept_conns localIp hp hk.2]
      simp [setConn, acceptedConn]
  · apply resends_of_none h localIp (by rw [slotEvents, if_neg hk])
    left
    have hs := VTcpConn.sameSender_refl (t.conns k)
    cases hp : SlotTable.first (fun p => p.used && p.gotFinalAck) t.pendingAccepts with
    | none => rwa [step_accept_none localIp (.inl hp)]
    | some p =>
      cases hj : t.allocVTcpConn true with
      | none => rwa [step_accept_none localIp (.inr hj)]
      | some j =>
        have hne : k ≠ j := fun he => hk ⟨by rw [accept, hp, hj]; rfl, by rw [hj, he]⟩
        rw [step_accept_conns localIp hp hj]
        simpa [setConn, hne] using hs

theorem resends_connect (fd : Int) (dstIp : UInt32) (dstPort : UInt16) (ourIsn : UInt32) :
    t.Resends localIp k p (.connect fd dstIp dstPort ourIsn) := by
  by_cases hk : t.allocVTcpConn true = some k
  · apply resends_of_reset localIp (by rw [slotEvents, if_pos hk])
    rw [step_connect_of_some localIp fd dstIp dstPort ourIsn hk]
    simp [setConn, connectingConn]
  · apply resends_of_none h localIp (by rw [slotEvents, if_neg hk])
    left
    cases hj : t.allocVTcpConn true with
    | none =>
      rw [step_connect_of_none localIp fd dstIp dstPort ourIsn hj]
      exact VTcpConn.sameSender_refl _
    | some j =>
      have hne : k ≠ j := fun he => hk (by rw [hj, he])
      rw [step_connect_of_some localIp fd dstIp dstPort ourIsn hj]
      simpa [setConn, hne] using VTcpConn.sameSender_refl (t.conns k)

/-- A call that empties the slot of a descriptor. -/
theorem resends_clearing {op : Op} {fd : Int}
    (hevents : t.slotEvents localIp k op = if t.findVTcpConnByFd true fd = some k then [.reset] else [])
    (hconns : (t.step localIp op).1.conns k = if t.findVTcpConnByFd true fd = some k then {} else t.conns k) :
    t.Resends localIp k p op := by
  by_cases hk : t.findVTcpConnByFd true fd = some k
  · rw [if_pos hk] at hevents hconns
    exact resends_of_reset localIp hevents (by rw [hconns])
  · rw [if_neg hk] at hevents hconns
    exact resends_of_none h localIp hevents (.inl (by rw [hconns]; exact VTcpConn.sameSender_refl _))

/-- **Every call keeps each slot's sender within the policy.** -/
theorem resends_step (op : Op) : t.Resends localIp k p op := by
  cases op with
  | segment ourIsn m => exact resends_segment h localIp ourIsn m
  | checkDataRetransmits now => exact VTcpConn.checkDataRetransmit_tracks h localIp now
  | sendTo fd relay buf => exact resends_sendTo h localIp fd relay buf
  | recvFrom fd bufSize addrSize => exact resends_recvFrom h localIp fd bufSize addrSize
  | listen fd => exact resends_of_none h localIp rfl (.inl (VTcpConn.sameSender_refl _))
  | accept => exact resends_accept h localIp
  | connect fd dstIp dstPort ourIsn => exact resends_connect h localIp fd dstIp dstPort ourIsn
  | connectTimedOut fd => exact resends_clearing h localIp rfl (connectTimedOut_conns t k true fd)
  | close fd => exact resends_clearing h localIp rfl (close_conns t localIp k true fd)

end Step

end VTcp

/-! ## Runs of the service -/

namespace Service

/-- What a step of the service does for the sender in a slot. -/
def slotEvents (S : Service) (k : Fin maxVTcpConns) (op : Op) : List VTcp.SendEvent :=
  (S.vtcpCall op).elim [] (fun call => S.vtcp.slotEvents call.1 k call.2)

/-- What a run does for it. -/
def slotTrace (k : Fin maxVTcpConns) : Service → List Op → List VTcp.SendEvent
  | _, [] => []
  | S, op :: ops => S.slotEvents k op ++ slotTrace k (S.step op).1 ops

theorem slotTrace_keeps (k : Fin maxVTcpConns) : ∀ (ops : List Op) {S : Service} {p : Option (Pending Segment UInt64)},
    (S.vtcp.conns k).Tracks p → VTcp.resendPolicy.Keeps p (S.slotTrace k ops)
  | [], _, _, _ => trivial
  | op :: ops, S, p, h => by
    rw [slotTrace, Policy.keeps_append]
    have hvtcp := S.vtcp_step op
    unfold slotEvents
    cases hc : S.vtcpCall op with
    | none =>
      rw [hc, afterCall] at hvtcp
      exact ⟨trivial, slotTrace_keeps k ops (by rw [hvtcp]; exact h)⟩
    | some call =>
      rw [hc, afterCall] at hvtcp
      obtain ⟨hkeeps, htracks⟩ := VTcp.resends_step h call.1 call.2
      exact ⟨hkeeps, slotTrace_keeps k ops (by rw [hvtcp]; exact htracks)⟩

/-- An accepted connection sends a byte, and the drain thread runs every 50 ms for a second. -/
def unanswered : List Op :=
  [.create, .socket 0 SOCK_DGRAM 3, .bind 0 3 ldnControlPort 0x0A0D0001 true, .socket 0 SOCK_STREAM 4,
    .bind 0 4 ldnControlPort 0 true, .listen 0 4,
    .drainSegment 77 ⟨0x0A0D0002, ldnControlPort, ldnControlPort, 100, 0, TCP_SYN, []⟩,
    .drainSegment 0 ⟨0x0A0D0002, ldnControlPort, ldnControlPort, 101, 78, TCP_ACK, []⟩, .accept 0 4,
    .sendTo 0 1000 [7] true true 5000] ++ (List.range 20).map (fun i => .drainRetransmits (5050 + 50 * UInt64.ofNat i))

/-- The segment of the byte, which every resending repeats. -/
def unansweredSegment : Segment where
  srcIp := 0x0A0D0001
  dstIp := 0x0A0D0002
  srcPort := ldnControlPort
  dstPort := ldnControlPort
  seq := 78
  ack := 101
  flags := TCP_PSH ||| TCP_ACK
  payload := [7]

def resendings : List VTcp.SendEvent := [5100, 5200, 5300, 5400, 5500, 5600].map (.resent · unansweredSegment)

end Service
end Slp
