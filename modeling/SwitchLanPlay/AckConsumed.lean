import SwitchLanPlay.Forwarding
import SwitchLanPlay.VTcpCalls
import SwitchLanPlay.VTcpSender
/-!
# AckConsumed — the acknowledgement of the pending segment, on whatever segment carries it

`HandleTcpSegment` tests the acknowledgement number after four early returns.  In every reachable state the pending segment of
an established connection ends at `our_seq` (`reachable_numbered`), and what `CheckDataRetransmits` sends in a run was
accepted by `SendTo` in it or pending at its start (`resendsOnly_of_pending`).
An acknowledgement that covers the pending segment stops its retransmission for good exactly when it reaches the test
(`ack_consumed_iff`): a FIN does not (`fin_keeps_resending`).
-/
namespace Slp

open Wire SeqSpace

namespace VTcpConn

/-- A segment of the connection's peer whose acknowledgement number covers the pending segment. -/
structure Acknowledges (m : TcpSegment) (c : VTcpConn) : Prop where
  established : c.established = true
  pending : c.hasUnackedData = true
  peer : m.srcIp = c.peerIp
  ack : m.isAck = true
  no_rst : m.isRst = false
  no_syn : m.isSyn = false
  covers : seqLen c.unackedData.bytes ≤ m.ack - c.unackedSeq
  sent : m.ack - c.unackedSeq ≤ c.ourSeq - c.unackedSeq

/-- The handshake is behind an established connection, and its pending segment is the last one numbered. -/
structure Numbered (c : VTcpConn) : Prop where
  done : c.established = true → c.synSentAwaitingSynack = false
  established : c.hasUnackedData = true → c.established = true
  last : c.hasUnackedData = true → c.ourSeq = c.unackedSeq + seqLen c.unackedData.bytes

/-- The pending segment is among these. -/
def PendingIn (sent : List (UInt32 × Bytes)) (c : VTcpConn) : Prop :=
  c.hasUnackedData = true → (c.unackedSeq, c.unackedData.bytes) ∈ sent

/-- A change that sends nothing new: the pending segment stays, or is dropped. -/
structure SendsNothing (c c' : VTcpConn) : Prop where
  pending : c'.hasUnackedData = true → c.hasUnackedData = true
  seq : c'.unackedSeq = c.unackedSeq
  data : c'.unackedData = c.unackedData

/-- A change that leaves the handshake and the numbering alone as well. -/
structure KeepsNumbers (c c' : VTcpConn) : Prop extends SendsNothing c c' where
  handshake : c'.established = c.established ∧ c'.synSentAwaitingSynack = c.synSentAwaitingSynack
  ourSeq : c'.ourSeq = c.ourSeq

section Steps

variable {c c' : VTcpConn} {sent : List (UInt32 × Bytes)} (localIp : UInt32)

theorem KeepsNumbers.refl (c : VTcpConn) : KeepsNumbers c c := ⟨⟨id, rfl, rfl⟩, ⟨rfl, rfl⟩, rfl⟩

theorem numbered_of_idle (hdone : c.established = true → c.synSentAwaitingSynack = false)
    (hidle : c.hasUnackedData = false) : c.Numbered where
  done := hdone
  established := fun hp => by rw [hidle] at hp; cases hp
  last := fun hp => by rw [hidle] at hp; cases hp

theorem KeepsNumbers.numbered (h : KeepsNumbers c c') (hc : c.Numbered) : c'.Numbered where
  done := by
    rw [h.handshake.1, h.handshake.2]
    exact hc.done
  established := fun hp => by
    rw [h.handshake.1]
    exact hc.established (h.pending hp)
  last := fun hp => by
    rw [h.ourSeq, h.seq, h.data]
    exact hc.last (h.pending hp)

theorem SendsNothing.pendingIn (h : SendsNothing c c') (hc : c.PendingIn sent) : c'.PendingIn sent := fun hp => by
  rw [h.seq, h.data]
  exact hc (h.pending hp)

theorem pendingIn_mono {more : List (UInt32 × Bytes)} (hsub : sent ⊆ more) (hc : c.PendingIn sent) : c.PendingIn more :=
  fun hp => hsub (hc hp)

theorem handleAckNumber_keepsNumbers (c : VTcpConn) (ack : UInt32) : KeepsNumbers c (c.handleAckNumber ack) := by
  unfold handleAckNumber
  split
  · exact ⟨⟨fun hp => (by cases hp), rfl, rfl⟩, ⟨rfl, rfl⟩, rfl⟩
  · exact .refl c

theorem handleData_sender (c : VTcpConn) (m : TcpSegment) : (c.handleData localIp m).1.hasUnackedData = c.hasUnackedData ∧
    KeepsNumbers c (c.handleData localIp m).1 := by
  unfold handleData
  split
  · exact ⟨rfl, .refl c⟩
  split
  · exact ⟨rfl, .refl c⟩
  split
  · exact ⟨rfl, .refl c⟩
  split
  · exact ⟨rfl, ⟨id, rfl, rfl⟩, ⟨rfl, rfl⟩, rfl⟩
  · exact ⟨rfl, .refl c⟩

theorem KeepsNumbers.trans {c'' : VTcpConn} (h : KeepsNumbers c c') (h' : KeepsNumbers c' c'') : KeepsNumbers c c'' where
  pending := fun hp => h.pending (h'.pending hp)
  seq := h'.seq.trans h.seq
  data := h'.data.trans h.data
  handshake := ⟨h'.handshake.1.trans h.handshake.1, h'.handshake.2.trans h.handshake.2⟩
  ourSeq := h'.ourSeq.trans h.ourSeq

/-- **A segment sends nothing new and keeps the numbering, the handshake's own segment too.** -/
theorem receive_numbered (hc : c.Numbered) (m : TcpSegment) :
    SendsNothing c (c.receive localIp m).1 ∧ (c.receive localIp m).1.Numbered := by
  have hkeep : ∀ {d : VTcpConn}, KeepsNumbers c d → SendsNothing c d ∧ d.Numbered :=
    fun h => ⟨h.toSendsNothing, h.numbered hc⟩
  unfold receive
  split
  · exact hkeep ⟨⟨id, rfl, rfl⟩, ⟨rfl, rfl⟩, rfl⟩
  split
  · exact hkeep (.refl c)
  split
  · unfold handleSynAck
    split
    · rename_i hsyn
      rw [Bool.and_eq_true] at hsyn
      have hidle : c.hasUnackedData = false := by
        by_contra hp
        rw [hc.done (hc.established (by simpa using hp))] at hsyn
        cases hsyn.1
      exact ⟨⟨id, rfl, rfl⟩, fun _ => rfl, fun _ => rfl, fun hp => by rw [hidle] at hp; cases hp⟩
    · exact hkeep (.refl c)
  split
  · exact hkeep ⟨⟨id, rfl, rfl⟩, ⟨rfl, rfl⟩, rfl⟩
  split
  · exact hkeep (.refl c)
  · exact hkeep ((handleAckNumber_keepsNumbers c m.ack).trans (handleData_sender localIp _ m).2)

theorem checkDataRetransmit_keepsNumbers (c : VTcpConn) (now : UInt64) :
    KeepsNumbers c (c.checkDataRetransmit localIp now).1 := by
  unfold checkDataRetransmit
  split
  · exact .refl c
  split
  · exact .refl c
  split
  · exact ⟨⟨fun hp => (by cases hp), rfl, rfl⟩, ⟨rfl, rfl⟩, rfl⟩
  · exact ⟨⟨id, rfl, rfl⟩, ⟨rfl, rfl⟩, rfl⟩

/-- **What a turn of `CheckDataRetransmits` sends is the pending segment.** -/
theorem resent_of_checkDataRetransmit {now : UInt64} {s : Segment} (hs : s ∈ (c.checkDataRetransmit localIp now).2) :
    c.hasUnackedData = true ∧ s.seq = c.unackedSeq ∧ s.payload = c.unackedData.bytes := by
  unfold checkDataRetransmit at hs
  split at hs
  · cases hs
  rename_i hidle
  split at hs
  · cases hs
  split at hs
  · cases hs
  · simp only [Bool.or_eq_true, Bool.not_eq_true', not_or, Bool.not_eq_false] at hidle
    rw [List.mem_singleton.1 hs]
    exact ⟨hidle.2, rfl, rfl⟩

theorem recvFrom_keepsNumbers (c : VTcpConn) (bufSize addrSize : Nat) : KeepsNumbers c (c.recvFrom bufSize addrSize).1 := by
  unfold recvFrom
  split
  · exact .refl c
  · exact ⟨⟨id, rfl, rfl⟩, ⟨rfl, rfl⟩, rfl⟩

/-- **A `SendTo` leaves the connection alone, or it is accepted and its bytes are the pending segment.** -/
theorem sendTo_cases (c : VTcpConn) (relay : RelaySend) (buf : Bytes) :
    (c.sendTo localIp relay buf).1 = c ∨
    (c.established = true ∧ 0 ≤ (c.sendTo localIp relay buf).2.2.1 ∧
      (c.sendTo localIp relay buf).1.established = true ∧
      (c.sendTo localIp relay buf).1.synSentAwaitingSynack = c.synSentAwaitingSynack ∧
      (c.sendTo localIp relay buf).1.unackedSeq = c.ourSeq ∧
      (c.sendTo localIp relay buf).1.unackedData.bytes = buf ∧
      (c.sendTo localIp relay buf).1.ourSeq = c.ourSeq + seqLen buf) := by
  unfold sendTo
  split
  · exact .inl rfl
  rename_i hup
  simp only [Bool.or_eq_true, Bool.not_eq_true', not_or, Bool.not_eq_false] at hup
  split
  · split
    · exact .inr ⟨hup.1, Int.natCast_nonneg _, hup.1, rfl, rfl, rfl, rfl⟩
    · exact .inl rfl
  · exact .inl rfl

theorem sendTo_numbered (hc : c.Numbered) (relay : RelaySend) (buf : Bytes) : (c.sendTo localIp relay buf).1.Numbered := by
  rcases sendTo_cases localIp c relay buf with hsame | ⟨he, -, he', hs, hseq, hdata, hour⟩
  · rw [hsame]
    exact hc
  · refine ⟨fun _ => ?_, fun _ => he', fun _ => ?_⟩
    · rw [hs]
      exact hc.done he
    · rw [hour, hseq, hdata]

end Steps

end VTcpConn

namespace VTcp

open VTcpConn

/-! ## Runs -/

/-- What `SendTo` accepts on the slot `k` in a call, with its sequence number. -/
def accepts (t : VTcp) (localIp : UInt32) (k : Fin maxVTcpConns) : Op → List (UInt32 × Bytes)
  | .sendTo fd relay buf =>
    if t.findVTcpConnByFd true fd = some k ∧ 0 ≤ ((t.conns k).sendTo localIp relay buf).2.2.1 then
      [((t.conns k).ourSeq, buf)]
    else []
  | _ => []

/-- The segments of a call that are the slot's turn of `CheckDataRetransmits`. -/
def resent (t : VTcp) (localIp : UInt32) (k : Fin maxVTcpConns) : Op → List Segment
  | .checkDataRetransmits now => ((t.conns k).checkDataRetransmit localIp now).2
  | _ => []

/-- In the run, each segment resent for the slot is among `sent` or was accepted on the slot earlier in the run. -/
def ResendsOnly (k : Fin maxVTcpConns) : VTcp → List (UInt32 × Bytes) → List (UInt32 × Op) → Prop
  | _, _, [] => True
  | t, sent, (localIp, op) :: ops => (∀ s ∈ t.resent localIp k op, (s.seq, s.payload) ∈ sent) ∧
      ResendsOnly k (t.step localIp op).1 (sent ++ t.accepts localIp k op) ops

section Runs

variable {t : VTcp} {localIp : UInt32} {k : Fin maxVTcpConns}

/-- **Every call keeps the numbering of every slot.** -/
theorem step_numbered (h : (t.conns k).Numbered) (op : Op) : ((t.step localIp op).1.conns k).Numbered := by
  have hstep := step_slotStep t localIp k op
  generalize (t.step localIp op).1.conns k = c at hstep
  cases hstep with
  | kept => exact h
  | received ourIsn m => exact (receive_numbered localIp h m).2
  | retransmitted now => exact (checkDataRetransmit_keepsNumbers localIp _ now).numbered h
  | sent fd relay buf => exact sendTo_numbered localIp h relay buf
  | read fd bufSize addrSize => exact (recvFrom_keepsNumbers _ bufSize addrSize).numbered h
  | cleared => exact numbered_of_idle (fun he => by cases he) rfl
  | accepted => exact numbered_of_idle (fun _ => rfl) rfl
  | connecting => exact numbered_of_idle (fun he => by cases he) rfl

/-- **The pending segment of every reachable connection ends at `our_seq`.** -/
theorem reachable_numbered {ok : VTcp → Op → Prop} (h : t.Reachable ok) : (t.conns k).Numbered := by
  induction h with
  | init => exact numbered_of_idle (fun he => by cases he) rfl
  | step _ _ op _ ih => exact step_numbered ih op

/-- **A call leaves pending what was pending before it or what it accepted.** -/
theorem step_pendingIn {sent : List (UInt32 × Bytes)} (hn : (t.conns k).Numbered) (h : (t.conns k).PendingIn sent) (op : Op) :
    ((t.step localIp op).1.conns k).PendingIn (sent ++ t.accepts localIp k op) := by
  have hstep := step_slotStep t localIp k op
  generalize (t.step localIp op).1.conns k = c at hstep
  have hmono : ∀ {d : VTcpConn}, d.PendingIn sent → d.PendingIn (sent ++ t.accepts localIp k op) :=
    pendingIn_mono (List.subset_append_left _ _)
  cases hstep with
  | kept => exact hmono h
  | received ourIsn m => exact hmono ((receive_numbered localIp hn m).1.pendingIn h)
  | retransmitted now => exact hmono ((checkDataRetransmit_keepsNumbers localIp _ now).pendingIn h)
  | sent fd relay buf hk =>
    rcases sendTo_cases localIp (t.conns k) relay buf with hsame | ⟨-, hret, -, -, hseq, hdata, -⟩
    · rw [hsame]
      exact hmono h
    · intro _
      rw [hseq, hdata, accepts, if_pos ⟨hk, hret⟩]
      exact List.mem_append_right _ (List.mem_singleton.2 rfl)
  | read fd bufSize addrSize => exact hmono ((recvFrom_keepsNumbers _ bufSize addrSize).pendingIn h)
  | cleared => exact fun hp => by cases hp
  | accepted => exact fun hp => by cases hp
  | connecting => exact fun hp => by cases hp

/-- **Whatever a run resends for a slot was pending at its start or accepted in it.** -/
theorem resendsOnly_of_pending : ∀ (ops : List (UInt32 × Op)) {t : VTcp} {sent : List (UInt32 × Bytes)},
    (t.conns k).Numbered → (t.conns k).PendingIn sent → ResendsOnly k t sent ops
  | [], _, _, _, _ => trivial
  | (localIp, op) :: ops, t, sent, hn, h => by
    refine ⟨fun s hs => ?_, resendsOnly_of_pending ops (step_numbered hn op) (step_pendingIn hn h op)⟩
    cases op with
    | checkDataRetransmits now =>
      obtain ⟨hp, hseq, hdata⟩ := resent_of_checkDataRetransmit localIp hs
      rw [hseq, hdata]
      exact h hp
    | _ => cases hs

/-! ## The acknowledgement -/

/-- The segment ends the retransmission for good: nothing is pending after it, and a later run resends only what `SendTo`
accepts in it. -/
def ConsumesAck (t : VTcp) (localIp ourIsn : UInt32) (m : TcpSegment) (k : Fin maxVTcpConns) : Prop :=
  ((t.handleTcpSegment true localIp ourIsn m).1.conns k).hasUnackedData = false ∧
  ∀ ops, ResendsOnly k (t.handleTcpSegment true localIp ourIsn m).1 [] ops

/-- The segment is not a FIN, completes no pending accept of its peer, and the connection is the first of its peer. -/
structure ReachesAckTest (t : VTcp) (m : TcpSegment) (k : Fin maxVTcpConns) : Prop where
  no_fin : m.isFin = false
  no_accept : SlotTable.first (awaitsFinalAck m) t.pendingAccepts = none
  first : t.findVTcpConnByPeer true m.srcIp = some k

/-- The number that covers the pending segment is the one the handler tests for. -/
theorem ack_of_acknowledges {c : VTcpConn} {m : TcpSegment} (hc : c.Numbered) (h : c.Acknowledges m) :
    m.ack = c.unackedSeq + seqLen c.unackedData.bytes := by
  have hsent := h.sent
  rw [hc.last h.pending, show c.unackedSeq + seqLen c.unackedData.bytes - c.unackedSeq = seqLen c.unackedData.bytes by
    grind] at hsent
  have hdist : m.ack - c.unackedSeq = seqLen c.unackedData.bytes := UInt32.le_antisymm hsent h.covers
  rw [← hdist]
  grind

theorem onConn_conns_of_ne {found : Option (Fin maxVTcpConns)} (h : found ≠ some k)
    (f : VTcpConn → VTcpConn × List Segment) : (t.onConn found f).1.conns k = t.conns k := by
  cases found with
  | none => rfl
  | some j => exact Function.update_of_ne (fun hk => h (by rw [hk])) _ _

theorem onConn_conns_self (f : VTcpConn → VTcpConn × List Segment) :
    (t.onConn (some k) f).1.conns k = (f (t.conns k)).1 := Function.update_self _ _ _

/-- The FIN branch leaves every pending segment pending. -/
theorem onConn_handleFin_pending (found : Option (Fin maxVTcpConns)) (m : TcpSegment) :
    ((t.onConn found (·.handleFin localIp m)).1.conns k).hasUnackedData = (t.conns k).hasUnackedData := by
  by_cases hk : found = some k
  · rw [hk, onConn_conns_self]
    rfl
  · rw [onConn_conns_of_ne hk]

/-- A segment that gets past the RST and SYN branches. -/
theorem handleTcpSegment_of_ack {m : TcpSegment} (hrst : m.isRst = false) (hsyn : m.isSyn = false) (hack : m.isAck = true)
    (ourIsn : UInt32) : t.handleTcpSegment true localIp ourIsn m =
      if m.isFin then t.onConn (t.findVTcpConnByPeer true m.srcIp) (·.handleFin localIp m)
      else
        match SlotTable.first (awaitsFinalAck m) t.pendingAccepts with
        | some k => (t.setPending k { t.pendingAccepts k with gotFinalAck := true }, [])
        | none => t.onConn (t.findVTcpConnByPeer true m.srcIp) (·.handleAck localIp m) := by
  rw [handleTcpSegment, if_neg (by simp [hrst]), if_neg (by simp [hsyn]), if_neg (by simp [hsyn])]
  split
  · rfl
  · exact if_neg (by simp [hack])

/-- **An acknowledgement that does not reach the test leaves the segment pending.** -/
theorem pending_of_not_reachesAckTest {m : TcpSegment} (ha : (t.conns k).Acknowledges m) (ourIsn : UInt32)
    (hno : ¬ t.ReachesAckTest m k) : ((t.handleTcpSegment true localIp ourIsn m).1.conns k).hasUnackedData = true := by
  rw [handleTcpSegment_of_ack ha.no_rst ha.no_syn ha.ack]
  split
  · rw [onConn_handleFin_pending]
    exact ha.pending
  rename_i hfin
  split
  · exact ha.pending
  · rename_i hnone
    have hother : t.findVTcpConnByPeer true m.srcIp ≠ some k := fun hk => hno ⟨by simpa using hfin, hnone, hk⟩
    rw [onConn_conns_of_ne hother]
    exact ha.pending

/-- **An acknowledgement that reaches the test releases the segment.** -/
theorem released_of_reachesAckTest {m : TcpSegment} (hn : (t.conns k).Numbered) (ha : (t.conns k).Acknowledges m)
    (ourIsn : UInt32) (hr : t.ReachesAckTest m k) :
    ((t.handleTcpSegment true localIp ourIsn m).1.conns k).hasUnackedData = false := by
  have hrel : ((t.conns k).handleAckNumber m.ack).hasUnackedData = false := by
    rw [handleAckNumber, if_pos (by simp [ha.pending, ack_of_acknowledges hn ha])]
  rw [handleTcpSegment_of_ack ha.no_rst ha.no_syn ha.ack, if_neg (by simp [hr.no_fin]), hr.no_accept, hr.first]
  dsimp only
  rw [onConn_conns_self, handleAck, (handleData_sender localIp _ m).1]
  exact hrel

/-- **The acknowledgement is consumed exactly when it reaches the test.** -/
theorem ack_consumed_iff (h : t.Reachable (fun _ _ => True)) (localIp ourIsn : UInt32) (m : TcpSegment)
    (ha : (t.conns k).Acknowledges m) : t.ConsumesAck localIp ourIsn m k ↔ t.ReachesAckTest m k := by
  have hn : (t.conns k).Numbered := reachable_numbered h
  constructor
  · intro hc
    by_contra hno
    have hstill : ((t.handleTcpSegment true localIp ourIsn m).1.conns k).hasUnackedData = true :=
      pending_of_not_reachesAckTest ha ourIsn hno
    rw [hc.1] at hstill
    cases hstill
  · intro hr
    have hrel : ((t.handleTcpSegment true localIp ourIsn m).1.conns k).hasUnackedData = false :=
      released_of_reachesAckTest hn ha ourIsn hr
    refine ⟨hrel, fun ops => resendsOnly_of_pending ops (step_numbered hn (.segment ourIsn m)) (fun hp => ?_)⟩
    rw [hrel] at hp
    cases hp

end Runs

end VTcp

/-! ## An acknowledgement on a FIN -/

namespace Service

/-- The host of `hostSession` has sent one byte to its station. -/
def afterSend : Service := run {} (Console.hostSession ++ [.sendTo 0 1000 [7] true true 0])

/-- The station's acknowledgement of the byte, with or without its FIN. -/
def stationAck (flags : UInt8) : TcpSegment := ⟨0x0A0D0002, ldnControlPort, ldnControlPort, 101, 79, flags, []⟩

theorem stationAck_acknowledges {flags : UInt8} (hf : flags = TCP_ACK ∨ flags = TCP_FIN ||| TCP_ACK) :
    (afterSend.vtcp.conns ⟨0, by decide⟩).Acknowledges (stationAck flags) := by
  rcases hf with rfl | rfl
  · exact ⟨by decide +kernel, by decide +kernel, by decide +kernel, by decide +kernel, by decide +kernel,
      by decide +kernel, by decide +kernel, by decide +kernel⟩
  · exact ⟨by decide +kernel, by decide +kernel, by decide +kernel, by decide +kernel, by decide +kernel,
      by decide +kernel, by decide +kernel, by decide +kernel⟩

theorem reachable_afterSend : Reachable (fun _ _ => True) afterSend := reachable_run _ .init (by decide +kernel)

theorem calls_afterSend : afterSend.vtcp.Reachable (fun _ _ => True) := by
  have h : Reachable (CallOk (fun _ _ => True)) afterSend := reachable_run _ .init (by decide +kernel)
  exact vtcp_reachable h

theorem ack_consumed_stationAck : afterSend.vtcp.ConsumesAck 0x0A0D0001 0 (stationAck TCP_ACK) ⟨0, by decide⟩ :=
  (VTcp.ack_consumed_iff calls_afterSend 0x0A0D0001 0 _ (stationAck_acknowledges (.inl rfl))).2
    ⟨by decide +kernel, by decide +kernel, by decide +kernel⟩

/-- **A station that acknowledges the byte with its FIN is sent it again.** -/
theorem fin_keeps_resending : Reachable (fun _ _ => True) afterSend ∧
    (afterSend.vtcp.conns ⟨0, by decide⟩).Acknowledges (stationAck (TCP_FIN ||| TCP_ACK)) ∧
    ¬ afterSend.vtcp.ConsumesAck afterSend.lastBridgedLocalIp 0 (stationAck (TCP_FIN ||| TCP_ACK)) ⟨0, by decide⟩ ∧
    ((afterSend.drainSegment 0 (stationAck (TCP_FIN ||| TCP_ACK))).1.vtcp.conns ⟨0, by decide⟩).hasUnackedData = true ∧
    ((afterSend.drainSegment 0 (stationAck (TCP_FIN ||| TCP_ACK))).1.drainRetransmits 100).2.map
      (fun s => (s.dstIp, s.seq, s.payload)) = [(0x0A0D0002, 78, [7])] := by
  refine ⟨reachable_afterSend, stationAck_acknowledges (.inr rfl), fun hc => ?_, by decide +kernel, by decide +kernel⟩
  exact absurd hc.1 (by decide +kernel)

end Service
end Slp
