import SwitchLanPlay.Tunnel
/-!
# TunnelAck — a retransmission of what was received already

`HandleTcpSegment` drops a data segment that is not the next one, "out of order or a retransmit we've already applied",
without an acknowledgement.  When the acknowledgement of an accepted segment is lost, the sender's retransmissions of it
are therefore answered by nothing, however often they arrive (`retransmission_unanswered`).
-/
namespace Slp

open Wire

namespace VTcpConn

/-- The segment's bytes are numbered entirely before the next byte expected. -/
def AlreadyReceived (c : VTcpConn) (m : TcpSegment) : Prop :=
  m.payload ≠ [] ∧ m.payload.length ≤ (c.theirSeq - m.seq).toNat

instance (c : VTcpConn) (m : TcpSegment) : Decidable (AlreadyReceived c m) := by
  unfold AlreadyReceived
  infer_instance

theorem AlreadyReceived.seq_ne {c : VTcpConn} {m : TcpSegment} (h : AlreadyReceived c m) : m.seq ≠ c.theirSeq := fun he => by
  obtain ⟨hne, hle⟩ := h
  rw [he, UInt32.sub_self] at hle
  exact hne (List.length_eq_zero_iff.1 (Nat.le_zero.1 hle))

/-- The fields that a duplicate leaves as they are. -/
structure SameReceived (c c' : VTcpConn) : Prop where
  established : c'.established = c.established
  inbox : c'.inbox = c.inbox
  their_seq : c'.theirSeq = c.theirSeq

theorem receive_duplicate {c : VTcpConn} {m : TcpSegment} (localIp : UInt32) (hm : m.PlainAck)
    (h : AlreadyReceived c m) : SameReceived c (c.receive localIp m).1 ∧ (c.receive localIp m).2 = [] := by
  have hcases := receive_cases c localIp m
  generalize c.receive localIp m = r at hcases
  cases hcases with
  | ignored => exact ⟨⟨rfl, rfl, rfl⟩, rfl⟩
  | aborted hrst => exact ⟨⟨rfl, rfl, rfl⟩, rfl⟩
  | connected hsyn hack hw =>
    rw [hm.no_syn] at hsyn
    cases hsyn
  | finished hsyn hfin =>
    rw [hm.no_fin] at hfin
    cases hfin
  | acked pend hpend => exact ⟨⟨rfl, rfl, rfl⟩, rfl⟩
  | filed pend hpend hsyn hfin hest hne hseq hfit => exact absurd hseq h.seq_ne

end VTcpConn

namespace VTcp

variable {t : VTcp} {c : VTcpConn}

/-- **A duplicate leaves the connection of its source as it is and is not answered.** -/
theorem handle_duplicate (localIp ourIsn : UInt32) {m : TcpSegment} (hc : (t.endpoint m.srcIp).conn = some c) (hm : m.PlainAck)
    (h : c.AlreadyReceived m) :
    (∃ c', ((t.handleTcpSegment true localIp ourIsn m).1.endpoint m.srcIp).conn = some c' ∧ c.SameReceived c') ∧
      (t.handleTcpSegment true localIp ourIsn m).2 = [] := by
  obtain ⟨k, hk, hck⟩ := SlotTable.lookup_eq_some hc
  have hsame : VTcpConn.SameReceived c c := ⟨rfl, rfl, rfl⟩
  have hcases := t.handleTcpSegment_cases localIp ourIsn m
  generalize t.handleTcpSegment true localIp ourIsn m = r at hcases
  cases hcases with
  | dropped => exact ⟨⟨c, hc, hsame⟩, rfl⟩
  | requested j hsyn hconn hnew hfree =>
    have := hm.no_syn
    rw [hsyn.syn] at this
    cases this
  | acknowledged j hack hj => exact ⟨⟨c, hc, hsame⟩, rfl⟩
  | received j hj =>
    have hjk : j = k := Option.some.inj (hj.symm.trans hk)
    subst hjk
    obtain ⟨hrec, hnil⟩ := VTcpConn.receive_duplicate localIp hm h
    have hkeep : VTcpConn.ofPeer m.srcIp ((t.conns j).receive localIp m).1 = VTcpConn.ofPeer m.srcIp (t.conns j) :=
      VTcpConn.ofPeer_congr (VTcpConn.receive_samePeer (t.conns j) localIp m).1 m.srcIp
    rw [hck] at hkeep ⊢
    refine ⟨⟨(c.receive localIp m).1, ?_, hrec⟩, hnil⟩
    simp only [endpoint, setConn, SlotTable.lookup]
    rw [SlotTable.first_update (by rw [hkeep, hck]), hk]
    simp

end VTcp

namespace Tunnel

/-- The segment `CheckDataRetransmits` sends again for a connection, as the other end parses it. -/
def retransmission (localIp : UInt32) (c : VTcpConn) : TcpSegment :=
  (c.segment localIp c.unackedSeq (TCP_PSH ||| TCP_ACK) c.unackedData.bytes).received

theorem plainAck_retransmission (localIp : UInt32) (c : VTcpConn) : (retransmission localIp c).PlainAck where
  no_rst := (by decide : ((TCP_PSH ||| TCP_ACK) &&& TCP_RST != 0) = false)
  no_syn := (by decide : ((TCP_PSH ||| TCP_ACK) &&& TCP_SYN != 0) = false)
  no_fin := (by decide : ((TCP_PSH ||| TCP_ACK) &&& TCP_FIN != 0) = false)
  ack := (by decide : ((TCP_PSH ||| TCP_ACK) &&& TCP_ACK != 0) = true)

/-- The state after an end was handed the same segment a number of times. -/
def afterDeliveries (clientIp hostIp : UInt32) (mv : Move) : Nat → Tunnel → Tunnel
  | 0, T => T
  | n + 1, T => afterDeliveries clientIp hostIp mv n (T.step clientIp hostIp mv)

theorem deliveries_to_host (clientIp hostIp : UInt32) {m : TcpSegment} (hsrc : m.srcIp = clientIp) (hm : m.PlainAck)
    (ourIsn : UInt32) :
    ∀ (n : Nat) {T : Tunnel} {r : VTcpConn}, (T.host.endpoint clientIp).conn = some r → r.AlreadyReceived m →
      (afterDeliveries clientIp hostIp (.host (.segment ourIsn m)) n T).client = T.client ∧
      (afterDeliveries clientIp hostIp (.host (.segment ourIsn m)) n T).toClient = T.toClient ∧
      ∃ r', ((afterDeliveries clientIp hostIp (.host (.segment ourIsn m)) n T).host.endpoint clientIp).conn = some r' ∧
        r.SameReceived r'
  | 0, T, r, hr, _ => ⟨rfl, rfl, r, hr, rfl, rfl, rfl⟩
  | n + 1, T, r, hr, hdup => by
    have hr' := hr
    rw [← hsrc] at hr'
    obtain ⟨⟨r₁, hr₁, hsame⟩, hnil⟩ := VTcp.handle_duplicate hostIp ourIsn hr' hm hdup
    rw [hsrc] at hr₁
    have hdup₁ : r₁.AlreadyReceived m := ⟨hdup.1, by rw [hsame.their_seq]; exact hdup.2⟩
    obtain ⟨hc, hn, r', hr', hsame'⟩ := deliveries_to_host clientIp hostIp hsrc hm ourIsn n
      (T := T.step clientIp hostIp (.host (.segment ourIsn m))) hr₁ hdup₁
    have hquiet : (T.step clientIp hostIp (.host (.segment ourIsn m))).toClient = T.toClient := by
      show T.toClient ++ (T.host.handleTcpSegment true hostIp ourIsn m).2.filter (fun g => g.dstIp == clientIp) = _
      rw [hnil, List.filter_nil, List.append_nil]
    exact ⟨hc, hn.trans hquiet, r', hr', hsame'.established.trans hsame.established, hsame'.inbox.trans hsame.inbox,
      hsame'.their_seq.trans hsame.their_seq⟩

theorem deliveries_to_client (clientIp hostIp : UInt32) {m : TcpSegment} (hsrc : m.srcIp = hostIp) (hm : m.PlainAck)
    (ourIsn : UInt32) :
    ∀ (n : Nat) {T : Tunnel} {r : VTcpConn}, (T.client.endpoint hostIp).conn = some r → r.AlreadyReceived m →
      (afterDeliveries clientIp hostIp (.client (.segment ourIsn m)) n T).host = T.host ∧
      (afterDeliveries clientIp hostIp (.client (.segment ourIsn m)) n T).toHost = T.toHost ∧
      ∃ r', ((afterDeliveries clientIp hostIp (.client (.segment ourIsn m)) n T).client.endpoint hostIp).conn = some r' ∧
        r.SameReceived r'
  | 0, T, r, hr, _ => ⟨rfl, rfl, r, hr, rfl, rfl, rfl⟩
  | n + 1, T, r, hr, hdup => by
    have hr' := hr
    rw [← hsrc] at hr'
    obtain ⟨⟨r₁, hr₁, hsame⟩, hnil⟩ := VTcp.handle_duplicate clientIp ourIsn hr' hm hdup
    rw [hsrc] at hr₁
    have hdup₁ : r₁.AlreadyReceived m := ⟨hdup.1, by rw [hsame.their_seq]; exact hdup.2⟩
    obtain ⟨hc, hn, r', hr', hsame'⟩ := deliveries_to_client clientIp hostIp hsrc hm ourIsn n
      (T := T.step clientIp hostIp (.client (.segment ourIsn m))) hr₁ hdup₁
    have hquiet : (T.step clientIp hostIp (.client (.segment ourIsn m))).toHost = T.toHost := by
      show T.toHost ++ (T.client.handleTcpSegment true clientIp ourIsn m).2.filter (fun g => g.dstIp == hostIp) = _
      rw [hnil, List.filter_nil, List.append_nil]
    exact ⟨hc, hn.trans hquiet, r', hr', hsame'.established.trans hsame.established, hsame'.inbox.trans hsame.inbox,
      hsame'.their_seq.trans hsame.their_seq⟩

/-- **A retransmission of what was received draws no answer**: it leaves the inbox and the expected number of the
connection as they are; and in the tunnel, however often one end's pending segment is handed to the other end that has
received it, nothing goes back and the sender still holds it. -/
theorem retransmission_unanswered :
    (∀ (t : VTcp) (localIp ourIsn : UInt32) (m : TcpSegment) (c : VTcpConn), (t.endpoint m.srcIp).conn = some c →
      c.established = true → m.PlainAck → c.AlreadyReceived m →
      (∃ c', ((t.handleTcpSegment true localIp ourIsn m).1.endpoint m.srcIp).conn = some c' ∧ c.SameReceived c') ∧
        (t.handleTcpSegment true localIp ourIsn m).2 = []) ∧
    (∀ (clientIp hostIp ourIsn : UInt32) (T : Tunnel) (n : Nat) (c r : VTcpConn),
      (T.client.endpoint hostIp).conn = some c → (T.host.endpoint clientIp).conn = some r → c.hasUnackedData = true →
      r.AlreadyReceived (retransmission clientIp c) →
      let T' := afterDeliveries clientIp hostIp (.host (.segment ourIsn (retransmission clientIp c))) n T
      T'.toClient = T.toClient ∧ ∃ c', (T'.client.endpoint hostIp).conn = some c' ∧ c'.hasUnackedData = true) ∧
    (∀ (clientIp hostIp ourIsn : UInt32) (T : Tunnel) (n : Nat) (c r : VTcpConn),
      (T.host.endpoint clientIp).conn = some c → (T.client.endpoint hostIp).conn = some r → c.hasUnackedData = true →
      r.AlreadyReceived (retransmission hostIp c) →
      let T' := afterDeliveries clientIp hostIp (.client (.segment ourIsn (retransmission hostIp c))) n T
      T'.toHost = T.toHost ∧ ∃ c', (T'.host.endpoint clientIp).conn = some c' ∧ c'.hasUnackedData = true) := by
  refine ⟨?_, ?_, ?_⟩
  · intro t localIp ourIsn m c hc _ hm hdup
    exact VTcp.handle_duplicate localIp ourIsn hc hm hdup
  · intro clientIp hostIp ourIsn T n c r hc hr hun hdup
    have hall := deliveries_to_host clientIp hostIp (T := T) rfl (plainAck_retransmission clientIp c) ourIsn n hr hdup
    refine ⟨hall.2.1, c, ?_, hun⟩
    rw [hall.1]
    exact hc
  · intro clientIp hostIp ourIsn T n c r hc hr hun hdup
    have hall := deliveries_to_client clientIp hostIp (T := T) rfl (plainAck_retransmission hostIp c) ourIsn n hr hdup
    refine ⟨hall.2.1, c, ?_, hun⟩
    rw [hall.1]
    exact hc

/-- A handshake and three bytes up that arrive, their acknowledgement lost. -/
def ackLost : List Move :=
  let syn : TcpSegment := ⟨1, 11452, 11452, 100, 0, TCP_SYN, []⟩
  let synAck : TcpSegment := ⟨2, 11452, 11452, 700, 101, TCP_SYN ||| TCP_ACK, []⟩
  let ack : TcpSegment := ⟨1, 11452, 11452, 101, 701, TCP_ACK, []⟩
  let data : TcpSegment := ⟨1, 11452, 11452, 101, 701, TCP_PSH ||| TCP_ACK, [7, 8, 9]⟩
  [.client (.connect 5 2 11452 100), .host (.segment 700 syn), .client (.segment 0 synAck), .host (.segment 0 ack),
    .host .accept, .client (.sendTo 5 ⟨true, true, 0⟩ [7, 8, 9]), .host (.segment 0 data),
    .client (.checkDataRetransmits 100)]

/-- The host has the segment, the client still holds it and has sent it again. -/
theorem ackLost_holds : ∃ T c r, Reachable 1 2 (fun _ _ => True) T ∧ (T.client.endpoint 2).conn = some c ∧
    (T.host.endpoint 1).conn = some r ∧ c.hasUnackedData = true ∧ r.established = true ∧ r.inbox.bytes = [7, 8, 9] ∧
    r.AlreadyReceived (retransmission 1 c) ∧ (∃ g ∈ T.toHost, g.received = retransmission 1 c) ∧
    (T.host.step 2 (.segment 0 (retransmission 1 c))).2.segs = [] := by
  have hrun : (run 1 2 (fun _ _ => true) { client := {}, host := {} } ackLost).any (fun T =>
      (T.client.endpoint 2).conn.any (fun c => (T.host.endpoint 1).conn.any (fun r =>
        c.hasUnackedData && r.established && r.inbox.bytes == [7, 8, 9] &&
          decide (r.AlreadyReceived (retransmission 1 c)) &&
          T.toHost.any (fun g => g.received == retransmission 1 c) &&
          decide ((T.host.step 2 (.segment 0 (retransmission 1 c))).2.segs = [])))) = true := by
    decide +kernel
  obtain ⟨T, hT, h⟩ := (Option.any_eq_true _ _).1 hrun
  obtain ⟨c, hc, h⟩ := (Option.any_eq_true _ _).1 h
  obtain ⟨r, hr, h⟩ := (Option.any_eq_true _ _).1 h
  simp only [Bool.and_eq_true, decide_eq_true_eq, beq_iff_eq, List.any_eq_true] at h
  obtain ⟨⟨⟨⟨⟨hun, hest⟩, hin⟩, hdup⟩, hsent⟩, hquiet⟩ := h
  exact ⟨T, c, r, reachable_run (fun _ _ _ => trivial) ackLost (.start (start_fresh 1 2)) hT, hc, hr, hun, hest, hin, hdup,
    hsent, hquiet⟩

theorem retransmission_unanswered_three_times : ∃ T c, Reachable 1 2 (fun _ _ => True) T ∧
    (T.client.endpoint 2).conn = some c ∧ c.hasUnackedData = true ∧
    (afterDeliveries 1 2 (.host (.segment 0 (retransmission 1 c))) 3 T).toClient = T.toClient := by
  obtain ⟨T, c, r, hT, hc, hr, hun, -, -, hdup, -, -⟩ := ackLost_holds
  exact ⟨T, c, hT, hc, hun, (retransmission_unanswered.2.1 1 2 0 T 3 c r hc hr hun hdup).1⟩

/-- **The retransmission after a lost acknowledgement is not acknowledged.** -/
theorem lost_ack_stays_lost :
    ∃ T c r, Reachable 1 2 (fun _ _ => True) T ∧ (T.client.endpoint 2).conn = some c ∧ (T.host.endpoint 1).conn = some r ∧
      c.hasUnackedData = true ∧ r.established = true ∧ r.AlreadyReceived (retransmission 1 c) ∧
      (∃ g ∈ T.toHost, g.received = retransmission 1 c) ∧
      (T.host.step 2 (.segment 0 (retransmission 1 c))).2.segs = [] := by
  obtain ⟨T, c, r, hT, hc, hr, hun, hest, -, hdup, hsent, hquiet⟩ := ackLost_holds
  exact ⟨T, c, r, hT, hc, hr, hun, hest, hdup, hsent, hquiet⟩

end Tunnel
end Slp
