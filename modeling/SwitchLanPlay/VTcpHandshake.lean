import SwitchLanPlay.VTcp
/-!
# VTcpHandshake — which connection requests are answered

A bare SYN is answered exactly when its sender has neither a connection nor a pending entry (`answersSyn_iff`).  The two
early returns look at the peer's address alone, so a SYN retried because its SYN-ACK was lost, or one of a later attempt
with a new initial sequence number, meets the entry of the first and is dropped (`retried_syn_unanswered`).
-/
namespace Slp

open Wire TcpSegment

namespace VTcp

/-- The handler answers the request and keeps it pending. -/
def AnswersSyn (t : VTcp) (localIp ourIsn : UInt32) (m : TcpSegment) : Prop :=
  (∃ s ∈ (t.handleTcpSegment true localIp ourIsn m).2, s.dstIp = m.srcIp ∧ s.dstPort = m.srcPort ∧
    s.flags = TCP_SYN ||| TCP_ACK ∧ s.ack = m.seq + 1) ∧
  ∃ k, ((t.handleTcpSegment true localIp ourIsn m).1.pendingAccepts k).used = true ∧
    ((t.handleTcpSegment true localIp ourIsn m).1.pendingAccepts k).peerIp = m.srcIp ∧
    ((t.handleTcpSegment true localIp ourIsn m).1.pendingAccepts k).theirIsn = m.seq

/-- A pending entry is free or already the peer's. -/
def HasCapacityFor (t : VTcp) (peerIp : UInt32) : Prop :=
  ∃ k, (t.pendingAccepts k).used = false ∨ (t.pendingAccepts k).peerIp = peerIp

/-- The peer has no connection and no pending entry. -/
structure Unknown (t : VTcp) (peerIp : UInt32) : Prop where
  no_conn : ∀ k, (t.conns k).used = true → (t.conns k).peerIp ≠ peerIp
  no_pending : ∀ k, (t.pendingAccepts k).used = true → (t.pendingAccepts k).peerIp ≠ peerIp

theorem findVTcpConnByPeer_none_iff (t : VTcp) (peerIp : UInt32) :
    t.findVTcpConnByPeer true peerIp = none ↔ ∀ k, (t.conns k).used = true → (t.conns k).peerIp ≠ peerIp := by
  rw [findVTcpConnByPeer, if_pos rfl, SlotTable.first_eq_none_iff]
  simp

theorem handleTcpSegment_of_bareSyn (t : VTcp) (localIp ourIsn : UInt32) {m : TcpSegment} (h : BareSyn m) :
    t.handleTcpSegment true localIp ourIsn m =
      t.handleSyn (t.findVTcpConnByPeer true m.srcIp) localIp ourIsn m := by
  simp [handleTcpSegment, h.syn, h.no_ack, h.no_rst]

/-- **A request from an unknown peer takes the first free entry and is answered with its acknowledgement.** -/
theorem answersSyn_of_unknown {t : VTcp} {localIp ourIsn : UInt32} {m : TcpSegment} (h : BareSyn m)
    (hcap : t.HasCapacityFor m.srcIp) (hu : t.Unknown m.srcIp) : t.AnswersSyn localIp ourIsn m := by
  have hconn := (t.findVTcpConnByPeer_none_iff m.srcIp).2 hu.no_conn
  have hpend : SlotTable.first (fun p : PendingAccept => p.used && p.peerIp == m.srcIp) t.pendingAccepts = none :=
    SlotTable.first_eq_none_iff.2 (fun k => by
      by_cases hk : (t.pendingAccepts k).used = true
      · simp [hu.no_pending k hk]
      · simp [hk])
  obtain ⟨k, hk⟩ : ∃ k, SlotTable.first (fun p : PendingAccept => !p.used) t.pendingAccepts = some k := by
    obtain ⟨k, hk⟩ := hcap
    refine SlotTable.first_ne_none (k := k) ?_
    by_cases hused : (t.pendingAccepts k).used = true
    · rcases hk with hk | hk
      · simp [hk]
      · exact absurd hk (hu.no_pending k hused)
    · simpa using hused
  have hstep : t.handleTcpSegment true localIp ourIsn m =
      (t.setPending k (pendingOf m ourIsn), [m.reply localIp ourIsn (m.seq + 1) (TCP_SYN ||| TCP_ACK)]) := by
    rw [handleTcpSegment_of_bareSyn t localIp ourIsn h, handleSyn, hconn, hpend, hk]
    rfl
  rw [AnswersSyn, hstep]
  exact ⟨⟨_, List.mem_singleton_self _, rfl, rfl, rfl, rfl⟩, k, by simp [setPending, pendingOf]⟩

/-- **A request from a known peer is ignored.** -/
theorem handleSyn_known {t : VTcp} {localIp ourIsn : UInt32} {m : TcpSegment} (h : BareSyn m)
    (hu : ¬ t.Unknown m.srcIp) : t.handleTcpSegment true localIp ourIsn m = (t, []) := by
  rw [handleTcpSegment_of_bareSyn t localIp ourIsn h, handleSyn]
  by_cases hconn : t.findVTcpConnByPeer true m.srcIp = none
  · have hpend : SlotTable.first (fun p : PendingAccept => p.used && p.peerIp == m.srcIp) t.pendingAccepts ≠ none := by
      intro hnone
      refine hu ⟨(t.findVTcpConnByPeer_none_iff m.srcIp).1 hconn, fun k hk hp => ?_⟩
      have := SlotTable.first_eq_none_iff.1 hnone k
      simp [hk, hp] at this
    rw [if_neg (by simp [hconn]), if_pos (Option.isSome_iff_ne_none.2 hpend)]
  · rw [if_pos (Option.isSome_iff_ne_none.2 hconn)]

/-- **A connection request with room for it is answered exactly when its sender has neither a connection nor a pending
entry.** -/
theorem answersSyn_iff {t : VTcp} {m : TcpSegment} (localIp ourIsn : UInt32) (h : BareSyn m)
    (hcap : t.HasCapacityFor m.srcIp) : t.AnswersSyn localIp ourIsn m ↔ t.Unknown m.srcIp := by
  refine ⟨fun ha => ?_, answersSyn_of_unknown h hcap⟩
  by_contra hu
  rw [AnswersSyn, handleSyn_known h hu] at ha
  obtain ⟨⟨s, hs, -⟩, -⟩ := ha
  cases hs

/-! ## A first and a second request -/

/-- A station's connection request. -/
def stationSyn (isn : UInt32) : TcpSegment where
  srcIp := 0x0A0D0002
  srcPort := ldnControlPort
  dstPort := ldnControlPort
  seq := isn
  ack := 0
  flags := TCP_SYN
  payload := []

theorem bareSyn_stationSyn (isn : UInt32) : BareSyn (stationSyn isn) where
  syn := by show (TCP_SYN &&& TCP_SYN != 0) = true; decide
  no_ack := by show (TCP_SYN &&& TCP_ACK != 0) = false; decide
  no_rst := by show (TCP_SYN &&& TCP_RST != 0) = false; decide

theorem answersSyn_iff_first : ({} : VTcp).AnswersSyn 0x0A0D0001 77 (stationSyn 100) ↔
    ({} : VTcp).Unknown (stationSyn 100).srcIp :=
  answersSyn_iff 0x0A0D0001 77 (bareSyn_stationSyn 100) ⟨⟨0, by decide⟩, Or.inl rfl⟩

/-- A host that listens and got one request. -/
def afterFirstSyn : VTcp := (run 0x0A0D0001 {} [.listen 5, .segment 77 (stationSyn 100)]).1

/-- **The retry of a request whose SYN-ACK was lost is not answered**, and neither is a later request with a new initial
sequence number: seven entries are free, one is the station's own, and there is no connection. -/
theorem retried_syn_unanswered : afterFirstSyn.HasCapacityFor (stationSyn 100).srcIp ∧
    (∀ k, (afterFirstSyn.conns k).used = false) ∧
    ¬ afterFirstSyn.AnswersSyn 0x0A0D0001 88 (stationSyn 100) ∧
    ¬ afterFirstSyn.AnswersSyn 0x0A0D0001 88 (stationSyn 500) := by
  have hknown : ¬ afterFirstSyn.Unknown 0x0A0D0002 := fun hu =>
    hu.no_pending ⟨0, by decide⟩ (by decide +kernel) (by decide +kernel)
  refine ⟨⟨⟨1, by decide⟩, Or.inl (by decide +kernel)⟩, by decide +kernel, ?_, ?_⟩
  · rw [AnswersSyn, handleSyn_known (bareSyn_stationSyn 100) hknown]
    rintro ⟨⟨s, hs, -⟩, -⟩
    cases hs
  · rw [AnswersSyn, handleSyn_known (bareSyn_stationSyn 500) hknown]
    rintro ⟨⟨s, hs, -⟩, -⟩
    cases hs

end VTcp
end Slp
