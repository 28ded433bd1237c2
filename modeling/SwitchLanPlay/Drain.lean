import SwitchLanPlay.ControlQueue
import SwitchLanPlay.Service
/-!
# Drain — what a packet popped from the relay does (source/bsd/bsd_bridge_service.cpp)

`DrainRawRelayQueue` files UDP packets for the bridged sockets and hands TCP segments to the instance that owns the
virtual TCP state.  Neither parser looks at the destination address: a packet addressed to another console acts as one
addressed to this console does (`drainPacket_any_destination`).  What a segment can touch is bounded by its source.
-/
namespace Slp

open Wire

/-- The service and the shared queue of UDP packets. -/
structure Console where
  service : Service := {}
  controlQueue : ControlQueue := .empty

/-- What one run of `DrainRawRelayQueue` meets: the clock, and the packets it pops, each with the random initial sequence
number a connection request in it would be answered with. -/
structure Drained where
  now : UInt64
  popped : List (UInt32 × Bytes)

namespace Console

/-- The body of the popping loop. -/
def drainPacket (C : Console) (ourIsn : UInt32) (pkt : Bytes) : Console × List Segment :=
  if pkt.length < 20 then (C, [])
  else
    let proto := byteAt pkt 9
    if proto = 17 then ({ C with controlQueue := C.controlQueue.file pkt }, [])
    else if proto ≠ 6 then (C, [])
    else
      match parseIpv4Tcp pkt with
      | none => (C, [])
      | some m => ({ C with service := (C.service.drainSegment ourIsn m).1 }, (C.service.drainSegment ourIsn m).2)

def drainPackets : Console → List (UInt32 × Bytes) → Console × List Segment
  | C, [] => (C, [])
  | C, (ourIsn, pkt) :: rest =>
    let (C', segs) := C.drainPacket ourIsn pkt
    let (C'', segs') := drainPackets C' rest
    (C'', segs ++ segs')

def drainRawRelayQueue (C : Console) (d : Drained) : Console × List Segment :=
  let (S, segs) := C.service.drainRetransmits d.now
  let (C', segs') := drainPackets { C with service := S } d.popped
  (C', segs ++ segs')

end Console

/-! ## The destination address -/

/-- The packet with another destination address. -/
def readdressed (pkt : Bytes) (dstIp : UInt32) : Bytes := pkt.take 16 ++ be32 dstIp ++ pkt.drop 20

/-- The source address of a packet. -/
def srcIpOf (pkt : Bytes) : UInt32 := read32 (byteAt pkt 12) (byteAt pkt 13) (byteAt pkt 14) (byteAt pkt 15)

/-- The destination address of a packet. -/
def dstIpOf (pkt : Bytes) : UInt32 := read32 (byteAt pkt 16) (byteAt pkt 17) (byteAt pkt 18) (byteAt pkt 19)

section Readdressed

variable {pkt : Bytes} (hlen : 20 ≤ pkt.length) (dstIp : UInt32)

include hlen

theorem length_readdressed : (readdressed pkt dstIp).length = pkt.length := by
  simp only [readdressed, be32, List.length_append, List.length_take, List.length_drop, List.length_cons, List.length_nil]
  omega

theorem byteAt_readdressed {i : Nat} (hi : i < 16 ∨ 20 ≤ i) : byteAt (readdressed pkt dstIp) i = byteAt pkt i := by
  have htake : (pkt.take 16).length = 16 := by
    rw [List.length_take]
    omega
  unfold byteAt readdressed
  rw [List.getD_eq_getElem?_getD, List.getD_eq_getElem?_getD, List.append_assoc]
  rcases hi with hi | hi
  · rw [List.getElem?_append_left (by omega), List.getElem?_take_of_lt hi]
  · rw [List.getElem?_append_right (by omega), htake, List.getElem?_append_right (by simp [be32]; omega),
      List.getElem?_drop]
    congr 2
    simp only [be32, List.length_cons, List.length_nil]
    omega

theorem drop_readdressed {n : Nat} (hn : 20 ≤ n) : (readdressed pkt dstIp).drop n = pkt.drop n := by
  have hhead : (pkt.take 16 ++ be32 dstIp).length = 20 := by
    simp only [be32, List.length_append, List.length_take, List.length_cons, List.length_nil]
    omega
  obtain ⟨k, rfl⟩ := Nat.exists_eq_add_of_le hn
  rw [readdressed, ← List.drop_drop, List.drop_left' hhead, List.drop_drop]

/-- **The TCP parser does not read the destination address.** -/
theorem parseIpv4Tcp_readdressed (hihl : 20 ≤ ihlOf pkt) : parseIpv4Tcp (readdressed pkt dstIp) = parseIpv4Tcp pkt := by
  have hbyte := fun {i : Nat} (hi : i < 16 ∨ 20 ≤ i) => byteAt_readdressed hlen dstIp hi
  have hsame : ihlOf (readdressed pkt dstIp) = ihlOf pkt := by rw [ihlOf, hbyte (by omega), ihlOf]
  unfold parseIpv4Tcp
  rw [length_readdressed hlen, hsame]
  generalize ihlOf pkt = ihl at hihl
  simp (disch := omega) only [hbyte]
  have hoff : ∀ n, 20 ≤ ihl + n := by
    intro n
    omega
  simp only [drop_readdressed hlen dstIp (hoff _)]

end Readdressed

/-! ## What a segment can touch -/

/-- The virtual TCP state changes at most at a peer's own connection and pending entries, a free entry becomes that peer's if
it is taken, and segments are sent to that peer alone. -/
structure ActsForPeer (t : VTcp) (peerIp : UInt32) (t' : VTcp) (segs : List Segment) : Prop where
  conns : ∀ k, ¬ ((t.conns k).used = true ∧ (t.conns k).peerIp = peerIp) → t'.conns k = t.conns k
  pendingAccepts : ∀ k, (t.pendingAccepts k).used = true → (t.pendingAccepts k).peerIp ≠ peerIp →
    t'.pendingAccepts k = t.pendingAccepts k
  taken_for : ∀ k, t'.pendingAccepts k ≠ t.pendingAccepts k →
    (t'.pendingAccepts k).used = true ∧ (t'.pendingAccepts k).peerIp = peerIp
  tcpListenFd : t'.tcpListenFd = t.tcpListenFd
  nextSyntheticFd : t'.nextSyntheticFd = t.nextSyntheticFd
  segs_to : ∀ s ∈ segs, s.dstIp = peerIp

theorem actsForPeer_refl (t : VTcp) (peerIp : UInt32) : ActsForPeer t peerIp t [] where
  conns _ _ := rfl
  pendingAccepts _ _ _ := rfl
  taken_for _ hne := absurd rfl hne
  tcpListenFd := rfl
  nextSyntheticFd := rfl
  segs_to _ hs := (by cases hs)

theorem VTcp.taken_for_setPending {t : VTcp} {k : Fin maxPendingAccepts} {p : PendingAccept} {peerIp : UInt32}
    (hused : p.used = true) (hpeer : p.peerIp = peerIp) (j : Fin maxPendingAccepts)
    (hne : (t.setPending k p).pendingAccepts j ≠ t.pendingAccepts j) :
    ((t.setPending k p).pendingAccepts j).used = true ∧ ((t.setPending k p).pendingAccepts j).peerIp = peerIp := by
  have hjk : j = k := by
    by_contra hjk
    exact hne (by simp [VTcp.setPending, hjk])
  rw [hjk]
  simpa [VTcp.setPending] using And.intro hused hpeer

theorem VTcp.Handled.actsForPeer {t : VTcp} {localIp ourIsn : UInt32} {m : TcpSegment} {r : VTcp × List Segment}
    (h : t.Handled localIp ourIsn m r) : ActsForPeer t m.srcIp r.1 r.2 := by
  have hfd := h.nextSyntheticFd
  cases h with
  | dropped => exact actsForPeer_refl t m.srcIp
  | requested k hsyn hconn hnew hfree =>
    constructor
    · exact fun _ _ => rfl
    · intro j hj hne
      have hjk : j ≠ k := fun he => by
        rw [he, hfree] at hj
        cases hj
      simp [VTcp.setPending, hjk]
    · exact VTcp.taken_for_setPending rfl rfl
    · rfl
    · exact hfd
    · intro s hs
      rw [List.mem_singleton.1 hs]
      rfl
  | acknowledged k hack hk =>
    obtain ⟨hused, hpeer⟩ : (t.pendingAccepts k).used = true ∧ (t.pendingAccepts k).peerIp = m.srcIp := by
      simp only [VTcp.awaitsFinalAck, Bool.and_eq_true, beq_iff_eq] at hk
      exact hk.1.1
    constructor
    · exact fun _ _ => rfl
    · intro j hj hne
      have hjk : j ≠ k := fun he => hne (he ▸ hpeer)
      simp [VTcp.setPending, hjk]
    · exact VTcp.taken_for_setPending hused hpeer
    · rfl
    · exact hfd
    · intro s hs
      cases hs
  | received k hk =>
    have hpeer : (t.conns k).used = true ∧ (t.conns k).peerIp = m.srcIp := by
      rw [VTcp.findVTcpConnByPeer, if_pos rfl] at hk
      simpa using SlotTable.apply_of_first hk
    constructor
    · intro j hj
      have hjk : j ≠ k := fun he => hj (he ▸ hpeer)
      simp [VTcp.setConn, hjk]
    · exact fun _ _ _ => rfl
    · exact fun _ hne => absurd rfl hne
    · rfl
    · exact hfd
    · exact VTcpConn.dstIp_of_receive _ localIp m

theorem srcIp_of_parse {pkt : Bytes} {m : TcpSegment} (h : parseIpv4Tcp pkt = some m) : m.srcIp = srcIpOf pkt := by
  unfold parseIpv4Tcp at h
  split at h
  · cases h
  dsimp only at h
  split at h
  · cases h
  split at h
  · cases h
  · rw [← Option.some.inj h]
    rfl

theorem Service.drainSegment_actsForPeer (S : Service) (ourIsn : UInt32) (m : TcpSegment) :
    ActsForPeer S.vtcp m.srcIp (S.drainSegment ourIsn m).1.vtcp (S.drainSegment ourIsn m).2 := by
  unfold drainSegment
  split
  · exact actsForPeer_refl S.vtcp m.srcIp
  · have h := (S.vtcp.handleTcpSegment_cases S.lastBridgedLocalIp ourIsn m).actsForPeer
    refine ⟨h.conns, h.pendingAccepts, h.taken_for, h.tcpListenFd, h.nextSyntheticFd, fun s hs => ?_⟩
    simp only [sendSegments] at hs
    split at hs
    · exact h.segs_to s hs
    · cases hs

/-- A segment reaches nothing of the service but its virtual TCP state. -/
theorem Service.drainSegment_vtcp_only (S : Service) (ourIsn : UInt32) (m : TcpSegment) :
    (S.drainSegment ourIsn m).1 = { S with vtcp := (S.drainSegment ourIsn m).1.vtcp } := by
  unfold drainSegment
  split <;> rfl

namespace Console

theorem drainPacket_tcp (C : Console) (ourIsn : UInt32) {pkt : Bytes} (hlen : 20 ≤ pkt.length) (htcp : byteAt pkt 9 = 6) :
    C.drainPacket ourIsn pkt =
      match parseIpv4Tcp pkt with
      | none => (C, [])
      | some m =>
        ({ C with service := (C.service.drainSegment ourIsn m).1 }, (C.service.drainSegment ourIsn m).2) := by
  unfold drainPacket
  rw [if_neg (by omega)]
  simp only [htcp]
  rw [if_neg (by decide), if_neg (by decide)]

/-- A segment for another port, or one nobody owns the virtual TCP state for. -/
def Unclaimed (C : Console) (pkt : Bytes) : Prop :=
  C.service.activeLdnInstance = none ∨ ∀ m, parseIpv4Tcp pkt = some m → m.dstPort ≠ ldnControlPort

theorem drainPacket_unclaimed {C : Console} {pkt : Bytes} (ourIsn : UInt32) (hlen : 20 ≤ pkt.length)
    (htcp : byteAt pkt 9 = 6) (h : C.Unclaimed pkt) : C.drainPacket ourIsn pkt = (C, []) := by
  rw [drainPacket_tcp C ourIsn hlen htcp]
  cases hm : parseIpv4Tcp pkt with
  | none => rfl
  | some m =>
    have hdrop : C.service.drainSegment ourIsn m = (C.service, []) := by
      unfold Service.drainSegment
      rcases h with h | h
      · simp [h]
      · simp [h m hm]
    simp only [hdrop]

/-- **The destination of an IPv4/TCP packet plays no part**: readdressed, it leaves the same state and sends the same
segments.  It acts for its source alone, on nothing but the virtual TCP state, and not at all when it is unclaimed. -/
theorem drainPacket_any_destination (C : Console) (ourIsn : UInt32) {pkt : Bytes} (hlen : 20 ≤ pkt.length)
    (hihl : 20 ≤ ihlOf pkt) (htcp : byteAt pkt 9 = 6) (dstIp : UInt32) :
    C.drainPacket ourIsn (readdressed pkt dstIp) = C.drainPacket ourIsn pkt ∧
    ActsForPeer C.service.vtcp (srcIpOf pkt) (C.drainPacket ourIsn pkt).1.service.vtcp (C.drainPacket ourIsn pkt).2 ∧
    (C.drainPacket ourIsn pkt).1 =
      { C with service := { C.service with vtcp := (C.drainPacket ourIsn pkt).1.service.vtcp } } ∧
    (C.Unclaimed pkt → C.drainPacket ourIsn pkt = (C, [])) := by
  refine ⟨?_, ?_, ?_, drainPacket_unclaimed ourIsn hlen htcp⟩
  · have hlen' : 20 ≤ (readdressed pkt dstIp).length := by rwa [length_readdressed hlen]
    have htcp' : byteAt (readdressed pkt dstIp) 9 = 6 := by rwa [byteAt_readdressed hlen dstIp (by omega)]
    rw [drainPacket_tcp C ourIsn hlen' htcp', drainPacket_tcp C ourIsn hlen htcp,
      parseIpv4Tcp_readdressed hlen dstIp hihl]
  · rw [drainPacket_tcp C ourIsn hlen htcp]
    cases hm : parseIpv4Tcp pkt with
    | none => exact actsForPeer_refl _ _
    | some m =>
      have h := C.service.drainSegment_actsForPeer ourIsn m
      rwa [srcIp_of_parse hm] at h
  · rw [drainPacket_tcp C ourIsn hlen htcp]
    cases hm : parseIpv4Tcp pkt with
    | none => rfl
    | some m => exact congrArg (fun S => { C with service := S }) (C.service.drainSegment_vtcp_only ourIsn m)

/-! ## A request meant for another console -/

/-- ldn_mitm's control socket is bridged at 10.13.0.1. -/
def hostConsole : Console where
  service := Service.run {} [.create, .socket 0 SOCK_DGRAM 3, .bind 0 3 ldnControlPort 0x0A0D0001 true]

/-- A station at 10.13.0.2 asks 10.13.0.9 for a connection. -/
def strayRequest : Segment where
  srcIp := 0x0A0D0002
  dstIp := 0x0A0D0009
  srcPort := ldnControlPort
  dstPort := ldnControlPort
  seq := 100
  ack := 0
  flags := TCP_SYN

theorem drainPacket_any_destination_stray : ∃ pkt, strayRequest.packet? = some pkt ∧
    hostConsole.drainPacket 77 (readdressed pkt 0x0A0D0001) = hostConsole.drainPacket 77 pkt := by
  cases hp : strayRequest.packet? with
  | none => exact absurd hp (by decide +kernel)
  | some pkt =>
    have hall : strayRequest.packet?.all (fun p => decide (20 ≤ p.length) && decide (20 ≤ ihlOf p) && byteAt p 9 == 6) =
        true := by decide +kernel
    rw [hp] at hall
    simp only [Option.all_some, Bool.and_eq_true, decide_eq_true_eq, beq_iff_eq] at hall
    exact ⟨pkt, rfl, (drainPacket_any_destination hostConsole 77 hall.1.1 hall.1.2 hall.2 0x0A0D0001).1⟩

/-- **A connection request to another console is accepted**: it takes a pending entry and is answered. -/
theorem stray_request_accepted : Service.Reachable (fun _ _ => True) hostConsole.service ∧
    hostConsole.service.activeLdnInstance = some 0 ∧
    ∃ pkt, strayRequest.packet? = some pkt ∧ byteAt pkt 9 = 6 ∧ dstIpOf pkt ≠ hostConsole.service.lastBridgedLocalIp ∧
      (hostConsole.service.vtcp.pendingAccepts ⟨0, by decide⟩).used = false ∧
      ((hostConsole.drainPacket 77 pkt).1.service.vtcp.pendingAccepts ⟨0, by decide⟩).used = true ∧
      (hostConsole.drainPacket 77 pkt).2 ≠ [] := by
  refine ⟨Service.reachable_run _ .init (by decide +kernel), by decide +kernel, ?_⟩
  cases hp : strayRequest.packet? with
  | none => exact absurd hp (by decide +kernel)
  | some pkt =>
    have hall : strayRequest.packet?.all (fun p => byteAt p 9 == 6 &&
        decide (dstIpOf p ≠ hostConsole.service.lastBridgedLocalIp) &&
        ((hostConsole.drainPacket 77 p).1.service.vtcp.pendingAccepts ⟨0, by decide⟩).used &&
        decide ((hostConsole.drainPacket 77 p).2 ≠ [])) = true := by decide +kernel
    rw [hp] at hall
    simp only [Option.all_some, Bool.and_eq_true, decide_eq_true_eq, beq_iff_eq] at hall
    exact ⟨pkt, rfl, hall.1.1.1, hall.1.1.2, by decide +kernel, hall.1.2, hall.2⟩

end Console
end Slp
