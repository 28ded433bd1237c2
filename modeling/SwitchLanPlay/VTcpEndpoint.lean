import SwitchLanPlay.VTcp
/-!
# VTcpEndpoint — the virtual TCP state as one peer sees it

`t.endpoint ip` is the connection and the pending entry of one peer.  `Endpoint.Step` lists what a call can do to them and
show to that peer; every call of the table is one of these steps for every peer, or leaves its endpoint alone
(`endpoint_step`).  The peer has at most one connection and one entry (`VTcp.Solo`), which a second `Connect` to it or a
second `Accept` of it would break (`OpensAlone`).
-/
namespace Slp

open Wire

def VTcpConn.ofPeer (ip : UInt32) (c : VTcpConn) : Bool := c.used && c.peerIp == ip

def PendingAccept.ofPeer (ip : UInt32) (p : PendingAccept) : Bool := p.used && p.peerIp == ip

structure Endpoint where
  conn : Option VTcpConn
  pending : Option PendingAccept

/-- What a call of an instance can do to one peer's endpoint, and what it shows of that peer. -/
inductive Endpoint.Step (localIp peerIp : UInt32) : Endpoint → VTcp.Op → Endpoint → VTcp.Out → Prop
  | idle (E : Endpoint) (op : VTcp.Op) : Step localIp peerIp E op E {}
  | request (ourIsn : UInt32) (m : TcpSegment) (hsrc : m.srcIp = peerIp) (hsyn : m.BareSyn) :
      Step localIp peerIp ⟨none, none⟩ (.segment ourIsn m) ⟨none, some (VTcp.pendingOf m ourIsn)⟩
        { segs := [m.reply localIp ourIsn (m.seq + 1) (TCP_SYN ||| TCP_ACK)] }
  | acknowledge (c : Option VTcpConn) (p : PendingAccept) (ourIsn : UInt32) (m : TcpSegment) (hsrc : m.srcIp = peerIp)
      (hack : m.PlainAck) (hp : VTcp.awaitsFinalAck m p = true) :
      Step localIp peerIp ⟨c, some p⟩ (.segment ourIsn m) ⟨c, some { p with gotFinalAck := true }⟩ {}
  | receive (c : VTcpConn) (p : Option PendingAccept) (ourIsn : UInt32) (m : TcpSegment) (hsrc : m.srcIp = peerIp) :
      Step localIp peerIp ⟨some c, p⟩ (.segment ourIsn m) ⟨some (c.receive localIp m).1, p⟩
        { segs := (c.receive localIp m).2 }
  | checkDataRetransmits (c : VTcpConn) (p : Option PendingAccept) (now : UInt64) :
      Step localIp peerIp ⟨some c, p⟩ (.checkDataRetransmits now) ⟨some (c.checkDataRetransmit localIp now).1, p⟩
        { segs := (c.checkDataRetransmit localIp now).2 }
  | sendTo (c : VTcpConn) (p : Option PendingAccept) (fd : Int) (relay : VTcpConn.RelaySend) (buf : Bytes) :
      Step localIp peerIp ⟨some c, p⟩ (.sendTo fd relay buf) ⟨some (c.sendTo localIp relay buf).1, p⟩
        { segs := (c.sendTo localIp relay buf).2.1
          sent := if 0 ≤ (c.sendTo localIp relay buf).2.2.1 then some (peerIp, buf) else none }
  | recvFrom (c : VTcpConn) (p : Option PendingAccept) (fd : Int) (bufSize addrSize : Nat) :
      Step localIp peerIp ⟨some c, p⟩ (.recvFrom fd bufSize addrSize) ⟨some (c.recvFrom bufSize addrSize).1, p⟩
        { received := some (peerIp, (c.recvFrom bufSize addrSize).2) }
  | accept (p : PendingAccept) (fd : Int) (hp : p.gotFinalAck = true) :
      Step localIp peerIp ⟨none, some p⟩ .accept ⟨some (VTcp.acceptedConn p fd), none⟩ {}
  | connect (p : Option PendingAccept) (fd : Int) (dstPort : UInt16) (ourIsn : UInt32) :
      Step localIp peerIp ⟨none, p⟩ (.connect fd peerIp dstPort ourIsn)
        ⟨some (VTcp.connectingConn fd peerIp dstPort ourIsn), p⟩
        { segs := [VTcp.synSegment localIp peerIp dstPort ourIsn] }
  | connectTimedOut (c : VTcpConn) (p : Option PendingAccept) (fd : Int) :
      Step localIp peerIp ⟨some c, p⟩ (.connectTimedOut fd) ⟨none, p⟩ {}
  | close (c : VTcpConn) (p : Option PendingAccept) (fd : Int) :
      Step localIp peerIp ⟨some c, p⟩ (.close fd) ⟨none, p⟩ { segs := c.close localIp }

/-! ## A connection keeps its peer -/

namespace VTcpConn

variable (c : VTcpConn) (localIp : UInt32) (m : TcpSegment)

/-- The two fields that say whose connection a slot holds. -/
def SamePeer (c c' : VTcpConn) : Prop := c'.used = c.used ∧ c'.peerIp = c.peerIp

theorem ofPeer_congr {c c' : VTcpConn} (h : SamePeer c c') (ip : UInt32) : c'.ofPeer ip = c.ofPeer ip := by
  rw [ofPeer, ofPeer, h.1, h.2]

theorem SameKeys.samePeer {c c' : VTcpConn} (h : SameKeys c c') : SamePeer c c' := ⟨h.used, h.peerIp⟩

theorem receive_samePeer : SamePeer c (c.receive localIp m).1 ∧ ∀ s ∈ (c.receive localIp m).2, s.dstIp = m.srcIp :=
  ⟨(receive_sameKeys c localIp m).samePeer, dstIp_of_receive c localIp m⟩

theorem checkDataRetransmit_samePeer (now : UInt64) : SamePeer c (c.checkDataRetransmit localIp now).1 ∧
    ∀ s ∈ (c.checkDataRetransmit localIp now).2, c.used = true ∧ s.dstIp = c.peerIp := by
  refine ⟨(checkDataRetransmit_sameKeys c localIp now).samePeer, fun s hs => ?_⟩
  unfold checkDataRetransmit at hs
  by_cases hidle : (!c.used || !c.established || !c.hasUnackedData) = true
  · rw [if_pos hidle] at hs
    cases hs
  rw [if_neg hidle] at hs
  split at hs
  · cases hs
  split at hs
  · cases hs
  · simp only [Bool.or_eq_true, Bool.not_eq_true', not_or, Bool.not_eq_false] at hidle
    rw [List.mem_singleton.1 hs]
    exact ⟨hidle.1.1, rfl⟩

theorem sendTo_samePeer (relay : RelaySend) (buf : Bytes) : SamePeer c (c.sendTo localIp relay buf).1 ∧
    ∀ s ∈ (c.sendTo localIp relay buf).2.1, s.dstIp = c.peerIp := by
  refine ⟨(sendTo_sameKeys c localIp relay buf).samePeer, fun s hs => ?_⟩
  unfold sendTo at hs
  split at hs
  · cases hs
  split at hs
  · split at hs
    · rw [List.mem_singleton.1 hs]
      rfl
    · cases hs
  · cases hs

theorem recvFrom_samePeer (bufSize addrSize : Nat) : SamePeer c (c.recvFrom bufSize addrSize).1 :=
  (recvFrom_sameKeys c bufSize addrSize).samePeer

theorem close_peer : ∀ s ∈ c.close localIp, s.dstIp = c.peerIp := by
  unfold close
  split
  · exact fun s hs => by rw [List.mem_singleton.1 hs]; rfl
  · exact fun s hs => by cases hs

end VTcpConn

/-! ## The table's calls are steps of every endpoint -/

namespace VTcp

def endpoint (t : VTcp) (ip : UInt32) : Endpoint where
  conn := SlotTable.lookup (VTcpConn.ofPeer ip) t.conns
  pending := SlotTable.lookup (PendingAccept.ofPeer ip) t.pendingAccepts

/-- The peer has at most one connection and at most one pending entry. -/
structure Solo (t : VTcp) (ip : UInt32) : Prop where
  conns : SlotTable.Solo (VTcpConn.ofPeer ip) t.conns
  pending : SlotTable.Solo (PendingAccept.ofPeer ip) t.pendingAccepts

/-- `Connect` goes to the peer, and `Accept` takes its entry, only while it has no connection. -/
structure OpensAlone (t : VTcp) (ip : UInt32) (op : Op) : Prop where
  connect : ∀ fd dstPort ourIsn, op = .connect fd ip dstPort ourIsn → (t.endpoint ip).conn = none
  accept : ∀ r, op = .accept → t.accept true = some r → (t.endpoint ip).conn = none ∨ r.1.endpoint ip = t.endpoint ip

/-- The part of what a call shows that concerns one peer is within `out`. -/
structure Shows (full : Out) (ip : UInt32) (out : Out) : Prop where
  segs : ∀ s ∈ full.segs, s.dstIp = ip → s ∈ out.segs
  sent : full.sent.filter (fun x => x.1 == ip) = out.sent
  received : full.received.filter (fun x => x.1 == ip) = out.received

/-- A call's effect on one endpoint is a step that accounts for all it shows. -/
def StepsTo (t : VTcp) (localIp ip : UInt32) (op : Op) : Prop :=
  (t.step localIp op).1.Solo ip ∧
  ∃ out, Endpoint.Step localIp ip (t.endpoint ip) op ((t.step localIp op).1.endpoint ip) out ∧
    Shows (t.step localIp op).2 ip out

variable {t : VTcp} {ip localIp : UInt32}

theorem shows_nothing {full : Out} (hsegs : ∀ s ∈ full.segs, s.dstIp ≠ ip)
    (hsent : ∀ x, full.sent = some x → x.1 ≠ ip) (hrecv : ∀ x, full.received = some x → x.1 ≠ ip) :
    Shows full ip {} where
  segs := fun s hs he => absurd he (hsegs s hs)
  sent := Option.filter_eq_none_iff.2 (fun x hx => by simpa using hsent x hx)
  received := Option.filter_eq_none_iff.2 (fun x hx => by simpa using hrecv x hx)

/-- **A write to a slot that keeps its peer** reaches the endpoint exactly when the slot is the peer's. -/
theorem endpoint_setConn (h : t.Solo ip) {k : Fin maxVTcpConns} {c : VTcpConn} (hc : VTcpConn.SamePeer (t.conns k) c) :
    (t.setConn k c).Solo ip ∧
    (((t.conns k).ofPeer ip = true ∧ t.endpoint ip = ⟨some (t.conns k), (t.endpoint ip).pending⟩ ∧
        (t.setConn k c).endpoint ip = ⟨some c, (t.endpoint ip).pending⟩) ∨
     ((t.conns k).ofPeer ip = false ∧ (t.setConn k c).endpoint ip = t.endpoint ip)) := by
  have hsame := VTcpConn.ofPeer_congr hc ip
  by_cases hk : (t.conns k).ofPeer ip = true
  · refine ⟨⟨SlotTable.solo_update_hit h.conns hk, h.pending⟩, Or.inl ⟨hk, ?_, ?_⟩⟩
    · simp only [endpoint, SlotTable.lookup_of_solo h.conns hk]
    · simp only [endpoint, setConn]
      rw [SlotTable.lookup_update_hit h.conns hk, if_pos (by rw [hsame, hk])]
  · have hf : (t.conns k).ofPeer ip = false := by simpa using hk
    refine ⟨⟨SlotTable.solo_update_miss h.conns (by rw [hsame, hf]), h.pending⟩, Or.inr ⟨hf, ?_⟩⟩
    simp only [endpoint, setConn]
    rw [SlotTable.lookup_update_miss hf (by rw [hsame, hf])]

theorem endpoint_clearConn (h : t.Solo ip) (k : Fin maxVTcpConns) :
    (t.setConn k {}).Solo ip ∧
    (((t.conns k).ofPeer ip = true ∧ t.endpoint ip = ⟨some (t.conns k), (t.endpoint ip).pending⟩ ∧
        (t.setConn k {}).endpoint ip = ⟨none, (t.endpoint ip).pending⟩) ∨
     ((t.conns k).ofPeer ip = false ∧ (t.setConn k {}).endpoint ip = t.endpoint ip)) := by
  have hempty : VTcpConn.ofPeer ip {} = false := rfl
  by_cases hk : (t.conns k).ofPeer ip = true
  · refine ⟨⟨SlotTable.solo_update_hit h.conns hk, h.pending⟩, Or.inl ⟨hk, ?_, ?_⟩⟩
    · simp only [endpoint, SlotTable.lookup_of_solo h.conns hk]
    · simp only [endpoint, setConn]
      rw [SlotTable.lookup_update_hit h.conns hk, if_neg (by rw [hempty]; simp)]
  · have hf : (t.conns k).ofPeer ip = false := by simpa using hk
    refine ⟨⟨SlotTable.solo_update_miss h.conns hempty, h.pending⟩, Or.inr ⟨hf, ?_⟩⟩
    simp only [endpoint, setConn]
    rw [SlotTable.lookup_update_miss hf hempty]

/-- **A write to a pending entry that keeps its peer**, likewise. -/
theorem endpoint_setPending (h : t.Solo ip) {k : Fin maxPendingAccepts} {p : PendingAccept}
    (hp : p.ofPeer ip = (t.pendingAccepts k).ofPeer ip) :
    (t.setPending k p).Solo ip ∧
    (((t.pendingAccepts k).ofPeer ip = true ∧ t.endpoint ip = ⟨(t.endpoint ip).conn, some (t.pendingAccepts k)⟩ ∧
        (t.setPending k p).endpoint ip = ⟨(t.endpoint ip).conn, some p⟩) ∨
     ((t.pendingAccepts k).ofPeer ip = false ∧ (t.setPending k p).endpoint ip = t.endpoint ip)) := by
  by_cases hk : (t.pendingAccepts k).ofPeer ip = true
  · refine ⟨⟨h.conns, SlotTable.solo_update_hit h.pending hk⟩, Or.inl ⟨hk, ?_, ?_⟩⟩
    · simp only [endpoint, SlotTable.lookup_of_solo h.pending hk]
    · simp only [endpoint, setPending]
      rw [SlotTable.lookup_update_hit h.pending hk, if_pos (by rw [hp, hk])]
  · have hf : (t.pendingAccepts k).ofPeer ip = false := by simpa using hk
    refine ⟨⟨h.conns, SlotTable.solo_update_miss h.pending (by rw [hp, hf])⟩, Or.inr ⟨hf, ?_⟩⟩
    simp only [endpoint, setPending]
    rw [SlotTable.lookup_update_miss hf (by rw [hp, hf])]

/-- An entry for a peer without connection and entry is that peer's endpoint, and no other's. -/
theorem endpoint_newPending (h : t.Solo ip) {k : Fin maxPendingAccepts} {p : PendingAccept} (hused : p.used = true)
    (hfree : (t.pendingAccepts k).used = false) (hconn : t.findVTcpConnByPeer true p.peerIp = none)
    (hnew : SlotTable.first (fun q => q.used && q.peerIp == p.peerIp) t.pendingAccepts = none) :
    (t.setPending k p).Solo ip ∧
    ((p.peerIp = ip ∧ t.endpoint ip = ⟨none, none⟩ ∧ (t.setPending k p).endpoint ip = ⟨none, some p⟩) ∨
     (p.peerIp ≠ ip ∧ (t.setPending k p).endpoint ip = t.endpoint ip)) := by
  have hmiss : (t.pendingAccepts k).ofPeer ip = false := by simp [PendingAccept.ofPeer, hfree]
  by_cases hip : p.peerIp = ip
  · rw [hip] at hconn hnew
    have hc : SlotTable.first (VTcpConn.ofPeer ip) t.conns = none := hconn
    have hp : SlotTable.first (PendingAccept.ofPeer ip) t.pendingAccepts = none := hnew
    have hE : t.endpoint ip = ⟨none, none⟩ := by
      simp only [endpoint, SlotTable.lookup, hc, hp, Option.map_none]
    have hnone : SlotTable.lookup (PendingAccept.ofPeer ip) t.pendingAccepts = none := congrArg Endpoint.pending hE
    have hnew' : p.ofPeer ip = true := by simp [PendingAccept.ofPeer, hused, hip]
    refine ⟨⟨h.conns, SlotTable.solo_update_new hnone⟩, Or.inl ⟨hip, hE, ?_⟩⟩
    rw [← show (t.endpoint ip).conn = none by rw [hE]]
    simp only [endpoint, setPending]
    rw [SlotTable.lookup_update_new hnone hnew']
  · have hnew' : p.ofPeer ip = false := by simp [PendingAccept.ofPeer, hip]
    refine ⟨⟨h.conns, SlotTable.solo_update_miss h.pending hnew'⟩, Or.inr ⟨hip, ?_⟩⟩
    simp only [endpoint, setPending]
    rw [SlotTable.lookup_update_miss hmiss hnew']

theorem not_peer_of_used {c : VTcpConn} (hu : c.used = true) (hf : c.ofPeer ip = false) : c.peerIp ≠ ip := fun he => by
  rw [VTcpConn.ofPeer, hu, he] at hf
  simp at hf

theorem used_of_findByFd {fd : Int} {k : Fin maxVTcpConns} (h : t.findVTcpConnByFd true fd = some k) :
    (t.conns k).used = true := by
  rw [findVTcpConnByFd, if_pos rfl] at h
  have := SlotTable.apply_of_first h
  simp only [Bool.and_eq_true] at this
  exact this.1

/-- An operation that changes neither conns nor pending entries and shows nothing. -/
theorem stepsTo_idle {op : Op} (hstep : (t.step localIp op).1.endpoint ip = t.endpoint ip)
    (hsolo : (t.step localIp op).1.Solo ip) (hshow : Shows (t.step localIp op).2 ip {}) : t.StepsTo localIp ip op := by
  refine ⟨hsolo, {}, ?_, hshow⟩
  rw [hstep]
  exact .idle _ _

theorem shows_segs (segs : List Segment) : Shows { segs := segs } ip { segs := segs } where
  segs := fun _ hs _ => hs
  sent := rfl
  received := rfl

/-- **A segment is a step of its source's endpoint and of no other.** -/
theorem stepsTo_segment (h : t.Solo ip) (ourIsn : UInt32) (m : TcpSegment) :
    t.StepsTo localIp ip (.segment ourIsn m) := by
  have hcases := t.handleTcpSegment_cases localIp ourIsn m
  have hstep : t.step localIp (.segment ourIsn m) = ((t.handleTcpSegment true localIp ourIsn m).1,
      { segs := (t.handleTcpSegment true localIp ourIsn m).2 }) := rfl
  generalize t.handleTcpSegment true localIp ourIsn m = r at hcases hstep
  have hidle : r.1.Solo ip → r.1.endpoint ip = t.endpoint ip → (∀ s ∈ r.2, s.dstIp ≠ ip) →
      t.StepsTo localIp ip (.segment ourIsn m) := fun hsolo hE hsegs => by
    refine stepsTo_idle (by rw [hstep]; exact hE) (by rw [hstep]; exact hsolo) ?_
    rw [hstep]
    exact shows_nothing hsegs (fun x hx => by cases hx) (fun x hx => by cases hx)
  cases hcases with
  | dropped => exact hidle h rfl (fun s hs => by cases hs)
  | requested k hsyn hconn hnew hfree =>
    obtain ⟨hsolo, ⟨hsrc, hE, hE'⟩ | ⟨hsrc, hE'⟩⟩ :=
      endpoint_newPending h (p := pendingOf m ourIsn) rfl hfree hconn hnew
    · rw [StepsTo, hstep]
      refine ⟨hsolo, _, ?_, shows_segs _⟩
      rw [hE, hE']
      exact .request ourIsn m hsrc hsyn
    · exact hidle hsolo hE' (fun s hs => by rw [List.mem_singleton.1 hs]; exact hsrc)
  | acknowledged k hack hk =>
    have hpeer : (t.pendingAccepts k).peerIp = m.srcIp := by
      simp only [awaitsFinalAck, Bool.and_eq_true, beq_iff_eq] at hk
      exact hk.1.1.2
    obtain ⟨hsolo, ⟨hit, hE, hE'⟩ | ⟨-, hE'⟩⟩ :=
      endpoint_setPending h (k := k) (p := { t.pendingAccepts k with gotFinalAck := true }) rfl
    · have hsrc : m.srcIp = ip := by
        simp only [PendingAccept.ofPeer, Bool.and_eq_true, beq_iff_eq] at hit
        rw [← hpeer, hit.2]
      rw [StepsTo, hstep]
      refine ⟨hsolo, _, ?_, shows_segs []⟩
      rw [hE, hE']
      exact .acknowledge _ _ ourIsn m hsrc hack hk
    · exact hidle hsolo hE' (fun s hs => by cases hs)
  | received k hk =>
    have hfound : (t.conns k).ofPeer m.srcIp = true := SlotTable.apply_of_first hk
    obtain ⟨hsame, hsegs⟩ := VTcpConn.receive_samePeer (t.conns k) localIp m
    obtain ⟨hsolo, ⟨hit, hE, hE'⟩ | ⟨hmiss, hE'⟩⟩ := endpoint_setConn h hsame
    · have hsrc : m.srcIp = ip := by
        simp only [VTcpConn.ofPeer, Bool.and_eq_true, beq_iff_eq] at hfound hit
        rw [← hfound.2, hit.2]
      rw [StepsTo, hstep]
      refine ⟨hsolo, _, ?_, shows_segs _⟩
      rw [hE, hE']
      exact .receive _ _ ourIsn m hsrc
    · have hsrc : m.srcIp ≠ ip := fun he => by
        rw [he, hmiss] at hfound
        cases hfound
      exact hidle hsolo hE' (fun s hs => by rw [hsegs s hs]; exact hsrc)

/-- **Every connection takes its own turn of `CheckDataRetransmits`.** -/
theorem stepsTo_checkDataRetransmits (h : t.Solo ip) (now : UInt64) :
    t.StepsTo localIp ip (.checkDataRetransmits now) := by
  have hp : ∀ c : VTcpConn, VTcpConn.ofPeer ip (c.checkDataRetransmit localIp now).1 = c.ofPeer ip := fun c =>
    VTcpConn.ofPeer_congr (VTcpConn.checkDataRetransmit_samePeer c localIp now).1 ip
  have hsolo : (t.step localIp (.checkDataRetransmits now)).1.Solo ip := ⟨SlotTable.solo_map h.conns hp, h.pending⟩
  have hE' : (t.step localIp (.checkDataRetransmits now)).1.endpoint ip =
      ⟨(t.endpoint ip).conn.map (fun c => (c.checkDataRetransmit localIp now).1), (t.endpoint ip).pending⟩ := by
    show VTcp.endpoint (t.checkDataRetransmits localIp now).1 ip = _
    simp only [checkDataRetransmits, endpoint]
    rw [SlotTable.lookup_map hp]
  have hsegs : ∀ s ∈ (t.step localIp (.checkDataRetransmits now)).2.segs, s.dstIp = ip →
      ∃ k, (t.conns k).ofPeer ip = true ∧ s ∈ ((t.conns k).checkDataRetransmit localIp now).2 := fun s hs he => by
    obtain ⟨k, -, hk⟩ := List.mem_flatMap.1 hs
    obtain ⟨hu, hd⟩ := (VTcpConn.checkDataRetransmit_samePeer (t.conns k) localIp now).2 s hk
    exact ⟨k, by simp [VTcpConn.ofPeer, hu, ← hd, he], hk⟩
  cases hc : (t.endpoint ip).conn with
  | none =>
    refine stepsTo_idle ?_ hsolo (shows_nothing (fun s hs he => ?_) (fun x hx => by cases hx) (fun x hx => by cases hx))
    · rw [hE', hc, ← show (t.endpoint ip).conn = (none : Option VTcpConn).map _ from hc]
    · obtain ⟨k, hk, -⟩ := hsegs s hs he
      rw [SlotTable.lookup_eq_none_iff.1 hc k] at hk
      cases hk
  | some c =>
    have hE : t.endpoint ip = ⟨some c, (t.endpoint ip).pending⟩ := by rw [← hc]
    refine ⟨hsolo, { segs := (c.checkDataRetransmit localIp now).2 }, ?_, ?_⟩
    · rw [hE', hc, Option.map_some, hE]
      exact .checkDataRetransmits c _ now
    · refine ⟨fun s hs he => ?_, rfl, rfl⟩
      obtain ⟨k, hk, hs'⟩ := hsegs s hs he
      have hck := SlotTable.lookup_of_solo h.conns hk
      rw [← show t.conns k = c from Option.some.inj (hck.symm.trans hc)]
      exact hs'

theorem stepsTo_sendTo (h : t.Solo ip) (fd : Int) (relay : VTcpConn.RelaySend) (buf : Bytes) :
    t.StepsTo localIp ip (.sendTo fd relay buf) := by
  cases hk : t.findVTcpConnByFd true fd with
  | none =>
    have hstep := step_sendTo_of_none localIp relay buf hk
    refine stepsTo_idle (by rw [hstep]) (by rw [hstep]; exact h) ?_
    rw [hstep]
    exact shows_segs []
  | some k =>
    obtain ⟨hsame, hsegs⟩ := VTcpConn.sendTo_samePeer (t.conns k) localIp relay buf
    have hstep := step_sendTo_of_some localIp relay buf hk
    obtain ⟨hsolo, ⟨hit, hE, hE'⟩ | ⟨hmiss, hE'⟩⟩ := endpoint_setConn h hsame
    · have hpeer : (t.conns k).peerIp = ip := by
        simp only [VTcpConn.ofPeer, Bool.and_eq_true, beq_iff_eq] at hit
        exact hit.2
      rw [hpeer] at hstep
      rw [StepsTo, hstep]
      refine ⟨hsolo, _, ?_, ⟨fun s hs _ => hs, ?_, rfl⟩⟩
      · rw [hE, hE']
        exact .sendTo (t.conns k) _ fd relay buf
      · simp only
        split
        · simp
        · rfl
    · have hpeer := not_peer_of_used (used_of_findByFd hk) hmiss
      refine stepsTo_idle ?_ ?_ ?_
      · rw [hstep]; exact hE'
      · rw [hstep]; exact hsolo
      · rw [hstep]
        refine shows_nothing (fun s hs => by rw [hsegs s hs]; exact hpeer) (fun x hx => ?_) (fun x hx => by cases hx)
        simp only at hx
        split at hx
        · cases hx; exact hpeer
        · cases hx

theorem stepsTo_recvFrom (h : t.Solo ip) (fd : Int) (bufSize addrSize : Nat) :
    t.StepsTo localIp ip (.recvFrom fd bufSize addrSize) := by
  cases hk : t.findVTcpConnByFd true fd with
  | none =>
    have hstep := step_recvFrom_of_none localIp bufSize addrSize hk
    refine stepsTo_idle (by rw [hstep]) (by rw [hstep]; exact h) ?_
    rw [hstep]
    exact shows_segs []
  | some k =>
    have hsame := VTcpConn.recvFrom_samePeer (t.conns k) bufSize addrSize
    have hstep := step_recvFrom_of_some localIp bufSize addrSize hk
    obtain ⟨hsolo, ⟨hit, hE, hE'⟩ | ⟨hmiss, hE'⟩⟩ := endpoint_setConn h hsame
    · have hpeer : (t.conns k).peerIp = ip := by
        simp only [VTcpConn.ofPeer, Bool.and_eq_true, beq_iff_eq] at hit
        exact hit.2
      rw [hpeer] at hstep
      rw [StepsTo, hstep]
      refine ⟨hsolo, _, ?_, ⟨fun s hs _ => hs, rfl, ?_⟩⟩
      · rw [hE, hE']
        exact .recvFrom (t.conns k) _ fd bufSize addrSize
      · simp
    · have hpeer := not_peer_of_used (used_of_findByFd hk) hmiss
      refine stepsTo_idle ?_ ?_ ?_
      · rw [hstep]; exact hE'
      · rw [hstep]; exact hsolo
      · rw [hstep]
        exact shows_nothing (fun s hs => by cases hs) (fun x hx => by cases hx) (fun x hx => by cases hx; exact hpeer)

/-- An accepted request of another peer. -/
theorem endpoint_accepted_other {p : Fin maxPendingAccepts} {k : Fin maxVTcpConns}
    (hused : (t.pendingAccepts p).used = true) (hfree : (t.conns k).used = false)
    (hother : (t.pendingAccepts p).ofPeer ip = false) (fd next : Int) :
    VTcp.endpoint { (t.setPending p { t.pendingAccepts p with used := false }).setConn k
      (acceptedConn (t.pendingAccepts p) fd) with nextSyntheticFd := next } ip = t.endpoint ip := by
  have hpeer : (t.pendingAccepts p).peerIp ≠ ip := fun he => by
    rw [PendingAccept.ofPeer, hused, he] at hother
    simp at hother
  have hnew : (acceptedConn (t.pendingAccepts p) fd).ofPeer ip = false := by
    simp [VTcpConn.ofPeer, acceptedConn, hpeer]
  have hold : (t.conns k).ofPeer ip = false := by simp [VTcpConn.ofPeer, hfree]
  have htaken : ({ t.pendingAccepts p with used := false } : PendingAccept).ofPeer ip = false := rfl
  simp only [endpoint, setConn, setPending]
  rw [SlotTable.lookup_update_miss hold hnew, SlotTable.lookup_update_miss hother htaken]

/-- **`Accept` concerns no peer without a pending entry.** -/
theorem endpoint_accept_of_no_pending (hp : (t.endpoint ip).pending = none) {r : VTcp × Int}
    (hr : t.accept true = some r) : r.1.endpoint ip = t.endpoint ip := by
  unfold accept at hr
  split at hr
  · rename_i p k hpend hk
    cases hr
    have hready := SlotTable.apply_of_first hpend
    simp only [Bool.and_eq_true] at hready
    rw [allocVTcpConn, if_pos rfl] at hk
    have hfree := SlotTable.apply_of_first hk
    simp only [Bool.not_eq_true'] at hfree
    exact endpoint_accepted_other hready.1 hfree (SlotTable.lookup_eq_none_iff.1 hp p) _ _
  · cases hr

/-- **`Accept` turns the peer's own acknowledged entry into its connection**, or concerns another peer. -/
theorem stepsTo_accept (h : t.Solo ip) (hopen : t.OpensAlone ip .accept) : t.StepsTo localIp ip .accept := by
  have hstep : t.step localIp .accept = ((t.accept true).elim t (·.1), {}) := rfl
  cases hr : t.accept true with
  | none =>
    rw [hr] at hstep
    exact stepsTo_idle (by rw [hstep]; rfl) (by rw [hstep]; exact h) (by rw [hstep]; exact shows_segs [])
  | some r =>
    have halone := hopen.accept r rfl hr
    rw [hr, Option.elim_some] at hstep
    unfold accept at hr
    split at hr
    · rename_i p k hp hk
      cases hr
      have hready := SlotTable.apply_of_first hp
      simp only [Bool.and_eq_true] at hready
      have hfree : (t.conns k).used = false := by
        rw [allocVTcpConn, if_pos rfl] at hk
        simpa using SlotTable.apply_of_first hk
      have htaken : ({ t.pendingAccepts p with used := false } : PendingAccept).ofPeer ip = false := rfl
      by_cases hmine : (t.pendingAccepts p).ofPeer ip = true
      · have hpeer : (t.pendingAccepts p).peerIp = ip := by
          simp only [PendingAccept.ofPeer, Bool.and_eq_true, beq_iff_eq] at hmine
          exact hmine.2
        have hnew : (acceptedConn (t.pendingAccepts p) t.nextSyntheticFd).ofPeer ip = true := by
          simp [VTcpConn.ofPeer, acceptedConn, hpeer]
        have hpend : (t.endpoint ip).pending = some (t.pendingAccepts p) := SlotTable.lookup_of_solo h.pending hmine
        have hpend' : SlotTable.lookup (PendingAccept.ofPeer ip)
            (Function.update t.pendingAccepts p { t.pendingAccepts p with used := false }) = none := by
          rw [SlotTable.lookup_update_hit h.pending hmine, if_neg (by rw [htaken]; simp)]
        have hnone : (t.endpoint ip).conn = none := by
          rcases halone with hnone | hsame
          · exact hnone
          · have := congrArg Endpoint.pending hsame
            rw [hpend] at this
            exact absurd (hpend'.symm.trans this) (by simp)
        rw [StepsTo, hstep]
        refine ⟨⟨SlotTable.solo_update_new hnone, SlotTable.solo_update_hit h.pending hmine⟩, {}, ?_, shows_segs []⟩
        have hE : t.endpoint ip = ⟨none, some (t.pendingAccepts p)⟩ := by rw [← hnone, ← hpend]
        have hE' : VTcp.endpoint { (t.setPending p { t.pendingAccepts p with used := false }).setConn k
              (acceptedConn (t.pendingAccepts p) t.nextSyntheticFd) with nextSyntheticFd := t.nextSyntheticFd + 1 } ip =
            ⟨some (acceptedConn (t.pendingAccepts p) t.nextSyntheticFd), none⟩ := by
          simp only [endpoint, setConn, setPending]
          rw [SlotTable.lookup_update_new hnone hnew, hpend']
        rw [hE, hE']
        exact .accept _ _ hready.2
      · have hother : (t.pendingAccepts p).ofPeer ip = false := by simpa using hmine
        have hpeer : (t.pendingAccepts p).peerIp ≠ ip := fun he => by
          rw [PendingAccept.ofPeer, hready.1, he] at hother
          simp at hother
        have hnew : (acceptedConn (t.pendingAccepts p) t.nextSyntheticFd).ofPeer ip = false := by
          simp [VTcpConn.ofPeer, acceptedConn, hpeer]
        refine stepsTo_idle ?_ ?_ (by rw [hstep]; exact shows_segs [])
        · rw [hstep]
          exact endpoint_accepted_other hready.1 hfree hother _ _
        · rw [hstep]
          exact ⟨SlotTable.solo_update_miss h.conns hnew, SlotTable.solo_update_miss h.pending htaken⟩
    · cases hr

theorem stepsTo_connect (h : t.Solo ip) (fd : Int) (dstIp : UInt32) (dstPort : UInt16) (ourIsn : UInt32)
    (hopen : t.OpensAlone ip (.connect fd dstIp dstPort ourIsn)) :
    t.StepsTo localIp ip (.connect fd dstIp dstPort ourIsn) := by
  cases hk : t.allocVTcpConn true with
  | none =>
    have hstep := step_connect_of_none localIp fd dstIp dstPort ourIsn hk
    exact stepsTo_idle (by rw [hstep]) (by rw [hstep]; exact h) (by rw [hstep]; exact shows_segs [])
  | some k =>
    have hstep := step_connect_of_some localIp fd dstIp dstPort ourIsn hk
    have hfree : (t.conns k).ofPeer ip = false := by
      rw [allocVTcpConn, if_pos rfl] at hk
      have := SlotTable.apply_of_first hk
      simp only [Bool.not_eq_true'] at this
      simp [VTcpConn.ofPeer, this]
    by_cases hdst : dstIp = ip
    · subst hdst
      have hnone := hopen.connect fd dstPort ourIsn rfl
      have hnew : (connectingConn fd dstIp dstPort ourIsn).ofPeer dstIp = true := by
        simp [VTcpConn.ofPeer, connectingConn]
      rw [StepsTo, hstep]
      refine ⟨⟨SlotTable.solo_update_new hnone, h.pending⟩, _, ?_, shows_segs _⟩
      have hE : t.endpoint dstIp = ⟨none, (t.endpoint dstIp).pending⟩ := by rw [← hnone]
      have hE' : (t.setConn k (connectingConn fd dstIp dstPort ourIsn)).endpoint dstIp =
          ⟨some (connectingConn fd dstIp dstPort ourIsn), (t.endpoint dstIp).pending⟩ := by
        simp only [endpoint, setConn]
        rw [SlotTable.lookup_update_new hnone hnew]
      rw [hE, hE']
      exact .connect _ fd dstPort ourIsn
    · have hnew : (connectingConn fd dstIp dstPort ourIsn).ofPeer ip = false := by
        simp [VTcpConn.ofPeer, connectingConn, hdst]
      refine stepsTo_idle ?_ ?_ ?_
      · rw [hstep]
        simp only [endpoint, setConn]
        rw [SlotTable.lookup_update_miss hfree hnew]
      · rw [hstep]
        exact ⟨SlotTable.solo_update_miss h.conns hnew, h.pending⟩
      · rw [hstep]
        exact shows_nothing (fun s hs => by rw [List.mem_singleton.1 hs]; exact hdst) (fun x hx => by cases hx)
          (fun x hx => by cases hx)

theorem stepsTo_connectTimedOut (h : t.Solo ip) (fd : Int) : t.StepsTo localIp ip (.connectTimedOut fd) := by
  have hstep : t.step localIp (.connectTimedOut fd) = (t.connectTimedOut true fd, {}) := rfl
  unfold connectTimedOut at hstep
  cases hk : t.findVTcpConnByFd true fd with
  | none =>
    rw [hk] at hstep
    exact stepsTo_idle (by rw [hstep]) (by rw [hstep]; exact h) (by rw [hstep]; exact shows_segs [])
  | some k =>
    rw [hk] at hstep
    obtain ⟨hsolo, ⟨-, hE, hE'⟩ | ⟨-, hE'⟩⟩ := endpoint_clearConn h k
    · rw [StepsTo, hstep]
      refine ⟨hsolo, _, ?_, shows_segs []⟩
      rw [hE, hE']
      exact .connectTimedOut _ _ fd
    · exact stepsTo_idle (by rw [hstep]; exact hE') (by rw [hstep]; exact hsolo) (by rw [hstep]; exact shows_segs [])

theorem stepsTo_close (h : t.Solo ip) (fd : Int) : t.StepsTo localIp ip (.close fd) := by
  have hstep : t.step localIp (.close fd) = ((t.close true localIp fd).1, { segs := (t.close true localIp fd).2 }) := rfl
  unfold close onConn at hstep
  cases hk : t.findVTcpConnByFd true fd with
  | none =>
    rw [hk] at hstep
    exact stepsTo_idle (by rw [hstep]; rfl) (by rw [hstep]; exact ⟨h.conns, h.pending⟩)
      (by rw [hstep]; exact shows_segs [])
  | some k =>
    rw [hk] at hstep
    obtain ⟨hsolo, ⟨-, hE, hE'⟩ | ⟨hmiss, hE'⟩⟩ := endpoint_clearConn h k
    · rw [StepsTo, hstep]
      refine ⟨⟨hsolo.conns, hsolo.pending⟩, { segs := (t.conns k).close localIp }, ?_, shows_segs _⟩
      have hE'' : VTcp.endpoint { t.setConn k {} with
          tcpListenFd := if (t.setConn k {}).isOwnTcpListenFd true fd then -1 else (t.setConn k {}).tcpListenFd } ip =
          ⟨none, (t.endpoint ip).pending⟩ := hE'
      rw [hE, hE'']
      exact .close _ _ fd
    · have hpeer := not_peer_of_used (used_of_findByFd hk) hmiss
      refine stepsTo_idle (by rw [hstep]; exact hE') (by rw [hstep]; exact ⟨hsolo.conns, hsolo.pending⟩) ?_
      rw [hstep]
      exact shows_nothing (fun s hs => by rw [VTcpConn.close_peer (t.conns k) localIp s hs]; exact hpeer)
        (fun x hx => by cases hx) (fun x hx => by cases hx)

/-- **Every call of the table is a step of each peer's endpoint that accounts for all the call shows of that peer.** -/
theorem endpoint_step (h : t.Solo ip) (localIp : UInt32) {op : Op} (hopen : t.OpensAlone ip op) :
    t.StepsTo localIp ip op := by
  cases op with
  | segment ourIsn m => exact stepsTo_segment h ourIsn m
  | checkDataRetransmits now => exact stepsTo_checkDataRetransmits h now
  | sendTo fd relay buf => exact stepsTo_sendTo h fd relay buf
  | recvFrom fd bufSize addrSize => exact stepsTo_recvFrom h fd bufSize addrSize
  | listen fd => exact stepsTo_idle rfl ⟨h.conns, h.pending⟩ (shows_segs [])
  | accept => exact stepsTo_accept h hopen
  | connect fd dstIp dstPort ourIsn => exact stepsTo_connect h fd dstIp dstPort ourIsn hopen
  | connectTimedOut fd => exact stepsTo_connectTimedOut h fd
  | close fd => exact stepsTo_close h fd

end VTcp
end Slp
