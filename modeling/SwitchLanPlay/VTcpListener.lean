import SwitchLanPlay.VTcpCalls
/-!
# VTcpListener — what a call does to the listener and to the pending requests

A pending accept is written by the segment handler alone, which does not ask whether anything listens (`KeepsRequest`), and
only `Listen` and `Close` change the listener.  Every other call is `Passive`: it takes no entry and leaves the listener
(`passive_step`).
-/
namespace Slp

open Wire TcpSegment

namespace VTcp

/-- The segment is a request the handler keeps. -/
structure KeepsRequest (t : VTcp) (m : TcpSegment) : Prop where
  syn : m.BareSyn
  no_conn : t.findVTcpConnByPeer true m.srcIp = none
  no_pending : SlotTable.first (fun p => p.used && p.peerIp == m.srcIp) t.pendingAccepts = none
  free : ∃ k, (t.pendingAccepts k).used = false

instance (m : TcpSegment) : Decidable m.BareSyn :=
  decidable_of_iff (m.isSyn = true ∧ m.isAck = false ∧ m.isRst = false)
    ⟨fun h => ⟨h.1, h.2.1, h.2.2⟩, fun h => ⟨h.syn, h.no_ack, h.no_rst⟩⟩

instance (t : VTcp) (m : TcpSegment) : Decidable (t.KeepsRequest m) :=
  decidable_of_iff (m.BareSyn ∧ t.findVTcpConnByPeer true m.srcIp = none ∧
      SlotTable.first (fun p => p.used && p.peerIp == m.srcIp) t.pendingAccepts = none ∧
      ∃ k, (t.pendingAccepts k).used = false)
    ⟨fun h => ⟨h.1, h.2.1, h.2.2.1, h.2.2.2⟩, fun h => ⟨h.syn, h.no_conn, h.no_pending, h.free⟩⟩

/-- A call takes no entry and leaves the listener. -/
structure Passive (t t' : VTcp) : Prop where
  tcpListenFd : t'.tcpListenFd = t.tcpListenFd
  pendingAccepts : ∀ k, (t'.pendingAccepts k).used = true → (t.pendingAccepts k).used = true

theorem Passive.of_conns {t t' : VTcp} (hl : t'.tcpListenFd = t.tcpListenFd) (hp : t'.pendingAccepts = t.pendingAccepts) :
    Passive t t' := ⟨hl, fun k hk => by rwa [hp] at hk⟩

theorem passive_sendTo (t : VTcp) (localIp : UInt32) (fd : Int) (relay : VTcpConn.RelaySend) (buf : Bytes) :
    Passive t (t.step localIp (.sendTo fd relay buf)).1 := by
  cases hk : t.findVTcpConnByFd true fd with
  | none =>
    rw [step_sendTo_of_none localIp relay buf hk]
    exact .of_conns rfl rfl
  | some k =>
    rw [step_sendTo_of_some localIp relay buf hk]
    exact .of_conns rfl rfl

theorem passive_recvFrom (t : VTcp) (localIp : UInt32) (fd : Int) (bufSize addrSize : Nat) :
    Passive t (t.step localIp (.recvFrom fd bufSize addrSize)).1 := by
  cases hk : t.findVTcpConnByFd true fd with
  | none =>
    rw [step_recvFrom_of_none localIp bufSize addrSize hk]
    exact .of_conns rfl rfl
  | some k =>
    rw [step_recvFrom_of_some localIp bufSize addrSize hk]
    exact .of_conns rfl rfl

theorem passive_accept (t : VTcp) (localIp : UInt32) : Passive t (t.step localIp .accept).1 := by
  show Passive t ((t.accept true).elim t (·.1))
  unfold accept
  split
  · rename_i p k hp hk
    constructor
    · rfl
    · intro j hj
      by_cases hjp : j = p
      · subst hjp
        simp [setConn, setPending] at hj
      · simpa [setConn, setPending, hjp] using hj
  · exact .of_conns rfl rfl

theorem passive_connect (t : VTcp) (localIp : UInt32) (fd : Int) (dstIp : UInt32) (dstPort : UInt16) (ourIsn : UInt32) :
    Passive t (t.step localIp (.connect fd dstIp dstPort ourIsn)).1 := by
  cases hk : t.allocVTcpConn true with
  | none =>
    rw [step_connect_of_none localIp fd dstIp dstPort ourIsn hk]
    exact .of_conns rfl rfl
  | some k =>
    rw [step_connect_of_some localIp fd dstIp dstPort ourIsn hk]
    exact .of_conns rfl rfl

theorem passive_connectTimedOut (t : VTcp) (localIp : UInt32) (fd : Int) :
    Passive t (t.step localIp (.connectTimedOut fd)).1 := by
  show Passive t (t.connectTimedOut true fd)
  unfold connectTimedOut
  split <;> exact .of_conns rfl rfl

/-- No segment changes the listener. -/
theorem segment_tcpListenFd (t : VTcp) (localIp ourIsn : UInt32) (m : TcpSegment) :
    (t.step localIp (.segment ourIsn m)).1.tcpListenFd = t.tcpListenFd := by
  have hcases := t.handleTcpSegment_cases localIp ourIsn m
  show (t.handleTcpSegment true localIp ourIsn m).1.tcpListenFd = t.tcpListenFd
  generalize t.handleTcpSegment true localIp ourIsn m = r at hcases
  cases hcases <;> rfl

/-- **A segment takes an entry only if it is a request the handler keeps.** -/
theorem passive_segment {t : VTcp} {m : TcpSegment} (hm : ¬ t.KeepsRequest m) (localIp ourIsn : UInt32) :
    Passive t (t.step localIp (.segment ourIsn m)).1 := by
  have hcases := t.handleTcpSegment_cases localIp ourIsn m
  show Passive t (t.handleTcpSegment true localIp ourIsn m).1
  generalize t.handleTcpSegment true localIp ourIsn m = r at hcases
  cases hcases with
  | dropped => exact .of_conns rfl rfl
  | received k hk => exact .of_conns rfl rfl
  | requested k hsyn hconn hnew hfree => exact absurd ⟨hsyn, hconn, hnew, k, hfree⟩ hm
  | acknowledged k hack hk =>
    refine ⟨rfl, fun j hj => ?_⟩
    by_cases hjk : j = k
    · subst hjk
      simpa [setPending] using hj
    · simpa [setPending, hjk] using hj

theorem close_pendingAccepts (t : VTcp) (own : Bool) (localIp : UInt32) (fd : Int) :
    (t.close own localIp fd).1.pendingAccepts = t.pendingAccepts := by
  unfold close onConn
  cases t.findVTcpConnByFd own fd <;> rfl

/-- The call is neither a segment, nor a `Listen`, nor a `Close`. -/
def Op.passive : Op → Bool
  | .segment _ _ | .listen _ | .close _ => false
  | _ => true

end VTcp

namespace Service

def Op.passive : Op → Bool
  | .drainSegment _ _ | .listen _ _ | .close _ _ => false
  | _ => true

theorem passive_of_vtcpCall {S : Service} {op : Op} {c : UInt32 × VTcp.Op} (hc : S.vtcpCall op = some c)
    (hop : op.passive = true) : c.2.passive = true := by
  cases op with
  | drainSegment ourIsn m => cases hop
  | listen i fd => cases hop
  | close i fd => cases hop
  | _ =>
    simp only [vtcpCall] at hc
    (repeat' split at hc) <;> cases hc <;> rfl

/-- **Only a segment, a `Listen` or a `Close` takes an entry or changes the listener.** -/
theorem passive_step (S : Service) {op : Op} (hop : op.passive = true) : VTcp.Passive S.vtcp (S.step op).1.vtcp := by
  rw [vtcp_step]
  cases hc : S.vtcpCall op with
  | none => exact .of_conns rfl rfl
  | some c =>
    have hpassive := passive_of_vtcpCall hc hop
    obtain ⟨localIp, vop⟩ := c
    show VTcp.Passive S.vtcp (S.vtcp.step localIp vop).1
    cases vop with
    | segment ourIsn m => cases hpassive
    | listen fd => cases hpassive
    | close fd => cases hpassive
    | checkDataRetransmits now => exact .of_conns rfl rfl
    | sendTo fd relay buf => exact VTcp.passive_sendTo _ localIp fd relay buf
    | recvFrom fd bufSize addrSize => exact VTcp.passive_recvFrom _ localIp fd bufSize addrSize
    | accept => exact VTcp.passive_accept _ localIp
    | connect fd dstIp dstPort ourIsn => exact VTcp.passive_connect _ localIp fd dstIp dstPort ourIsn
    | connectTimedOut fd => exact VTcp.passive_connectTimedOut _ localIp fd

/-- **An entry is taken only for a request the handler keeps, by an owner.** -/
theorem keepsRequest_of_taken {S : Service} {op : Op} {k : Fin maxPendingAccepts}
    (hfree : (S.vtcp.pendingAccepts k).used = false) (hused : ((S.step op).1.vtcp.pendingAccepts k).used = true) :
    ∃ ourIsn m, op = .drainSegment ourIsn m ∧ m.dstPort = ldnControlPort ∧ S.vtcp.KeepsRequest m ∧
      ∃ o, S.activeLdnInstance = some o := by
  have hnot : ¬ VTcp.Passive S.vtcp (S.step op).1.vtcp := by
    intro hp
    rw [hp.pendingAccepts k hused] at hfree
    cases hfree
  cases op with
  | drainSegment ourIsn m =>
    rw [vtcp_step] at hnot
    unfold vtcpCall at hnot
    dsimp only at hnot
    split at hnot
    · exact absurd (.of_conns rfl rfl) hnot
    · rename_i hguard
      rw [Bool.or_eq_true, not_or, Bool.not_eq_true, Option.isNone_eq_false_iff, bne_iff_ne, not_not] at hguard
      refine ⟨ourIsn, m, rfl, hguard.2, ?_, Option.isSome_iff_exists.1 hguard.1⟩
      by_contra hm
      exact hnot (VTcp.passive_segment hm _ _)
  | listen i fd =>
    have hpend : (S.listen i fd).vtcp.pendingAccepts = S.vtcp.pendingAccepts := by
      unfold listen
      split
      · rfl
      split <;> rfl
    rw [← hpend] at hfree
    cases hfree.symm.trans hused
  | close i fd =>
    have hpend : (S.close i fd).1.vtcp.pendingAccepts = S.vtcp.pendingAccepts := by
      rw [close_vtcp_call]
      unfold vtcpCall
      dsimp only
      split
      · rfl
      split
      · exact VTcp.close_pendingAccepts _ _ _ _
      · rfl
    rw [← hpend] at hfree
    cases hfree.symm.trans hused
  | _ => exact absurd (S.passive_step rfl) hnot

end Service
end Slp
