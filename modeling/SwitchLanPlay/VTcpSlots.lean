import SwitchLanPlay.VTcp
/-!
# VTcpSlots — what a call makes of one slot of the table

`SlotStep` lists the outcomes of a call for a slot: it is kept, a segment or a call on its descriptor changes the connection in
it, `Close` and a failed `Connect` empty it, `Accept` and `Connect` fill it when it is free.  Every call has one of them for
every slot (`step_slotStep`), and what calls keep of the connections is proved by cases on it.
-/
namespace Slp

open Wire

namespace VTcp

/-- The slot that a call finds by its descriptor. -/
def named (t : VTcp) : Op → Option (Fin maxVTcpConns)
  | .sendTo fd _ _ | .recvFrom fd _ _ | .connectTimedOut fd | .close fd => t.findVTcpConnByFd true fd
  | _ => none

/-- The outcomes of a call for the slot `k`. -/
inductive SlotStep (t : VTcp) (localIp : UInt32) (k : Fin maxVTcpConns) : Op → VTcpConn → Prop
  | kept (op : Op) (hk : t.named op ≠ some k) : SlotStep t localIp k op (t.conns k)
  | received (ourIsn : UInt32) (m : TcpSegment) (hk : t.findVTcpConnByPeer true m.srcIp = some k) :
      SlotStep t localIp k (.segment ourIsn m) ((t.conns k).receive localIp m).1
  | retransmitted (now : UInt64) :
      SlotStep t localIp k (.checkDataRetransmits now) ((t.conns k).checkDataRetransmit localIp now).1
  | sent (fd : Int) (relay : VTcpConn.RelaySend) (buf : Bytes) (hk : t.findVTcpConnByFd true fd = some k) :
      SlotStep t localIp k (.sendTo fd relay buf) ((t.conns k).sendTo localIp relay buf).1
  | read (fd : Int) (bufSize addrSize : Nat) (hk : t.findVTcpConnByFd true fd = some k) :
      SlotStep t localIp k (.recvFrom fd bufSize addrSize) ((t.conns k).recvFrom bufSize addrSize).1
  | cleared (op : Op) : SlotStep t localIp k op {}
  | accepted (p : PendingAccept) (hfree : (t.conns k).used = false) :
      SlotStep t localIp k .accept (acceptedConn p t.nextSyntheticFd)
  | connecting (fd : Int) (dstIp : UInt32) (dstPort : UInt16) (ourIsn : UInt32) (hfree : (t.conns k).used = false) :
      SlotStep t localIp k (.connect fd dstIp dstPort ourIsn) (connectingConn fd dstIp dstPort ourIsn)

variable (t : VTcp) (localIp : UInt32) (k : Fin maxVTcpConns)

/-! ## Writes -/

theorem close_conns (own : Bool) (fd : Int) :
    (t.close own localIp fd).1.conns k = if t.findVTcpConnByFd own fd = some k then {} else t.conns k := by
  unfold close onConn
  cases t.findVTcpConnByFd own fd with
  | none => rfl
  | some j =>
    by_cases hk : j = k
    · subst hk
      simp [setConn]
    · simp [setConn, Function.update_of_ne (Ne.symm hk), hk]

theorem connectTimedOut_conns (own : Bool) (fd : Int) :
    (t.connectTimedOut own fd).conns k = if t.findVTcpConnByFd own fd = some k then {} else t.conns k := by
  unfold connectTimedOut
  cases t.findVTcpConnByFd own fd with
  | none => rfl
  | some j =>
    show Function.update t.conns j {} k = _
    rw [Function.update_apply]
    simp only [Option.some.injEq, eq_comm]

variable {t k}

theorem free_of_alloc (h : t.allocVTcpConn true = some k) : (t.conns k).used = false := by
  rw [allocVTcpConn, if_pos rfl] at h
  simpa using SlotTable.apply_of_first h

/-- An `Accept` that finds an entry and a slot fills the slot. -/
theorem step_accept_conns {p : Fin maxPendingAccepts}
    (hp : SlotTable.first (fun p => p.used && p.gotFinalAck) t.pendingAccepts = some p) (hk : t.allocVTcpConn true = some k) :
    (t.step localIp .accept).1.conns = (t.setConn k (acceptedConn (t.pendingAccepts p) t.nextSyntheticFd)).conns := by
  show ((t.accept true).elim t (·.1)).conns = _
  simp only [accept, hp, hk]
  rfl

theorem step_accept_none (h : SlotTable.first (fun p => p.used && p.gotFinalAck) t.pendingAccepts = none ∨
    t.allocVTcpConn true = none) : (t.step localIp .accept).1 = t := by
  show (t.accept true).elim t (·.1) = t
  unfold accept
  rcases h with hp | hk
  · rw [hp]
    rfl
  · rw [hk]
    cases SlotTable.first (fun p => p.used && p.gotFinalAck) t.pendingAccepts <;> rfl

/-! ## The outcomes -/

variable {localIp}

theorem slotStep_of_eq {op : Op} (h : (t.step localIp op).1 = t) (hk : t.named op ≠ some k) :
    t.SlotStep localIp k op ((t.step localIp op).1.conns k) := by
  rw [h]
  exact .kept op hk

/-- A call that writes one slot, the one it names if it names any. -/
theorem slotStep_of_setConn {op : Op} {j : Fin maxVTcpConns} {c : VTcpConn}
    (h : (t.step localIp op).1.conns = (t.setConn j c).conns) (hnamed : ∀ i, t.named op = some i → i = j)
    (hj : t.SlotStep localIp j op c) : t.SlotStep localIp k op ((t.step localIp op).1.conns k) := by
  have hc : (t.step localIp op).1.conns k = if k = j then c else t.conns k := by
    rw [h]
    exact Function.update_apply t.conns j c k
  rw [hc]
  split
  · rename_i hk
    rw [hk]
    exact hj
  · rename_i hk
    exact .kept op (fun hn => hk (hnamed k hn))

variable (t localIp k)

theorem segment_slotStep (ourIsn : UInt32) (m : TcpSegment) :
    t.SlotStep localIp k (.segment ourIsn m) ((t.step localIp (.segment ourIsn m)).1.conns k) := by
  have hcases := t.handleTcpSegment_cases localIp ourIsn m
  have hstep : (t.step localIp (.segment ourIsn m)).1 = (t.handleTcpSegment true localIp ourIsn m).1 := rfl
  have hkept : t.named (.segment ourIsn m) ≠ some k := fun hn => by cases hn
  generalize t.handleTcpSegment true localIp ourIsn m = r at hcases hstep
  cases hcases with
  | dropped => exact slotStep_of_eq hstep hkept
  | requested =>
    rw [hstep]
    exact .kept _ hkept
  | acknowledged =>
    rw [hstep]
    exact .kept _ hkept
  | received j hj => exact slotStep_of_setConn (by rw [hstep]) (fun _ hn => by cases hn) (.received ourIsn m hj)

theorem sendTo_slotStep (fd : Int) (relay : VTcpConn.RelaySend) (buf : Bytes) :
    t.SlotStep localIp k (.sendTo fd relay buf) ((t.step localIp (.sendTo fd relay buf)).1.conns k) := by
  have hnamed : t.named (.sendTo fd relay buf) = t.findVTcpConnByFd true fd := rfl
  cases hj : t.findVTcpConnByFd true fd with
  | none => exact slotStep_of_eq (by rw [step_sendTo_of_none localIp relay buf hj]) (by rw [hnamed, hj]; simp)
  | some j =>
    refine slotStep_of_setConn (by rw [step_sendTo_of_some localIp relay buf hj]) (fun i hi => ?_) (.sent fd relay buf hj)
    exact Option.some.inj (hi.symm.trans hj)

theorem recvFrom_slotStep (fd : Int) (bufSize addrSize : Nat) :
    t.SlotStep localIp k (.recvFrom fd bufSize addrSize) ((t.step localIp (.recvFrom fd bufSize addrSize)).1.conns k) := by
  have hnamed : t.named (.recvFrom fd bufSize addrSize) = t.findVTcpConnByFd true fd := rfl
  cases hj : t.findVTcpConnByFd true fd with
  | none => exact slotStep_of_eq (by rw [step_recvFrom_of_none localIp bufSize addrSize hj]) (by rw [hnamed, hj]; simp)
  | some j =>
    refine slotStep_of_setConn (by rw [step_recvFrom_of_some localIp bufSize addrSize hj]) (fun i hi => ?_)
      (.read fd bufSize addrSize hj)
    exact Option.some.inj (hi.symm.trans hj)

theorem accept_slotStep : t.SlotStep localIp k .accept ((t.step localIp .accept).1.conns k) := by
  cases hp : SlotTable.first (fun p => p.used && p.gotFinalAck) t.pendingAccepts with
  | none => exact slotStep_of_eq (step_accept_none localIp (.inl hp)) (fun hn => by cases hn)
  | some p =>
    cases hj : t.allocVTcpConn true with
    | none => exact slotStep_of_eq (step_accept_none localIp (.inr hj)) (fun hn => by cases hn)
    | some j =>
      exact slotStep_of_setConn (step_accept_conns localIp hp hj) (fun _ hn => by cases hn) (.accepted _ (free_of_alloc hj))

theorem connect_slotStep (fd : Int) (dstIp : UInt32) (dstPort : UInt16) (ourIsn : UInt32) :
    t.SlotStep localIp k (.connect fd dstIp dstPort ourIsn)
      ((t.step localIp (.connect fd dstIp dstPort ourIsn)).1.conns k) := by
  cases hj : t.allocVTcpConn true with
  | none =>
    exact slotStep_of_eq (by rw [step_connect_of_none localIp fd dstIp dstPort ourIsn hj]) (fun hn => by cases hn)
  | some j =>
    exact slotStep_of_setConn (by rw [step_connect_of_some localIp fd dstIp dstPort ourIsn hj]) (fun _ hn => by cases hn)
      (.connecting fd dstIp dstPort ourIsn (free_of_alloc hj))

/-- A call that empties the slot it names. -/
theorem cleared_slotStep {op : Op}
    (hc : (t.step localIp op).1.conns k = if t.named op = some k then {} else t.conns k) :
    t.SlotStep localIp k op ((t.step localIp op).1.conns k) := by
  rw [hc]
  split
  · exact .cleared op
  · rename_i hk
    exact .kept op hk

/-- **Every call has one of the outcomes for every slot.** -/
theorem step_slotStep (op : Op) : t.SlotStep localIp k op ((t.step localIp op).1.conns k) := by
  cases op with
  | segment ourIsn m => exact segment_slotStep t localIp k ourIsn m
  | checkDataRetransmits now => exact .retransmitted now
  | sendTo fd relay buf => exact sendTo_slotStep t localIp k fd relay buf
  | recvFrom fd bufSize addrSize => exact recvFrom_slotStep t localIp k fd bufSize addrSize
  | listen fd => exact .kept _ (fun hn => by cases hn)
  | accept => exact accept_slotStep t localIp k
  | connect fd dstIp dstPort ourIsn => exact connect_slotStep t localIp k fd dstIp dstPort ourIsn
  | connectTimedOut fd => exact cleared_slotStep t localIp k (connectTimedOut_conns t k true fd)
  | close fd => exact cleared_slotStep t localIp k (close_conns t localIp k true fd)

end VTcp
end Slp
