import SwitchLanPlay.Service
/-!
# VTcpCalls — the calls the service makes on the virtual TCP state

Every step of the service is one call of the virtual TCP state, or none: `vtcpCall` says which, and `vtcp_step` that the
state after the step is the call's.  An invariant of the calls is therefore one of the service's runs
(`vtcp_reachable`).
-/
namespace Slp

open Wire

namespace VTcp

/-- The states of the runs of calls that all meet `ok`. -/
inductive Reachable (ok : VTcp → Op → Prop) : VTcp → Prop
  | init : Reachable ok {}
  | step {t : VTcp} (h : Reachable ok t) (localIp : UInt32) (op : Op) (hok : ok t op) :
      Reachable ok (t.step localIp op).1

end VTcp

namespace Service

/-- The call a step makes, with the local address it is made with. -/
def vtcpCall (S : Service) : Op → Option (UInt32 × VTcp.Op)
  | .listen i fd =>
    match S.instance? i with
    | none => none
    | some s => if 0 ≤ fd ∧ fd = s.ldnTcpBindFd then some (0, .listen fd) else none
  | .accept i fd =>
    match S.instance? i with
    | none => none
    | some _ => if S.vtcp.isOwnTcpListenFd (S.owns i) fd then some (0, .accept) else none
  | .connect i fd dstIp dstPort ourIsn ok =>
    match S.instance? i with
    | none => none
    | some s =>
      if s.getTrackedType fd == SOCK_STREAM && dstPort == ldnControlPort then
        if (S.ensureRelayConnected ok).2 && S.owns i then some (s.bridgedLocalIp, .connect fd dstIp dstPort ourIsn) else none
      else none
  | .connectTimedOut i fd => if S.owns i then some (0, .connectTimedOut fd) else none
  | .sendTo i fd buf ok relayOk now =>
    match S.instance? i with
    | none => none
    | some s =>
      match S.vtcp.findVTcpConnByFd (S.owns i) fd with
      | none => none
      | some k =>
        if (S.vtcp.conns k).established && (S.ensureRelayConnected ok).2 then
          some (s.bridgedLocalIp, .sendTo fd ⟨true, relayOk, now⟩ buf)
        else none
  | .recvFrom i fd bufSize addrSize _ => if S.owns i then some (0, .recvFrom fd bufSize addrSize) else none
  | .close i fd =>
    match S.instance? i with
    | none => none
    | some s => if S.owns i then some (s.bridgedLocalIp, .close fd) else none
  | .drainSegment ourIsn m =>
    if S.activeLdnInstance.isNone || m.dstPort != ldnControlPort then none
    else some (S.lastBridgedLocalIp, .segment ourIsn m)
  | .drainRetransmits now =>
    if S.activeLdnInstance.isNone then none else some (S.lastBridgedLocalIp, .checkDataRetransmits now)
  | _ => none

/-- The virtual TCP state after the call, if there is one. -/
def afterCall (t : VTcp) : Option (UInt32 × VTcp.Op) → VTcp
  | none => t
  | some (localIp, op) => (t.step localIp op).1

section Calls

variable (S : Service) (i : Nat) (fd : Int)

theorem ensureRelayConnected_vtcp (ok : Bool) : (S.ensureRelayConnected ok).1.vtcp = S.vtcp := by
  unfold ensureRelayConnected
  split
  · rfl
  split
  · rfl
  split <;> rfl

theorem ensureRelayConnected_owns (ok : Bool) : (S.ensureRelayConnected ok).1.owns i = S.owns i := by
  unfold ensureRelayConnected
  split
  · rfl
  split
  · rfl
  split <;> rfl

theorem socket_vtcp (type ret : Int) : (S.socket i type ret).vtcp = S.vtcp := by
  unfold socket
  split <;> rfl

theorem bind_vtcp (port : UInt16) (learnedIp : UInt32) (ok : Bool) : (S.bind i fd port learnedIp ok).vtcp = S.vtcp := by
  unfold bind
  split
  · rfl
  split
  · exact ensureRelayConnected_vtcp _ ok
  split <;> rfl

theorem listen_vtcp : (S.listen i fd).vtcp = afterCall S.vtcp (S.vtcpCall (.listen i fd)) := by
  unfold vtcpCall listen
  dsimp only
  cases S.instance? i with
  | none => rfl
  | some s =>
    dsimp only
    split <;> rfl

theorem accept_vtcp : (S.accept i fd).vtcp = afterCall S.vtcp (S.vtcpCall (.accept i fd)) := by
  unfold vtcpCall accept
  dsimp only
  cases S.instance? i with
  | none => rfl
  | some s =>
    dsimp only
    split
    · rename_i hown
      have howns : S.owns i = true := by
        rw [VTcp.isOwnTcpListenFd, Bool.and_eq_true] at hown
        exact hown.1
      show _ = (S.vtcp.accept true).elim S.vtcp (·.1)
      rw [howns]
      cases S.vtcp.accept true <;> rfl
    · rfl

theorem connect_vtcp (dstIp : UInt32) (dstPort : UInt16) (ourIsn : UInt32) (ok : Bool) :
    (S.connect i fd dstIp dstPort ourIsn ok).1.vtcp =
      afterCall S.vtcp (S.vtcpCall (.connect i fd dstIp dstPort ourIsn ok)) := by
  have hvtcp := S.ensureRelayConnected_vtcp ok
  have howns := S.ensureRelayConnected_owns i ok
  unfold vtcpCall connect
  dsimp only
  generalize S.ensureRelayConnected ok = r at hvtcp howns
  obtain ⟨S', connected⟩ := r
  cases S.instance? i with
  | none => rfl
  | some s =>
    dsimp only at hvtcp howns ⊢
    split
    · cases connected with
      | false => exact hvtcp
      | true =>
        dsimp only
        rw [hvtcp, howns, Bool.true_and]
        cases S.owns i with
        | false => exact hvtcp
        | true =>
          show _ = (S.vtcp.step s.bridgedLocalIp (.connect fd dstIp dstPort ourIsn)).1
          rw [VTcp.step_connect]
          cases S.vtcp.connect true s.bridgedLocalIp fd dstIp dstPort ourIsn with
          | none => exact hvtcp
          | some r => rfl
    · rfl

theorem connectTimedOut_vtcp :
    (S.connectTimedOut i fd).vtcp = afterCall S.vtcp (S.vtcpCall (.connectTimedOut i fd)) := by
  unfold vtcpCall connectTimedOut
  dsimp only
  cases S.owns i <;> rfl

theorem owns_of_find {S : Service} {i : Nat} {fd : Int} {k : Fin maxVTcpConns}
    (h : S.vtcp.findVTcpConnByFd (S.owns i) fd = some k) : S.owns i = true := by
  by_contra hno
  rw [VTcp.findVTcpConnByFd, if_neg hno] at h
  cases h

theorem sendTo_vtcp (buf : Bytes) (ok relayOk : Bool) (now : UInt64) :
    (S.sendTo i fd buf ok relayOk now).1.vtcp =
      afterCall S.vtcp (S.vtcpCall (.sendTo i fd buf ok relayOk now)) := by
  have hvtcp := S.ensureRelayConnected_vtcp ok
  unfold vtcpCall sendTo
  dsimp only
  generalize S.ensureRelayConnected ok = r at hvtcp
  obtain ⟨S', connected⟩ := r
  cases S.instance? i with
  | none => rfl
  | some s =>
    dsimp only at hvtcp ⊢
    cases hk : S.vtcp.findVTcpConnByFd (S.owns i) fd with
    | some k =>
      dsimp only
      rw [owns_of_find hk] at hk
      cases (S.vtcp.conns k).established with
      | false => rfl
      | true =>
        cases connected with
        | false => exact hvtcp
        | true =>
          show _ = (S.vtcp.step s.bridgedLocalIp (.sendTo fd ⟨true, relayOk, now⟩ buf)).1
          rw [VTcp.step_sendTo_of_some s.bridgedLocalIp ⟨true, relayOk, now⟩ buf hk]
          dsimp only [Bool.not_true]
          rw [if_neg (by simp)]
          split <;> simp only [touchBridgeActivity, hvtcp]
    | none =>
      dsimp only
      split
      · cases connected with
        | false => exact hvtcp
        | true =>
          dsimp only
          split <;> exact hvtcp
      · rfl

theorem recvFrom_vtcp (bufSize addrSize : Nat) (now : UInt64) :
    (S.recvFrom i fd bufSize addrSize now).vtcp =
      afterCall S.vtcp (S.vtcpCall (.recvFrom i fd bufSize addrSize now)) := by
  unfold vtcpCall recvFrom
  dsimp only
  cases hk : S.vtcp.findVTcpConnByFd (S.owns i) fd with
  | none =>
    cases hown : S.owns i with
    | false => rfl
    | true =>
      rw [hown] at hk
      show _ = (S.vtcp.step 0 (.recvFrom fd bufSize addrSize)).1
      rw [VTcp.step_recvFrom_of_none 0 bufSize addrSize hk]
  | some k =>
    have howns := owns_of_find hk
    rw [howns] at hk
    rw [if_pos howns]
    show _ = (S.vtcp.step 0 (.recvFrom fd bufSize addrSize)).1
    rw [VTcp.step_recvFrom_of_some 0 bufSize addrSize hk]
    dsimp only
    split <;> rfl

theorem close_vtcp_call : (S.close i fd).1.vtcp = afterCall S.vtcp (S.vtcpCall (.close i fd)) := by
  unfold vtcpCall close
  dsimp only
  cases S.instance? i with
  | none => rfl
  | some s =>
    have hclose : (S.vtcp.close (S.owns i) s.bridgedLocalIp fd).1 =
        afterCall S.vtcp (if S.owns i then some (s.bridgedLocalIp, .close fd) else none) := by
      cases S.owns i <;> rfl
    dsimp only
    split
    · exact hclose
    · rw [unbridge_vtcp]
      exact hclose

theorem drainSegment_vtcp (ourIsn : UInt32) (m : TcpSegment) :
    (S.drainSegment ourIsn m).1.vtcp = afterCall S.vtcp (S.vtcpCall (.drainSegment ourIsn m)) := by
  unfold vtcpCall drainSegment
  dsimp only
  split <;> rfl

theorem drainRetransmits_vtcp (now : UInt64) :
    (S.drainRetransmits now).1.vtcp = afterCall S.vtcp (S.vtcpCall (.drainRetransmits now)) := by
  unfold vtcpCall drainRetransmits
  dsimp only
  split <;> rfl

/-- **A step leaves the virtual TCP state its call does.** -/
theorem vtcp_step (op : Op) : (S.step op).1.vtcp = afterCall S.vtcp (S.vtcpCall op) := by
  cases op with
  | create => rfl
  | destroy i => rfl
  | socket i type ret => exact S.socket_vtcp i type ret
  | bind i fd port learnedIp ok => exact S.bind_vtcp i fd port learnedIp ok
  | listen i fd => exact S.listen_vtcp i fd
  | accept i fd => exact S.accept_vtcp i fd
  | connect i fd dstIp dstPort ourIsn ok => exact S.connect_vtcp i fd dstIp dstPort ourIsn ok
  | connectTimedOut i fd => exact S.connectTimedOut_vtcp i fd
  | sendTo i fd buf ok relayOk now => exact S.sendTo_vtcp i fd buf ok relayOk now
  | recvFrom i fd bufSize addrSize now => exact S.recvFrom_vtcp i fd bufSize addrSize now
  | received now => rfl
  | close i fd => exact S.close_vtcp_call i fd
  | drainSegment ourIsn m => exact S.drainSegment_vtcp ourIsn m
  | drainRetransmits now => exact S.drainRetransmits_vtcp now
  | watchdog now =>
    show (S.watchdog now).vtcp = S.vtcp
    unfold watchdog
    split <;> rfl
  | forceReconnect ok => rfl
  | stop => rfl
  | start ok =>
    show (S.start ok).vtcp = S.vtcp
    unfold start
    dsimp only
    split <;> rfl

end Calls

/-- The call of a step, if there is one, meets a condition. -/
def CallOk (ok : VTcp → VTcp.Op → Prop) (S : Service) (op : Op) : Prop := ∀ c ∈ S.vtcpCall op, ok S.vtcp c.2

instance decidableCallOk {ok : VTcp → VTcp.Op → Prop} [hd : ∀ t op, Decidable (ok t op)] (S : Service) (op : Op) :
    Decidable (CallOk ok S op) :=
  match h : S.vtcpCall op with
  | none => isTrue (fun c hc => by rw [h] at hc; cases hc)
  | some c =>
    decidable_of_iff (ok S.vtcp c.2)
      ⟨fun hk c' hc' => by rw [h] at hc'; cases hc'; exact hk, fun hk => hk c h⟩

/-- **The virtual TCP state of a run of the service is reached by its calls.** -/
theorem vtcp_reachable {ok : VTcp → VTcp.Op → Prop} {S : Service} (h : Reachable (CallOk ok) S) : S.vtcp.Reachable ok := by
  induction h with
  | init => exact .init
  | @step S h op hok ih =>
    rw [vtcp_step]
    cases hc : S.vtcpCall op with
    | none => exact ih
    | some c => exact .step ih c.1 c.2 (hok c hc)

end Service
end Slp
