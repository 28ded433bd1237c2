import SwitchLanPlay.Commands
import SwitchLanPlay.LocalAddress
import SwitchLanPlay.VTcpKeys
/-!
# BridgedSocket — how long an instance serves a bridged socket

An instance has room for one bridged socket.  From the `Bind` that bridges it until its `Close` every `SendTo` and `RecvFrom`
on it is served by the relay and the control queue, under the port its `Bind` named, as long as no other `Bind` of the
instance is judged bridge-worthy (`bridged_until_closed`).  Such a `Bind` takes the place, and the first socket falls back to
the real network (`second_bind_takes_over`).
-/
namespace Slp

open Wire

namespace Service

/-- No virtual connection is in use. -/
def NoConns (S : Service) : Prop := ∀ k, (S.vtcp.conns k).used = false

/-- The step can make a virtual connection. -/
def Op.makesConn : Op → Bool
  | .connect _ _ _ _ _ _ | .accept _ _ => true
  | _ => false

/-- The instance's bridged socket is this one. -/
def Serves (S : Service) (i : Nat) (fd : Int) (port : UInt16) : Prop :=
  ∃ s, S.instance? i = some s ∧ s.bridgedFd = fd ∧ s.bridgedLocalPort = port

/-- The step takes the place of the instance's bridged socket for no other, and does not close it. -/
def LeavesSocket (S : Service) (i : Nat) (fd : Int) : Op → Prop
  | .bind j fd' port learnedIp _ => j = i → ∀ s ∈ S.instance? i, S.bridges s fd' port learnedIp = false
  | .close j fd' => j = i → fd' ≠ fd
  | .destroy j => j ≠ i
  | _ => True

section Steps

variable {S : Service} {i : Nat} {fd : Int} {port : UInt16}

/-- The call of a step can fill a slot when the step can make a connection. -/
theorem fills_of_vtcpCall {op : Op} {c : UInt32 × VTcp.Op} (hc : S.vtcpCall op = some c) : c.2.fills = op.makesConn := by
  unfold vtcpCall at hc
  split at hc
  case h_1 i fd =>
    split at hc
    · cases hc
    split at hc <;> cases hc
    rfl
  case h_2 i fd =>
    split at hc
    · cases hc
    split at hc <;> cases hc
    rfl
  case h_3 i fd dstIp dstPort ourIsn ok =>
    split at hc
    · cases hc
    split at hc
    · split at hc <;> cases hc
      rfl
    · cases hc
  case h_4 i fd =>
    split at hc <;> cases hc
    rfl
  case h_5 i fd buf ok relayOk now =>
    split at hc
    · cases hc
    split at hc
    · cases hc
    split at hc <;> cases hc
    rfl
  case h_6 i fd bufSize addrSize now =>
    split at hc <;> cases hc
    rfl
  case h_7 i fd =>
    split at hc
    · cases hc
    split at hc <;> cases hc
    rfl
  case h_8 ourIsn m =>
    split at hc <;> cases hc
    rfl
  case h_9 now =>
    split at hc <;> cases hc
    rfl
  case h_10 => cases hc

theorem NoConns.findVTcpConnByFd (h : S.NoConns) (own : Bool) (fd : Int) : S.vtcp.findVTcpConnByFd own fd = none := by
  unfold VTcp.findVTcpConnByFd
  split
  · exact SlotTable.first_eq_none_iff.2 (fun k => by rw [h k, Bool.false_and])
  · rfl

/-- **Only `Connect` and `Accept` make virtual connections.** -/
theorem noConns_step (h : S.NoConns) {op : Op} (hop : op.makesConn = false) : (S.step op).1.NoConns := by
  intro k
  rw [vtcp_step]
  cases hc : S.vtcpCall op with
  | none => exact h k
  | some c =>
    have hfills : c.2.fills = false := by rw [fills_of_vtcpCall hc, hop]
    by_contra hused
    rw [Bool.not_eq_false] at hused
    have hkeys := VTcp.step_keysFrom S.vtcp c.1 hfills k hused
    change ((S.vtcp.step c.1 c.2).1.conns k).used = true at hused
    rw [hkeys.used, h k] at hused
    cases hused

theorem serves_of_same {S' : Service} (h : S.Serves i fd port)
    (hsame : (S'.instance? i).map Instance.bridged = (S.instance? i).map Instance.bridged) : S'.Serves i fd port := by
  obtain ⟨s, hs, hfd, hport⟩ := h
  rw [hs, Option.map_some] at hsame
  obtain ⟨s', hs', hb⟩ := Option.map_eq_some_iff.1 hsame
  rw [Instance.bridged, Instance.bridged, Prod.mk.injEq, Prod.mk.injEq] at hb
  exact ⟨s', hs', hb.1.trans hfd, hb.2.2.trans hport⟩

theorem serves_bind (h : S.Serves i fd port) {j : Nat} {fd' : Int} {port' : UInt16} {learnedIp : UInt32} (ok : Bool)
    (hok : S.LeavesSocket i fd (.bind j fd' port' learnedIp ok)) : (S.bind j fd' port' learnedIp ok).Serves i fd port := by
  unfold bind
  cases hs : S.instance? j with
  | none => exact h
  | some s =>
    dsimp only
    split
    · rename_i hb
      have hji : i ≠ j := by
        rintro rfl
        rw [hok rfl s hs] at hb
        cases hb
      refine serves_of_same h ?_
      rw [(ensureRelayConnected_keepsBridged _ ok).instance_bridged]
      exact congrArg (Option.map Instance.bridged) (instance_setInstance_ne hji _)
    · split
      · have hsame : KeepsBridged S (S.setInstance j { s with ldnTcpBindFd := fd' }) := keepsBridged_setInstance hs rfl
        exact serves_of_same h (hsame.instance_bridged i)
      · exact h

theorem serves_close (h : S.Serves i fd port) {j : Nat} {fd' : Int} (hok : S.LeavesSocket i fd (.close j fd')) :
    (S.close j fd').1.Serves i fd port := by
  unfold close
  cases hs : S.instance? j with
  | none => exact h
  | some s =>
    dsimp only
    by_cases hji : j = i
    · -- another descriptor of the instance: it is not the bridged one
      subst hji
      obtain ⟨s', hs', hfd, -⟩ := id h
      cases hs.symm.trans hs'
      have hno : (s.untrackFd fd').isBridged fd' = false := by
        have hne : fd' ≠ (s.untrackFd fd').bridgedFd := fun he => hok rfl (he.trans hfd)
        simp [Instance.isBridged, hne]
      rw [hno, Bool.not_false, Bool.or_true, if_pos rfl]
      have hsame : KeepsBridged S (S.setInstance j (s.untrackFd fd')) := keepsBridged_setInstance hs rfl
      exact serves_of_same h (hsame.instance_bridged j)
    · refine serves_of_same h (congrArg (Option.map Instance.bridged) ?_)
      split
      · exact instance_setInstance_ne (Ne.symm hji) _
      · rw [instance?, unbridge_instances]
        exact (instance_set_ne (Ne.symm hji) _).trans (instance_setInstance_ne (Ne.symm hji) _)

/-- **An instance serves its bridged socket until the place is taken or the socket closed.** -/
theorem serves_step (h : S.Serves i fd port) {op : Op} (hok : S.LeavesSocket i fd op) : (S.step op).1.Serves i fd port := by
  cases op with
  | create =>
    obtain ⟨s, hs, hb⟩ := h
    exact ⟨s, instance_create hs, hb⟩
  | destroy j => exact serves_of_same h (congrArg (Option.map Instance.bridged) (instance_set_ne (Ne.symm hok) none))
  | bind j fd' port' learnedIp ok => exact serves_bind h ok hok
  | close j fd' => exact serves_close h hok
  | watchdog now =>
    show (S.watchdog now).Serves i fd port
    unfold watchdog
    split <;> exact h
  | forceReconnect ok => exact h
  | stop => exact h
  | _ => exact serves_of_same h ((step_keepsBridged S rfl).instance_bridged i)

end Steps

/-! ### Who serves a socket after a step -/

/-- The call is a `Bind` of the instance that bridges a socket. -/
def bridgesNow (S : Service) (i : Nat) : Op → Bool
  | .bind j fd port learnedIp _ => decide (j = i) && (S.instance? j).any (fun s => S.bridges s fd port learnedIp)
  | _ => false

section Serves

variable {S : Service} {i : Nat} {fd : Int} {port : UInt16} (hfd : 0 ≤ fd)

include hfd

theorem serves_of_create (h : S.create.Serves i fd port) : S.Serves i fd port := by
  obtain ⟨s, hs, hb, hp⟩ := h
  refine ⟨s, ?_, hb, hp⟩
  change (S.instances ++ [some ({} : Instance)])[i]?.join = some s at hs
  rcases Nat.lt_trichotomy i S.instances.length with hlt | heq | hgt
  · rwa [List.getElem?_append_left hlt] at hs
  · -- the new instance has no bridged socket
    rw [heq, List.getElem?_concat_length] at hs
    cases hs
    cases hb
    exact absurd hfd (by decide)
  · rw [List.getElem?_eq_none (by simp; omega)] at hs
    cases hs

omit hfd in
theorem serves_of_destroy {j : Nat} (h : (S.destroy j).Serves i fd port) : S.Serves i fd port := by
  obtain ⟨s, hs, hb⟩ := h
  change (S.instances.set j none)[i]?.join = some s at hs
  by_cases hij : i = j
  · have hnone : (S.instances.set j none)[i]?.join = none := by
      rw [hij, List.getElem?_set_self']
      cases S.instances[j]? <;> rfl
    cases hnone.symm.trans hs
  · rw [instance_set_ne hij] at hs
    exact ⟨s, hs, hb⟩

theorem serves_of_close {j : Nat} {fd' : Int} (h : (S.close j fd').1.Serves i fd port) : S.Serves i fd port := by
  unfold close at h
  cases hs : S.instance? j with
  | none =>
    rw [hs] at h
    exact h
  | some s =>
    rw [hs] at h
    dsimp only at h
    have huntrack : KeepsBridged S (S.setInstance j (s.untrackFd fd')) := keepsBridged_setInstance hs rfl
    split at h
    · exact serves_of_same h (huntrack.instance_bridged i).symm
    · by_cases hij : i = j
      · -- the instance has no bridged socket any more
        subst hij
        obtain ⟨s', hs', hb, -⟩ := h
        rw [instance?, unbridge_instances] at hs'
        have hset : (S.setInstance i (s.untrackFd fd')).instance? i = some (s.untrackFd fd') := instance_setInstance hs
        have hunbridged : (s.untrackFd fd').unbridged = s' :=
          Option.some.inj ((instance_setInstance hset).symm.trans hs')
        subst hunbridged
        cases hb
        exact absurd hfd (show ¬ (0 : Int) ≤ -1 by decide)
      · refine serves_of_same h (congrArg (Option.map Instance.bridged) ?_)
        rw [instance?, instance?, unbridge_instances]
        exact ((instance_set_ne hij _).trans (instance_setInstance_ne hij _)).symm

omit hfd in
theorem serves_of_bind {j : Nat} {fd' : Int} {port' : UInt16} {learnedIp : UInt32} {ok : Bool}
    (h : (S.bind j fd' port' learnedIp ok).Serves i fd port) :
    (S.bridgesNow i (.bind j fd' port' learnedIp ok) = false ∧ S.Serves i fd port) ∨
      (S.bridgesNow i (.bind j fd' port' learnedIp ok) = true ∧ fd' = fd ∧ port' = port) := by
  unfold bind at h
  unfold bridgesNow
  dsimp only
  cases hs : S.instance? j with
  | none =>
    rw [hs] at h
    exact .inl ⟨by simp, h⟩
  | some s =>
    rw [hs] at h
    dsimp only at h
    rw [Option.any_some]
    split at h
    · rename_i hb
      have hbridge := serves_of_same h ((ensureRelayConnected_keepsBridged _ ok).instance_bridged i).symm
      rw [hb, Bool.and_true]
      by_cases hij : i = j
      · subst hij
        obtain ⟨s', hs', hfd', hport⟩ := hbridge
        cases (instance_setInstance hs).symm.trans hs'
        exact .inr ⟨by simp, hfd', hport⟩
      · obtain ⟨s', hs', hrest⟩ := hbridge
        refine .inl ⟨by simpa using Ne.symm hij, s', ?_, hrest⟩
        exact (instance_setInstance_ne hij _).symm.trans hs'
    · rename_i hb
      rw [Bool.not_eq_true] at hb
      refine .inl ⟨by simp [hb], ?_⟩
      split at h
      · have hsame : KeepsBridged S (S.setInstance j { s with ldnTcpBindFd := fd' }) := keepsBridged_setInstance hs rfl
        exact serves_of_same h (hsame.instance_bridged i).symm
      · exact h

/-- **An instance comes to serve a socket only by the `Bind` that bridges it.** -/
theorem serves_of_step {op : Op} (h : (S.step op).1.Serves i fd port) : (S.bridgesNow i op = false ∧ S.Serves i fd port) ∨
    ∃ learnedIp ok, op = .bind i fd port learnedIp ok ∧ S.bridgesNow i op = true := by
  cases op with
  | create => exact .inl ⟨rfl, serves_of_create hfd h⟩
  | destroy j => exact .inl ⟨rfl, serves_of_destroy h⟩
  | bind j fd' port' learnedIp ok =>
    rcases serves_of_bind h with hold | ⟨hnow, rfl, rfl⟩
    · exact .inl hold
    · have hj := hnow
      rw [bridgesNow, Bool.and_eq_true, decide_eq_true_eq] at hj
      obtain ⟨rfl, -⟩ := hj
      exact .inr ⟨learnedIp, ok, rfl, hnow⟩
  | close j fd' => exact .inl ⟨rfl, serves_of_close hfd h⟩
  | watchdog now =>
    refine .inl ⟨rfl, ?_⟩
    change (S.watchdog now).Serves i fd port at h
    unfold watchdog at h
    split at h <;> exact h
  | forceReconnect ok => exact .inl ⟨rfl, h⟩
  | stop => exact .inl ⟨rfl, h⟩
  | _ => exact .inl ⟨rfl, serves_of_same h ((step_keepsBridged S rfl).instance_bridged i).symm⟩

end Serves

end Service

/-! ## Runs of the console -/

/-- The command can make a virtual connection. -/
def Command.makesConn : Command → Bool
  | .connect _ _ | .accept _ _ => true
  | _ => false

namespace Console

/-- A command of an instance, a turn of the drain thread, or any other step of the service. -/
inductive Event where
  | command (j : Nat) (env : Env) (c : Command)
  | drain (d : Drained)
  | other (op : Service.Op)

def Event.makesConn : Event → Bool
  | .command _ _ c => c.makesConn
  | .drain _ => false
  | .other op => op.makesConn

def after (C : Console) : Event → Console
  | .command j env c => (C.command j env c).console
  | .drain d => (C.drainRawRelayQueue d).1
  | .other op => C.setService (C.service.step op).1

def run (C : Console) (events : List Event) : Console := events.foldl after C

/-- The event makes no connection, does not close the socket, and bridges no other socket of the instance. -/
def LeavesSocket (C : Console) (i : Nat) (fd : Int) : Event → Prop
  | .command j env (.bind fd' addr) =>
    ∀ a ∈ sockaddrIn? addr, C.service.LeavesSocket i fd (.bind j fd' a.2 (learnedIp env fd') env.relayUp)
  | .command j _ (.close fd') => C.service.LeavesSocket i fd (.close j fd')
  | .command _ _ c => c.makesConn = false
  | .drain _ => True
  | .other op => op.makesConn = false ∧ C.service.LeavesSocket i fd op

def LeftThroughout (i : Nat) (fd : Int) : Console → List Event → Prop
  | _, [] => True
  | C, e :: es => C.LeavesSocket i fd e ∧ LeftThroughout i fd (C.after e) es

/-- `SendTo` and `RecvFrom` of the instance on the descriptor forward nothing: the one sends its datagram to the relay from
the port, the other takes the port's next packet out of the control queue. -/
structure ServedByRelay (C : Console) (i : Nat) (fd : Int) (port : UInt16) : Prop where
  sendTo_local : ∀ env flags buffer addr, (C.command i env (.sendTo fd flags buffer addr)).requests = [] ∧
    (C.command i env (.sendTo fd flags buffer addr)).segs = []
  sendTo_udp : ∀ env flags buffer addr, (C.command i env (.sendTo fd flags buffer addr)).udp =
    if (C.service.ensureRelayConnected env.relayUp).2 = true ∧ buffer.length ≤ maxBridgedPayload then
      ((C.service.instance? i).map (fun s => UdpSend.mk s.bridgedLocalIp ((sockaddrIn? addr).getD (0, 0)).1 port
        ((sockaddrIn? addr).getD (0, 0)).2 buffer)).toList
    else []
  recvFrom_local : ∀ env flags buffer addrOut, (C.command i env (.recvFrom fd flags buffer addrOut)).requests = []
  recvFrom_queue : ∀ env flags buffer addrOut,
    (C.command i env (.recvFrom fd flags buffer addrOut)).reply =
      ((C.drainRawRelayQueue env.drained).1.controlQueue.recvFrom port buffer addrOut).2.answer ∧
    (C.command i env (.recvFrom fd flags buffer addrOut)).console.controlQueue =
      ((C.drainRawRelayQueue env.drained).1.controlQueue.recvFrom port buffer addrOut).1

/-! ### What an event keeps -/

section Events

variable {C : Console}

theorem makesConn_of_takes {i : Nat} {c : Command} (hc : c.makesConn = false) {op : Service.Op} (hT : c.Takes i op) :
    op.makesConn = false := by
  cases op with
  | connect j fd dstIp dstPort ourIsn ok =>
    obtain ⟨-, addr, rfl⟩ := hT
    cases hc
  | accept j fd =>
    obtain ⟨-, addrOut, rfl⟩ := hT
    cases hc
  | _ => rfl

theorem noConns_drain (h : C.service.NoConns) (d : Drained) : (C.drainRawRelayQueue d).1.service.NoConns := by
  refine (C.steps_drain d).keeps h (fun _ op hop hN => Service.noConns_step hN ?_)
  cases op with
  | connect => cases hop
  | accept => cases hop
  | _ => rfl

theorem noConns_after (h : C.service.NoConns) {e : Event} (he : e.makesConn = false) : (C.after e).service.NoConns := by
  cases e with
  | command j env c =>
    exact (C.steps_command j env c).keeps h (fun _ op hT hN => Service.noConns_step hN (makesConn_of_takes he hT))
  | drain d => exact noConns_drain h d
  | other op => exact Service.noConns_step h he

section Serves

variable {i : Nat} {fd : Int} {port : UInt16} (h : C.service.Serves i fd port)

include h

theorem serves_drain (d : Drained) : (C.drainRawRelayQueue d).1.service.Serves i fd port := by
  refine (C.steps_drain d).keeps (P := fun S => S.Serves i fd port) h (fun _ op hop hS => Service.serves_step hS ?_)
  cases op with
  | bind => cases hop
  | close => cases hop
  | destroy => cases hop
  | _ => trivial

theorem serves_command {j : Nat} {env : Env} {c : Command} (he : C.LeavesSocket i fd (.command j env c)) :
    (C.command j env c).console.service.Serves i fd port := by
  by_cases hbind : ∃ fd' addr, c = .bind fd' addr
  · obtain ⟨fd', addr, rfl⟩ := hbind
    unfold command
    cases C.service.instance? j with
    | none => exact h
    | some s =>
      show (C.bind j s env fd' addr).console.service.Serves i fd port
      unfold bind
      cases haddr : sockaddrIn? addr with
      | none => exact h
      | some a => exact Service.serves_step h (he a haddr)
  · -- no step of the command is a `Bind`
    refine (C.steps_command j env c).keeps (P := fun S => S.Serves i fd port) h (fun T op hT hS => Service.serves_step hS ?_)
    cases op with
    | bind k fd' port' learnedIp ok =>
      obtain ⟨-, addr, rfl⟩ := hT
      exact absurd ⟨fd', addr, rfl⟩ hbind
    | close k fd' =>
      obtain ⟨rfl, rfl⟩ := hT
      exact he
    | destroy k => cases hT
    | _ => trivial

theorem serves_after {e : Event} (he : C.LeavesSocket i fd e) : (C.after e).service.Serves i fd port := by
  cases e with
  | command j env c => exact serves_command h he
  | drain d => exact serves_drain h d
  | other op => exact Service.serves_step h he.2

omit h in
/-- With no virtual connection in use, `SendTo` on the bridged descriptor comes to its relay branch. -/
theorem command_sendTo_bridged {s : Instance} (hs : C.service.instance? i = some s) (hN : C.service.NoConns)
    (hb : s.isBridged fd = true) (env : Env) (flags : Int) (buffer addr : Bytes) :
    C.command i env (.sendTo fd flags buffer addr) = C.sendToRelay i s env fd buffer addr := by
  rw [command, hs]
  show C.sendTo i s env fd flags buffer addr = _
  rw [sendTo, hN.findVTcpConnByFd]
  exact if_pos hb

omit h in
theorem command_recvFrom_bridged {s : Instance} (hs : C.service.instance? i = some s) (hN : C.service.NoConns)
    (hb : s.isBridged fd = true) (env : Env) (flags : Int) (buffer addrOut : Nat) :
    C.command i env (.recvFrom fd flags buffer addrOut) =
      { (C.drainRawRelayQueue env.drained).1.recvFromRelay s env buffer addrOut with
        segs := (C.drainRawRelayQueue env.drained).2 } := by
  rw [command, hs]
  show C.recvFrom i s env fd flags buffer addrOut = _
  unfold recvFrom
  dsimp only
  rw [(noConns_drain hN env.drained).findVTcpConnByFd]
  exact if_pos hb

/-- **The bridged socket of an instance is served by the relay** while no virtual connection is in use. -/
theorem servedByRelay (hN : C.service.NoConns) (hfd : 0 ≤ fd) : C.ServedByRelay i fd port := by
  obtain ⟨s, hs, rfl, rfl⟩ := h
  have hbridged : s.isBridged s.bridgedFd = true := by simp [Instance.isBridged, hfd]
  have hsend := command_sendTo_bridged hs hN hbridged
  have hrecv := command_recvFrom_bridged hs hN hbridged
  constructor
  · intro env flags buffer addr
    rw [hsend, sendToRelay]
    dsimp only
    split
    · exact ⟨rfl, rfl⟩
    split <;> exact ⟨rfl, rfl⟩
  · intro env flags buffer addr
    rw [hsend, sendToRelay, hs]
    dsimp only
    by_cases hup : (C.service.ensureRelayConnected env.relayUp).2 = true
    · by_cases hlen : buffer.length ≤ maxBridgedPayload
      · have hsent : (C.service.ensureRelayConnected env.relayUp).2 = true ∧ buffer.length ≤ maxBridgedPayload := ⟨hup, hlen⟩
        rw [if_neg (by simp [hup]), if_neg (by omega), if_pos hsent]
        rfl
      · rw [if_neg (by simp [hup]), if_pos (by omega), if_neg (fun hc => hlen hc.2)]
    · rw [if_pos (by simpa using hup), if_neg (fun hc => hup hc.1)]
  · intro env flags buffer addrOut
    rw [hrecv]
    rfl
  · intro env flags buffer addrOut
    rw [hrecv]
    exact ⟨rfl, rfl⟩

end Serves

end Events

/-! ### From the `Bind` to the `Close` -/

theorem makesConn_of_leaves {C : Console} {i : Nat} {fd : Int} {e : Event} (h : C.LeavesSocket i fd e) :
    e.makesConn = false := by
  cases e with
  | command j env c => cases c <;> first | rfl | exact h
  | drain d => rfl
  | other op => exact h.1

theorem served_run {i : Nat} {fd : Int} {port : UInt16} : ∀ (events : List Event) {C : Console},
    C.service.NoConns → C.service.Serves i fd port → LeftThroughout i fd C events →
    (C.run events).service.NoConns ∧ (C.run events).service.Serves i fd port
  | [], _, hN, hS, _ => ⟨hN, hS⟩
  | _ :: es, _, hN, hS, h => served_run es (noConns_after hN (makesConn_of_leaves h.1)) (serves_after hS h.1) h.2

theorem noConns_run : ∀ (events : List Event) {C : Console}, C.service.NoConns → (∀ e ∈ events, e.makesConn = false) →
    (C.run events).service.NoConns
  | [], _, hN, _ => hN
  | e :: es, _, hN, h =>
    noConns_run es (noConns_after hN (h e List.mem_cons_self)) (fun e' he' => h e' (List.mem_cons_of_mem _ he'))

/-- A `Bind` that is judged bridge-worthy makes the socket the instance's. -/
theorem serves_of_bind {C : Console} {i : Nat} {s : Instance} {env : Env} {fd : Int} {addr : Bytes} {ip : UInt32}
    {port : UInt16} (hs : C.service.instance? i = some s) (haddr : sockaddrIn? addr = some (ip, port))
    (hb : C.service.bridges s fd port (learnedIp env fd) = true) :
    (C.command i env (.bind fd addr)).console.service.Serves i fd port := by
  have hcommand : (C.command i env (.bind fd addr)).console.service =
      C.service.bind i fd port (learnedIp env fd) env.relayUp := by
    rw [command, hs]
    show (C.bind i s env fd addr).console.service = _
    rw [bind, haddr]
    rfl
  have hbind : C.service.bind i fd port (learnedIp env fd) env.relayUp =
      ((C.service.bridge i s fd port (learnedIp env fd)).ensureRelayConnected env.relayUp).1 := by
    simp only [Service.bind, hs, hb, if_true]
  rw [hcommand, hbind]
  refine Service.serves_of_same ?_ ((Service.ensureRelayConnected_keepsBridged _ env.relayUp).instance_bridged i)
  exact ⟨_, Service.instance_setInstance hs, rfl, rfl⟩

/-- The port a socket has after a `Bind` that the real service took: the one it names, or for port 0 the one `GetSockName`
tells. -/
def boundPort (env : Env) (fd : Int) (port : UInt16) : UInt16 :=
  if port = 0 then
    let sockname := (env.real (.getSockName fd RecvFromOut.sockaddrSize)).out.headD []
    read16 (byteAt sockname 2) (byteAt sockname 3)
  else port

/-- **From the `Bind` that bridges a socket on, `SendTo` and `RecvFrom` on it are served by the relay under its own port**,
whatever else happens, until it is closed or another `Bind` of the instance is judged bridge-worthy.  A `Bind` to port 0 is
left out: the instance keeps the 0, and the socket gets another port. -/
theorem bridged_until_closed {before after : List Event} {i : Nat} {s : Instance} {env : Env} {fd : Int} {addr : Bytes}
    {ip : UInt32} {port : UInt16} (hbefore : ∀ e ∈ before, e.makesConn = false)
    (hs : (run {} before).service.instance? i = some s) (hfd : 0 ≤ fd) (haddr : sockaddrIn? addr = some (ip, port))
    (hport : port ≠ 0)
    (hb : (run {} before).service.bridges s fd port (learnedIp env fd) = true)
    (hafter : LeftThroughout i fd ((run {} before).command i env (.bind fd addr)).console after) :
    (((run {} before).command i env (.bind fd addr)).console.run after).ServedByRelay i fd (boundPort env fd port) := by
  have hinit : ({} : Console).service.NoConns := fun k => rfl
  have hN := noConns_run before hinit hbefore
  have hbound : ((run {} before).command i env (.bind fd addr)).console.service.NoConns :=
    noConns_after hN (e := .command i env (.bind fd addr)) rfl
  obtain ⟨hN', hS'⟩ := served_run after hbound (serves_of_bind hs haddr hb) hafter
  rw [boundPort, if_neg hport]
  exact servedByRelay hS' hN' hfd

/-! ## Two sockets of one instance -/

/-- The real service gives out the descriptors in turn and no socket an address; nifm knows one. -/
def bindEnv (fd : Int) (nifmIp : UInt32) : Env where
  real c :=
    match c with
    | .socket _ _ _ => { ret := fd }
    | _ => {}
  nifmIp := nifmIp
  relayUp := true
  relayOk := true
  now := 1
  ourIsn := 0
  drained := ⟨1, []⟩
  waits _ := ⟨1, []⟩

/-- A process with two UDP sockets. -/
def twoUdpSockets : List Event :=
  [.other .create, .command 0 (bindEnv 3 0) (.socket 2 SOCK_DGRAM 0), .command 0 (bindEnv 5 0) (.socket 2 SOCK_DGRAM 0)]

def bindControl : Event := .command 0 (bindEnv 0 0x0A0D0001) (.bind 3 (sockaddrBytes 0 ldnControlPort))

/-- The second socket is bound at an address, to port 30000. -/
def bindSecond (ip : UInt32) : Event := .command 0 (bindEnv 0 ip) (.bind 5 (sockaddrBytes 0 30000))

theorem bridges_bindControl : ∀ s ∈ (run {} twoUdpSockets).service.instance? 0,
    (run {} twoUdpSockets).service.bridges s 3 ldnControlPort (learnedIp (bindEnv 0 0x0A0D0001) 3) = true := by
  decide +kernel

theorem bridged_until_closed_elsewhere : ∃ s, (run {} twoUdpSockets).service.instance? 0 = some s ∧
    (((run {} twoUdpSockets).command 0 (bindEnv 0 0x0A0D0001) (.bind 3 (sockaddrBytes 0 ldnControlPort))).console.run
      [bindSecond 0xC0A80002, .command 0 (bindEnv 0 0) (.close 5)]).ServedByRelay 0 3 ldnControlPort := by
  cases hs : (run {} twoUdpSockets).service.instance? 0 with
  | none => exact absurd (congrArg Option.isSome hs) (by decide +kernel)
  | some s =>
    have haddr : sockaddrIn? (sockaddrBytes 0 ldnControlPort) = some (0, ldnControlPort) := by decide +kernel
    refine ⟨s, rfl, bridged_until_closed (by decide) hs (by decide) haddr (by decide) (bridges_bindControl s hs)
      ⟨?_, ?_, trivial⟩⟩
    · intro a ha _
      have hsecond : sockaddrIn? (sockaddrBytes 0 30000) = some (0, 30000) := by decide +kernel
      cases hsecond.symm.trans ha
      decide +kernel
    · intro _
      decide

/-- **Another bridged socket of the process takes the place**: a datagram sent on the first one, still open, goes to the real
network. -/
theorem second_bind_takes_over :
    (∀ s ∈ (run {} twoUdpSockets).service.instance? 0,
      (run {} twoUdpSockets).service.bridges s 3 ldnControlPort (learnedIp (bindEnv 0 0x0A0D0001) 3) = true) ∧
    (((run {} (twoUdpSockets ++ [bindControl, bindSecond 0x0A0D0001])).command 0 (bindEnv 0 0)
      (.sendTo 3 0 [7] (sockaddrBytes 0x0A0D0002 ldnControlPort))).udp = [] ∧
    ((run {} (twoUdpSockets ++ [bindControl, bindSecond 0x0A0D0001])).command 0 (bindEnv 0 0)
      (.sendTo 3 0 [7] (sockaddrBytes 0x0A0D0002 ldnControlPort))).requests.length = 1) ∧
    ¬ (run {} (twoUdpSockets ++ [bindControl, bindSecond 0x0A0D0001])).ServedByRelay 0 3 ldnControlPort := by
  have hforward : ((run {} (twoUdpSockets ++ [bindControl, bindSecond 0x0A0D0001])).command 0 (bindEnv 0 0)
      (.sendTo 3 0 [7] (sockaddrBytes 0x0A0D0002 ldnControlPort))).requests.length = 1 := by decide +kernel
  refine ⟨bridges_bindControl, ⟨by decide +kernel, hforward⟩, fun hserved => ?_⟩
  rw [(hserved.sendTo_local _ _ _ _).1] at hforward
  cases hforward

end Console
end Slp
