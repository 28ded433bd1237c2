import SwitchLanPlay.Service
/-!
# ServiceCalls — the calls that bridge nothing

Only `Bind`, `Close`, the end of an instance and the steps that take the relay down bridge or unbridge a socket.  Every other
step leaves the bridged sockets, their count, the owner, the shared address and the relay's queue alone
(`step_keepsBridged`).
-/
namespace Slp

open Wire

/-- The instance's bridged socket: its descriptor, address and port. -/
def Instance.bridged (s : Instance) : Int × UInt32 × UInt16 := (s.bridgedFd, s.bridgedLocalIp, s.bridgedLocalPort)

theorem Instance.bridged_trackFd (s : Instance) (fd type : Int) : (s.trackFd fd type).bridged = s.bridged := by
  unfold trackFd
  split
  · rfl
  split <;> rfl

namespace Service

/-! ## The table of instances -/

section Instances

variable {S : Service} {i j : Nat} {s : Instance}

theorem getElem?_of_instance (h : S.instance? i = some s) : S.instances[i]? = some (some s) := by
  unfold instance? at h
  cases hi : S.instances[i]? with
  | none => rw [hi] at h; cases h
  | some o =>
    rw [hi] at h
    exact congrArg some h

theorem instance_setInstance {s' : Instance} (h : S.instance? i = some s) :
    (S.setInstance i s').instance? i = some s' := by
  have hlt := (List.getElem?_eq_some_iff.1 (getElem?_of_instance h)).1
  simp [instance?, setInstance, hlt]

theorem instance_set_ne (h : j ≠ i) (o : Option Instance) : (S.instances.set i o)[j]?.join = S.instance? j := by
  rw [List.getElem?_set_ne (Ne.symm h)]
  rfl

theorem instance_setInstance_ne (h : j ≠ i) (s' : Instance) : (S.setInstance i s').instance? j = S.instance? j :=
  instance_set_ne h _

theorem instance_create (h : S.instance? i = some s) : S.create.instance? i = some s := by
  have hlt := (List.getElem?_eq_some_iff.1 (getElem?_of_instance h)).1
  show (S.instances ++ [some ({} : Instance)])[i]?.join = some s
  rw [List.getElem?_append_left hlt]
  exact h

end Instances

/-! ## What such a call leaves alone -/

structure KeepsBridged (S S' : Service) : Prop where
  bridged : S'.instances.map (Option.map Instance.bridged) = S.instances.map (Option.map Instance.bridged)
  bridgedSocketCount : S'.bridgedSocketCount = S.bridgedSocketCount
  activeLdnInstance : S'.activeLdnInstance = S.activeLdnInstance
  lastBridgedLocalIp : S'.lastBridgedLocalIp = S.lastBridgedLocalIp
  queue : S'.relay.queue = S.relay.queue

namespace KeepsBridged

variable {S S' : Service}

theorem refl (S : Service) : KeepsBridged S S := ⟨rfl, rfl, rfl, rfl, rfl⟩

theorem setVtcp (h : KeepsBridged S S') (t : VTcp) : KeepsBridged S { S' with vtcp := t } :=
  ⟨h.bridged, h.bridgedSocketCount, h.activeLdnInstance, h.lastBridgedLocalIp, h.queue⟩

theorem touch (h : KeepsBridged S S') (now : UInt64) : KeepsBridged S (S'.touchBridgeActivity now) :=
  ⟨h.bridged, h.bridgedSocketCount, h.activeLdnInstance, h.lastBridgedLocalIp, h.queue⟩

/-- **Every instance keeps its bridged socket.** -/
theorem instance_bridged (h : KeepsBridged S S') (j : Nat) :
    (S'.instance? j).map Instance.bridged = (S.instance? j).map Instance.bridged := by
  have hj := congrArg (fun l => (l[j]?).join) h.bridged
  unfold instance?
  simpa only [List.getElem?_map, Option.join_map_eq_map_join] using hj

theorem bridgedInstances (h : KeepsBridged S S') : S'.bridgedInstances = S.bridgedInstances := by
  have hcount : ∀ T : Service, T.bridgedInstances =
      (T.instances.map (Option.map Instance.bridged)).countP (fun o => o.any (fun b => decide (0 ≤ b.1))) := by
    intro T
    rw [List.countP_map]
    apply List.countP_congr
    intro o _
    cases o <;> rfl
  rw [hcount, hcount, h.bridged]

end KeepsBridged

/-! ## The calls one by one -/

section Calls

variable (S : Service) (i : Nat) (fd : Int)

/-- A write to an instance that keeps its bridged socket. -/
theorem keepsBridged_setInstance {S : Service} {i : Nat} {s : Instance} (h : S.instance? i = some s) {s' : Instance}
    (hs : s'.bridged = s.bridged) : KeepsBridged S (S.setInstance i s') := by
  refine ⟨?_, rfl, rfl, rfl, rfl⟩
  have hlt := (List.getElem?_eq_some_iff.1 (getElem?_of_instance h)).1
  rw [setInstance, List.map_set]
  apply List.ext_getElem?
  intro j
  by_cases hj : j = i
  · subst hj
    rw [List.getElem?_set_self (by simpa using hlt), List.getElem?_map, getElem?_of_instance h]
    simp [hs]
  · rw [List.getElem?_set_ne (Ne.symm hj)]

theorem ensureRelayConnected_keepsBridged (ok : Bool) : KeepsBridged S (S.ensureRelayConnected ok).1 := by
  unfold ensureRelayConnected
  split
  · exact .refl S
  split
  · exact .refl S
  split
  · exact .refl S
  · unfold connectRelay
    cases ok <;> exact ⟨rfl, rfl, rfl, rfl, rfl⟩

theorem socket_keepsBridged (type ret : Int) : KeepsBridged S (S.socket i type ret) := by
  unfold socket
  cases hs : S.instance? i with
  | none => exact .refl S
  | some s => exact keepsBridged_setInstance hs (Instance.bridged_trackFd s ret type)

theorem listen_keepsBridged : KeepsBridged S (S.listen i fd) := by
  unfold listen
  split
  · exact .refl S
  split
  · exact (KeepsBridged.refl S).setVtcp _
  · exact .refl S

theorem accept_keepsBridged : KeepsBridged S (S.accept i fd) := by
  unfold accept
  cases hs : S.instance? i with
  | none => exact .refl S
  | some s =>
    dsimp only
    split
    · cases S.vtcp.accept (S.owns i) with
      | none => exact .refl S
      | some r => exact (keepsBridged_setInstance hs (Instance.bridged_trackFd s r.2 SOCK_STREAM)).setVtcp r.1
    · exact .refl S

theorem connect_keepsBridged (dstIp : UInt32) (dstPort : UInt16) (ourIsn : UInt32) (ok : Bool) :
    KeepsBridged S (S.connect i fd dstIp dstPort ourIsn ok).1 := by
  have h := S.ensureRelayConnected_keepsBridged ok
  unfold connect
  generalize S.ensureRelayConnected ok = r at h
  obtain ⟨S', connected⟩ := r
  cases S.instance? i with
  | none => exact .refl S
  | some s =>
    dsimp only at h ⊢
    split
    · cases connected with
      | false => exact h
      | true =>
        dsimp only
        cases S'.vtcp.connect (S'.owns i) s.bridgedLocalIp fd dstIp dstPort ourIsn with
        | none => exact h
        | some r => exact h.setVtcp r.1
    · exact .refl S

theorem sendTo_keepsBridged (buf : Bytes) (ok relayOk : Bool) (now : UInt64) :
    KeepsBridged S (S.sendTo i fd buf ok relayOk now).1 := by
  have h := S.ensureRelayConnected_keepsBridged ok
  unfold sendTo
  generalize S.ensureRelayConnected ok = r at h
  obtain ⟨S', connected⟩ := r
  cases S.instance? i with
  | none => exact .refl S
  | some s =>
    dsimp only at h ⊢
    cases S.vtcp.findVTcpConnByFd (S.owns i) fd with
    | some k =>
      dsimp only
      split
      · exact .refl S
      · cases connected with
        | false => exact h
        | true =>
          dsimp only
          split
          · exact h.setVtcp _
          · exact (h.setVtcp _).touch now
    | none =>
      dsimp only
      split
      · cases connected with
        | false => exact h
        | true =>
          dsimp only
          split
          · exact h
          · exact h.touch now
      · exact .refl S

theorem recvFrom_keepsBridged (bufSize addrSize : Nat) (now : UInt64) :
    KeepsBridged S (S.recvFrom i fd bufSize addrSize now) := by
  unfold recvFrom
  split
  · exact .refl S
  dsimp only
  split
  · exact ((KeepsBridged.refl S).setVtcp _).touch now
  · exact (KeepsBridged.refl S).setVtcp _

theorem drainSegment_keepsBridged (ourIsn : UInt32) (m : TcpSegment) : KeepsBridged S (S.drainSegment ourIsn m).1 := by
  unfold drainSegment
  split
  · exact .refl S
  · exact (KeepsBridged.refl S).setVtcp _

theorem drainRetransmits_keepsBridged (now : UInt64) : KeepsBridged S (S.drainRetransmits now).1 := by
  unfold drainRetransmits
  split
  · exact .refl S
  · exact (KeepsBridged.refl S).setVtcp _

theorem start_keepsBridged (ok : Bool) : KeepsBridged S (S.start ok) := by
  unfold start connectRelay
  dsimp only
  split
  · exact ⟨rfl, rfl, rfl, rfl, rfl⟩
  · cases ok <;> exact ⟨rfl, rfl, rfl, rfl, rfl⟩

end Calls

/-- The steps that can bridge or unbridge a socket, or take the relay down. -/
def Op.bridging : Op → Bool
  | .create | .destroy _ | .bind _ _ _ _ _ | .close _ _ | .watchdog _ | .forceReconnect _ | .stop => true
  | _ => false

/-- **Every other step leaves the bridged sockets and the relay's queue alone.** -/
theorem step_keepsBridged (S : Service) {op : Op} (h : op.bridging = false) : KeepsBridged S (S.step op).1 := by
  cases op with
  | socket i type ret => exact S.socket_keepsBridged i type ret
  | listen i fd => exact S.listen_keepsBridged i fd
  | accept i fd => exact S.accept_keepsBridged i fd
  | connect i fd dstIp dstPort ourIsn ok => exact S.connect_keepsBridged i fd dstIp dstPort ourIsn ok
  | connectTimedOut i fd => exact (KeepsBridged.refl S).setVtcp _
  | sendTo i fd buf ok relayOk now => exact S.sendTo_keepsBridged i fd buf ok relayOk now
  | recvFrom i fd bufSize addrSize now => exact S.recvFrom_keepsBridged i fd bufSize addrSize now
  | received now => exact (KeepsBridged.refl S).touch now
  | drainSegment ourIsn m => exact S.drainSegment_keepsBridged ourIsn m
  | drainRetransmits now => exact S.drainRetransmits_keepsBridged now
  | start ok => exact S.start_keepsBridged ok
  | create => cases h
  | destroy i => cases h
  | bind i fd port learnedIp ok => cases h
  | close i fd => cases h
  | watchdog now => cases h
  | forceReconnect ok => cases h
  | stop => cases h

end Service
end Slp
