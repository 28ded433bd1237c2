import SwitchLanPlay.RelayCount
import SwitchLanPlay.Teardown
import SwitchLanPlay.VTcpCalls
/-!
# LocalAddress — the two copies of the control socket's address

The owner's own calls stamp the address of its bridged socket, the drain thread stamps `g_last_bridged_local_ip`.  The
watchdog and the last `Close` clear the second copy alone, and a bridged socket of the owner that is not the control socket
takes the first copy with it.  The copies agree in every state of a run exactly when none of its steps does
(`own_address_iff`).  All instances are served by one thread, so a `Bind` or a `Close` is one step.
-/
namespace Slp

open Wire

namespace Service

/-- `g_last_bridged_local_ip` is the bridged address of the instance that owns the session. -/
def AddressAgrees (S : Service) : Prop :=
  ∀ i ∈ S.activeLdnInstance, (S.instance? i).map Instance.bridgedLocalIp = some S.lastBridgedLocalIp

instance (S : Service) : Decidable S.AddressAgrees := by
  unfold AddressAgrees
  infer_instance

/-- The step clears no copy of the address alone while an instance owns the session. -/
def KeepsAddress (S : Service) : Op → Prop
  | .watchdog now => S.watchdogFires now = true → S.activeLdnInstance.isNone = true ∨ S.lastBridgedLocalIp = 0
  | .close i fd => ∀ s ∈ S.instance? i, S.unbridges i s fd = true →
      (S.owns i = true → s.bridgedLocalPort = ldnControlPort ∨ S.countAfter = 0 ∨ S.lastBridgedLocalIp = 0) ∧
      (S.owns i = false → S.activeLdnInstance.isNone = true ∨ S.countAfter ≠ 0 ∨ S.lastBridgedLocalIp = 0)
  | _ => True

/-- A change of no bridged socket, nor of the shared address and the owner. -/
structure SameAddress (S S' : Service) : Prop where
  activeLdnInstance : S'.activeLdnInstance = S.activeLdnInstance
  lastBridgedLocalIp : S'.lastBridgedLocalIp = S.lastBridgedLocalIp
  bridged : ∀ j, (S'.instance? j).map Instance.bridged = (S.instance? j).map Instance.bridged

theorem SameAddress.bridgedLocalIp {S S' : Service} (h : SameAddress S S') (j : Nat) :
    (S'.instance? j).map Instance.bridgedLocalIp = (S.instance? j).map Instance.bridgedLocalIp := by
  have hip := congrArg (Option.map (fun b : Int × UInt32 × UInt16 => b.2.1)) (h.bridged j)
  rwa [Option.map_map, Option.map_map] at hip

theorem KeepsBridged.sameAddress {S S' : Service} (h : KeepsBridged S S') : SameAddress S S' :=
  ⟨h.activeLdnInstance, h.lastBridgedLocalIp, h.instance_bridged⟩

theorem SameAddress.agrees {S S' : Service} (h : SameAddress S S') (hS : S.AddressAgrees) : S'.AddressAgrees := by
  intro i hi
  rw [h.activeLdnInstance] at hi
  rw [h.bridgedLocalIp, h.lastBridgedLocalIp]
  exact hS i hi

/-! ## The commands that write a copy -/

section Writes

variable {S : Service} (h : S.AddressAgrees)

include h

theorem create_agrees : S.create.AddressAgrees := by
  intro i hi
  have hold := h i hi
  obtain ⟨s, hs, -⟩ := Option.map_eq_some_iff.1 hold
  rw [instance_create hs, ← hs]
  exact hold

theorem destroy_agrees (i : Nat) : (S.destroy i).AddressAgrees := by
  intro j hj
  change j ∈ (if S.owns i = true then none else S.activeLdnInstance) at hj
  by_cases hown : S.owns i = true
  · rw [if_pos hown] at hj
    cases hj
  · rw [if_neg hown] at hj
    -- another instance owns the session, and keeps its place
    have hji : j ≠ i := by
      rintro rfl
      exact hown (by rw [owns, Option.mem_def.1 hj]; exact beq_self_eq_true _)
    have hsame : (S.destroy i).instance? j = S.instance? j := instance_set_ne hji none
    rw [hsame]
    exact h j hj

/-- The address a bridging `Bind` learns is the one the owner has, or the socket is the new owner's. -/
theorem bind_agrees (i : Nat) (fd : Int) (port : UInt16) (learnedIp : UInt32) (ok : Bool) :
    (S.bind i fd port learnedIp ok).AddressAgrees := by
  unfold bind
  cases hs : S.instance? i with
  | none => exact h
  | some s =>
    dsimp only
    split
    · rename_i hb
      refine (ensureRelayConnected_keepsBridged _ ok).sameAddress.agrees ?_
      intro j hj
      show ((S.setInstance i _).instance? j).map Instance.bridgedLocalIp = some learnedIp
      by_cases hji : j = i
      · subst hji
        rw [instance_setInstance hs, Option.map_some]
      · rw [instance_setInstance_ne hji]
        simp only [bridge] at hj
        simp only [bridges, Bool.and_eq_true, Bool.or_eq_true, beq_iff_eq, bne_iff_ne] at hb
        rcases hb.2 with hport | ⟨-, hip⟩
        · -- the control socket: the instance takes the session over
          rw [hport, beq_self_eq_true, if_pos rfl] at hj
          exact absurd (Option.some.inj hj).symm hji
        · rw [hip]
          split at hj
          · exact absurd (Option.some.inj hj).symm hji
          · exact h j hj
    · split
      · have hsame : KeepsBridged S (S.setInstance i { s with ldnTcpBindFd := fd }) := keepsBridged_setInstance hs rfl
        exact hsame.sameAddress.agrees h
      · exact h

theorem watchdog_agrees_iff (now : UInt64) : (S.watchdog now).AddressAgrees ↔ S.KeepsAddress (.watchdog now) := by
  unfold watchdog KeepsAddress
  by_cases hf : S.watchdogFires now = true
  · rw [if_pos hf]
    simp only [hf, forall_const]
    constructor
    · intro h'
      cases hact : S.activeLdnInstance with
      | none => exact .inl rfl
      | some i =>
        -- the instance's own copy is the same before and after
        have hold := h i hact
        have hnew : (S.instance? i).map Instance.bridgedLocalIp = some 0 := h' i hact
        rw [hold] at hnew
        exact .inr (Option.some.inj hnew)
    · rintro (hnone | hzero) i hi
      · rw [Option.isNone_iff_eq_none.1 hnone] at hi
        cases hi
      · have hold := h i hi
        rw [hzero] at hold
        exact hold
  · rw [if_neg hf]
    exact iff_of_true h (fun hf' => absurd hf' hf)

omit h in
theorem unbridge_lastBridgedLocalIp (i : Nat) (s : Instance) :
    (S.unbridge i s).lastBridgedLocalIp = if S.countAfter = 0 then 0 else S.lastBridgedLocalIp := by
  unfold unbridge
  dsimp only
  split <;> rfl

omit h in
theorem instance_unbridge {i : Nat} {s : Instance} (hs : S.instance? i = some s) :
    (S.unbridge i s).instance? i = some s.unbridged := by
  rw [instance?, unbridge_instances]
  exact instance_setInstance hs

omit h in
theorem instance_unbridge_ne {i j : Nat} (hj : j ≠ i) (s : Instance) : (S.unbridge i s).instance? j = S.instance? j := by
  rw [instance?, unbridge_instances]
  exact instance_set_ne hj _

omit h in
/-- The owner closes its bridged socket: it goes on with no address, unless the socket was the control socket. -/
theorem unbridge_own_agrees_iff {i : Nat} {s : Instance} (hs : S.instance? i = some s) (hown : S.owns i = true) :
    (S.unbridge i s).AddressAgrees ↔
      s.bridgedLocalPort = ldnControlPort ∨ S.countAfter = 0 ∨ S.lastBridgedLocalIp = 0 := by
  have hact : S.activeLdnInstance = some i := beq_iff_eq.1 hown
  unfold AddressAgrees
  rw [unbridge_activeLdnInstance, unbridge_lastBridgedLocalIp, hown, Bool.and_true]
  by_cases hport : s.bridgedLocalPort = ldnControlPort
  · simp [hport]
  · -- the owner keeps the session with no bridged socket
    simp only [beq_iff_eq, hport, if_false, false_or, hact]
    constructor
    · intro h'
      have hzero := h' i rfl
      rw [instance_unbridge hs] at hzero
      by_cases hc : S.countAfter = 0
      · exact .inl hc
      · rw [if_neg hc] at hzero
        exact .inr (Option.some.inj hzero).symm
    · intro h' j hj
      cases hj
      rw [instance_unbridge hs]
      rcases h' with hc | hz
      · rw [if_pos hc]
        rfl
      · rw [hz, ite_self]
        rfl

/-- Another instance closes its bridged socket: the owner's own copy stays. -/
theorem unbridge_other_agrees_iff {i : Nat} (s : Instance) (hown : S.owns i = false) :
    (S.unbridge i s).AddressAgrees ↔
      S.activeLdnInstance.isNone = true ∨ S.countAfter ≠ 0 ∨ S.lastBridgedLocalIp = 0 := by
  have hne : ∀ j, S.activeLdnInstance = some j → j ≠ i := by
    rintro j hj rfl
    rw [owns, hj] at hown
    simp at hown
  unfold AddressAgrees
  rw [unbridge_activeLdnInstance, unbridge_lastBridgedLocalIp, hown, Bool.and_false]
  simp only [Bool.false_eq_true, if_false]
  constructor
  · intro h'
    cases hact : S.activeLdnInstance with
    | none => exact .inl rfl
    | some j =>
      have hnew := h' j hact
      rw [instance_unbridge_ne (hne j hact), h j hact] at hnew
      by_cases hc : S.countAfter = 0
      · rw [if_pos hc] at hnew
        exact .inr (.inr (Option.some.inj hnew))
      · exact .inr (.inl hc)
  · intro h' j hj
    rw [instance_unbridge_ne (hne j hj)]
    rcases h' with hnone | hc | hz
    · rw [Option.isNone_iff_eq_none.1 hnone] at hj
      cases hj
    · rw [if_neg hc]
      exact h j hj
    · rw [hz, ite_self, ← hz]
      exact h j hj

/-- What the `Close` of a bridged socket leaves of the two copies. -/
theorem unbridge_agrees_iff {i : Nat} {s : Instance} (hs : S.instance? i = some s) :
    (S.unbridge i s).AddressAgrees ↔
      (S.owns i = true → s.bridgedLocalPort = ldnControlPort ∨ S.countAfter = 0 ∨ S.lastBridgedLocalIp = 0) ∧
      (S.owns i = false → S.activeLdnInstance.isNone = true ∨ S.countAfter ≠ 0 ∨ S.lastBridgedLocalIp = 0) := by
  cases hown : S.owns i with
  | true => simpa using unbridge_own_agrees_iff hs hown
  | false => simpa using unbridge_other_agrees_iff h s hown

theorem close_agrees_iff (i : Nat) (fd : Int) : (S.close i fd).1.AddressAgrees ↔ S.KeepsAddress (.close i fd) := by
  unfold close KeepsAddress
  cases hs : S.instance? i with
  | none =>
    refine iff_of_true h (fun s hmem => ?_)
    cases hs.symm.trans hmem
  | some s =>
    -- the descriptor's own entries first: they touch no copy
    have hset : KeepsBridged S (S.setInstance i (s.untrackFd fd)) := keepsBridged_setInstance hs rfl
    generalize hS' : ({ S.setInstance i (s.untrackFd fd) with
      vtcp := (S.vtcp.close (S.owns i) s.bridgedLocalIp fd).1 } : Service) = S'
    have hsame : SameAddress S S' := by
      rw [← hS']
      exact (hset.setVtcp _).sameAddress
    have hself : S'.instance? i = some (s.untrackFd fd) := by
      rw [← hS']
      exact instance_setInstance hs
    have hiff := unbridge_agrees_iff (hsame.agrees h) hself
    have howns : S'.owns i = S.owns i := by rw [← hS']; rfl
    have hcount : S'.countAfter = S.countAfter := by rw [← hS']; rfl
    rw [howns, hcount, hsame.activeLdnInstance, hsame.lastBridgedLocalIp] at hiff
    dsimp only
    rw [hS', isBridged_untrackFd]
    by_cases hu : S.unbridges i s fd = true
    · have hgo : (S.isSynthetic i fd || !s.isBridged fd) = false := by simpa [unbridges] using hu
      rw [if_neg (by simp [hgo]), hiff]
      constructor
      · intro hc s' hs'
        cases hs.symm.trans hs'
        exact fun _ => hc
      · intro hc
        exact hc s hs hu
    · have hstop : (S.isSynthetic i fd || !s.isBridged fd) = true := by
        by_contra hno
        exact hu (by simpa [unbridges] using hno)
      rw [if_pos hstop]
      refine iff_of_true (hsame.agrees h) (fun s' hs' => ?_)
      cases hs.symm.trans hs'
      exact fun hu' => absurd hu' hu

end Writes

/-- **A step that starts with equal copies keeps them equal exactly when it clears none alone.** -/
theorem step_agrees_iff (S : Service) (op : Op) (h : S.AddressAgrees) :
    (S.step op).1.AddressAgrees ↔ S.KeepsAddress op := by
  cases op with
  | create => exact iff_of_true (create_agrees h) trivial
  | destroy i => exact iff_of_true (destroy_agrees h i) trivial
  | bind i fd port learnedIp ok => exact iff_of_true (bind_agrees h i fd port learnedIp ok) trivial
  | close i fd => exact close_agrees_iff h i fd
  | watchdog now => exact watchdog_agrees_iff h now
  | forceReconnect ok => exact iff_of_true h trivial
  | stop => exact iff_of_true h trivial
  | _ => exact iff_of_true ((step_keepsBridged S rfl).sameAddress.agrees h) trivial

/-! ## The address the segments carry -/

theorem srcIp_of_handleTcpSegment (t : VTcp) (localIp ourIsn : UInt32) (m : TcpSegment) :
    ∀ seg ∈ (t.handleTcpSegment true localIp ourIsn m).2, seg.srcIp = localIp := by
  have hhandled := t.handleTcpSegment_cases localIp ourIsn m
  generalize t.handleTcpSegment true localIp ourIsn m = r at hhandled
  intro seg hseg
  cases hhandled with
  | dropped => cases hseg
  | requested k hsyn hconn hnew hfree =>
    rw [List.mem_singleton.1 hseg]
    rfl
  | acknowledged k hack hk => cases hseg
  | received k hk =>
    obtain ⟨seq, ack, rfl⟩ := VTcpConn.reply_of_receive hseg
    rfl

theorem srcIp_of_checkDataRetransmits (t : VTcp) (localIp : UInt32) (now : UInt64) :
    ∀ seg ∈ (t.checkDataRetransmits localIp now).2, seg.srcIp = localIp := by
  intro seg hseg
  obtain ⟨k, -, hk⟩ := List.mem_flatMap.1 hseg
  unfold VTcpConn.checkDataRetransmit at hk
  split at hk
  · cases hk
  split at hk
  · cases hk
  split at hk
  · cases hk
  · rw [List.mem_singleton.1 hk]
    rfl

theorem srcIp_of_close (t : VTcp) (own : Bool) (localIp : UInt32) (fd : Int) :
    ∀ seg ∈ (t.close own localIp fd).2, seg.srcIp = localIp := by
  intro seg hseg
  unfold VTcp.close VTcp.onConn at hseg
  cases hk : t.findVTcpConnByFd own fd with
  | none =>
    rw [hk] at hseg
    cases hseg
  | some k =>
    rw [hk] at hseg
    dsimp only [VTcpConn.close] at hseg
    split at hseg
    · rw [List.mem_singleton.1 hseg]
      rfl
    · cases hseg

theorem srcIp_of_conn_sendTo (c : VTcpConn) (localIp : UInt32) (relay : VTcpConn.RelaySend) (buf : Bytes) :
    ∀ seg ∈ (c.sendTo localIp relay buf).2.1, seg.srcIp = localIp := by
  intro seg hseg
  unfold VTcpConn.sendTo at hseg
  split at hseg
  · cases hseg
  split at hseg
  · split at hseg
    · rw [List.mem_singleton.1 hseg]
      rfl
    · cases hseg
  · cases hseg

theorem mem_sendSegments {S : Service} {segs : List Segment} {seg : Segment} (h : seg ∈ S.sendSegments segs) :
    seg ∈ segs := by
  unfold sendSegments at h
  split at h
  · exact h
  · cases h

section Carried

variable {S : Service} (h : S.AddressAgrees)

include h

/-- The owner's own copy is the drain thread's. -/
theorem bridgedLocalIp_of_owns {i : Nat} {s : Instance} (hs : S.instance? i = some s) (hown : S.owns i = true) :
    s.bridgedLocalIp = S.lastBridgedLocalIp := by
  have hcopy := h i (beq_iff_eq.1 hown)
  rw [hs, Option.map_some] at hcopy
  exact Option.some.inj hcopy

theorem srcIp_of_connect (i : Nat) (fd : Int) (dstIp : UInt32) (dstPort : UInt16) (ourIsn : UInt32) (ok : Bool) :
    ∀ seg ∈ (S.connect i fd dstIp dstPort ourIsn ok).2, seg.srcIp = S.lastBridgedLocalIp := by
  intro seg hseg
  have howns := S.ensureRelayConnected_owns i ok
  unfold connect at hseg
  generalize S.ensureRelayConnected ok = r at hseg howns
  obtain ⟨S', connected⟩ := r
  cases hs : S.instance? i with
  | none =>
    rw [hs] at hseg
    cases hseg
  | some s =>
    simp only [hs] at hseg howns
    split at hseg
    · cases connected with
      | false => cases hseg
      | true =>
        dsimp only at hseg
        cases hc : S'.vtcp.connect (S'.owns i) s.bridgedLocalIp fd dstIp dstPort ourIsn with
        | none =>
          rw [hc] at hseg
          cases hseg
        | some r =>
          rw [hc] at hseg
          obtain ⟨k, hk, rfl⟩ := Option.map_eq_some_iff.1 hc
          have hown : S.owns i = true := by
            rw [← howns]
            by_contra hno
            rw [VTcp.allocVTcpConn, if_neg hno] at hk
            cases hk
          rw [List.mem_singleton.1 (mem_sendSegments hseg)]
          exact bridgedLocalIp_of_owns h hs hown
    · cases hseg

theorem srcIp_of_sendTo (i : Nat) (fd : Int) (buf : Bytes) (ok relayOk : Bool) (now : UInt64) :
    ∀ seg ∈ (S.sendTo i fd buf ok relayOk now).2, seg.srcIp = S.lastBridgedLocalIp := by
  intro seg hseg
  unfold sendTo at hseg
  generalize S.ensureRelayConnected ok = r at hseg
  obtain ⟨S', connected⟩ := r
  cases hs : S.instance? i with
  | none =>
    rw [hs] at hseg
    cases hseg
  | some s =>
    simp only [hs] at hseg
    cases hk : S.vtcp.findVTcpConnByFd (S.owns i) fd with
    | some k =>
      simp only [hk] at hseg
      split at hseg
      · cases hseg
      · cases connected with
        | false => cases hseg
        | true =>
          rw [srcIp_of_conn_sendTo _ _ _ _ seg hseg]
          exact bridgedLocalIp_of_owns h hs (owns_of_find hk)
    | none =>
      simp only [hk] at hseg
      split at hseg
      · cases connected <;> cases hseg
      · cases hseg

theorem srcIp_of_service_close (i : Nat) (fd : Int) :
    ∀ seg ∈ (S.close i fd).2, seg.srcIp = S.lastBridgedLocalIp := by
  intro seg hseg
  cases hs : S.instance? i with
  | none =>
    rw [close, hs] at hseg
    cases hseg
  | some s =>
    rw [close_segs hs] at hseg
    cases hown : S.owns i with
    | false =>
      rw [hown, VTcp.close_not_own] at hseg
      cases mem_sendSegments hseg
    | true =>
      rw [hown] at hseg
      rw [srcIp_of_close _ _ _ _ _ (mem_sendSegments hseg)]
      exact bridgedLocalIp_of_owns h hs hown

/-- **While the copies agree every segment carries the one address, whoever sends it.** -/
theorem srcIp_of_step (op : Op) : ∀ seg ∈ (S.step op).2, seg.srcIp = S.lastBridgedLocalIp := by
  intro seg hseg
  cases op with
  | connect i fd dstIp dstPort ourIsn ok => exact srcIp_of_connect h i fd dstIp dstPort ourIsn ok seg hseg
  | sendTo i fd buf ok relayOk now => exact srcIp_of_sendTo h i fd buf ok relayOk now seg hseg
  | close i fd => exact srcIp_of_service_close h i fd seg hseg
  | drainSegment ourIsn m =>
    change seg ∈ (S.drainSegment ourIsn m).2 at hseg
    unfold drainSegment at hseg
    split at hseg
    · cases hseg
    · exact srcIp_of_handleTcpSegment _ _ _ _ seg (mem_sendSegments hseg)
  | drainRetransmits now =>
    change seg ∈ (S.drainRetransmits now).2 at hseg
    unfold drainRetransmits at hseg
    split at hseg
    · cases hseg
    · exact srcIp_of_checkDataRetransmits _ _ _ seg (mem_sendSegments hseg)
  | _ => cases hseg

end Carried

/-! ## Runs -/

/-- The copies agree, and every segment the next step can send carries the address. -/
structure OneAddress (S : Service) : Prop where
  agrees : S.AddressAgrees
  carried : ∀ op, ∀ seg ∈ (S.step op).2, seg.srcIp = S.lastBridgedLocalIp

theorem oneAddress_iff (S : Service) : S.OneAddress ↔ S.AddressAgrees :=
  ⟨fun h => h.agrees, fun h => ⟨h, srcIp_of_step h⟩⟩

/-- **Every state of a run has one address exactly when no step of it clears one copy alone.** -/
theorem own_address_iff (ops : List Op) : Throughout OneAddress {} ops ↔ AllOk KeepsAddress {} ops := by
  refine throughout_iff (fun S op hS => ?_) ops ((oneAddress_iff {}).2 (by decide))
  rw [oneAddress_iff]
  exact step_agrees_iff S op hS.agrees

def hostSegment (seq ack : UInt32) (flags : UInt8) (payload : Bytes) : TcpSegment where
  srcIp := 0x0A0D0002
  srcPort := ldnControlPort
  dstPort := ldnControlPort
  seq := seq
  ack := ack
  flags := flags
  payload := payload

/-- A station's session that is idle for ten minutes, after which the overlay reconnects the relay. -/
def idleSession : List Op :=
  [.create, .socket 0 SOCK_DGRAM 3, .bind 0 3 ldnControlPort 0x0A0D0001 true, .socket 0 SOCK_STREAM 4,
    .connect 0 4 0x0A0D0002 ldnControlPort 7 true, .drainSegment 0 (hostSegment 500 8 (TCP_SYN ||| TCP_ACK) []),
    .sendTo 0 4 [1] true true 1, .watchdog 600001, .forceReconnect true]

/-- **The watchdog clears the drain thread's copy alone: the connection acknowledges data from address 0 and sends its own
from the socket's.** -/
theorem idle_session_two_addresses : Reachable (fun _ _ => True) (run {} idleSession) ∧
    (run {} idleSession).activeLdnInstance = some 0 ∧ (run {} idleSession).lastBridgedLocalIp = 0 ∧
    ((run {} idleSession).instance? 0).map Instance.bridgedLocalIp = some 0x0A0D0001 ∧
    ((run {} idleSession).step (.drainSegment 0 (hostSegment 501 9 TCP_ACK [2]))).2.map Segment.srcIp = [0] ∧
    ((run {} idleSession).step (.sendTo 0 4 [3] true true 600002)).2.map Segment.srcIp = [0x0A0D0001] := by
  refine ⟨reachable_run _ .init (by decide +kernel), by decide +kernel, by decide +kernel, by decide +kernel,
    by decide +kernel, by decide +kernel⟩

end Service
end Slp
