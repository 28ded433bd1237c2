import SwitchLanPlay.Teardown
import SwitchLanPlay.VTcpCalls
/-!
# VTcpKeys — the keys connections are looked up by

`FindVTcpConnByFd` and `FindVTcpConnByPeer` return the first match, so they find the connection that is meant only if no two
used ones share a key.  `Connect` and `Accept` fill a slot without looking at the others; every other call keeps the keys.
The keys are distinct throughout a run exactly when each slot is filled with keys that no used connection has
(`keys_identify_iff`).
-/
namespace Slp

open Wire TcpSegment

namespace VTcp

/-- No two used connections have one descriptor or one peer. -/
structure DistinctKeys (t : VTcp) : Prop where
  fds : t.DistinctFds
  peers : ∀ j k, (t.conns j).used = true → (t.conns k).used = true → (t.conns j).peerIp = (t.conns k).peerIp → j = k

/-- No used connection has the descriptor or the peer. -/
def NewKeys (t : VTcp) (fd : Int) (peerIp : UInt32) : Prop :=
  ∀ k, (t.conns k).used = true → (t.conns k).fd ≠ fd ∧ (t.conns k).peerIp ≠ peerIp

/-- The call can fill a slot. -/
def Op.fills : Op → Bool
  | .connect _ _ _ _ | .accept => true
  | _ => false

/-- A call that fills a slot brings new keys. -/
def KeepsKeys (t : VTcp) : Op → Prop
  | .connect fd dstIp _ _ => t.allocVTcpConn true ≠ none → t.NewKeys fd dstIp
  | .accept => ∀ p ∈ SlotTable.first (fun p => p.used && p.gotFinalAck) t.pendingAccepts,
      t.allocVTcpConn true ≠ none → t.NewKeys t.nextSyntheticFd (t.pendingAccepts p).peerIp
  | _ => True

instance (t : VTcp) (fd : Int) (peerIp : UInt32) : Decidable (t.NewKeys fd peerIp) := by
  unfold NewKeys
  infer_instance

instance (t : VTcp) (op : Op) : Decidable (t.KeepsKeys op) := by
  cases op <;> unfold KeepsKeys <;> infer_instance

/-! ## Writes to a slot -/

/-- The used connections of `t'` are connections of `t`, with their keys. -/
def KeysFrom (t t' : VTcp) : Prop := ∀ k, (t'.conns k).used = true → VTcpConn.SameKeys (t.conns k) (t'.conns k)

section Writes

variable {t t' : VTcp} {k : Fin maxVTcpConns} {c : VTcpConn}

theorem keysFrom_of_conns (h : t'.conns = t.conns) : KeysFrom t t' := by
  intro k hk
  rw [h]
  exact ⟨rfl, rfl, rfl⟩

theorem KeysFrom.distinct (h : KeysFrom t t') (ht : t.DistinctKeys) : t'.DistinctKeys := by
  have hused : ∀ k, (t'.conns k).used = true → (t.conns k).used = true := by
    intro k hk
    rw [← (h k hk).used]
    exact hk
  constructor
  · intro j k hj hk he
    rw [(h j hj).fd, (h k hk).fd] at he
    exact ht.fds j k (hused j hj) (hused k hk) he
  · intro j k hj hk he
    rw [(h j hj).peerIp, (h k hk).peerIp] at he
    exact ht.peers j k (hused j hj) (hused k hk) he

/-- **Filling a free slot keeps the keys distinct exactly when its keys are new.** -/
theorem distinctKeys_fill (h : t.DistinctKeys) (hk : (t.conns k).used = false) (hc : c.used = true) :
    (t.setConn k c).DistinctKeys ↔ t.NewKeys c.fd c.peerIp := by
  have hself : (t.setConn k c).conns k = c := by simp [setConn]
  have hother : ∀ j, j ≠ k → (t.setConn k c).conns j = t.conns j := by
    intro j hj
    simp [setConn, hj]
  have hne : ∀ j, (t.conns j).used = true → j ≠ k := by
    rintro j hj rfl
    rw [hk] at hj
    cases hj
  constructor
  · intro h' j hj
    have hj' : ((t.setConn k c).conns j).used = true := by rw [hother j (hne j hj)]; exact hj
    have hk' : ((t.setConn k c).conns k).used = true := by rw [hself]; exact hc
    constructor
    · intro he
      refine hne j hj (h'.fds j k hj' hk' ?_)
      rw [hother j (hne j hj), hself, he]
    · intro he
      refine hne j hj (h'.peers j k hj' hk' ?_)
      rw [hother j (hne j hj), hself, he]
  · intro hnew
    -- two equal keys are both old, or one of them is the new one
    have hpair : ∀ i j, ((t.setConn k c).conns i).used = true → ((t.setConn k c).conns j).used = true → i ≠ j →
        ((t.setConn k c).conns i).fd ≠ ((t.setConn k c).conns j).fd ∧
        ((t.setConn k c).conns i).peerIp ≠ ((t.setConn k c).conns j).peerIp := by
      intro i j hi hj hij
      by_cases hik : i = k
      · subst hik
        rw [hother j (Ne.symm hij)] at hj ⊢
        rw [hself]
        exact ⟨fun he => (hnew j hj).1 he.symm, fun he => (hnew j hj).2 he.symm⟩
      · rw [hother i hik] at hi ⊢
        by_cases hjk : j = k
        · subst hjk
          rw [hself]
          exact hnew i hi
        · rw [hother j hjk] at hj ⊢
          exact ⟨fun he => hij (h.fds i j hi hj he), fun he => hij (h.peers i j hi hj he)⟩
    constructor
    · intro i j hi hj he
      by_contra hij
      exact (hpair i j hi hj hij).1 he
    · intro i j hi hj he
      by_contra hij
      exact (hpair i j hi hj hij).2 he

theorem distinctKeys_congr (h : t'.conns = t.conns) : t'.DistinctKeys ↔ t.DistinctKeys :=
  ⟨(keysFrom_of_conns h.symm).distinct, (keysFrom_of_conns h).distinct⟩

end Writes

/-! ## The calls -/

section Calls

variable (t : VTcp) (localIp : UInt32)

/-- **A call that fills no slot brings no key.** -/
theorem step_keysFrom {op : Op} (hop : op.fills = false) : KeysFrom t (t.step localIp op).1 := by
  intro k hk
  have hstep := step_slotStep t localIp k op
  generalize (t.step localIp op).1.conns k = c at hk hstep ⊢
  cases hstep with
  | kept => exact ⟨rfl, rfl, rfl⟩
  | received ourIsn m => exact VTcpConn.receive_sameKeys _ localIp m
  | retransmitted now => exact VTcpConn.checkDataRetransmit_sameKeys _ localIp now
  | sent fd relay buf => exact VTcpConn.sendTo_sameKeys _ localIp relay buf
  | read fd bufSize addrSize => exact VTcpConn.recvFrom_sameKeys _ bufSize addrSize
  | cleared => cases hk
  | accepted => cases hop
  | connecting => cases hop

variable {t}

theorem connect_distinct_iff (h : t.DistinctKeys) (fd : Int) (dstIp : UInt32) (dstPort : UInt16) (ourIsn : UInt32) :
    (t.step localIp (.connect fd dstIp dstPort ourIsn)).1.DistinctKeys ↔
      t.KeepsKeys (.connect fd dstIp dstPort ourIsn) := by
  unfold KeepsKeys
  cases hk : t.allocVTcpConn true with
  | none =>
    rw [step_connect_of_none localIp fd dstIp dstPort ourIsn hk]
    exact iff_of_true h (fun hno => absurd rfl hno)
  | some k =>
    rw [step_connect_of_some localIp fd dstIp dstPort ourIsn hk]
    refine (distinctKeys_fill h (free_of_alloc hk) rfl).trans ?_
    constructor
    · intro hnew _
      exact hnew
    · intro hnew
      exact hnew (by simp)

theorem accept_distinct_iff (h : t.DistinctKeys) :
    (t.step localIp .accept).1.DistinctKeys ↔ t.KeepsKeys .accept := by
  unfold KeepsKeys
  cases hp : SlotTable.first (fun p => p.used && p.gotFinalAck) t.pendingAccepts with
  | none =>
    rw [step_accept_none localIp (.inl hp)]
    exact iff_of_true h (fun p hno => by cases hno)
  | some p =>
    cases hk : t.allocVTcpConn true with
    | none =>
      rw [step_accept_none localIp (.inr hk)]
      exact iff_of_true h (fun p _ hno => absurd rfl hno)
    | some k =>
      refine (distinctKeys_congr (step_accept_conns localIp hp hk)).trans ?_
      refine (distinctKeys_fill h (free_of_alloc hk) rfl).trans ?_
      constructor
      · intro hnew q hq _
        cases hq
        exact hnew
      · intro hnew
        exact hnew p rfl (by simp)

/-- **A call on distinct keys leaves them distinct exactly when the slot it fills, if any, gets new ones.** -/
theorem step_distinct_iff (h : t.DistinctKeys) (op : Op) : (t.step localIp op).1.DistinctKeys ↔ t.KeepsKeys op := by
  cases op with
  | accept => exact accept_distinct_iff localIp h
  | connect fd dstIp dstPort ourIsn => exact connect_distinct_iff localIp h fd dstIp dstPort ourIsn
  | _ => exact iff_of_true ((step_keysFrom t localIp rfl).distinct h) trivial

end Calls

/-! ## The look-ups -/

/-- Distinct keys, and each look-up finds the connection that has the key. -/
structure KeysIdentify (t : VTcp) : Prop where
  distinct : t.DistinctKeys
  by_fd : ∀ k, (t.conns k).used = true → t.findVTcpConnByFd true (t.conns k).fd = some k
  by_peer : ∀ k, (t.conns k).used = true → t.findVTcpConnByPeer true (t.conns k).peerIp = some k

theorem keysIdentify_iff (t : VTcp) : t.KeysIdentify ↔ t.DistinctKeys := by
  constructor
  · intro h
    exact h.distinct
  · intro h
    refine ⟨h, fun k hk => find_of_distinct h.fds hk, fun k hk => ?_⟩
    rw [findVTcpConnByPeer, if_pos rfl]
    refine SlotTable.first_of_unique (by simp [hk]) (fun j hj => ?_)
    rw [Bool.and_eq_true, beq_iff_eq] at hj
    exact h.peers j k hj.1 hk hj.2

end VTcp

namespace Service

/-- **The keys identify the connections in every state of a run exactly when every call that fills a slot brings new ones.** -/
theorem keys_identify_iff (ops : List Op) :
    Throughout (fun S => S.vtcp.KeysIdentify) {} ops ↔ AllOk (CallOk VTcp.KeepsKeys) {} ops := by
  have hinit : ({} : VTcp).DistinctKeys := ⟨fun j k hj => (by cases hj), fun j k hj => (by cases hj)⟩
  refine throughout_iff (fun S op hS => ?_) ops ((VTcp.keysIdentify_iff _).2 hinit)
  rw [VTcp.keysIdentify_iff, vtcp_step, CallOk]
  cases S.vtcpCall op with
  | none => exact iff_of_true hS.distinct (fun c hc => by cases hc)
  | some c =>
    refine (VTcp.step_distinct_iff c.1 hS.distinct c.2).trans ?_
    constructor
    · intro hok c' hc'
      cases hc'
      exact hok
    · intro hok
      exact hok c rfl

/-! ## A second connection of a descriptor and of a peer -/

/-- The host's answer to the first `Connect`. -/
def hostAnswer : TcpSegment where
  srcIp := 0x0A0D0001
  srcPort := ldnControlPort
  dstPort := ldnControlPort
  seq := 500
  ack := 8
  flags := TCP_SYN ||| TCP_ACK
  payload := []

/-- A station connects, and connects the same descriptor to the same host once more. -/
def connectTwice : List Op :=
  [.create, .socket 0 SOCK_DGRAM 3, .bind 0 3 ldnControlPort 0x0A0D0002 true, .socket 0 SOCK_STREAM 4,
    .connect 0 4 0x0A0D0001 ldnControlPort 7 true, .drainSegment 0 hostAnswer,
    .connect 0 4 0x0A0D0001 ldnControlPort 9 true]

/-- **A second `Connect` duplicates both keys, and what is meant for it goes to the first connection.** -/
theorem connect_twice_duplicates : Reachable (fun _ _ => True) (run {} connectTwice) ∧
    (let t := (run {} connectTwice).vtcp
    (t.conns ⟨0, by decide⟩).used = true ∧ (t.conns ⟨1, by decide⟩).used = true ∧
    (t.conns ⟨0, by decide⟩).fd = (t.conns ⟨1, by decide⟩).fd ∧
    (t.conns ⟨0, by decide⟩).peerIp = (t.conns ⟨1, by decide⟩).peerIp ∧
    (t.conns ⟨0, by decide⟩).established = true ∧ (t.conns ⟨1, by decide⟩).ourIsn = 9 ∧
    t.findVTcpConnByFd true 4 = some ⟨0, by decide⟩ ∧ t.findVTcpConnByPeer true 0x0A0D0001 = some ⟨0, by decide⟩) := by
  refine ⟨reachable_run _ .init (by decide +kernel), by decide +kernel⟩

end Service
end Slp
