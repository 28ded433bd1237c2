import SwitchLanPlay.ServiceCalls
import SwitchLanPlay.VTcpSlots
/-!
# Teardown — what closing all descriptors of a session leaves behind

`Close` finds a virtual connection or the listener only while its instance owns the virtual TCP state, and the `Close` of the
control socket gives the ownership up.  What is closed after it stays in the tables (`reached`): the teardown is complete
exactly when the control socket comes last (`tornDown_iff`).
-/
namespace Slp

open Wire

namespace VTcp

variable (t : VTcp) (own : Bool) (localIp : UInt32) (fd : Int)

theorem close_tcpListenFd :
    (t.close own localIp fd).1.tcpListenFd = if t.isOwnTcpListenFd own fd then -1 else t.tcpListenFd := by
  unfold close onConn
  cases t.findVTcpConnByFd own fd <;> rfl

theorem close_segs_of_find {k : Fin maxVTcpConns} (h : t.findVTcpConnByFd own fd = some k) :
    (t.close own localIp fd).2 = (t.conns k).close localIp := by
  unfold close onConn
  rw [h]

theorem close_not_own : t.close false localIp fd = (t, []) := rfl

/-- No two used connections have one descriptor. -/
def DistinctFds (t : VTcp) : Prop :=
  ∀ j k, (t.conns j).used = true → (t.conns k).used = true → (t.conns j).fd = (t.conns k).fd → j = k

variable {t own localIp fd}

theorem apply_of_find {k : Fin maxVTcpConns} (h : t.findVTcpConnByFd own fd = some k) :
    (t.conns k).used = true ∧ (t.conns k).fd = fd := by
  cases own with
  | false => cases h
  | true =>
    rw [findVTcpConnByFd, if_pos rfl] at h
    simpa using SlotTable.apply_of_first h

theorem find_of_distinct (hd : t.DistinctFds) {k : Fin maxVTcpConns} (hu : (t.conns k).used = true) :
    t.findVTcpConnByFd true (t.conns k).fd = some k := by
  rw [findVTcpConnByFd, if_pos rfl]
  refine SlotTable.first_of_unique (by simp [hu]) (fun j hj => ?_)
  simp only [Bool.and_eq_true, beq_iff_eq] at hj
  exact hd j k hj.1 hu hj.2

/-- **`Close` of an owner clears the connection of the descriptor.** -/
theorem close_conns_of_distinct (hd : t.DistinctFds) (k : Fin maxVTcpConns) :
    (t.close true localIp fd).1.conns k = if (t.conns k).used = true ∧ (t.conns k).fd = fd then {} else t.conns k := by
  rw [close_conns]
  by_cases hk : (t.conns k).used = true ∧ (t.conns k).fd = fd
  · obtain ⟨hu, rfl⟩ := hk
    rw [if_pos (find_of_distinct hd hu), if_pos ⟨hu, rfl⟩]
  · rw [if_neg (fun h => hk (apply_of_find h)), if_neg hk]

theorem distinctFds_close (hd : t.DistinctFds) : (t.close true localIp fd).1.DistinctFds := by
  have hold : ∀ k, ((t.close true localIp fd).1.conns k).used = true →
      (t.close true localIp fd).1.conns k = t.conns k := fun k hu => by
    rw [close_conns_of_distinct hd] at hu ⊢
    split at hu
    · cases hu
    · rename_i h
      rw [if_neg h]
  intro j k hj hk he
  have hj' := hold j hj
  have hk' := hold k hk
  rw [hj'] at hj he
  rw [hk'] at hk he
  exact hd j k hj hk he

end VTcp

namespace Service

/-! ## One `Close` -/

section Close

variable {S : Service} {i : Nat} {s : Instance} {fd : Int}

/-- The instance owns the virtual TCP state. -/
structure Owned (S : Service) (i : Nat) (s : Instance) : Prop where
  active : S.activeLdnInstance = some i
  alive : S.instance? i = some s

theorem Owned.owns (h : S.Owned i s) : S.owns i = true := by simp [Service.owns, h.active]

/-- The `Close` of a descriptor reaches the bridged socket. -/
def unbridges (S : Service) (i : Nat) (s : Instance) (fd : Int) : Bool := !S.isSynthetic i fd && s.isBridged fd

/-- The `Close` of the bridged socket gives the ownership up: it is the control socket. -/
def releases (S : Service) (i : Nat) (s : Instance) : Bool :=
  s.bridgedLocalPort == ldnControlPort && S.unbridges i s s.bridgedFd

theorem isBridged_untrackFd (s : Instance) (fd fd' : Int) : (s.untrackFd fd).isBridged fd' = s.isBridged fd' := rfl

theorem close_vtcp (h : S.instance? i = some s) :
    (S.close i fd).1.vtcp = (S.vtcp.close (S.owns i) s.bridgedLocalIp fd).1 := by
  simp only [close, h]
  split
  · rfl
  · rw [unbridge_vtcp]

theorem close_segs (h : S.instance? i = some s) :
    (S.close i fd).2 = S.sendSegments (S.vtcp.close (S.owns i) s.bridgedLocalIp fd).2 := by
  simp only [close, h]

/-- **A `Close` that does not reach the bridged socket keeps the ownership and the relay.** -/
theorem close_keeps (h : S.Owned i s) (hno : S.unbridges i s fd = false) :
    (S.close i fd).1.Owned i (s.untrackFd fd) ∧ (S.close i fd).1.relay = S.relay := by
  have hstop : (S.isSynthetic i fd || !s.isBridged fd) = true := by
    rcases Bool.and_eq_false_iff.1 hno with hsyn | hfd
    · rw [show S.isSynthetic i fd = true by simpa using hsyn, Bool.true_or]
    · rw [hfd, Bool.not_false, Bool.or_true]
  simp only [close, h.alive, isBridged_untrackFd, hstop, if_true]
  exact ⟨⟨h.active, instance_setInstance h.alive⟩, rfl⟩

/-- **The `Close` of the control socket gives the ownership up.** -/
theorem close_releases (h : S.Owned i s) (hu : S.unbridges i s fd = true) (hport : s.bridgedLocalPort = ldnControlPort) :
    (S.close i fd).1.activeLdnInstance = none := by
  have hgo : (S.isSynthetic i fd || !s.isBridged fd) = false := by simpa [unbridges] using hu
  have hport' : (s.untrackFd fd).bridgedLocalPort = ldnControlPort := hport
  simp only [close, h.alive, isBridged_untrackFd, hgo, Bool.false_eq_true, if_false, unbridge_activeLdnInstance]
  rw [hport', if_pos]
  simpa [Service.owns, setInstance] using h.active

theorem close_disconnected (i : Nat) (fd : Int) (h : S.relay.connected = false) :
    (S.close i fd).1.relay.connected = false ∧ (S.close i fd).2 = [] := by
  cases hs : S.instance? i with
  | none =>
    rw [close, hs]
    exact ⟨h, rfl⟩
  | some s =>
    refine ⟨?_, ?_⟩
    · simp only [close, hs]
      split
      · exact h
      · rw [unbridge_relay]
        split
        · rfl
        · exact h
    · rw [close_segs hs, sendSegments, h]
      rfl

theorem close_not_owned (i : Nat) (fd : Int) (h : S.activeLdnInstance = none) :
    (S.close i fd).1.activeLdnInstance = none ∧ (S.close i fd).1.vtcp = S.vtcp := by
  have hown : S.owns i = false := by simp [Service.owns, h]
  cases hs : S.instance? i with
  | none =>
    rw [close, hs]
    exact ⟨h, rfl⟩
  | some s =>
    refine ⟨?_, ?_⟩
    · simp only [close, hs]
      split
      · exact h
      · rw [unbridge_activeLdnInstance]
        split
        · rfl
        · exact h
    · rw [close_vtcp hs, hown, VTcp.close_not_own]

end Close

/-! ## A sequence of them -/

/-- `Close` on one descriptor after the other, with the segments each sends. -/
def closeAll (i : Nat) : Service → List Int → Service × List (Int × List Segment)
  | S, [] => (S, [])
  | S, fd :: rest => ((closeAll i (S.close i fd).1 rest).1, (fd, (S.close i fd).2) :: (closeAll i (S.close i fd).1 rest).2)

/-- The `Close` of the descriptor sent the connection's peer a FIN. -/
def FinSent (outs : List (Int × List Segment)) (c : VTcpConn) : Prop :=
  ∃ segs, (c.fd, segs) ∈ outs ∧ ∃ g ∈ segs, g.dstIp = c.peerIp ∧ g.dstPort = c.peerPort ∧ g.received.isFin = true

/-- The descriptors closed while the instance still owns the virtual TCP state: all of them, or those up to the bridged
socket `u` when its `Close` gives the ownership up. -/
def reached (u : Int) (releases : Bool) : List Int → List Int
  | [] => []
  | fd :: rest => if releases && fd == u then [fd] else fd :: reached u releases rest

theorem reached_of_not_mem {u : Int} (releases : Bool) : ∀ {order : List Int}, u ∉ order → reached u releases order = order
  | [], _ => rfl
  | fd :: rest, h => by
    have hne : fd ≠ u := fun he => h (by rw [he]; exact List.mem_cons_self)
    rw [reached, reached_of_not_mem releases (fun hm => h (List.mem_cons_of_mem _ hm))]
    simp [hne]

section Sequence

variable {i : Nat}

theorem closeAll_not_owned : ∀ (order : List Int) {S : Service}, S.activeLdnInstance = none →
    (closeAll i S order).1.vtcp = S.vtcp
  | [], _, _ => rfl
  | fd :: rest, S, h => by
    obtain ⟨hact, hv⟩ := close_not_owned i fd h
    rw [closeAll, closeAll_not_owned rest hact, hv]

theorem closeAll_disconnected : ∀ (order : List Int) {S : Service}, S.relay.connected = false →
    ∀ x ∈ (closeAll i S order).2, x.2 = []
  | [], _, _, x, hx => by cases hx
  | fd :: rest, S, h, x, hx => by
    obtain ⟨hc, hs⟩ := close_disconnected i fd h
    rw [closeAll] at hx
    rcases List.mem_cons.1 hx with rfl | hx
    · exact hs
    · exact closeAll_disconnected rest hc x hx

/-- A `Close` of another descriptor leaves the bridged socket's part in the session alone. -/
theorem releases_close {S : Service} {s : Instance} {fd : Int} (h : S.Owned i s) (hd : S.vtcp.DistinctFds)
    (hno : S.unbridges i s fd = false) (hne : fd ≠ s.bridgedFd) :
    (S.close i fd).1.releases i (s.untrackFd fd) = S.releases i s := by
  have hfind : (S.close i fd).1.vtcp.findVTcpConnByFd true s.bridgedFd = S.vtcp.findVTcpConnByFd true s.bridgedFd := by
    rw [close_vtcp h.alive, h.owns, VTcp.findVTcpConnByFd, VTcp.findVTcpConnByFd, if_pos rfl, if_pos rfl]
    refine SlotTable.first_congr (fun k => ?_)
    rw [VTcp.close_conns_of_distinct hd]
    split
    · rename_i hk
      have : (S.vtcp.conns k).fd ≠ s.bridgedFd := by rw [hk.2]; exact hne
      simp [this]
    · rfl
  have hsyn : (S.close i fd).1.isSynthetic i s.bridgedFd = S.isSynthetic i s.bridgedFd := by
    rw [isSynthetic, isSynthetic, (close_keeps h hno).1.owns, h.owns, hfind]
    cases hf : S.vtcp.findVTcpConnByFd true s.bridgedFd with
    | none => rfl
    | some k =>
      have hk := VTcp.apply_of_find hf
      simp only [Option.any_some]
      rw [close_vtcp h.alive, h.owns, VTcp.close_conns_of_distinct hd, if_neg (fun hk' => hne (hk'.2.symm.trans hk.2))]
  show (s.bridgedLocalPort == ldnControlPort && (!(S.close i fd).1.isSynthetic i s.bridgedFd && s.isBridged s.bridgedFd)) = _
  rw [hsyn]
  rfl

/-- The first `Close` goes on to the others with the same bridged socket to come. -/
theorem reached_cons {S : Service} {s : Instance} {fd : Int} {rest : List Int} (h : S.Owned i s) (hd : S.vtcp.DistinctFds)
    (hnd : (fd :: rest).Nodup) (hno : S.unbridges i s fd = false) :
    reached s.bridgedFd (S.releases i s) (fd :: rest) =
      fd :: reached s.bridgedFd ((S.close i fd).1.releases i (s.untrackFd fd)) rest := by
  by_cases he : fd = s.bridgedFd
  · subst he
    have hrel : S.releases i s = false := by rw [releases, hno, Bool.and_false]
    have hnot := (List.nodup_cons.1 hnd).1
    rw [reached, hrel, reached_of_not_mem _ hnot, reached_of_not_mem _ hnot]
    rfl
  · rw [reached, releases_close h hd hno he]
    simp [he]

/-- What a sequence of closes leaves of the tables it reaches while the instance owns them. -/
structure Cleared (S S' : Service) (R : List Int) (outs : List (Int × List Segment)) : Prop where
  conns : ∀ k, S'.vtcp.conns k =
    if (S.vtcp.conns k).used = true ∧ (S.vtcp.conns k).fd ∈ R then {} else S.vtcp.conns k
  listener : S'.vtcp.tcpListenFd = if S.vtcp.tcpListenFd ∈ R then -1 else S.vtcp.tcpListenFd
  fins : S.relay.connected = true → ∀ k, (S.vtcp.conns k).used = true → (S.vtcp.conns k).established = true →
    (S.vtcp.conns k).fd ∈ R → FinSent outs (S.vtcp.conns k)

theorem close_fin {S : Service} {s : Instance} (h : S.Owned i s) (hd : S.vtcp.DistinctFds)
    (hrelay : S.relay.connected = true) {k : Fin maxVTcpConns} (hu : (S.vtcp.conns k).used = true)
    (he : (S.vtcp.conns k).established = true) :
    ∃ g ∈ (S.close i (S.vtcp.conns k).fd).2, g.dstIp = (S.vtcp.conns k).peerIp ∧ g.dstPort = (S.vtcp.conns k).peerPort ∧
      g.received.isFin = true := by
  rw [close_segs h.alive, h.owns, VTcp.close_segs_of_find _ _ _ _ (VTcp.find_of_distinct hd hu), sendSegments,
    if_pos hrelay, VTcpConn.close, if_pos he]
  exact ⟨_, List.mem_singleton_self _, rfl, rfl, (by decide : ((TCP_FIN ||| TCP_ACK) &&& TCP_FIN != 0) = true)⟩

/-- **One `Close` of the owner clears its descriptor.** -/
theorem close_clears {S : Service} {s : Instance} (h : S.Owned i s) (hd : S.vtcp.DistinctFds) (fd : Int) :
    Cleared S (S.close i fd).1 [fd] [(fd, (S.close i fd).2)] where
  conns := fun k => by
    rw [close_vtcp h.alive, h.owns, VTcp.close_conns_of_distinct hd]
    simp
  listener := by
    rw [close_vtcp h.alive, h.owns, VTcp.close_tcpListenFd, VTcp.isOwnTcpListenFd, Bool.true_and]
    by_cases he : S.vtcp.tcpListenFd = fd
    · simp [he]
    · rw [if_neg (by simpa using fun he' => he he'.symm), if_neg (by simpa using he)]
  fins := fun hrelay k hu he hk => by
    rw [List.mem_singleton] at hk
    obtain ⟨g, hg, hfin⟩ := close_fin h hd hrelay hu he
    rw [hk] at hg
    exact ⟨_, by rw [hk]; exact List.mem_singleton_self _, g, hg, hfin⟩

/-- **Two sequences of closes clear what either reaches**, when the relay stays for the second. -/
theorem Cleared.trans {S S' S'' : Service} {R R' : List Int} {outs outs' : List (Int × List Segment)}
    (h : Cleared S S' R outs) (h' : Cleared S' S'' R' outs') (hrelay : S'.relay = S.relay) :
    Cleared S S'' (R ++ R') (outs ++ outs') where
  conns := fun k => by
    rw [h'.conns k, h.conns k]
    by_cases hk : (S.vtcp.conns k).used = true ∧ (S.vtcp.conns k).fd ∈ R
    · rw [if_pos hk, ite_self, if_pos ⟨hk.1, List.mem_append_left _ hk.2⟩]
    · rw [if_neg hk]
      by_cases hin : (S.vtcp.conns k).used = true ∧ (S.vtcp.conns k).fd ∈ R'
      · rw [if_pos hin, if_pos ⟨hin.1, List.mem_append_right _ hin.2⟩]
      · rw [if_neg hin, if_neg]
        rintro ⟨hu, hm⟩
        exact (List.mem_append.1 hm).elim (fun hm => hk ⟨hu, hm⟩) (fun hm => hin ⟨hu, hm⟩)
  listener := by
    rw [h'.listener, h.listener]
    by_cases hR : S.vtcp.tcpListenFd ∈ R
    · rw [if_pos hR, ite_self, if_pos (List.mem_append_left _ hR)]
    · rw [if_neg hR]
      simp [List.mem_append, hR]
  fins := fun hconn k hu he hk => by
    by_cases hR : (S.vtcp.conns k).fd ∈ R
    · obtain ⟨segs, hm, hfin⟩ := h.fins hconn k hu he hR
      exact ⟨segs, List.mem_append_left _ hm, hfin⟩
    · have hsame : S'.vtcp.conns k = S.vtcp.conns k := by rw [h.conns k, if_neg (fun hk' => hR hk'.2)]
      have hR' := (List.mem_append.1 hk).resolve_left hR
      rw [← hsame] at hu he hR' ⊢
      obtain ⟨segs, hm, hfin⟩ := h'.fins (by rw [hrelay]; exact hconn) k hu he hR'
      exact ⟨segs, List.mem_append_right _ hm, hfin⟩

/-- **A sequence of closes clears exactly the descriptors it reaches**, each established connection with a FIN. -/
theorem closeAll_clears : ∀ (order : List Int) {S : Service} {s : Instance}, S.Owned i s → S.vtcp.DistinctFds →
    order.Nodup → (s.bridgedFd ∈ order → 0 ≤ s.bridgedFd → s.bridgedLocalPort = ldnControlPort) →
    Cleared S (closeAll i S order).1 (reached s.bridgedFd (S.releases i s) order) (closeAll i S order).2
  | [], S, _, _, _, _, _ => ⟨fun k => by simp [closeAll, reached], by simp [closeAll, reached], fun _ k _ _ h => by cases h⟩
  | fd :: rest, S, s, h, hd, hnd, hctl => by
    have hone := close_clears h hd fd
    cases hu : S.unbridges i s fd with
    | true =>
      -- the control socket: what follows it finds no owner
      obtain ⟨hsyn, hpos, rfl⟩ : S.isSynthetic i fd = false ∧ 0 ≤ fd ∧ fd = s.bridgedFd := by
        simpa [unbridges, Instance.isBridged] using hu
      have hport := hctl List.mem_cons_self hpos
      have hleft := closeAll_not_owned rest (i := i) (close_releases h hu hport)
      have hR : reached s.bridgedFd (S.releases i s) (s.bridgedFd :: rest) = [s.bridgedFd] := by
        rw [reached, releases, hport, hu]
        simp
      rw [hR, closeAll]
      refine ⟨fun k => ?_, ?_, fun hrelay k hused he hk => ?_⟩
      · rw [hleft]
        exact hone.conns k
      · rw [hleft]
        exact hone.listener
      · obtain ⟨segs, hm, hfin⟩ := hone.fins hrelay k hused he hk
        rw [List.mem_singleton] at hm
        exact ⟨segs, by rw [hm]; exact List.mem_cons_self, hfin⟩
    | false =>
      obtain ⟨howned, hrel⟩ := close_keeps h hu
      have hd' : (S.close i fd).1.vtcp.DistinctFds := by
        rw [close_vtcp h.alive, h.owns]
        exact VTcp.distinctFds_close hd
      have hrest := closeAll_clears rest howned hd' (List.nodup_cons.1 hnd).2
        (fun hm hpos => hctl (List.mem_cons_of_mem _ hm) hpos)
      rw [reached_cons h hd hnd hu]
      exact hone.trans hrest hrel

/-! ## Complete teardown -/

theorem close_conns_of_ne {S : Service} {fd : Int} {k : Fin maxVTcpConns} (hne : (S.vtcp.conns k).fd ≠ fd) :
    (S.close i fd).1.vtcp.conns k = S.vtcp.conns k := by
  cases hs : S.instance? i with
  | none => rw [close, hs]
  | some s => rw [close_vtcp hs, VTcp.close_conns, if_neg (fun h => hne (VTcp.apply_of_find h).2)]

theorem closeAll_conns_of_not_mem {f : Int} {k : Fin maxVTcpConns} : ∀ (order : List Int) {S : Service}, f ∉ order →
    (S.vtcp.conns k).fd = f → (closeAll i S order).1.vtcp.conns k = S.vtcp.conns k
  | [], _, _, _ => rfl
  | fd :: rest, S, hnot, hf => by
    have hsame : (S.close i fd).1.vtcp.conns k = S.vtcp.conns k :=
      close_conns_of_ne (fun he => hnot (by rw [← hf, he]; exact List.mem_cons_self))
    rw [closeAll, closeAll_conns_of_not_mem rest (fun hm => hnot (List.mem_cons_of_mem _ hm)) (by rw [hsame]; exact hf), hsame]

/-- **Of two used connections with one descriptor, one outlives its `Close`.** -/
theorem closeAll_twin (f : Int) {j k : Fin maxVTcpConns} (hjk : j ≠ k) : ∀ (order : List Int) {S : Service}, order.Nodup →
    (S.vtcp.conns j).used = true → (S.vtcp.conns j).fd = f → (S.vtcp.conns k).used = true → (S.vtcp.conns k).fd = f →
    ∃ m, ((closeAll i S order).1.vtcp.conns m).used = true
  | [], S, _, hj, _, _, _ => ⟨j, hj⟩
  | fd :: rest, S, hnd, hj, hjf, hk, hkf => by
    obtain ⟨hnot, hnd'⟩ := List.nodup_cons.1 hnd
    by_cases he : fd = f
    · -- one of the two is not what the look-up finds
      subst he
      have hout : ∀ m, (S.vtcp.conns m).used = true → (S.vtcp.conns m).fd = fd →
          (S.close i fd).1.vtcp.conns m = S.vtcp.conns m → ∃ m, ((closeAll i S (fd :: rest)).1.vtcp.conns m).used = true :=
        fun m hu hf hsame => ⟨m, by
          rw [closeAll, closeAll_conns_of_not_mem rest hnot (by rw [hsame]; exact hf), hsame]
          exact hu⟩
      cases hs : S.instance? i with
      | none => exact hout j hj hjf (by rw [close, hs])
      | some s =>
        by_cases hfind : S.vtcp.findVTcpConnByFd (S.owns i) fd = some j
        · refine hout k hk hkf ?_
          rw [close_vtcp hs, VTcp.close_conns, if_neg]
          rw [hfind]
          exact fun h => hjk (Option.some.inj h)
        · refine hout j hj hjf ?_
          rw [close_vtcp hs, VTcp.close_conns, if_neg hfind]
    · have hsame : ∀ m, (S.vtcp.conns m).fd = f → (S.close i fd).1.vtcp.conns m = S.vtcp.conns m := fun m hm =>
        close_conns_of_ne (fun h => he (h.symm.trans hm))
      rw [closeAll]
      have hj' := hsame j hjf
      have hk' := hsame k hkf
      exact closeAll_twin f hjk rest hnd' (by rw [hj']; exact hj) (by rw [hj']; exact hjf) (by rw [hk']; exact hk)
        (by rw [hk']; exact hkf)

/-- Closing the descriptors in this order leaves nothing: no connection, no listener, every established connection with its
FIN sent, and no descriptor that is routed into a connection. -/
structure TornDown (S : Service) (i : Nat) (order : List Int) : Prop where
  conns : ∀ k, ((closeAll i S order).1.vtcp.conns k).used = false
  listener : (closeAll i S order).1.vtcp.tcpListenFd = -1
  fins : ∀ k, (S.vtcp.conns k).used = true → (S.vtcp.conns k).established = true →
    FinSent (closeAll i S order).2 (S.vtcp.conns k)
  unrouted : ∀ own fd, (closeAll i S order).1.vtcp.findVTcpConnByFd own fd = none

/-- No two used connections share a descriptor, no connection and no listener is closed after the control socket, and a
relay is there for the FINs. -/
structure Orderly (S : Service) (i : Nat) (s : Instance) (order : List Int) : Prop where
  distinct : S.vtcp.DistinctFds
  conns : ∀ k, (S.vtcp.conns k).used = true → (S.vtcp.conns k).fd ∈ reached s.bridgedFd (S.releases i s) order
  listener : S.vtcp.tcpListenFd = -1 ∨ S.vtcp.tcpListenFd ∈ reached s.bridgedFd (S.releases i s) order
  relay : ∀ k, (S.vtcp.conns k).used = true → (S.vtcp.conns k).established = true → S.relay.connected = true

section Teardown

variable {S : Service} {s : Instance} {order : List Int}

theorem tornDown_of_orderly (h : S.Owned i s) (hnd : order.Nodup)
    (hctl : s.bridgedFd ∈ order → 0 ≤ s.bridgedFd → s.bridgedLocalPort = ldnControlPort) (ho : S.Orderly i s order) :
    S.TornDown i order := by
  obtain ⟨hc, hl, hf⟩ := closeAll_clears order h ho.distinct hnd hctl
  have hnone : ∀ k, ((closeAll i S order).1.vtcp.conns k).used = false := fun k => by
    rw [hc k]
    by_cases hu : (S.vtcp.conns k).used = true
    · rw [if_pos ⟨hu, ho.conns k hu⟩]
    · rw [if_neg (fun hk => hu hk.1)]
      simpa using hu
  refine ⟨hnone, ?_, fun k hu he => hf (ho.relay k hu he) k hu he (ho.conns k hu), fun own fd => ?_⟩
  · rw [hl]
    split
    · rfl
    · rename_i hout
      exact ho.listener.resolve_right hout
  · cases hfind : (closeAll i S order).1.vtcp.findVTcpConnByFd own fd with
    | none => rfl
    | some k =>
      have := (VTcp.apply_of_find hfind).1
      rw [hnone k] at this
      cases this

theorem orderly_of_tornDown (h : S.Owned i s) (hnd : order.Nodup)
    (hctl : s.bridgedFd ∈ order → 0 ≤ s.bridgedFd → s.bridgedLocalPort = ldnControlPort) (ht : S.TornDown i order) :
    S.Orderly i s order := by
  have hd : S.vtcp.DistinctFds := fun j k hj hk he => by
    by_contra hjk
    obtain ⟨m, hm⟩ := closeAll_twin (i := i) _ hjk order hnd hj he hk rfl
    rw [ht.conns m] at hm
    cases hm
  obtain ⟨hc, hl, -⟩ := closeAll_clears order h hd hnd hctl
  refine ⟨hd, fun k hu => ?_, ?_, fun k hu he => ?_⟩
  · by_contra hout
    have hleft := ht.conns k
    rw [hc k, if_neg (fun hk => hout hk.2), hu] at hleft
    cases hleft
  · by_cases hin : S.vtcp.tcpListenFd ∈ reached s.bridgedFd (S.releases i s) order
    · exact Or.inr hin
    · have hleft := ht.listener
      rw [hl, if_neg hin] at hleft
      exact Or.inl hleft
  · by_contra hno
    obtain ⟨segs, hm, g, hg, -⟩ := ht.fins k hu he
    have hnil : segs = [] := closeAll_disconnected order (by simpa using hno) _ hm
    rw [hnil] at hg
    cases hg

/-- **The teardown is complete exactly when the order is orderly**, in every state the instance owns and for every order of
its closes; a bridged socket among them is a control socket. -/
theorem tornDown_iff (h : S.Owned i s) (hnd : order.Nodup)
    (hctl : s.bridgedFd ∈ order → 0 ≤ s.bridgedFd → s.bridgedLocalPort = ldnControlPort) :
    S.TornDown i order ↔ S.Orderly i s order :=
  ⟨orderly_of_tornDown h hnd hctl, tornDown_of_orderly h hnd hctl⟩

end Teardown

end Sequence

/-- A station in a session: its control socket is 3, its connection to the host is 4. -/
def stationSession : List Op :=
  [.create, .socket 0 SOCK_DGRAM 3, .bind 0 3 ldnControlPort 0x0A0D0001 true, .socket 0 SOCK_STREAM 4,
    .connect 0 4 0x0A0D0002 ldnControlPort 100 true,
    .drainSegment 0 ⟨0x0A0D0002, ldnControlPort, ldnControlPort, 500, 101, TCP_SYN ||| TCP_ACK, []⟩]

theorem stationSession_owned : ∃ s, (run {} stationSession).Owned 0 s ∧ s.bridgedFd = 3 ∧
    s.bridgedLocalPort = ldnControlPort := by
  have hact : (run {} stationSession).activeLdnInstance = some 0 := by decide +kernel
  have hinst : ((run {} stationSession).instance? 0).any (fun s => s.bridgedFd == 3 && s.bridgedLocalPort == ldnControlPort) =
      true := by decide +kernel
  obtain ⟨s, hs, h⟩ := (Option.any_eq_true _ _).1 hinst
  simp only [Bool.and_eq_true, beq_iff_eq] at h
  exact ⟨s, ⟨hact, hs⟩, h⟩

theorem tornDown_iff_station : ∃ s, (run {} stationSession).Owned 0 s ∧ s.bridgedFd = 3 ∧
    ((run {} stationSession).TornDown 0 [4, 3] ↔ (run {} stationSession).Orderly 0 s [4, 3]) := by
  obtain ⟨s, hs, hfd, hport⟩ := stationSession_owned
  exact ⟨s, hs, hfd, tornDown_iff hs (by decide) (fun _ _ => hport)⟩

/-- **The control socket closed first leaves the connection in the table**, and its descriptor is found in it again. -/
theorem control_socket_first : ∃ S s, Reachable (fun _ _ => True) S ∧ S.Owned 0 s ∧ s.bridgedFd = 3 ∧
    s.bridgedLocalPort = ldnControlPort ∧ S.vtcp.tcpListenFd = -1 ∧
    (∀ k, (S.vtcp.conns k).used = true → (S.vtcp.conns k).fd ∈ [3, 4]) ∧ ¬ S.TornDown 0 [3, 4] ∧
    ((closeAll 0 S [3, 4]).1.vtcp.findVTcpConnByFd true 4).isSome = true := by
  have hfds : ∀ k, ((run {} stationSession).vtcp.conns k).used = true →
      ((run {} stationSession).vtcp.conns k).fd ∈ [3, 4] := by decide +kernel
  have hleft : ((closeAll 0 (run {} stationSession) [3, 4]).1.vtcp.conns ⟨0, by decide⟩).used = true := by
    decide +kernel
  obtain ⟨s, hs, hfd, hport⟩ := stationSession_owned
  refine ⟨run {} stationSession, s, reachable_run stationSession .init (by decide +kernel), hs, hfd, hport,
    by decide +kernel, hfds, fun h => ?_, by decide +kernel⟩
  rw [h.conns ⟨0, by decide⟩] at hleft
  cases hleft

end Service
end Slp
