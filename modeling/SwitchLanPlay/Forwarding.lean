import SwitchLanPlay.Commands
import SwitchLanPlay.VTcpCalls
/-!
# Forwarding — which requests on a synthetic descriptor reach the real service

The descriptor of an accepted connection is one the real service never allocated.  `SendTo`, `RecvFrom`, `Close`, a
well-shaped `Poll` and the read set of a well-shaped `Select` keep it back; every other command that takes a descriptor
forwards it, and so do the write and the error set of `Select` (`withheld_iff`).
-/
namespace Slp

open Wire

namespace Command

/-- The descriptor of a command that takes one. -/
def fd? : Command → Option Int
  | .recv fd _ _ | .recvFrom fd _ _ _ | .send fd _ _ | .sendTo fd _ _ _ | .accept fd _ | .bind fd _ | .connect fd _
  | .getPeerName fd _ | .getSockName fd _ | .getSockOpt fd _ _ _ | .listen fd _ | .ioctl fd _ _ _ _ | .fcntl fd _ _
  | .setSockOpt fd _ _ _ | .shutdown fd _ | .write fd _ | .read fd _ | .close fd | .duplicateSocket fd _
  | .recvMMsg fd _ _ _ _ | .sendMMsg fd _ _ _ => some fd
  | _ => none

/-- The request names the descriptor. -/
def names (fd : Int) : Command → Bool
  | .poll fds _ nfds _ => (fds.take nfds.toNat).any (fun p => p.fd == fd)
  | .select nfds _ readIn writeIn errorIn _ _ _ =>
    decide (0 ≤ fd) && decide (fd < nfds) && (readIn.mem fd.toNat || writeIn.mem fd.toNat || errorIn.mem fd.toNat)
  | c => c.fd? == some fd

theorem names_eq_false_iff {c : Command} {fd fd' : Int} (h : c.fd? = some fd') : c.names fd = false ↔ fd' ≠ fd := by
  have hnames : c.names fd = (c.fd? == some fd) := by
    cases c with
    | poll => cases h
    | select => cases h
    | _ => rfl
  rw [hnames, h]
  simp

end Command

/-! ## What a drain keeps -/

/-- A change that leaves the owner, the listener and the descriptors of the connections alone. -/
structure SameFds (S S' : Service) : Prop where
  activeLdnInstance : S'.activeLdnInstance = S.activeLdnInstance
  tcpListenFd : S'.vtcp.tcpListenFd = S.vtcp.tcpListenFd
  used : ∀ k, (S'.vtcp.conns k).used = (S.vtcp.conns k).used
  fd : ∀ k, (S'.vtcp.conns k).fd = (S.vtcp.conns k).fd

theorem SameFds.refl (S : Service) : SameFds S S := ⟨rfl, rfl, fun _ => rfl, fun _ => rfl⟩

theorem SameFds.trans {S S' S'' : Service} (h : SameFds S S') (h' : SameFds S' S'') : SameFds S S'' where
  activeLdnInstance := h'.activeLdnInstance.trans h.activeLdnInstance
  tcpListenFd := h'.tcpListenFd.trans h.tcpListenFd
  used k := (h'.used k).trans (h.used k)
  fd k := (h'.fd k).trans (h.fd k)

theorem VTcp.Handled.used_fd {t : VTcp} {localIp ourIsn : UInt32} {m : TcpSegment} {r : VTcp × List Segment}
    (h : t.Handled localIp ourIsn m r) (j : Fin maxVTcpConns) :
    (r.1.conns j).used = (t.conns j).used ∧ (r.1.conns j).fd = (t.conns j).fd := by
  cases h with
  | dropped => exact ⟨rfl, rfl⟩
  | requested k => exact ⟨rfl, rfl⟩
  | acknowledged k => exact ⟨rfl, rfl⟩
  | received k hk =>
    by_cases hjk : j = k
    · subst hjk
      have hsame := (t.conns j).receive_sameKeys localIp m
      simpa [VTcp.setConn] using And.intro hsame.used hsame.fd
    · simp [VTcp.setConn, hjk]

theorem drainSegment_sameFds (S : Service) (ourIsn : UInt32) (m : TcpSegment) :
    SameFds S (S.drainSegment ourIsn m).1 := by
  unfold Service.drainSegment
  split
  · exact .refl S
  · have h := S.vtcp.handleTcpSegment_cases S.lastBridgedLocalIp ourIsn m
    exact ⟨rfl, h.actsForPeer.tcpListenFd, fun k => (h.used_fd k).1, fun k => (h.used_fd k).2⟩

theorem drainRetransmits_sameFds (S : Service) (now : UInt64) : SameFds S (S.drainRetransmits now).1 := by
  unfold Service.drainRetransmits
  split
  · exact .refl S
  · constructor
    · rfl
    · rfl
    · exact fun k => (VTcpConn.checkDataRetransmit_sameKeys _ _ now).used
    · exact fun k => (VTcpConn.checkDataRetransmit_sameKeys _ _ now).fd

namespace Console

theorem drainPacket_sameFds (C : Console) (ourIsn : UInt32) (pkt : Bytes) :
    SameFds C.service (C.drainPacket ourIsn pkt).1.service := by
  unfold drainPacket
  split
  · exact .refl _
  dsimp only
  split
  · exact .refl _
  split
  · exact .refl _
  split
  · exact .refl _
  · exact drainSegment_sameFds _ _ _

theorem drainPackets_sameFds : ∀ (popped : List (UInt32 × Bytes)) (C : Console),
    SameFds C.service (C.drainPackets popped).1.service
  | [], C => .refl C.service
  | (ourIsn, pkt) :: rest, C => (C.drainPacket_sameFds ourIsn pkt).trans (drainPackets_sameFds rest _)

theorem drain_sameFds (C : Console) (d : Drained) : SameFds C.service (C.drainRawRelayQueue d).1.service :=
  (drainRetransmits_sameFds C.service d.now).trans
    (drainPackets_sameFds d.popped { C with service := (C.service.drainRetransmits d.now).1 })

/-! ## Synthetic descriptors -/

end Console

namespace Service

theorem findVTcpConnByFd_congr {S S' : Service} (h : SameFds S S') (i : Nat) (fd : Int) :
    S'.vtcp.findVTcpConnByFd (S'.owns i) fd = S.vtcp.findVTcpConnByFd (S.owns i) fd := by
  have hfirst : SlotTable.first (fun c => c.used && c.fd == fd) S'.vtcp.conns =
      SlotTable.first (fun c => c.used && c.fd == fd) S.vtcp.conns :=
    SlotTable.first_congr (fun k => by rw [h.used, h.fd])
  unfold VTcp.findVTcpConnByFd owns
  rw [h.activeLdnInstance, hfirst]

theorem isSynthetic_congr {S S' : Service} (h : SameFds S S') (i : Nat) (fd : Int) :
    S'.isSynthetic i fd = S.isSynthetic i fd := by
  have hfd : (fun k => decide (1000 ≤ (S'.vtcp.conns k).fd)) = fun k => decide (1000 ≤ (S.vtcp.conns k).fd) := by
    funext k
    rw [h.fd]
  unfold isSynthetic
  rw [findVTcpConnByFd_congr h, hfd]

/-- The descriptors `Accept` has handed out. -/
def HandedOut (S : Service) (fd : Int) : Prop := 1000 ≤ fd ∧ fd < S.vtcp.nextSyntheticFd

/-- The owner has an accepted connection in use under this descriptor. -/
structure Accepted (S : Service) (i : Nat) (fd : Int) : Prop where
  owns : S.owns i = true
  used : ∃ k, (S.vtcp.conns k).used = true ∧ (S.vtcp.conns k).fd = fd
  handedOut : S.HandedOut fd

theorem Accepted.find {S : Service} {i : Nat} {fd : Int} (h : S.Accepted i fd) :
    ∃ k, S.vtcp.findVTcpConnByFd (S.owns i) fd = some k ∧ (S.vtcp.conns k).fd = fd := by
  obtain ⟨k, hu, hk⟩ := h.used
  obtain ⟨j, hj⟩ := SlotTable.first_ne_none (p := fun c : VTcpConn => c.used && c.fd == fd) (t := S.vtcp.conns) (k := k)
    (by simp [hu, hk])
  refine ⟨j, ?_, ?_⟩
  · rw [h.owns]
    exact hj
  · have := SlotTable.apply_of_first hj
    simp only [Bool.and_eq_true, beq_iff_eq] at this
    exact this.2

theorem Accepted.isSynthetic {S : Service} {i : Nat} {fd : Int} (h : S.Accepted i fd) : S.isSynthetic i fd = true := by
  obtain ⟨k, hk, hfd⟩ := h.find
  rw [Service.isSynthetic, hk, Option.any_some, hfd]
  exact decide_eq_true h.handedOut.1

end Service

namespace Console

/-- The command's handler keeps the synthetic descriptor back. -/
def Withheld (C : Console) (s : Instance) (fd : Int) : Command → Prop
  | .sendTo _ _ _ _ | .recvFrom _ _ _ _ | .close _ => True
  | .accept fd' _ => fd' ≠ fd ∨ C.service.vtcp.tcpListenFd = fd
  | .connect fd' addr => fd' ≠ fd ∨ connectsVirtually s fd' addr = true
  | .poll fds fdsOut nfds timeout =>
    pollWellShaped fds fdsOut nfds = true ∨ (Command.poll fds fdsOut nfds timeout).names fd = false
  | .select nfds timeout readIn writeIn errorIn readOut writeOut errorOut =>
    (Command.select nfds timeout (if selectWellShaped nfds readIn readOut then {} else readIn) writeIn errorIn
      readOut writeOut errorOut).names fd = false
  | c => c.names fd = false

/-- No forwarded request names the descriptor. -/
def KeptBack (fd : Int) (o : Outcome) : Prop := ∀ r ∈ o.requests, r.names fd = false

theorem keptBack_nil {fd : Int} {o : Outcome} (h : o.requests = []) : KeptBack fd o := fun r hr => by
  rw [h] at hr
  cases hr

theorem keptBack_singleton {fd : Int} {o : Outcome} {c : Command} (h : o.requests = [c]) :
    KeptBack fd o ↔ c.names fd = false := by
  unfold KeptBack
  rw [h]
  simp

section Handlers

variable {C : Console} {i : Nat} {s : Instance} {fd : Int} (h : C.service.Accepted i fd) (env : Env)

include h

theorem keptBack_sendTo (fd' flags : Int) (buffer addr : Bytes) : KeptBack fd (C.sendTo i s env fd' flags buffer addr) := by
  unfold sendTo
  split
  · exact keptBack_nil rfl
  · rename_i hnone
    split
    · unfold sendToRelay
      dsimp only
      split
      · exact keptBack_nil rfl
      · split <;> exact keptBack_nil rfl
    · refine (keptBack_singleton rfl).2 ?_
      apply (Command.names_eq_false_iff rfl).2
      intro he
      obtain ⟨k, hk, -⟩ := h.find
      rw [← he, hnone] at hk
      cases hk

theorem keptBack_recvFrom (fd' flags : Int) (buffer addrOut : Nat) :
    KeptBack fd (C.recvFrom i s env fd' flags buffer addrOut) := by
  unfold recvFrom
  dsimp only
  rw [Service.findVTcpConnByFd_congr (C.drain_sameFds env.drained)]
  split
  · exact keptBack_nil rfl
  · rename_i hnone
    split
    · exact keptBack_nil rfl
    · refine (keptBack_singleton rfl).2 ?_
      apply (Command.names_eq_false_iff rfl).2
      intro he
      obtain ⟨k, hk, -⟩ := h.find
      rw [← he, hnone] at hk
      cases hk

theorem keptBack_close (fd' : Int) : KeptBack fd (C.close i env fd') := by
  unfold close
  dsimp only
  split
  · exact keptBack_nil rfl
  · rename_i hnot
    refine (keptBack_singleton rfl).2 ?_
    apply (Command.names_eq_false_iff rfl).2
    intro he
    rw [he] at hnot
    exact hnot h.isSynthetic

theorem keptBack_accept (fd' : Int) (addrOut : Nat) :
    KeptBack fd (C.accept i env fd' addrOut) ↔ fd' ≠ fd ∨ C.service.vtcp.tcpListenFd = fd := by
  unfold accept
  split
  · rename_i hown
    refine iff_of_true (keptBack_nil rfl) ?_
    rw [VTcp.isOwnTcpListenFd, h.owns, Bool.true_and, beq_iff_eq] at hown
    rw [← hown]
    exact (ne_or_eq fd' fd)
  · rename_i hown
    rw [keptBack_singleton (o := env.forward C (.accept fd' addrOut)) rfl, Command.names_eq_false_iff rfl]
    rw [VTcp.isOwnTcpListenFd, h.owns, Bool.true_and, beq_iff_eq] at hown
    constructor
    · exact Or.inl
    · rintro (hne | hl)
      · exact hne
      · exact fun he => hown (he.trans hl.symm)

omit h in
theorem requests_connectVirtual (fd' : Int) (dstIp : UInt32) (dstPort : UInt16) :
    (C.connectVirtual i s env fd' dstIp dstPort).requests = [] := by
  unfold connectVirtual
  dsimp only
  split
  · rfl
  split
  · rfl
  · split <;> rfl

omit h in
theorem keptBack_connect (fd' : Int) (addr : Bytes) :
    KeptBack fd (C.connect i s env fd' addr) ↔ fd' ≠ fd ∨ connectsVirtually s fd' addr = true := by
  unfold connect
  dsimp only
  by_cases hv : connectsVirtually s fd' addr = true
  · rw [if_pos hv]
    exact iff_of_true (keptBack_nil (requests_connectVirtual env fd' _ _)) (Or.inr hv)
  · rw [if_neg hv, keptBack_singleton (o := env.forward C (.connect fd' addr)) rfl]
    rw [Command.names_eq_false_iff rfl]
    simp [hv]

theorem keptBack_poll (fds : List PollFd) (fdsOut : Nat) (nfds timeout : Int) :
    KeptBack fd (C.poll i s env fds fdsOut nfds timeout) ↔
      pollWellShaped fds fdsOut nfds = true ∨ (Command.poll fds fdsOut nfds timeout).names fd = false := by
  have hsyn := Service.isSynthetic_congr (C.drain_sameFds env.drained) i fd
  rw [h.isSynthetic] at hsyn
  unfold poll
  dsimp only
  generalize (C.drainRawRelayQueue env.drained).1 = C' at hsyn
  generalize (C.drainRawRelayQueue env.drained).2 = segs
  by_cases hw : pollWellShaped fds fdsOut nfds = true
  · refine iff_of_true ?_ (Or.inl hw)
    rw [if_neg (by simp [hw])]
    split
    · exact keptBack_nil rfl
    · refine (keptBack_singleton rfl).2 ?_
      -- every entry left after the split is one of the real service's
      simp only [pollRequest, Command.names, List.any_eq_false, beq_iff_eq]
      intro p hp he
      have hreal := (List.mem_filter.1 (List.mem_of_mem_take hp)).2
      rw [he, hsyn] at hreal
      cases hreal
  · rw [if_pos (by simp [hw]), keptBack_singleton (c := .poll fds fdsOut nfds timeout) rfl]
    simp [hw]

theorem keptBack_select (nfds : Int) (timeout : SelectTimeval) (readIn writeIn errorIn : FdSet)
    (readOut writeOut errorOut : Nat) :
    KeptBack fd (C.select i s env nfds timeout readIn writeIn errorIn readOut writeOut errorOut) ↔
      (Command.select nfds timeout (if selectWellShaped nfds readIn readOut then {} else readIn) writeIn errorIn
        readOut writeOut errorOut).names fd = false := by
  have hsyn := Service.isSynthetic_congr (C.drain_sameFds env.drained) i fd
  rw [h.isSynthetic] at hsyn
  unfold select
  dsimp only
  generalize (C.drainRawRelayQueue env.drained).1 = C' at hsyn
  generalize (C.drainRawRelayQueue env.drained).2 = segs
  by_cases hw : selectWellShaped nfds readIn readOut = true
  · rw [if_neg (by simp [hw]), if_pos hw,
      keptBack_singleton (c := C'.selectRequest i s nfds timeout readIn writeIn errorIn readOut writeOut errorOut) rfl]
    -- the forwarded read set answers for the descriptor as the empty one does
    by_cases hin : 0 ≤ fd ∧ fd < nfds
    · have hcast : ((fd.toNat : Nat) : Int) = fd := Int.toNat_of_nonneg hin.1
      simp [selectRequest, forwardReadfds, Command.names, FdSet.mem, hcast, hin.1, hin.2, hsyn]
    · have hout : (decide (0 ≤ fd) && decide (fd < nfds)) = false := by simpa using hin
      simp [selectRequest, Command.names, hout]
  · rw [if_pos (by simp [hw]), if_neg hw,
      keptBack_singleton (c := .select nfds timeout readIn writeIn errorIn readOut writeOut errorOut) rfl]

end Handlers

/-- **Exactly the withheld commands of the owner keep a synthetic descriptor from the real service**, in every state. -/
theorem withheld_iff {C : Console} {i : Nat} {s : Instance} {fd : Int} (hs : C.service.instance? i = some s)
    (h : C.service.Accepted i fd) (env : Env) (c : Command) :
    (∀ r ∈ (C.command i env c).requests, r.names fd = false) ↔ C.Withheld s fd c := by
  unfold command
  rw [hs]
  cases c with
  | sendTo fd' flags buffer addr => exact iff_of_true (keptBack_sendTo h env fd' flags buffer addr) trivial
  | recvFrom fd' flags buffer addrOut => exact iff_of_true (keptBack_recvFrom h env fd' flags buffer addrOut) trivial
  | close fd' => exact iff_of_true (keptBack_close h env fd') trivial
  | accept fd' addrOut => exact keptBack_accept h env fd' addrOut
  | connect fd' addr => exact keptBack_connect env fd' addr
  | poll fds fdsOut nfds timeout => exact keptBack_poll h env fds fdsOut nfds timeout
  | select nfds timeout readIn writeIn errorIn readOut writeOut errorOut =>
    exact keptBack_select h env nfds timeout readIn writeIn errorIn readOut writeOut errorOut
  | bind fd' addr =>
    show KeptBack fd (C.bind i s env fd' addr) ↔ (Command.bind fd' addr).names fd = false
    unfold bind
    dsimp only
    split
    · exact keptBack_singleton rfl
    · -- the second request is on the same descriptor
      unfold KeptBack
      dsimp only
      split
      · simp [Command.names, Command.fd?]
      · simp [Command.names, Command.fd?]
  | _ => exact keptBack_singleton rfl

end Console

/-! ## What `Accept` hands out -/

namespace VTcp

theorem nextSyntheticFd_step (t : VTcp) (localIp : UInt32) (op : Op) :
    t.nextSyntheticFd ≤ (t.step localIp op).1.nextSyntheticFd := by
  cases op with
  | segment ourIsn m => exact le_of_eq (t.handleTcpSegment_cases localIp ourIsn m).nextSyntheticFd.symm
  | checkDataRetransmits now => exact le_refl _
  | sendTo fd relay buf =>
    show _ ≤ (t.sendToStep localIp fd relay buf).1.nextSyntheticFd
    unfold sendToStep
    split <;> exact le_refl _
  | recvFrom fd bufSize addrSize =>
    show _ ≤ (t.recvFromStep fd bufSize addrSize).1.nextSyntheticFd
    unfold recvFromStep
    split <;> exact le_refl _
  | listen fd => exact le_refl _
  | accept =>
    show _ ≤ ((t.accept true).elim t (·.1)).nextSyntheticFd
    unfold accept
    split
    · show t.nextSyntheticFd ≤ t.nextSyntheticFd + 1
      omega
    · exact le_refl _
  | connect fd dstIp dstPort ourIsn =>
    cases hk : t.allocVTcpConn true with
    | none => rw [step_connect_of_none localIp fd dstIp dstPort ourIsn hk]
    | some k =>
      rw [step_connect_of_some localIp fd dstIp dstPort ourIsn hk]
      exact le_refl _
  | connectTimedOut fd =>
    show _ ≤ (t.connectTimedOut true fd).nextSyntheticFd
    unfold connectTimedOut
    split <;> exact le_refl _
  | close fd =>
    show _ ≤ (t.close true localIp fd).1.nextSyntheticFd
    unfold close onConn
    dsimp only
    split <;> exact le_refl _

end VTcp

namespace Service

theorem nextSyntheticFd_service_step (S : Service) (op : Op) :
    S.vtcp.nextSyntheticFd ≤ (S.step op).1.vtcp.nextSyntheticFd := by
  rw [vtcp_step]
  cases S.vtcpCall op with
  | none => exact le_refl _
  | some c => exact S.vtcp.nextSyntheticFd_step c.1 c.2

theorem nextSyntheticFd_ge {ok : Service → Op → Prop} {S : Service} (h : Reachable ok S) :
    1000 ≤ S.vtcp.nextSyntheticFd := by
  induction h with
  | init => exact le_refl _
  | step _ op hok ih => exact le_trans ih (nextSyntheticFd_service_step _ op)

/-- **What `Accept` returns has been handed out**, in every state of every run. -/
theorem handedOut_accept {ok : Service → Op → Prop} {S : Service} (h : Reachable ok S) {own : Bool} {t : VTcp} {fd : Int}
    (hacc : S.vtcp.accept own = some (t, fd)) : HandedOut { S with vtcp := t } fd := by
  have hge := nextSyntheticFd_ge h
  unfold VTcp.accept at hacc
  split at hacc
  · cases hacc
    refine ⟨hge, ?_⟩
    show S.vtcp.nextSyntheticFd < S.vtcp.nextSyntheticFd + 1
    omega
  · cases hacc

theorem handedOut_step {S : Service} {fd : Int} (h : S.HandedOut fd) (op : Op) : (S.step op).1.HandedOut fd :=
  ⟨h.1, lt_of_lt_of_le h.2 (S.nextSyntheticFd_service_step op)⟩

end Service

/-! ## A `Recv` on an accepted connection -/

namespace Console

/-- A host that has accepted one station, as descriptor 1000. -/
def hostSession : List Service.Op :=
  [.create, .socket 0 SOCK_DGRAM 3, .bind 0 3 ldnControlPort 0x0A0D0001 true, .socket 0 SOCK_STREAM 4,
    .bind 0 4 ldnControlPort 0 true, .listen 0 4,
    .drainSegment 77 ⟨0x0A0D0002, ldnControlPort, ldnControlPort, 100, 0, TCP_SYN, []⟩,
    .drainSegment 0 ⟨0x0A0D0002, ldnControlPort, ldnControlPort, 101, 78, TCP_ACK, []⟩, .accept 0 4]

def acceptedHost : Console where
  service := Service.run {} hostSession

/-- An environment in which nothing is waiting: the real service answers 0 to everything. -/
def quietEnv : Env where
  real
    | .poll fds _ _ _ => { pollfds := fds.map (fun p => { p with revents := 0 }) }
    | _ => {}
  nifmIp := 0
  relayUp := true
  relayOk := true
  now := 0
  ourIsn := 0
  drained := ⟨0, []⟩
  waits _ := ⟨0, []⟩

theorem accepted_acceptedHost : acceptedHost.service.Accepted 0 1000 where
  owns := by decide +kernel
  used := ⟨⟨0, by decide⟩, by decide +kernel, by decide +kernel⟩
  handedOut := ⟨by decide, by decide +kernel⟩

theorem instance_acceptedHost : ∃ s, acceptedHost.service.instance? 0 = some s := by
  cases hs : acceptedHost.service.instance? 0 with
  | none => exact absurd (congrArg Option.isSome hs) (by decide +kernel)
  | some s => exact ⟨s, rfl⟩

theorem withheld_iff_close : ∃ s, (∀ r ∈ (acceptedHost.command 0 quietEnv (.close 1000)).requests, r.names 1000 = false) ↔
    acceptedHost.Withheld s 1000 (.close 1000) := by
  obtain ⟨s, hs⟩ := instance_acceptedHost
  exact ⟨s, withheld_iff hs accepted_acceptedHost quietEnv (.close 1000)⟩

/-- **`Recv` on an accepted connection asks the real service** for a descriptor it never allocated. -/
theorem recv_forwards_synthetic : Reached acceptedHost.service ∧ acceptedHost.service.Accepted 0 1000 ∧
    ∃ r ∈ (acceptedHost.command 0 quietEnv (.recv 1000 0 64)).requests, r.names 1000 = true := by
  refine ⟨Service.reachable_run _ .init (by decide +kernel), accepted_acceptedHost, .recv 1000 0 64, ?_, by decide⟩
  obtain ⟨s, hs⟩ := instance_acceptedHost
  rw [command, hs]
  exact List.mem_singleton_self _

end Console
end Slp
