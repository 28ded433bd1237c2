import SwitchLanPlay.BridgedSocket
import SwitchLanPlay.Forwarding
import SwitchLanPlay.Runs
import SwitchLanPlay.VTcpHalves
/-!
# Readiness — what a descriptor reported readable has to give

`VFdHasPendingRead` asks for the bridged socket first, then for the listener, then for the connections; `RecvFrom` asks for the
connections first, and `Accept` for the listener alone.  A report and what the next call finds agree exactly if the parts a
descriptor plays in two of the tables have data together, and a connection that waits for `Accept` has a free slot to go to
(`readinessAgrees_iff`).  The listener of a full table is reported readable, and `Accept` would block
(`full_host_reports_readable`).

Every packet in the control queue parses, as long as the packets popped are no longer than the relay queue's (`Parses`), which
those of `PopIpv4` are (`RelayBridge.length_popIpv4`): a `RecvFrom` that finds a packet returns it.
-/
namespace Slp

open Wire

/-! ## The packets of the control queue -/

/-- **A packet popped from the relay's queue is one of its entries.** -/
theorem RelayBridge.length_popIpv4 {b : RelayBridge} {outBufSize : Nat} {p : Bytes}
    (h : (b.popIpv4 outBufSize).2 = some p) : p.length ≤ packetCap := by
  unfold popIpv4 at h
  split at h
  · cases h
  · rename_i e he
    dsimp only at h
    split at h
    · cases h
    · cases h
      exact e.size_le

namespace ControlQueue

/-- Every packet filed is a UDP datagram. -/
def Parses (q : ControlQueue) : Prop := ∀ p ∈ q.packets, (parseIpv4Udp p.data.bytes).isSome = true

/-- A packet for the port waits. -/
def HasFor (q : ControlQueue) (port : UInt16) : Prop := ∃ p ∈ q.packets, p.dstPort = port

variable {q : ControlQueue}

/-- A packet of the relay's queue is filed whole. -/
theorem bytes_packetOf {pkt : Bytes} (h : pkt.length ≤ packetCap) (dstPort : UInt16) :
    (packetOf pkt dstPort).data.bytes = pkt := by
  have hcap : packetCap ≤ controlPacketCap := by decide
  exact List.take_of_length_le (h.trans hcap)

theorem parses_file (h : q.Parses) {pkt : Bytes} (hlen : pkt.length ≤ packetCap) : (q.file pkt).Parses := by
  unfold file
  cases hparse : parseIpv4Udp pkt with
  | none => exact h
  | some d =>
    dsimp only
    unfold push
    split
    · intro p hp
      rcases List.mem_append.1 hp with hp | hp
      · exact h p hp
      · rw [List.mem_singleton.1 hp, bytes_packetOf hlen, hparse]
        rfl
    · exact h

theorem recvFrom_of_not {port : UInt16} (h : ¬ q.HasFor port) (bufSize addrSize : Nat) :
    q.recvFrom port bufSize addrSize = (q, .wouldBlock) := by
  have hnone : popFirst (fun p : ControlPacket => p.dstPort == port) q.packets = none :=
    popFirst_eq_none_iff.2 (fun p hp => beq_eq_false_iff_ne.2 (fun he => h ⟨p, hp, he⟩))
  rw [recvFrom, pop_of_none hnone]

theorem parses_recvFrom (h : q.Parses) (port : UInt16) (bufSize addrSize : Nat) :
    (q.recvFrom port bufSize addrSize).1.Parses := by
  cases hpop : popFirst (fun p : ControlPacket => p.dstPort == port) q.packets with
  | none =>
    rw [recvFrom, pop_of_none hpop]
    exact h
  | some r =>
    obtain ⟨hle, hq⟩ := pop_of_some hpop
    have hkeep : (⟨r.2, hle⟩ : ControlQueue).Parses := fun p hp => h p ((mem_popFirst hpop).2.2 p hp)
    rw [recvFrom, hq]
    dsimp only
    split <;> exact hkeep

/-- **A read finds a packet exactly if one for its port waits.** -/
theorem recvFrom_errno_iff (h : q.Parses) (port : UInt16) (bufSize addrSize : Nat) :
    (q.recvFrom port bufSize addrSize).2.errno ≠ .EWOULDBLOCK ↔ q.HasFor port := by
  constructor
  · intro hne
    by_contra hno
    rw [recvFrom_of_not hno] at hne
    exact hne rfl
  · rintro ⟨p, hp, hport⟩
    cases hpop : popFirst (fun p : ControlPacket => p.dstPort == port) q.packets with
    | none =>
      have := popFirst_eq_none_iff.1 hpop p hp
      simp [hport] at this
    | some r =>
      obtain ⟨hle, hq⟩ := pop_of_some hpop
      obtain ⟨d, hd⟩ := Option.isSome_iff_exists.1 (h r.1 (mem_popFirst hpop).1)
      simp [recvFrom, hq, hd, RecvFromOut.delivered]

end ControlQueue

/-- Nothing in the batch is longer than an entry of the relay's queue. -/
def Drained.Fits (d : Drained) : Prop := ∀ p ∈ d.popped, p.2.length ≤ packetCap

namespace Console

/-- What an event pops came from the relay's queue. -/
def FromRelay (_ : Console) : Event → Prop
  | .command _ env _ => env.drained.Fits ∧ ∀ k, (env.waits k).Fits
  | .drain d => d.Fits
  | .other _ => True

section Parses

variable {C : Console}

/-- The packet a move drains is no longer than an entry of the relay's queue. -/
def Move.Fits : Move → Prop
  | .packet _ pkt => pkt.length ≤ packetCap
  | _ => True

theorem parses_drainPacket (h : C.controlQueue.Parses) (ourIsn : UInt32) {pkt : Bytes} (hlen : pkt.length ≤ packetCap) :
    (C.drainPacket ourIsn pkt).1.controlQueue.Parses := by
  unfold drainPacket
  split
  · exact h
  dsimp only
  split
  · exact ControlQueue.parses_file h hlen
  split
  · exact h
  split <;> exact h

theorem parses_move (h : C.controlQueue.Parses) : ∀ m : Move, m.Fits → (C.move m).controlQueue.Parses
  | .packet ourIsn _, hfits => parses_drainPacket h ourIsn hfits
  | .read port bufSize addrSize, _ => ControlQueue.parses_recvFrom h port bufSize addrSize
  | .step _, _ => h

/-- **Moves of packets from the relay's queue leave packets that parse.** -/
theorem parses_moves {ok : Move → Prop} (hfits : ∀ m, ok m → m.Fits) {C' : Console} (h : C.controlQueue.Parses)
    (hmoves : Moves ok C C') : C'.controlQueue.Parses :=
  hmoves.keeps (P := fun C => C.controlQueue.Parses) h (fun _ m hC hok => parses_move hC m (hfits m hok))

theorem parses_drain (h : C.controlQueue.Parses) {d : Drained} (hd : d.Fits) :
    (C.drainRawRelayQueue d).1.controlQueue.Parses :=
  parses_moves (fun _ hm => hm) h (moves_drain C ⟨trivial, hd⟩)

theorem parses_command (h : C.controlQueue.Parses) (i : Nat) {env : Env} (hd : env.drained.Fits)
    (hw : ∀ k, (env.waits k).Fits) (c : Command) : (C.command i env c).console.controlQueue.Parses := by
  refine parses_moves (fun m hm => ?_) h (moves_command C i env c)
  cases m with
  | packet ourIsn pkt =>
    rcases hm with hp | ⟨k, hp⟩
    · exact hd _ hp
    · exact hw k _ hp
  | read port bufSize addrSize => trivial
  | step op => trivial

/-- **In every run the packets filed are UDP datagrams.** -/
theorem parses_reachable (h : Runs.Reachable after FromRelay {} C) : C.controlQueue.Parses := by
  refine h.keeps (P := fun C => C.controlQueue.Parses) (fun p hp => by cases hp) (fun C e hC hok => ?_)
  cases e with
  | command j env c => exact parses_command hC j hok.1 hok.2 c
  | drain d => exact parses_drain hC hok
  | other op => exact hC

end Parses

/-! ## With no relay traffic -/

section Quiet

variable {C : Console} {d : Drained}

theorem quiet_drain (hd : d.popped = []) :
    (C.drainRawRelayQueue d).1 = { C with service := (C.service.drainRetransmits d.now).1 } := by
  unfold drainRawRelayQueue
  dsimp only
  rw [hd]
  rfl

theorem quiet_controlQueue (hd : d.popped = []) : (C.drainRawRelayQueue d).1.controlQueue = C.controlQueue := by
  rw [quiet_drain hd]

theorem quiet_pendingAccepts (hd : d.popped = []) :
    (C.drainRawRelayQueue d).1.service.vtcp.pendingAccepts = C.service.vtcp.pendingAccepts := by
  rw [quiet_drain hd]
  unfold Service.drainRetransmits
  split <;> rfl

/-- What a connection has for its reader stays. -/
theorem quiet_sameReader (hd : d.popped = []) (k : Fin maxVTcpConns) :
    VTcpConn.SameReader (C.service.vtcp.conns k) ((C.drainRawRelayQueue d).1.service.vtcp.conns k) := by
  rw [quiet_drain hd]
  unfold Service.drainRetransmits
  split
  · exact ⟨rfl, rfl, rfl, rfl, rfl⟩
  · exact Endpoint.sameReader_checkDataRetransmit (C.service.vtcp.conns k) C.service.lastBridgedLocalIp d.now

end Quiet

/-! ## Report and call -/

section Agree

variable (C : Console) (i : Nat) (s : Instance) (fd : Int)

/-- `RecvFrom` on a connection has bytes or the end of the stream to return. -/
def ConnReady (k : Fin maxVTcpConns) : Prop :=
  0 < (C.service.vtcp.conns k).inbox.size ∨ (C.service.vtcp.conns k).peerClosed = true

/-- A completed handshake waits for `Accept`. -/
def Acknowledged : Prop :=
  ∃ p, (C.service.vtcp.pendingAccepts p).used = true ∧ (C.service.vtcp.pendingAccepts p).gotFinalAck = true

/-- A slot is free for the connection `Accept` makes. -/
def HasFreeConn : Prop := ∃ k, (C.service.vtcp.conns k).used = false

def IsListener : Prop := 0 ≤ fd ∧ C.service.vtcp.isOwnTcpListenFd (C.service.owns i) fd = true

/-- A descriptor is reported readable exactly if the call for it, made next, would not block: `RecvFrom` on a connection or the
bridged socket, `Accept` on the listener. -/
structure ReadinessAgrees : Prop where
  recvFrom : ∀ (env : Env) (flags : Int) (buffer addrOut : Nat), env.drained.popped = [] → 0 < buffer →
    (C.service.vtcp.findVTcpConnByFd (C.service.owns i) fd).isSome = true ∨ s.isBridged fd = true →
    (C.vfdHasPendingRead i s fd = true ↔
      (C.command i env (.recvFrom fd flags buffer addrOut)).reply.err ≠ Errno.EWOULDBLOCK.code)
  accept : ∀ (env : Env) (addrOut : Nat), env.drained.popped = [] → C.IsListener i fd →
    (C.vfdHasPendingRead i s fd = true ↔
      (C.command i env (.accept fd addrOut)).reply.err ≠ Errno.EWOULDBLOCK.code)

/-- A connection under no real descriptor has nothing to read; one that is found under the bridged socket's or the listener's has
data when that has; and a completed handshake has a free slot to go to. -/
structure RolesAgree : Prop where
  conn_unset : ∀ k, C.service.vtcp.findVTcpConnByFd (C.service.owns i) fd = some k → fd < 0 → ¬ C.ConnReady k
  conn_bridged : ∀ k, C.service.vtcp.findVTcpConnByFd (C.service.owns i) fd = some k → s.isBridged fd = true →
    (C.controlQueue.HasFor s.bridgedLocalPort ↔ C.ConnReady k)
  conn_listener : ∀ k, C.service.vtcp.findVTcpConnByFd (C.service.owns i) fd = some k → s.isBridged fd = false →
    C.IsListener i fd → (C.Acknowledged ↔ C.ConnReady k)
  listener_bridged : C.IsListener i fd → s.isBridged fd = true →
    (C.controlQueue.HasFor s.bridgedLocalPort ↔ C.Acknowledged ∧ C.HasFreeConn)
  listener_slot : C.IsListener i fd → s.isBridged fd = false → C.Acknowledged → C.HasFreeConn

variable {C i s fd}

theorem isBridged_iff : s.isBridged fd = true ↔ 0 ≤ fd ∧ fd = s.bridgedFd := by
  rw [Instance.isBridged, Bool.and_eq_true, decide_eq_true_iff, beq_iff_eq]

theorem first_acknowledged :
    (SlotTable.first (fun p => p.used && p.gotFinalAck) C.service.vtcp.pendingAccepts).isSome = true ↔ C.Acknowledged := by
  rw [Option.isSome_iff_exists]
  constructor
  · rintro ⟨p, hp⟩
    exact ⟨p, by simpa using SlotTable.apply_of_first hp⟩
  · rintro ⟨p, hp⟩
    exact SlotTable.first_ne_none (p := fun p : PendingAccept => p.used && p.gotFinalAck) (k := p) (by simp [hp])

theorem alloc_isSome (hown : C.service.owns i = true) :
    (C.service.vtcp.allocVTcpConn (C.service.owns i)).isSome = true ↔ C.HasFreeConn := by
  rw [VTcp.allocVTcpConn, if_pos hown, Option.isSome_iff_exists]
  constructor
  · rintro ⟨k, hk⟩
    exact ⟨k, by simpa using SlotTable.apply_of_first hk⟩
  · rintro ⟨k, hk⟩
    exact SlotTable.first_ne_none (p := fun c : VTcpConn => !c.used) (k := k) (by simp [hk])

/-- **The report on the bridged socket** is that of the control queue. -/
theorem pending_bridged (hb : s.isBridged fd = true) :
    C.vfdHasPendingRead i s fd = true ↔ C.controlQueue.HasFor s.bridgedLocalPort := by
  obtain ⟨hpos, hfd⟩ := isBridged_iff.1 hb
  rw [vfdHasPendingRead, if_neg (not_lt.2 hpos), if_pos hfd, Instance.bridgedPending, List.any_eq_true]
  simp only [beq_iff_eq, ControlQueue.HasFor]

theorem pending_listener (hb : s.isBridged fd = false) (hl : C.IsListener i fd) :
    C.vfdHasPendingRead i s fd = true ↔ C.Acknowledged := by
  have hne : fd ≠ s.bridgedFd := fun he => by
    rw [isBridged_iff.2 ⟨hl.1, he⟩] at hb
    cases hb
  rw [vfdHasPendingRead, if_neg (not_lt.2 hl.1), if_neg hne, if_pos hl.2]
  exact first_acknowledged

theorem pending_conn (hb : s.isBridged fd = false) (hl : ¬ C.IsListener i fd) {k : Fin maxVTcpConns}
    (hk : C.service.vtcp.findVTcpConnByFd (C.service.owns i) fd = some k) :
    C.vfdHasPendingRead i s fd = true ↔ 0 ≤ fd ∧ C.ConnReady k := by
  by_cases hpos : 0 ≤ fd
  · have hne : fd ≠ s.bridgedFd := fun he => by
      rw [isBridged_iff.2 ⟨hpos, he⟩] at hb
      cases hb
    rw [vfdHasPendingRead, if_neg (not_lt.2 hpos), if_neg hne, if_neg (fun ho => hl ⟨hpos, ho⟩), hk, Option.any_some,
      Bool.or_eq_true, decide_eq_true_iff]
    exact (and_iff_right hpos).symm
  · rw [vfdHasPendingRead, if_pos (not_le.1 hpos)]
    exact iff_of_false Bool.false_ne_true (fun h => hpos h.1)

theorem code_ne_iff {e : Errno} : e.code ≠ Errno.EWOULDBLOCK.code ↔ e ≠ .EWOULDBLOCK := by
  cases e <;> decide

/-- **`RecvFrom` on a connection** returns what the connection has. -/
theorem recvFrom_conn (hs : C.service.instance? i = some s) {env : Env} (hd : env.drained.popped = []) {k : Fin maxVTcpConns}
    (hk : C.service.vtcp.findVTcpConnByFd (C.service.owns i) fd = some k) (flags : Int) (buffer addrOut : Nat) :
    (C.command i env (.recvFrom fd flags buffer addrOut)).reply.err ≠ Errno.EWOULDBLOCK.code ↔ C.ConnReady k := by
  have hsame := quiet_sameReader (C := C) hd k
  have hreply : (C.command i env (.recvFrom fd flags buffer addrOut)).reply.err =
      (((C.drainRawRelayQueue env.drained).1.service.vtcp.conns k).recvFrom buffer addrOut).2.errno.code := by
    rw [command, hs]
    show (C.recvFrom i s env fd flags buffer addrOut).reply.err = _
    unfold recvFrom
    dsimp only
    rw [Service.findVTcpConnByFd_congr (C.drain_sameFds env.drained), hk]
    rfl
  rw [hreply, code_ne_iff, VTcpConn.recvFrom, hsame.inbox, hsame.peer_closed, ConnReady]
  by_cases hempty : (C.service.vtcp.conns k).inbox.size = 0
  · rw [if_pos hempty]
    cases hpc : (C.service.vtcp.conns k).peerClosed with
    | true => simp
    | false => simp [RecvFromOut.wouldBlock, hempty]
  · rw [if_neg hempty]
    have hpos : 0 < (C.service.vtcp.conns k).inbox.size := Nat.pos_of_ne_zero hempty
    simp [RecvFromOut.delivered, hpos]

/-- **`RecvFrom` on the bridged socket** returns a packet if one for its port waits. -/
theorem recvFrom_bridged (hC : C.controlQueue.Parses) (hs : C.service.instance? i = some s) {env : Env}
    (hd : env.drained.popped = []) (hk : C.service.vtcp.findVTcpConnByFd (C.service.owns i) fd = none)
    (hb : s.isBridged fd = true) (flags : Int) (buffer addrOut : Nat) :
    (C.command i env (.recvFrom fd flags buffer addrOut)).reply.err ≠ Errno.EWOULDBLOCK.code ↔
      C.controlQueue.HasFor s.bridgedLocalPort := by
  have hreply : (C.command i env (.recvFrom fd flags buffer addrOut)).reply.err =
      (C.controlQueue.recvFrom s.bridgedLocalPort buffer addrOut).2.errno.code := by
    rw [command, hs]
    show (C.recvFrom i s env fd flags buffer addrOut).reply.err = _
    unfold recvFrom
    dsimp only
    rw [Service.findVTcpConnByFd_congr (C.drain_sameFds env.drained), hk]
    dsimp only
    rw [if_pos hb, recvFromRelay, quiet_controlQueue hd]
    rfl
  rw [hreply, code_ne_iff]
  exact ControlQueue.recvFrom_errno_iff hC s.bridgedLocalPort buffer addrOut

/-- **`Accept` on the listener** hands a connection out if a handshake is complete and a slot free. -/
theorem accept_listener (hs : C.service.instance? i = some s) {env : Env} (hd : env.drained.popped = [])
    (hl : C.IsListener i fd) (addrOut : Nat) :
    (C.command i env (.accept fd addrOut)).reply.err ≠ Errno.EWOULDBLOCK.code ↔ C.Acknowledged ∧ C.HasFreeConn := by
  have hsame := C.drain_sameFds env.drained
  have howns : (C.drainRawRelayQueue env.drained).1.service.owns i = C.service.owns i := by
    rw [Service.owns, Service.owns, hsame.activeLdnInstance]
  have hown : C.service.owns i = true := (Bool.and_eq_true_iff.1 hl.2).1
  have halloc : (C.drainRawRelayQueue env.drained).1.service.vtcp.allocVTcpConn
      ((C.drainRawRelayQueue env.drained).1.service.owns i) = C.service.vtcp.allocVTcpConn (C.service.owns i) := by
    rw [howns, VTcp.allocVTcpConn, VTcp.allocVTcpConn]
    exact congrArg (fun o => if C.service.owns i = true then o else none)
      (SlotTable.first_congr (fun k => by rw [hsame.used]))
  have hreply : (C.command i env (.accept fd addrOut)).reply =
      (C.drainRawRelayQueue env.drained).1.acceptReply i addrOut := by
    rw [command, hs]
    show (C.accept i env fd addrOut).reply = _
    rw [accept, if_pos hl.2]
  rw [hreply, acceptReply, VTcp.accept, halloc, quiet_pendingAccepts hd, ← first_acknowledged, ← alloc_isSome hown]
  cases SlotTable.first (fun p => p.used && p.gotFinalAck) C.service.vtcp.pendingAccepts with
  | none => exact iff_of_false (fun h => h rfl) (fun h => Bool.false_ne_true h.1)
  | some p =>
    cases C.service.vtcp.allocVTcpConn (C.service.owns i) with
    | none => exact iff_of_false (fun h => h rfl) (fun h => Bool.false_ne_true h.2)
    | some k =>
      have hne : (0 : Int) ≠ Errno.EWOULDBLOCK.code := by decide
      exact iff_of_true hne ⟨rfl, rfl⟩

/-- **In every reachable state a report and the next call agree exactly if** the roles of the descriptor do. -/
theorem readinessAgrees_iff (h : Runs.Reachable after FromRelay {} C) (hs : C.service.instance? i = some s) (fd : Int) :
    C.ReadinessAgrees i s fd ↔ C.RolesAgree i s fd := by
  have hparses := parses_reachable h
  constructor
  · rintro ⟨hrecv, hacc⟩
    -- what the report says is compared with a call in an environment without traffic
    have hconn : ∀ k, C.service.vtcp.findVTcpConnByFd (C.service.owns i) fd = some k →
        (C.vfdHasPendingRead i s fd = true ↔ C.ConnReady k) := fun k hk =>
      (hrecv quietEnv 0 1 0 rfl Nat.one_pos (.inl (by rw [hk]; rfl))).trans (recvFrom_conn hs rfl hk 0 1 0)
    have hlistener : C.IsListener i fd → (C.vfdHasPendingRead i s fd = true ↔ C.Acknowledged ∧ C.HasFreeConn) := fun hl =>
      (hacc quietEnv 0 rfl hl).trans (accept_listener hs rfl hl 0)
    constructor
    · intro k hk hneg hready
      have hpend := (hconn k hk).2 hready
      rw [vfdHasPendingRead, if_pos hneg] at hpend
      cases hpend
    · exact fun k hk hb => (pending_bridged hb).symm.trans (hconn k hk)
    · exact fun k hk hb hl => (pending_listener hb hl).symm.trans (hconn k hk)
    · exact fun hl hb => (pending_bridged hb).symm.trans (hlistener hl)
    · exact fun hl hb hack => ((hlistener hl).1 ((pending_listener hb hl).2 hack)).2
  · intro hroles
    constructor
    · intro env flags buffer addrOut hd _ hrole
      cases hk : C.service.vtcp.findVTcpConnByFd (C.service.owns i) fd with
      | none =>
        have hb : s.isBridged fd = true := by simpa [hk] using hrole
        exact (pending_bridged hb).trans (recvFrom_bridged hparses hs hd hk hb flags buffer addrOut).symm
      | some k =>
        refine Iff.trans ?_ (recvFrom_conn hs hd hk flags buffer addrOut).symm
        cases hb : s.isBridged fd with
        | true => exact (pending_bridged hb).trans (hroles.conn_bridged k hk hb)
        | false =>
          by_cases hl : C.IsListener i fd
          · exact (pending_listener hb hl).trans (hroles.conn_listener k hk hb hl)
          · rw [pending_conn hb hl hk]
            exact and_iff_right_of_imp (fun hready => not_lt.1 (fun hneg => hroles.conn_unset k hk hneg hready))
    · intro env addrOut hd hl
      refine Iff.trans ?_ (accept_listener hs hd hl addrOut).symm
      cases hb : s.isBridged fd with
      | true => exact (pending_bridged hb).trans (hroles.listener_bridged hl hb)
      | false =>
        rw [pending_listener hb hl]
        exact (and_iff_left_of_imp (hroles.listener_slot hl hb)).symm

end Agree

/-! ## A full table -/

/-- Steps of the service alone. -/
theorem reachable_ops : ∀ (ops : List Service.Op) {C : Console}, Runs.Reachable after FromRelay {} C →
    Runs.Reachable after FromRelay {} (C.setService (C.service.run ops))
  | [], _, h => h
  | op :: ops, _, h => reachable_ops ops (h.next (.other op) trivial)

/-- A station at the address completes the handshake with the host. -/
def joins (ip : UInt32) : List Service.Op :=
  [.drainSegment 77 ⟨ip, ldnControlPort, ldnControlPort, 100, 0, TCP_SYN, []⟩,
    .drainSegment 0 ⟨ip, ldnControlPort, ldnControlPort, 101, 78, TCP_ACK, []⟩]

/-- The host of `hostSession` accepts eight more stations, and another one waits. -/
def fullSession : List Service.Op :=
  hostSession ++ [3, 4, 5, 6, 7, 8, 9, 10].flatMap (fun n : UInt32 => joins (0x0A0D0000 + n) ++ [.accept 0 4]) ++
    joins 0x0A0D000B

def fullHost : Console := ({} : Console).setService (Service.run {} fullSession)

theorem reachable_fullHost : Runs.Reachable after FromRelay {} fullHost := reachable_ops fullSession .init

theorem instance_fullHost : ∃ s, fullHost.service.instance? 0 = some s := by
  cases hs : fullHost.service.instance? 0 with
  | none => exact absurd (congrArg Option.isSome hs) (by decide +kernel)
  | some s => exact ⟨s, rfl⟩

theorem readinessAgrees_iff_fullHost : ∃ s, fullHost.service.instance? 0 = some s ∧
    (fullHost.ReadinessAgrees 0 s 4 ↔ fullHost.RolesAgree 0 s 4) := by
  obtain ⟨s, hs⟩ := instance_fullHost
  exact ⟨s, hs, readinessAgrees_iff reachable_fullHost hs 4⟩

theorem reports_fullHost : ∀ s ∈ fullHost.service.instance? 0, fullHost.vfdHasPendingRead 0 s 4 = true ∧
    (fullHost.command 0 quietEnv (.accept 4 16)).reply.err = Errno.EWOULDBLOCK.code := by
  decide +kernel

/-- **The listener of a host with nine stations is reported readable** for the tenth, and `Accept` would block. -/
theorem full_host_reports_readable : Runs.Reachable after FromRelay {} fullHost ∧
    ∃ s, fullHost.service.instance? 0 = some s ∧ fullHost.IsListener 0 4 ∧ fullHost.vfdHasPendingRead 0 s 4 = true ∧
      (fullHost.command 0 quietEnv (.accept 4 16)).reply.err = Errno.EWOULDBLOCK.code ∧
      ¬ fullHost.ReadinessAgrees 0 s 4 := by
  obtain ⟨s, hs⟩ := instance_fullHost
  obtain ⟨hpend, hblocks⟩ := reports_fullHost s hs
  have hl : fullHost.IsListener 0 4 := ⟨by decide, by decide +kernel⟩
  exact ⟨reachable_fullHost, s, hs, hl, hpend, hblocks, fun h => (h.accept quietEnv 16 rfl hl).1 hpend hblocks⟩

end Console
end Slp
