import SwitchLanPlay.Forwarding
import SwitchLanPlay.Runs
import SwitchLanPlay.VTcpHalves
/-!
# ConnectRace — a `Connect` and the drain thread

A virtual `Connect` takes the lock of the virtual TCP state anew for every look at its entry, and once more to clear it when the
attempts are over.  Between any two of its steps either thread may have a segment handled.  `ConnectRun.step` is one such step.
What is sent is what is handed to the relay.  No third thread closes the relay during the call, as the watchdog or the overlay
may.

The handler completes the handshake, with the final ACK, whenever the SYN-ACK comes.  The cleanup does not look again: a SYN-ACK
handled after the last look is answered, and the entry cleared all the same (`synAck_before_cleanup`).  For a descriptor no entry
is in use under, the caller's result and the peer's agree in exactly the runs without one (`agrees_iff`).
-/
namespace Slp

open Wire

/-! ## What a segment does to a connection that waits -/

namespace VTcpConn

/-- The segment is the SYN-ACK the connection waits for. -/
def answeredBy (c : VTcpConn) (m : TcpSegment) : Bool :=
  !m.isRst && m.isSyn && m.isAck && c.synSentAwaitingSynack && m.ack == c.ourIsn + 1

/-- The handshake of the connection stands as before. -/
structure SameHandshake (c c' : VTcpConn) : Prop where
  keys : SameKeys c c'
  ourIsn : c'.ourIsn = c.ourIsn
  awaiting : c'.synSentAwaitingSynack = c.synSentAwaitingSynack
  established : c'.established = c.established

theorem SameHandshake.refl (c : VTcpConn) : SameHandshake c c := ⟨⟨rfl, rfl, rfl⟩, rfl, rfl, rfl⟩

section Handshake

variable {c : VTcpConn} {m : TcpSegment} (localIp : UInt32)

theorem handleAck_sameHandshake (c : VTcpConn) (m : TcpSegment) : SameHandshake c (c.handleAck localIp m).1 := by
  have hack : SameHandshake c (c.handleAckNumber m.ack) := by
    unfold handleAckNumber
    split
    · exact ⟨⟨rfl, rfl, rfl⟩, rfl, rfl, rfl⟩
    · exact .refl c
  unfold handleAck handleData
  split
  · exact hack
  split
  · exact hack
  split
  · exact hack
  split
  · exact ⟨⟨hack.keys.used, hack.keys.fd, hack.keys.peerIp⟩, hack.ourIsn, hack.awaiting, hack.established⟩
  · exact hack

/-- **Only the SYN-ACK a connection waits for changes its handshake.** -/
theorem receive_sameHandshake (h : c.answeredBy m = false) : SameHandshake c (c.receive localIp m).1 := by
  unfold receive
  split
  · exact ⟨⟨rfl, rfl, rfl⟩, rfl, rfl, rfl⟩
  rename_i hrst
  split
  · exact .refl c
  split
  · rename_i hsynAck
    have hnot : ¬ (c.synSentAwaitingSynack && m.ack == c.ourIsn + 1) = true := fun hwaits => by
      rw [answeredBy, Bool.and_assoc, hwaits, Bool.and_true, Bool.and_assoc, hsynAck] at h
      simp [hrst] at h
    rw [handleSynAck, if_neg hnot]
    exact .refl c
  split
  · exact ⟨⟨rfl, rfl, rfl⟩, rfl, rfl, rfl⟩
  split
  · exact .refl c
  · exact handleAck_sameHandshake localIp c m

theorem flags_of_answered (h : c.answeredBy m = true) : m.isRst = false ∧ m.isSyn = true ∧ m.isAck = true := by
  simp only [answeredBy, Bool.and_eq_true, Bool.not_eq_true'] at h
  exact ⟨h.1.1.1.1, h.1.1.1.2, h.1.1.2⟩

theorem receive_of_answered (h : c.answeredBy m = true) : c.receive localIp m =
    ({ c with theirSeq := m.seq + 1, ourSeq := c.ourIsn + 1, synSentAwaitingSynack := false, established := true },
      [m.reply localIp (c.ourIsn + 1) (m.seq + 1) TCP_ACK]) := by
  obtain ⟨hrst, hsyn, hack⟩ := flags_of_answered h
  simp only [answeredBy, Bool.and_eq_true] at h
  simp [receive, handleSynAck, hrst, hsyn, hack, h.1.2, h.2]

theorem checkDataRetransmit_sameHandshake (c : VTcpConn) (now : UInt64) :
    SameHandshake c (c.checkDataRetransmit localIp now).1 := by
  unfold checkDataRetransmit
  split
  · exact .refl c
  split
  · exact .refl c
  split <;> exact ⟨⟨rfl, rfl, rfl⟩, rfl, rfl, rfl⟩

end Handshake

end VTcpConn

namespace Service

/-- The segment is the SYN-ACK the slot's connection waits for, and goes to it. -/
def completesHandshake (S : Service) (k : Fin maxVTcpConns) (m : TcpSegment) : Bool :=
  S.activeLdnInstance.isSome && m.dstPort == ldnControlPort && S.vtcp.findVTcpConnByPeer true m.srcIp == some k &&
    (S.vtcp.conns k).answeredBy m

section Drain

variable {S : Service} {k : Fin maxVTcpConns} {m : TcpSegment} (ourIsn : UInt32)

theorem drainSegment_sameHandshake (h : S.completesHandshake k m = false) :
    VTcpConn.SameHandshake (S.vtcp.conns k) ((S.drainSegment ourIsn m).1.vtcp.conns k) := by
  unfold drainSegment
  split
  · exact .refl _
  · rename_i hgate
    dsimp only
    have hhandled := S.vtcp.handleTcpSegment_cases S.lastBridgedLocalIp ourIsn m
    generalize S.vtcp.handleTcpSegment true S.lastBridgedLocalIp ourIsn m = r at hhandled
    cases hhandled with
    | dropped => exact .refl _
    | requested j => exact .refl _
    | acknowledged j => exact .refl _
    | received j hj =>
      by_cases hkj : k = j
      · subst hkj
        have hanswered : (S.vtcp.conns k).answeredBy m = false := by
          have howner : (S.activeLdnInstance.isSome && m.dstPort == ldnControlPort) = true := by
            cases ho : S.activeLdnInstance <;> simp_all
          rw [completesHandshake, howner, hj, beq_self_eq_true, Bool.true_and, Bool.true_and] at h
          exact h
        dsimp only [VTcp.setConn]
        rw [Function.update_self]
        exact VTcpConn.receive_sameHandshake S.lastBridgedLocalIp hanswered
      · dsimp only [VTcp.setConn]
        rw [Function.update_of_ne hkj]
        exact .refl _

/-- **The SYN-ACK a connection waits for is answered, and the connection is established.** -/
theorem drainSegment_of_completes (h : S.completesHandshake k m = true) :
    S.drainSegment ourIsn m =
      ({ S with vtcp := S.vtcp.setConn k ((S.vtcp.conns k).receive S.lastBridgedLocalIp m).1 },
        S.sendSegments [m.reply S.lastBridgedLocalIp ((S.vtcp.conns k).ourIsn + 1) (m.seq + 1) TCP_ACK]) := by
  simp only [completesHandshake, Bool.and_eq_true, beq_iff_eq, Option.isSome_iff_ne_none] at h
  obtain ⟨⟨⟨howner, hport⟩, hfound⟩, hanswered⟩ := h
  have hreceive := VTcpConn.receive_of_answered S.lastBridgedLocalIp hanswered
  obtain ⟨hrst, hsyn, hack⟩ := VTcpConn.flags_of_answered hanswered
  have hhandle : S.vtcp.handleTcpSegment true S.lastBridgedLocalIp ourIsn m =
      S.vtcp.onConn (some k) (fun c => c.handleSynAck S.lastBridgedLocalIp m) := by
    simp [VTcp.handleTcpSegment, hfound, hrst, hsyn, hack]
  have hsynAck : (S.vtcp.conns k).handleSynAck S.lastBridgedLocalIp m =
      (S.vtcp.conns k).receive S.lastBridgedLocalIp m := by
    simp [VTcpConn.receive, hrst, hsyn, hack]
  have hgate : ¬ (S.activeLdnInstance.isNone || m.dstPort != ldnControlPort) = true := by
    cases ho : S.activeLdnInstance <;> simp_all
  unfold drainSegment
  rw [if_neg hgate, hhandle, VTcp.onConn, hsynAck, hreceive]

theorem drainRetransmits_sameHandshake (S : Service) (k : Fin maxVTcpConns) (now : UInt64) :
    VTcpConn.SameHandshake (S.vtcp.conns k) ((S.drainRetransmits now).1.vtcp.conns k) := by
  unfold drainRetransmits
  split
  · exact .refl _
  · exact VTcpConn.checkDataRetransmit_sameHandshake S.lastBridgedLocalIp (S.vtcp.conns k) now

theorem connected_of_ensure {ok : Bool} (h : (S.ensureRelayConnected ok).2 = true) :
    (S.ensureRelayConnected ok).1.relay.connected = true := by
  unfold ensureRelayConnected at h ⊢
  split
  · rename_i hoff
    rw [if_pos hoff] at h
    cases h
  rename_i hon
  rw [if_neg hon] at h
  split
  · assumption
  rename_i hdown
  rw [if_neg hdown] at h
  split
  · rename_i hattempted
    rw [if_pos hattempted] at h
    cases h
  · rename_i hattempt
    rw [if_neg hattempt] at h
    cases h
    rfl

end Drain

end Service

/-! ## The steps of a `Connect` -/

/-- Where the dispatch thread stands in a virtual `Connect`: before it asks for the relay, before it takes an entry, before the SYN
of an attempt, before the look after one of an attempt's waits, before the cleanup, or out. -/
inductive ConnectPhase where
  | called
  | opening
  | sending (attempt : Nat)
  | waiting (attempt waited : Nat)
  | expired
  | returned (errno : Errno)
deriving DecidableEq

/-- The call, with the caller's local address, the random initial sequence number, and the outcome of a connect of the relay. -/
structure ConnectCall where
  i : Nat
  fd : Int
  dstIp : UInt32
  dstPort : UInt16
  localIp : UInt32
  ourIsn : UInt32
  relayUp : Bool

/-- The entry taken, what has been handed to the relay, and among it the answers to the SYN-ACK, are kept beside the state. -/
structure ConnectRun where
  service : Service
  phase : ConnectPhase := .called
  slot : Option (Fin maxVTcpConns) := none
  sent : List Segment := []
  finalAcks : List Segment := []

namespace ConnectRun

open Console (waitsPerAttempt maxConnectAttempts)

/-- A step of the dispatch thread, or a segment or a look at the retransmissions by either thread. -/
inductive Op where
  | dispatch
  | segment (ourIsn : UInt32) (m : TcpSegment)
  | retransmits (now : UInt64)

/-- The phase after a look that found nothing. -/
def afterLook (attempt waited : Nat) : ConnectPhase :=
  if waited + 1 < waitsPerAttempt then .waiting attempt (waited + 1)
  else if attempt + 1 < maxConnectAttempts then .sending (attempt + 1)
  else .expired

def dispatch (a : ConnectCall) (R : ConnectRun) : ConnectRun :=
  match R.phase with
  | .called =>
    { R with
      service := (R.service.ensureRelayConnected a.relayUp).1
      phase := if (R.service.ensureRelayConnected a.relayUp).2 then .opening else .returned Errno.EIO }
  | .opening =>
    match R.service.vtcp.allocVTcpConn (R.service.owns a.i) with
    | none => { R with phase := .returned .ENOBUFS }
    | some k =>
      { R with
        service := { R.service with
          vtcp := R.service.vtcp.setConn k (VTcp.connectingConn a.fd a.dstIp a.dstPort a.ourIsn) }
        phase := .sending 0
        slot := some k }
  | .sending attempt =>
    { R with
      phase := .waiting attempt 0
      sent := R.sent ++ R.service.sendSegments [VTcp.synSegment a.localIp a.dstIp a.dstPort a.ourIsn] }
  | .waiting attempt waited =>
    if (R.service.vtcp.findVTcpConnByFd (R.service.owns a.i) a.fd).any (fun k => (R.service.vtcp.conns k).established) then
      { R with phase := .returned .none }
    else { R with phase := afterLook attempt waited }
  | .expired => { R with service := R.service.connectTimedOut a.i a.fd, phase := .returned .ETIMEDOUT }
  | .returned _ => R

/-- The segment is the SYN-ACK the call's entry waits for. -/
def completes (R : ConnectRun) (m : TcpSegment) : Bool := R.slot.any (fun k => R.service.completesHandshake k m)

def step (a : ConnectCall) (R : ConnectRun) : Op → ConnectRun
  | .dispatch => R.dispatch a
  | .segment ourIsn m =>
    { R with
      service := (R.service.drainSegment ourIsn m).1
      sent := R.sent ++ (R.service.drainSegment ourIsn m).2
      finalAcks := R.finalAcks ++ if R.completes m then (R.service.drainSegment ourIsn m).2 else [] }
  | .retransmits now =>
    { R with
      service := (R.service.drainRetransmits now).1
      sent := R.sent ++ (R.service.drainRetransmits now).2 }

def start (S : Service) : ConnectRun := { service := S }

/-- The service with the entry of the call. -/
def opened (S : Service) (a : ConnectCall) (k : Fin maxVTcpConns) : Service :=
  { S with vtcp := S.vtcp.setConn k (VTcp.connectingConn a.fd a.dstIp a.dstPort a.ourIsn) }

section Dispatch

variable {a : ConnectCall} {R : ConnectRun}

theorem dispatch_called (h : R.phase = .called) : R.dispatch a =
    { R with
      service := (R.service.ensureRelayConnected a.relayUp).1
      phase := if (R.service.ensureRelayConnected a.relayUp).2 then .opening else .returned Errno.EIO } := by
  unfold dispatch
  rw [h]

theorem dispatch_full (h : R.phase = .opening) (hk : R.service.vtcp.allocVTcpConn (R.service.owns a.i) = none) :
    R.dispatch a = { R with phase := .returned .ENOBUFS } := by
  unfold dispatch
  rw [h]
  dsimp only
  rw [hk]

theorem dispatch_opening (h : R.phase = .opening) {k : Fin maxVTcpConns}
    (hk : R.service.vtcp.allocVTcpConn (R.service.owns a.i) = some k) :
    R.dispatch a = { R with service := opened R.service a k, phase := .sending 0, slot := some k } := by
  unfold dispatch
  rw [h]
  dsimp only
  rw [hk]
  rfl

theorem dispatch_sending {n : Nat} (h : R.phase = .sending n) : R.dispatch a =
    { R with
      phase := .waiting n 0
      sent := R.sent ++ R.service.sendSegments [VTcp.synSegment a.localIp a.dstIp a.dstPort a.ourIsn] } := by
  unfold dispatch
  rw [h]

theorem dispatch_waiting {n w : Nat} (h : R.phase = .waiting n w) : R.dispatch a =
    { R with
      phase := bif (R.service.vtcp.findVTcpConnByFd (R.service.owns a.i) a.fd).any
        (fun k => (R.service.vtcp.conns k).established) then .returned .none else afterLook n w } := by
  unfold dispatch
  rw [h]
  dsimp only
  cases (R.service.vtcp.findVTcpConnByFd (R.service.owns a.i) a.fd).any
    (fun k => (R.service.vtcp.conns k).established) <;> rfl

theorem dispatch_expired (h : R.phase = .expired) :
    R.dispatch a = { R with service := R.service.connectTimedOut a.i a.fd, phase := .returned .ETIMEDOUT } := by
  unfold dispatch
  rw [h]

theorem dispatch_returned {e : Errno} (h : R.phase = .returned e) : R.dispatch a = R := by
  unfold dispatch
  rw [h]

end Dispatch

/-! ## Agreement -/

/-- No entry in use has the descriptor. -/
def FdFree (S : Service) (fd : Int) : Prop := ∀ k, (S.vtcp.conns k).used = true → (S.vtcp.conns k).fd ≠ fd

/-- The segment ends the handshake of the call. -/
structure IsFinalAck (a : ConnectCall) (s : Segment) : Prop where
  dstIp : s.dstIp = a.dstIp
  srcPort : s.srcPort = ldnControlPort
  seq : s.seq = a.ourIsn + 1
  flags : s.flags = TCP_ACK
  payload : s.payload = []

/-- A step of the dispatch thread leaves every entry but the call's own. -/
def LeavesOthers (a : ConnectCall) (R : ConnectRun) : Op → Prop
  | .dispatch => ∀ j, (R.dispatch a).slot ≠ some j → (R.dispatch a).service.vtcp.conns j = R.service.vtcp.conns j
  | _ => True

/-- The caller's result agrees with what its peer was sent: after an error no final ACK went out and no entry has the descriptor;
after a success one did, and the descriptor's entry is established. -/
structure Agrees (a : ConnectCall) (R : ConnectRun) : Prop where
  failed : ∀ e, R.phase = .returned e → e ≠ .none → R.finalAcks = [] ∧ FdFree R.service a.fd
  succeeded : R.phase = .returned .none → (∃ ack ∈ R.sent, R.finalAcks = [ack] ∧ IsFinalAck a ack) ∧
    ∃ k, R.service.vtcp.findVTcpConnByFd (R.service.owns a.i) a.fd = some k ∧
      (R.service.vtcp.conns k).established = true

/-- No SYN-ACK the call waits for is handled between its last look and the cleanup. -/
def InTime (R : ConnectRun) : Op → Prop
  | .segment _ m => R.phase = .expired → R.completes m = false
  | _ => True

instance (R : ConnectRun) (op : Op) : Decidable (InTime R op) := by
  cases op with
  | dispatch => exact isTrue trivial
  | segment ourIsn m => exact inferInstanceAs (Decidable (R.phase = .expired → R.completes m = false))
  | retransmits now => exact isTrue trivial

/-! ## The invariant -/

section Invariant

variable {a : ConnectCall} {R : ConnectRun} {k : Fin maxVTcpConns}

/-- The call has an entry of its own: it waits, or the final ACK has gone out. -/
structure Trying (a : ConnectCall) (R : ConnectRun) (k : Fin maxVTcpConns) : Prop where
  slot : R.slot = some k
  owns : R.service.owns a.i = true
  connected : R.service.relay.connected = true
  used : (R.service.vtcp.conns k).used = true
  fd : (R.service.vtcp.conns k).fd = a.fd
  only : ∀ j, (R.service.vtcp.conns j).used = true → (R.service.vtcp.conns j).fd = a.fd → j = k
  peerIp : (R.service.vtcp.conns k).peerIp = a.dstIp
  ourIsn : (R.service.vtcp.conns k).ourIsn = a.ourIsn
  awaiting : (R.service.vtcp.conns k).synSentAwaitingSynack = !(R.service.vtcp.conns k).established
  unanswered : (R.service.vtcp.conns k).established = false → R.finalAcks = []
  answered : (R.service.vtcp.conns k).established = true → ∃ ack ∈ R.sent, R.finalAcks = [ack] ∧ IsFinalAck a ack

/-- Where the run can stand for a call whose descriptor no entry had. -/
inductive Inv (a : ConnectCall) (R : ConnectRun) : Prop
  | unopened (hphase : R.phase = .called ∨ R.phase = .opening ∧ R.service.relay.connected = true ∨
        R.phase = .returned Errno.EIO ∨ R.phase = .returned .ENOBUFS)
      (hslot : R.slot = none) (hacks : R.finalAcks = []) (hfree : FdFree R.service a.fd)
  | trying (k : Fin maxVTcpConns) (hphase : (∃ n, R.phase = .sending n) ∨ (∃ n w, R.phase = .waiting n w) ∨ R.phase = .expired)
      (h : Trying a R k)
  | connected (k : Fin maxVTcpConns) (hphase : R.phase = .returned .none) (h : Trying a R k)
      (hest : (R.service.vtcp.conns k).established = true)
  | timedOut (k : Fin maxVTcpConns) (hphase : R.phase = .returned .ETIMEDOUT) (hslot : R.slot = some k)
      (hunused : (R.service.vtcp.conns k).used = false) (hfree : FdFree R.service a.fd)

theorem inv_start {S : Service} (h : FdFree S a.fd) : Inv a (start S) := .unopened (.inl rfl) rfl rfl h

theorem fdFree_congr {S S' : Service} (h : SameFds S S') {fd : Int} (hfree : FdFree S fd) : FdFree S' fd := by
  intro k hk
  rw [h.fd]
  exact hfree k (by rw [← h.used]; exact hk)

/-- **The descriptor's entry is the call's.** -/
theorem Trying.find (h : Trying a R k) : R.service.vtcp.findVTcpConnByFd (R.service.owns a.i) a.fd = some k := by
  rw [VTcp.findVTcpConnByFd, if_pos h.owns]
  refine SlotTable.first_of_unique (by simp [h.used, h.fd]) (fun j hj => ?_)
  simp only [Bool.and_eq_true, beq_iff_eq] at hj
  exact h.only j hj.1 hj.2

/-- **A drain that does not complete the handshake keeps the call's entry.** -/
theorem Trying.drained (h : Trying a R k) {S' : Service} (segs : List Segment) (hfds : SameFds R.service S')
    (hrelay : S'.relay = R.service.relay) (hsame : VTcpConn.SameHandshake (R.service.vtcp.conns k) (S'.vtcp.conns k)) :
    Trying a { R with service := S', sent := R.sent ++ segs } k where
  slot := h.slot
  owns := by rw [Service.owns, hfds.activeLdnInstance]; exact h.owns
  connected := by rw [hrelay]; exact h.connected
  used := hsame.keys.used.trans h.used
  fd := hsame.keys.fd.trans h.fd
  only j hj hfd := h.only j (by rw [← hfds.used]; exact hj) (by rw [← hfds.fd]; exact hfd)
  peerIp := hsame.keys.peerIp.trans h.peerIp
  ourIsn := hsame.ourIsn.trans h.ourIsn
  awaiting := by rw [hsame.awaiting, hsame.established]; exact h.awaiting
  unanswered hest := h.unanswered (hsame.established.symm.trans hest)
  answered hest := by
    obtain ⟨ack, hmem, hack⟩ := h.answered (hsame.established.symm.trans hest)
    exact ⟨ack, List.mem_append_left _ hmem, hack⟩

theorem step_segment (ourIsn : UInt32) {m : TcpSegment} (h : R.completes m = false) :
    step a R (.segment ourIsn m) =
      { R with service := (R.service.drainSegment ourIsn m).1, sent := R.sent ++ (R.service.drainSegment ourIsn m).2 } := by
  simp [step, h]

/-- **The SYN-ACK is answered with the final ACK**, and the call's entry is established. -/
theorem Trying.completed (h : Trying a R k) (ourIsn : UInt32) {m : TcpSegment} (hm : R.completes m = true) :
    Trying a (step a R (.segment ourIsn m)) k ∧
      ((step a R (.segment ourIsn m)).service.vtcp.conns k).established = true := by
  have hcompletes : R.service.completesHandshake k m = true := by
    rw [completes, h.slot, Option.any_some] at hm
    exact hm
  have hdrain := Service.drainSegment_of_completes ourIsn hcompletes
  have hfds := drainSegment_sameFds R.service ourIsn m
  simp only [Service.completesHandshake, Bool.and_eq_true, beq_iff_eq] at hcompletes
  obtain ⟨⟨-, hfound⟩, hanswered⟩ := hcompletes
  have hpeer : (R.service.vtcp.conns k).peerIp = m.srcIp := by
    rw [VTcp.findVTcpConnByPeer, if_pos rfl] at hfound
    have haccepted := SlotTable.apply_of_first hfound
    simp only [Bool.and_eq_true, beq_iff_eq] at haccepted
    exact haccepted.2
  have hwaits : (R.service.vtcp.conns k).established = false := by
    simp only [VTcpConn.answeredBy, Bool.and_eq_true, h.awaiting, Bool.not_eq_true'] at hanswered
    exact hanswered.1.2
  have hentry : ((step a R (.segment ourIsn m)).service.vtcp.conns k) =
      ((R.service.vtcp.conns k).receive R.service.lastBridgedLocalIp m).1 := by
    show ((R.service.drainSegment ourIsn m).1.vtcp.conns k) = _
    rw [hdrain]
    simp [VTcp.setConn]
  rw [VTcpConn.receive_of_answered _ hanswered] at hentry
  have hsegs : (R.service.drainSegment ourIsn m).2 =
      [m.reply R.service.lastBridgedLocalIp (a.ourIsn + 1) (m.seq + 1) TCP_ACK] := by
    rw [hdrain, Service.sendSegments, if_pos h.connected, h.ourIsn]
  have hest : ((step a R (.segment ourIsn m)).service.vtcp.conns k).established = true := by rw [hentry]
  refine ⟨⟨h.slot, ?_, ?_, (hfds.used k).trans h.used, (hfds.fd k).trans h.fd, fun j hj hfd => ?_, ?_, ?_, ?_, ?_, ?_⟩, hest⟩
  · show (R.service.drainSegment ourIsn m).1.owns a.i = true
    rw [Service.owns, hfds.activeLdnInstance]
    exact h.owns
  · show (R.service.drainSegment ourIsn m).1.relay.connected = true
    rw [Service.drainSegment_relay]
    exact h.connected
  · exact h.only j (by rw [← hfds.used]; exact hj) (by rw [← hfds.fd]; exact hfd)
  · rw [hentry]
    exact h.peerIp
  · rw [hentry]
    exact h.ourIsn
  · rw [hest, hentry]
    rfl
  · intro hno
    rw [hest] at hno
    cases hno
  · intro _
    refine ⟨m.reply R.service.lastBridgedLocalIp (a.ourIsn + 1) (m.seq + 1) TCP_ACK, ?_, ?_, ?_⟩
    · show _ ∈ R.sent ++ (R.service.drainSegment ourIsn m).2
      rw [hsegs]
      exact List.mem_append_right _ (List.mem_singleton_self _)
    · show R.finalAcks ++ (if R.completes m = true then (R.service.drainSegment ourIsn m).2 else []) = _
      rw [if_pos hm, hsegs, h.unanswered hwaits, List.nil_append]
    · exact ⟨hpeer.symm.trans h.peerIp, rfl, rfl, rfl, rfl⟩

theorem slot_of_completes {m : TcpSegment} (hm : R.completes m = true) :
    ∃ k, R.slot = some k ∧ R.service.completesHandshake k m = true := by
  cases hs : R.slot with
  | none =>
    rw [completes, hs] at hm
    cases hm
  | some k =>
    rw [completes, hs] at hm
    exact ⟨k, rfl, hm⟩

/-- **A drain that does not complete the handshake keeps the invariant.** -/
theorem Inv.drained (h : Inv a R) {S' : Service} (segs : List Segment) (hfds : SameFds R.service S')
    (hrelay : S'.relay = R.service.relay)
    (hsame : ∀ k, R.slot = some k → VTcpConn.SameHandshake (R.service.vtcp.conns k) (S'.vtcp.conns k)) :
    Inv a { R with service := S', sent := R.sent ++ segs } := by
  cases h with
  | unopened hphase hslot hacks hfree =>
    rw [← hrelay] at hphase
    exact .unopened hphase hslot hacks (fdFree_congr hfds hfree)
  | trying k hphase h => exact .trying k hphase (h.drained segs hfds hrelay (hsame k h.slot))
  | connected k hphase h hest =>
    have hk := hsame k h.slot
    exact .connected k hphase (h.drained segs hfds hrelay hk) (hk.established.trans hest)
  | timedOut k hphase hslot hunused hfree =>
    exact .timedOut k hphase hslot ((hfds.used k).trans hunused) (fdFree_congr hfds hfree)

/-- **Only a call that still tries has its handshake completed.** -/
theorem trying_of_completes (h : Inv a R) {m : TcpSegment} (hm : R.completes m = true) :
    ∃ k, Trying a R k ∧ (R.service.vtcp.conns k).established = false ∧
      ((∃ n, R.phase = .sending n) ∨ (∃ n w, R.phase = .waiting n w) ∨ R.phase = .expired) := by
  obtain ⟨j, hj, hjm⟩ := slot_of_completes hm
  simp only [Service.completesHandshake, Bool.and_eq_true, beq_iff_eq] at hjm
  obtain ⟨⟨-, hfound⟩, hanswered⟩ := hjm
  simp only [VTcpConn.answeredBy, Bool.and_eq_true] at hanswered
  have hawaiting := hanswered.1.2
  cases h with
  | unopened hphase hslot hacks hfree =>
    rw [hslot] at hj
    cases hj
  | trying k hphase h =>
    rw [Option.some.inj (hj.symm.trans h.slot), h.awaiting, Bool.not_eq_true'] at hawaiting
    exact ⟨k, h, hawaiting, hphase⟩
  | connected k hphase h hest =>
    rw [Option.some.inj (hj.symm.trans h.slot), h.awaiting, hest] at hawaiting
    cases hawaiting
  | timedOut k hphase hslot hunused hfree =>
    -- a segment finds no entry that is not in use
    rw [VTcp.findVTcpConnByPeer, if_pos rfl] at hfound
    have haccepted := SlotTable.apply_of_first hfound
    rw [Option.some.inj (hj.symm.trans hslot), hunused] at haccepted
    cases haccepted

theorem inv_segment (h : Inv a R) (ourIsn : UInt32) (m : TcpSegment) : Inv a (step a R (.segment ourIsn m)) := by
  by_cases hm : R.completes m = true
  · obtain ⟨k, htrying, -, hphase⟩ := trying_of_completes h hm
    exact .trying k hphase (htrying.completed ourIsn hm).1
  · rw [Bool.not_eq_true] at hm
    rw [step_segment ourIsn hm]
    refine h.drained _ (drainSegment_sameFds R.service ourIsn m) (R.service.drainSegment_relay ourIsn m) (fun k hk => ?_)
    rw [completes, hk, Option.any_some] at hm
    exact Service.drainSegment_sameHandshake ourIsn hm

theorem inv_retransmits (h : Inv a R) (now : UInt64) : Inv a (step a R (.retransmits now)) :=
  h.drained _ (drainRetransmits_sameFds R.service now) (R.service.drainRetransmits_relay now)
    (fun k _ => R.service.drainRetransmits_sameHandshake k now)

/-! ### The dispatch thread -/

/-- The attempts are over, and the caller is or will be told so. -/
def attemptsOver : ConnectPhase → Bool
  | .expired | .returned .ETIMEDOUT => true
  | _ => false

/-- The final ACK of the call was sent, and the attempts are over. -/
def Late (R : ConnectRun) : Prop := attemptsOver R.phase = true ∧ R.finalAcks ≠ []

/-- What a step of the dispatch thread does to a run. -/
structure Dispatched (a : ConnectCall) (R R' : ConnectRun) : Prop where
  inv : Inv a R'
  others : ∀ j, R'.slot ≠ some j → R'.service.vtcp.conns j = R.service.vtcp.conns j
  late : Late R' ↔ Late R

theorem late_congr {R R' : ConnectRun} (hphase : attemptsOver R'.phase = attemptsOver R.phase) (hacks : R'.finalAcks = R.finalAcks) :
    Late R' ↔ Late R := by
  rw [Late, Late, hphase, hacks]

theorem dispatched_called (hphase : R.phase = .called) (hslot : R.slot = none) (hacks : R.finalAcks = [])
    (hfree : FdFree R.service a.fd) : Dispatched a R (R.dispatch a) := by
  have hvtcp := R.service.ensureRelayConnected_vtcp a.relayUp
  have hfree' : FdFree (R.service.ensureRelayConnected a.relayUp).1 a.fd := by
    rw [FdFree, hvtcp]
    exact hfree
  rw [dispatch_called hphase]
  refine ⟨?_, fun j _ => congrArg (fun t => t.conns j) hvtcp, late_congr ?_ rfl⟩
  · cases hup : (R.service.ensureRelayConnected a.relayUp).2 with
    | true => exact .unopened (.inr (.inl ⟨rfl, Service.connected_of_ensure hup⟩)) hslot hacks hfree'
    | false => exact .unopened (.inr (.inr (.inl rfl))) hslot hacks hfree'
  · rw [hphase]
    cases (R.service.ensureRelayConnected a.relayUp).2 <;> rfl

theorem opened_at (S : Service) (a : ConnectCall) (k : Fin maxVTcpConns) :
    (opened S a k).vtcp.conns k = VTcp.connectingConn a.fd a.dstIp a.dstPort a.ourIsn := Function.update_self _ _ _

theorem opened_of_ne (S : Service) (a : ConnectCall) {j k : Fin maxVTcpConns} (h : j ≠ k) :
    (opened S a k).vtcp.conns j = S.vtcp.conns j := Function.update_of_ne h _ _

/-- **The entry the call takes is the only one under its descriptor.** -/
theorem trying_opened (hup : R.service.relay.connected = true) (hacks : R.finalAcks = []) (hfree : FdFree R.service a.fd)
    (howns : R.service.owns a.i = true) (k : Fin maxVTcpConns) :
    Trying a { R with service := opened R.service a k, phase := .sending 0, slot := some k } k where
  slot := rfl
  owns := howns
  connected := hup
  used := by rw [opened_at]; rfl
  fd := by rw [opened_at]; rfl
  only j hj hfd := by
    by_contra hne
    rw [opened_of_ne R.service a hne] at hj hfd
    exact hfree j hj hfd
  peerIp := by rw [opened_at]; rfl
  ourIsn := by rw [opened_at]; rfl
  awaiting := by rw [opened_at]; rfl
  unanswered _ := hacks
  answered hest := by
    rw [opened_at] at hest
    cases hest

theorem dispatched_opening (hphase : R.phase = .opening) (hup : R.service.relay.connected = true) (hslot : R.slot = none)
    (hacks : R.finalAcks = []) (hfree : FdFree R.service a.fd) : Dispatched a R (R.dispatch a) := by
  cases hk : R.service.vtcp.allocVTcpConn (R.service.owns a.i) with
  | none =>
    rw [dispatch_full hphase hk]
    refine ⟨.unopened (.inr (.inr (.inr rfl))) hslot hacks hfree, fun _ _ => rfl, late_congr ?_ rfl⟩
    rw [hphase]
    rfl
  | some k =>
    have howns : R.service.owns a.i = true := by
      by_contra hno
      rw [VTcp.allocVTcpConn, if_neg hno] at hk
      cases hk
    rw [dispatch_opening hphase hk]
    refine ⟨.trying k (.inl ⟨0, rfl⟩) (trying_opened hup hacks hfree howns k), fun j hj => ?_, late_congr ?_ rfl⟩
    · exact opened_of_ne R.service a (fun he => hj (by rw [he]))
    · rw [hphase]
      rfl

theorem Trying.sends (h : Trying a R k) (phase : ConnectPhase) (segs : List Segment) :
    Trying a { R with phase := phase, sent := R.sent ++ segs } k := by
  refine { h with answered := fun hest => ?_ }
  obtain ⟨ack, hmem, hack⟩ := h.answered hest
  exact ⟨ack, List.mem_append_left _ hmem, hack⟩

theorem Trying.moves (h : Trying a R k) (phase : ConnectPhase) : Trying a { R with phase := phase } k := { h with }

theorem dispatched_sending {n : Nat} (hphase : R.phase = .sending n) (h : Trying a R k) :
    Dispatched a R (R.dispatch a) := by
  rw [dispatch_sending hphase]
  refine ⟨.trying k (.inr (.inl ⟨n, 0, rfl⟩)) (h.sends _ _), fun _ _ => rfl, late_congr ?_ rfl⟩
  rw [hphase]
  rfl

/-- **A look finds the call's entry established or not**: the attempts are given up only while no final ACK has been sent. -/
theorem dispatched_waiting {n w : Nat} (hphase : R.phase = .waiting n w) (h : Trying a R k) :
    Dispatched a R (R.dispatch a) := by
  rw [dispatch_waiting hphase, h.find, Option.any_some]
  cases hest : (R.service.vtcp.conns k).established with
  | true =>
    rw [cond_true]
    refine ⟨.connected k rfl (h.moves _) hest, fun _ _ => rfl, late_congr ?_ rfl⟩
    rw [hphase]
    rfl
  | false =>
    rw [cond_false]
    have hacks := h.unanswered hest
    refine ⟨.trying k ?_ (h.moves _), fun _ _ => rfl, iff_of_false (fun hl => hl.2 hacks) (fun hl => hl.2 hacks)⟩
    dsimp only
    unfold afterLook
    split
    · exact .inr (.inl ⟨n, w + 1, rfl⟩)
    split
    · exact .inl ⟨n + 1, rfl⟩
    · exact .inr (.inr rfl)

theorem dispatched_expired (hphase : R.phase = .expired) (h : Trying a R k) : Dispatched a R (R.dispatch a) := by
  have hclear : (R.service.connectTimedOut a.i a.fd).vtcp = R.service.vtcp.setConn k {} := by
    show R.service.vtcp.connectTimedOut (R.service.owns a.i) a.fd = _
    rw [VTcp.connectTimedOut, h.find]
  have hat : (R.service.connectTimedOut a.i a.fd).vtcp.conns k = {} := by
    rw [hclear]
    exact Function.update_self _ _ _
  have hother : ∀ j, j ≠ k → (R.service.connectTimedOut a.i a.fd).vtcp.conns j = R.service.vtcp.conns j := fun j hj => by
    rw [hclear]
    exact Function.update_of_ne hj _ _
  rw [dispatch_expired hphase]
  refine ⟨.timedOut k rfl h.slot (by rw [hat]) (fun j hj hfd => ?_), fun j hj => hother j ?_, late_congr ?_ rfl⟩
  · -- the only entry under the descriptor was the one cleared
    by_cases hjk : j = k
    · rw [hjk, hat] at hj
      cases hj
    · rw [hother j hjk] at hj hfd
      exact hjk (h.only j hj hfd)
  · rintro rfl
    exact hj h.slot
  · rw [hphase]
    rfl

/-- **Every step of the dispatch thread** keeps the invariant and the other entries, and makes no run late. -/
theorem dispatched (h : Inv a R) : Dispatched a R (R.dispatch a) := by
  have hsame : R.dispatch a = R → Dispatched a R (R.dispatch a) := fun he => by
    rw [he]
    exact ⟨h, fun _ _ => rfl, Iff.rfl⟩
  cases id h with
  | unopened hphase hslot hacks hfree =>
    rcases hphase with hphase | ⟨hphase, hup⟩ | hphase | hphase
    · exact dispatched_called hphase hslot hacks hfree
    · exact dispatched_opening hphase hup hslot hacks hfree
    · exact hsame (dispatch_returned hphase)
    · exact hsame (dispatch_returned hphase)
  | trying k hphase h =>
    rcases hphase with ⟨n, hphase⟩ | ⟨n, w, hphase⟩ | hphase
    · exact dispatched_sending hphase h
    · exact dispatched_waiting hphase h
    · exact dispatched_expired hphase h
  | connected k hphase h hest => exact hsame (dispatch_returned hphase)
  | timedOut k hphase hslot hunused hfree => exact hsame (dispatch_returned hphase)

/-! ### Runs -/

theorem inv_step (h : Inv a R) (op : Op) : Inv a (step a R op) := by
  cases op with
  | dispatch => exact (dispatched h).inv
  | segment ourIsn m => exact inv_segment h ourIsn m
  | retransmits now => exact inv_retransmits h now

/-- **A run becomes late by a SYN-ACK handled after the last look**, and stays late. -/
theorem late_step (h : Inv a R) (op : Op) : Late (step a R op) ↔ Late R ∨ ¬ InTime R op := by
  cases op with
  | dispatch => exact (dispatched h).late.trans (or_iff_left (fun hn => hn trivial)).symm
  | retransmits now => exact (or_iff_left (fun hn => hn trivial)).symm
  | segment ourIsn m =>
    by_cases hm : R.completes m = true
    · obtain ⟨k, htrying, hwaits, hphase⟩ := trying_of_completes h hm
      obtain ⟨hcompleted, hest⟩ := htrying.completed ourIsn hm
      obtain ⟨ack, -, hacks, -⟩ := hcompleted.answered hest
      have hover : attemptsOver R.phase = true ↔ R.phase = .expired := by
        rcases hphase with ⟨n, hphase⟩ | ⟨n, w, hphase⟩ | hphase <;> simp [hphase, attemptsOver]
      have hlate : Late (step a R (.segment ourIsn m)) ↔ attemptsOver R.phase = true :=
        and_iff_left (by rw [hacks]; exact List.cons_ne_nil ack [])
      have hbefore : ¬ Late R := fun hl => hl.2 (htrying.unanswered hwaits)
      have hin : ¬ InTime R (.segment ourIsn m) ↔ R.phase = .expired := by
        rw [InTime, hm, Classical.not_imp]
        exact and_iff_left Bool.noConfusion
      rw [hlate, hover, hin, or_iff_right hbefore]
    · rw [Bool.not_eq_true] at hm
      rw [step_segment ourIsn hm, or_iff_left (fun hn => hn (fun _ => hm))]
      exact Iff.rfl

theorem agrees_of_not_late (h : Inv a R) (hl : ¬ Late R) : Agrees a R := by
  constructor
  · intro e hret hne
    cases h with
    | unopened hphase hslot hacks hfree => exact ⟨hacks, hfree⟩
    | trying k hphase h =>
      rcases hphase with ⟨n, hphase⟩ | ⟨n, w, hphase⟩ | hphase <;> cases hphase.symm.trans hret
    | connected k hphase h hest =>
      cases hphase.symm.trans hret
      exact absurd rfl hne
    | timedOut k hphase hslot hunused hfree =>
      have hover : attemptsOver R.phase = true := by rw [hphase]; rfl
      exact ⟨not_not.1 (fun hacks => hl ⟨hover, hacks⟩), hfree⟩
  · intro hret
    cases h with
    | unopened hphase hslot hacks hfree =>
      rcases hphase with hphase | ⟨hphase, -⟩ | hphase | hphase <;> cases hphase.symm.trans hret
    | trying k hphase h =>
      rcases hphase with ⟨n, hphase⟩ | ⟨n, w, hphase⟩ | hphase <;> cases hphase.symm.trans hret
    | connected k hphase h hest => exact ⟨h.answered hest, k, h.find, hest⟩
    | timedOut k hphase hslot hunused hfree => cases hphase.symm.trans hret

theorem not_late_of_agrees {e : Errno} (hret : R.phase = .returned e) (h : Agrees a R) : ¬ Late R := by
  rintro ⟨hover, hacks⟩
  rw [hret] at hover
  cases e with
  | ETIMEDOUT => exact hacks (h.failed .ETIMEDOUT hret Errno.noConfusion).1
  | _ => cases hover

/-- **A `Connect` on a descriptor no entry has agrees with its peer exactly if** no SYN-ACK it waits for is handled between its last
look and the cleanup, whatever the drain thread does; the other entries are never touched. -/
theorem agrees_iff {S : Service} (hfree : FdFree S a.fd) {ops : List Op} {e : Errno}
    (hret : (Runs.run (step a) (start S) ops).phase = .returned e) :
    Agrees a (Runs.run (step a) (start S) ops) ∧ Runs.AllOk (step a) (LeavesOthers a) (start S) ops ↔
      Runs.AllOk (step a) InTime (start S) ops := by
  have hstart := inv_start (a := a) hfree
  have hkeep : ∀ R op, Inv a R → Inv a (step a R op) := fun _ op h => inv_step h op
  have hlate : Late (Runs.run (step a) (start S) ops) ↔ ¬ Runs.AllOk (step a) InTime (start S) ops := by
    rw [Runs.run_iff_not_allOk hkeep (fun R op h => late_step h op) ops hstart]
    exact or_iff_right (fun hl => hl.2 rfl)
  have hothers : Runs.AllOk (step a) (LeavesOthers a) (start S) ops := by
    refine Runs.allOk_of_keeps hkeep (fun R op h => ?_) ops hstart
    cases op with
    | dispatch => exact (dispatched h).others
    | segment ourIsn m => trivial
    | retransmits now => trivial
  constructor
  · rintro ⟨hagrees, -⟩
    exact not_not.1 (fun hn => not_late_of_agrees hret hagrees (hlate.2 hn))
  · intro hin
    have hnot : ¬ Late (Runs.run (step a) (start S) ops) := fun hl => hlate.1 hl hin
    exact ⟨agrees_of_not_late (Runs.run_keeps hkeep ops hstart) hnot, hothers⟩

end Invariant

/-! ## A SYN-ACK after the last look -/

/-- A station with its control socket and a TCP socket. -/
def stationSession : List Service.Op :=
  [.create, .socket 0 SOCK_DGRAM 3, .bind 0 3 ldnControlPort 0x0A0D0002 true, .socket 0 SOCK_STREAM 4]

def stationConnect : ConnectCall where
  i := 0
  fd := 4
  dstIp := 0x0A0D0001
  dstPort := ldnControlPort
  localIp := 0x0A0D0002
  ourIsn := 100
  relayUp := true

/-- The host's SYN-ACK. -/
def hostSynAck : Op := .segment 0 ⟨0x0A0D0001, ldnControlPort, ldnControlPort, 500, 101, TCP_SYN ||| TCP_ACK, []⟩

/-- The dispatch thread alone up to the end of its attempts. -/
def allAttempts : List Op := List.replicate 158 .dispatch

theorem agrees_iff_at_once : (Agrees stationConnect (Runs.run (step stationConnect) (start (Service.run {} stationSession))
      [.dispatch, .dispatch, .dispatch, hostSynAck, .dispatch]) ∧
    Runs.AllOk (step stationConnect) (LeavesOthers stationConnect) (start (Service.run {} stationSession))
      [.dispatch, .dispatch, .dispatch, hostSynAck, .dispatch]) ↔
    Runs.AllOk (step stationConnect) InTime (start (Service.run {} stationSession))
      [.dispatch, .dispatch, .dispatch, hostSynAck, .dispatch] :=
  agrees_iff (e := .none) (fun k hk => by cases hk) (by decide +kernel)

theorem acked_and_timedOut : (Runs.run (step stationConnect) (start (Service.run {} stationSession))
      (allAttempts ++ [hostSynAck, .dispatch])).phase = .returned .ETIMEDOUT ∧
    (Runs.run (step stationConnect) (start (Service.run {} stationSession))
      (allAttempts ++ [hostSynAck, .dispatch])).finalAcks.length = 1 := by
  decide +kernel

/-- **The SYN-ACK of the host comes after the station's last look**: the station has sent the final ACK, and `Connect` answers
ETIMEDOUT. -/
theorem synAck_before_cleanup : Console.Reached (Service.run {} stationSession) ∧ FdFree (Service.run {} stationSession) 4 ∧
    (Runs.run (step stationConnect) (start (Service.run {} stationSession))
      (allAttempts ++ [hostSynAck, .dispatch])).phase = .returned .ETIMEDOUT ∧
    (Runs.run (step stationConnect) (start (Service.run {} stationSession))
      (allAttempts ++ [hostSynAck, .dispatch])).finalAcks.length = 1 ∧
    ¬ Agrees stationConnect (Runs.run (step stationConnect) (start (Service.run {} stationSession))
      (allAttempts ++ [hostSynAck, .dispatch])) := by
  obtain ⟨hphase, hacks⟩ := acked_and_timedOut
  refine ⟨Service.reachable_run _ .init (by decide +kernel), fun k hk => (by cases hk), hphase, hacks, fun h => ?_⟩
  rw [(h.failed .ETIMEDOUT hphase Errno.noConfusion).1] at hacks
  cases hacks

end ConnectRun
end Slp
