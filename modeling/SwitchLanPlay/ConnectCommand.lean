import SwitchLanPlay.ConnectRace
/-!
# ConnectCommand — the command `Connect` as a run of its steps

The virtual `Connect` of `Commands` drains the relay's queue itself at every wait.  It is the run of `ConnectRun` in which no other
thread takes a step (`connectVirtual_run`), and so never late: on a descriptor no entry has, its result agrees with its peer
(`connectVirtual_agrees`).
-/
namespace Slp

open Wire

namespace ConnectRun

open Console (waitsPerAttempt maxConnectAttempts)

section Command

variable {a : ConnectCall}

/-- **In every state of a run in time the result agrees.** -/
theorem agrees_of_inTime {S : Service} (hfree : FdFree S a.fd) {R : ConnectRun}
    (h : Runs.Reachable (step a) InTime (start S) R) : Agrees a R := by
  have hinv : Inv a R ∧ ¬ Late R := by
    refine h.keeps (P := fun R => Inv a R ∧ ¬ Late R) ⟨inv_start hfree, fun hl => hl.2 rfl⟩ (fun R op hR hin => ?_)
    refine ⟨inv_step hR.1 op, fun hl => ?_⟩
    rcases (late_step hR.1 op).1 hl with hl | hn
    · exact hR.2 hl
    · exact hn hin
  exact agrees_of_not_late hinv.1 hinv.2

/-- A run goes from one state to another in time, sends the segments, and leaves the service and the phase. -/
def Goes (a : ConnectCall) (R : ConnectRun) (S : Service) (segs : List Segment) (phase : ConnectPhase) : Prop :=
  ∃ R', Runs.Reachable (step a) InTime R R' ∧ R'.service = S ∧ R'.sent = R.sent ++ segs ∧ R'.phase = phase

theorem Goes.refl (a : ConnectCall) (R : ConnectRun) : Goes a R R.service [] R.phase :=
  ⟨R, .init, rfl, (List.append_nil _).symm, rfl⟩

theorem Goes.step {R : ConnectRun} (op : Op) (hin : InTime R op) {segs : List Segment}
    (hsent : (ConnectRun.step a R op).sent = R.sent ++ segs) :
    Goes a R (ConnectRun.step a R op).service segs (ConnectRun.step a R op).phase :=
  ⟨ConnectRun.step a R op, .single op hin, rfl, hsent, rfl⟩

theorem goes_dispatch {R R' : ConnectRun} (h : R.dispatch a = R') (hsent : R'.sent = R.sent) :
    Goes a R R'.service [] R'.phase :=
  ⟨R', h ▸ .single Op.dispatch trivial, rfl, by rw [hsent, List.append_nil], rfl⟩

theorem Goes.trans {R : ConnectRun} {S S' : Service} {segs segs' : List Segment} {phase phase' : ConnectPhase}
    (h : Goes a R S segs phase)
    (h' : ∀ R' : ConnectRun, R'.service = S → R'.phase = phase → Goes a R' S' segs' phase') :
    Goes a R S' (segs ++ segs') phase' := by
  obtain ⟨R', hreach, hservice, hsent, hphase⟩ := h
  obtain ⟨R'', hreach', hservice', hsent', hphase'⟩ := h' R' hservice hphase
  exact ⟨R'', hreach.trans hreach', hservice', by rw [hsent', hsent, List.append_assoc], hphase'⟩

theorem goes_drainPacket {C : Console} {R : ConnectRun} (hC : R.service = C.service) (hphase : R.phase ≠ .expired)
    (ourIsn : UInt32) (pkt : Bytes) :
    Goes a R (C.drainPacket ourIsn pkt).1.service (C.drainPacket ourIsn pkt).2 R.phase := by
  have hrefl : Goes a R C.service [] R.phase := hC ▸ Goes.refl a R
  unfold Console.drainPacket
  split
  · exact hrefl
  dsimp only
  split
  · exact hrefl
  split
  · exact hrefl
  split
  · exact hrefl
  · rename_i m hm
    rw [← hC]
    exact Goes.step (.segment ourIsn m) (fun he => absurd he hphase) rfl

theorem goes_drainPackets : ∀ (popped : List (UInt32 × Bytes)) {C : Console} {R : ConnectRun}, R.service = C.service →
    R.phase ≠ .expired → Goes a R (C.drainPackets popped).1.service (C.drainPackets popped).2 R.phase
  | [], _, R, hC, _ => hC ▸ Goes.refl a R
  | (ourIsn, pkt) :: rest, C, R, hC, hphase => by
    refine (goes_drainPacket hC hphase ourIsn pkt).trans (fun R' hservice hphase' => ?_)
    rw [← hphase'] at hphase ⊢
    exact goes_drainPackets rest hservice hphase

/-- **A drain of the dispatch thread itself is a run of the drain steps.** -/
theorem goes_drain {C : Console} {R : ConnectRun} (hC : R.service = C.service) (hphase : R.phase ≠ .expired) (d : Drained) :
    Goes a R (C.drainRawRelayQueue d).1.service (C.drainRawRelayQueue d).2 R.phase := by
  have hret : Goes a R (C.service.drainRetransmits d.now).1 (C.service.drainRetransmits d.now).2 R.phase := by
    rw [← hC]
    exact Goes.step (.retransmits d.now) trivial rfl
  refine hret.trans (fun R' hservice hphase' => ?_)
  rw [← hphase'] at hphase ⊢
  exact goes_drainPackets (C := { C with service := (C.service.drainRetransmits d.now).1 }) d.popped hservice hphase

/-- A look at the call's entry. -/
theorem goes_look {C : Console} {R : ConnectRun} (hC : R.service = C.service) {n w : Nat} (hphase : R.phase = .waiting n w) :
    Goes a R C.service [] (bif C.isEstablished a.i a.fd then .returned .none else afterLook n w) := by
  have hgoes := goes_dispatch (a := a) (dispatch_waiting hphase) rfl
  rw [hC] at hgoes
  exact hgoes

/-- The phase the last look of an attempt leaves. -/
def afterAttempt (attempt : Nat) : ConnectPhase :=
  if attempt + 1 < maxConnectAttempts then .sending (attempt + 1) else .expired

theorem goes_waits (waits : Nat → Drained) : ∀ (n : Nat) {w j attempt : Nat} {C : Console} {R : ConnectRun},
    R.service = C.service → R.phase = .waiting attempt w → w + (n + 1) = waitsPerAttempt →
    Goes a R (Console.connectWaits a.i a.fd waits (n + 1) j C).1.service
      (Console.connectWaits a.i a.fd waits (n + 1) j C).2.1
      (bif (Console.connectWaits a.i a.fd waits (n + 1) j C).2.2 then .returned .none else afterAttempt attempt)
  | n, w, j, attempt, C, R, hC, hphase, hn => by
    have hdrain := goes_drain (a := a) hC (by rw [hphase]; exact ConnectPhase.noConfusion) (waits j)
    rw [hphase] at hdrain
    have hgoes := hdrain.trans (fun R' hservice hphase' => goes_look (a := a) hservice hphase')
    rw [List.append_nil] at hgoes
    cases hest : (C.drainRawRelayQueue (waits j)).1.isEstablished a.i a.fd with
    | true =>
      have hwaits : Console.connectWaits a.i a.fd waits (n + 1) j C =
          ((C.drainRawRelayQueue (waits j)).1, (C.drainRawRelayQueue (waits j)).2, true) := by
        rw [Console.connectWaits]
        exact if_pos hest
      rw [hwaits]
      rw [hest] at hgoes
      exact hgoes
    | false =>
      have hwaits : Console.connectWaits a.i a.fd waits (n + 1) j C =
          ((Console.connectWaits a.i a.fd waits n (j + 1) (C.drainRawRelayQueue (waits j)).1).1,
            (C.drainRawRelayQueue (waits j)).2 ++
              (Console.connectWaits a.i a.fd waits n (j + 1) (C.drainRawRelayQueue (waits j)).1).2.1,
            (Console.connectWaits a.i a.fd waits n (j + 1) (C.drainRawRelayQueue (waits j)).1).2.2) := by
        have hnot : ¬ (C.drainRawRelayQueue (waits j)).1.isEstablished a.i a.fd = true := by
          rw [hest]
          exact Bool.false_ne_true
        rw [Console.connectWaits]
        exact if_neg hnot
      rw [hwaits]
      rw [hest, cond_false] at hgoes
      cases n with
      | zero =>
        rw [afterLook, if_neg (by omega)] at hgoes
        rw [Console.connectWaits, List.append_nil]
        exact hgoes
      | succ n =>
        rw [afterLook, if_pos (by omega)] at hgoes
        exact hgoes.trans (fun R' hservice hphase' => goes_waits waits n hservice hphase' (by omega))

theorem goes_attempts (waits : Nat → Drained) : ∀ (n : Nat) {j attempt : Nat} {C : Console} {R : ConnectRun},
    R.service = C.service → R.phase = .sending attempt → attempt + (n + 1) = maxConnectAttempts →
    Goes a R
      (Console.connectAttempts a.i a.fd (VTcp.synSegment a.localIp a.dstIp a.dstPort a.ourIsn) waits (n + 1) j C).1.service
      (Console.connectAttempts a.i a.fd (VTcp.synSegment a.localIp a.dstIp a.dstPort a.ourIsn) waits (n + 1) j C).2.1
      (bif (Console.connectAttempts a.i a.fd (VTcp.synSegment a.localIp a.dstIp a.dstPort a.ourIsn) waits (n + 1) j C).2.2
        then .returned .none else .expired)
  | n, j, attempt, C, R, hC, hphase, hn => by
    have hsyn : Goes a R C.service (C.service.sendSegments [VTcp.synSegment a.localIp a.dstIp a.dstPort a.ourIsn])
        (.waiting attempt 0) := by
      rw [← hC]
      exact ⟨R.dispatch a, .single Op.dispatch trivial, by rw [dispatch_sending hphase], by rw [dispatch_sending hphase],
        by rw [dispatch_sending hphase]⟩
    have hgoes := hsyn.trans (fun R' hservice hphase' =>
      goes_waits (a := a) waits 24 (j := j) (C := C) hservice hphase' rfl)
    rw [Console.connectAttempts]
    change Goes a R (Console.connectWaits a.i a.fd waits waitsPerAttempt j C).1.service
      (_ ++ (Console.connectWaits a.i a.fd waits waitsPerAttempt j C).2.1)
      (bif (Console.connectWaits a.i a.fd waits waitsPerAttempt j C).2.2 then _ else _) at hgoes
    generalize Console.connectWaits a.i a.fd waits waitsPerAttempt j C = r at hgoes
    obtain ⟨C', segs, established⟩ := r
    cases established with
    | true => exact hgoes
    | false =>
      dsimp only [cond_false] at hgoes ⊢
      cases n with
      | zero =>
        rw [afterAttempt, if_neg (by omega)] at hgoes
        rw [Console.connectAttempts, List.append_nil]
        exact hgoes
      | succ n =>
        rw [afterAttempt, if_pos (by omega)] at hgoes
        exact hgoes.trans (fun R' hservice hphase' => goes_attempts waits n hservice hphase' (by omega))

/-- The call of a command. -/
def callOf (i : Nat) (s : Instance) (env : Env) (fd : Int) (dstIp : UInt32) (dstPort : UInt16) : ConnectCall where
  i := i
  fd := fd
  dstIp := dstIp
  dstPort := dstPort
  localIp := s.bridgedLocalIp
  ourIsn := env.ourIsn
  relayUp := env.relayUp

section Virtual

variable {C : Console} {i : Nat} {s : Instance} {env : Env} {fd : Int} {dstIp : UInt32} {dstPort : UInt16} {S' : Service}

theorem connectVirtual_down (hs : C.service.instance? i = some s)
    (hgate : (s.getTrackedType fd == SOCK_STREAM && dstPort == ldnControlPort) = true)
    (hup : C.service.ensureRelayConnected env.relayUp = (S', false)) :
    C.connectVirtual i s env fd dstIp dstPort = { console := C.setService S', reply := .ofErrno (-1) Errno.EIO } := by
  simp only [Console.connectVirtual, Service.connect, hs, hgate, if_true, hup]

theorem connectVirtual_full (hs : C.service.instance? i = some s)
    (hgate : (s.getTrackedType fd == SOCK_STREAM && dstPort == ldnControlPort) = true)
    (hup : C.service.ensureRelayConnected env.relayUp = (S', true)) (hk : S'.vtcp.allocVTcpConn (S'.owns i) = none) :
    C.connectVirtual i s env fd dstIp dstPort = { console := C.setService S', reply := .ofErrno (-1) .ENOBUFS } := by
  simp only [Console.connectVirtual, Service.connect, hs, hgate, if_true, hup, VTcp.connect, hk, Option.map_none]

theorem connectVirtual_opened (hs : C.service.instance? i = some s)
    (hgate : (s.getTrackedType fd == SOCK_STREAM && dstPort == ldnControlPort) = true)
    (hup : C.service.ensureRelayConnected env.relayUp = (S', true)) {k : Fin maxVTcpConns}
    (hk : S'.vtcp.allocVTcpConn (S'.owns i) = some k) {r : Console × List Segment × Bool}
    (hr : Console.connectAttempts i fd (VTcp.synSegment s.bridgedLocalIp dstIp dstPort env.ourIsn) env.waits maxConnectAttempts 0
      (C.setService (opened S' (callOf i s env fd dstIp dstPort) k)) = r) :
    C.connectVirtual i s env fd dstIp dstPort =
      if r.2.2 then { console := r.1, reply := .ofErrno 0 .none, segs := r.2.1 }
      else
        { console := r.1.setService (r.1.service.connectTimedOut i fd)
          reply := .ofErrno (-1) .ETIMEDOUT
          segs := r.2.1 } := by
  subst hr
  simp only [Console.connectVirtual, Service.connect, hs, hgate, if_true, hup, VTcp.connect, hk, Option.map_some]
  rfl

/-- **The command is the run in which no other thread takes a step.** -/
theorem connectVirtual_run (hs : C.service.instance? i = some s) (env : Env) (dstIp : UInt32)
    (hgate : (s.getTrackedType fd == SOCK_STREAM && dstPort == ldnControlPort) = true) :
    ∃ e, (C.connectVirtual i s env fd dstIp dstPort).reply.err = Errno.code e ∧
      Goes (callOf i s env fd dstIp dstPort) (start C.service) (C.connectVirtual i s env fd dstIp dstPort).console.service
        (C.connectVirtual i s env fd dstIp dstPort).segs (.returned e) := by
  have hcalled : Goes (callOf i s env fd dstIp dstPort) (start C.service)
      (C.service.ensureRelayConnected env.relayUp).1 []
      (if (C.service.ensureRelayConnected env.relayUp).2 then .opening else .returned Errno.EIO) :=
    goes_dispatch rfl rfl
  cases hup : C.service.ensureRelayConnected env.relayUp with
  | mk S' up =>
  rw [hup] at hcalled
  cases up with
  | false =>
    rw [connectVirtual_down hs hgate hup]
    exact Exists.intro Errno.EIO ⟨rfl, hcalled⟩
  | true =>
    dsimp only at hcalled
    rw [if_pos rfl] at hcalled
    cases hk : S'.vtcp.allocVTcpConn (S'.owns i) with
    | none =>
      rw [connectVirtual_full hs hgate hup hk]
      have hfull : Goes (callOf i s env fd dstIp dstPort) (start C.service) S' ([] ++ []) (.returned .ENOBUFS) :=
        hcalled.trans (fun R hservice hphase => hservice ▸ goes_dispatch (dispatch_full hphase (by rw [hservice]; exact hk)) rfl)
      exact ⟨.ENOBUFS, rfl, hfull⟩
    | some k =>
      have hopened : Goes (callOf i s env fd dstIp dstPort) (start C.service)
          (opened S' (callOf i s env fd dstIp dstPort) k) ([] ++ []) (.sending 0) :=
        hcalled.trans (fun R hservice hphase => hservice ▸ goes_dispatch (dispatch_opening hphase (by rw [hservice]; exact hk)) rfl)
      obtain ⟨r, hr⟩ : ∃ r, Console.connectAttempts i fd (VTcp.synSegment s.bridgedLocalIp dstIp dstPort env.ourIsn) env.waits
        maxConnectAttempts 0 (C.setService (opened S' (callOf i s env fd dstIp dstPort) k)) = r := ⟨_, rfl⟩
      have hattempts : Goes (callOf i s env fd dstIp dstPort) (start C.service) r.1.service ([] ++ [] ++ r.2.1)
          (bif r.2.2 then .returned .none else .expired) := by
        rw [← hr]
        exact hopened.trans (fun R hservice hphase => goes_attempts env.waits 5
          (C := C.setService (opened S' (callOf i s env fd dstIp dstPort) k)) hservice hphase rfl)
      rw [connectVirtual_opened hs hgate hup hk hr]
      obtain ⟨C', segs, established⟩ := r
      cases established with
      | true => exact ⟨.none, rfl, hattempts⟩
      | false =>
        have hcleanup : Goes (callOf i s env fd dstIp dstPort) (start C.service) (C'.service.connectTimedOut i fd)
            ([] ++ [] ++ segs ++ []) (.returned .ETIMEDOUT) :=
          hattempts.trans (fun R hservice hphase => hservice ▸ goes_dispatch (dispatch_expired hphase) rfl)
        rw [List.append_nil] at hcleanup
        exact ⟨.ETIMEDOUT, rfl, hcleanup⟩

/-- **A `Connect` no other thread interrupts agrees with its peer.** -/
theorem connectVirtual_agrees (hs : C.service.instance? i = some s)
    (hgate : (s.getTrackedType fd == SOCK_STREAM && dstPort == ldnControlPort) = true) (hfree : FdFree C.service fd) :
    ∃ (e : Errno) (R : ConnectRun), (C.connectVirtual i s env fd dstIp dstPort).reply.err = e.code ∧
      R.phase = .returned e ∧ R.service = (C.connectVirtual i s env fd dstIp dstPort).console.service ∧
      R.sent = (C.connectVirtual i s env fd dstIp dstPort).segs ∧ Agrees (callOf i s env fd dstIp dstPort) R := by
  obtain ⟨e, herr, R, hreach, hservice, hsent, hphase⟩ := connectVirtual_run hs env dstIp hgate
  exact ⟨e, R, herr, hphase, hservice, hsent, agrees_of_inTime hfree hreach⟩

end Virtual

end Command

end ConnectRun
end Slp
