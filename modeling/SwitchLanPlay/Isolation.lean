import SwitchLanPlay.Forwarding
/-!
# Isolation — what an instance that does not own the virtual TCP state can do to it

The look-ups of the virtual TCP state refuse an instance other than the owner.  `Listen` does not ask: it takes over the
listener's descriptor when the caller has bound a TCP socket to the control port itself.  A `Connect` of such an instance
to the control port is answered without a slot to be had instead of being forwarded, and `Poll` turns the real service's
failure into an empty result.  Every other command is transparent (`isolated_iff`).
-/
namespace Slp

open Wire

namespace Service

variable {S : Service} {i : Nat} (hown : S.owns i = false)

include hown

theorem findVTcpConnByFd_stranger (fd : Int) : S.vtcp.findVTcpConnByFd (S.owns i) fd = none := by
  rw [hown]
  rfl

theorem isOwnTcpListenFd_stranger (fd : Int) : S.vtcp.isOwnTcpListenFd (S.owns i) fd = false := by
  rw [hown]
  rfl

theorem isSynthetic_stranger (fd : Int) : S.isSynthetic i fd = false := by
  rw [isSynthetic, findVTcpConnByFd_stranger hown]
  rfl

theorem close_stranger_vtcp (fd : Int) : (S.close i fd).1.vtcp = S.vtcp := by
  unfold close
  rw [hown]
  split
  · rfl
  · dsimp only
    split
    · rfl
    · rw [unbridge_vtcp]
      rfl

theorem sendTo_stranger_vtcp (fd : Int) (buf : Bytes) (ok relayOk : Bool) (now : UInt64) :
    (S.sendTo i fd buf ok relayOk now).1.vtcp = S.vtcp := by
  have hvtcp := S.ensureRelayConnected_vtcp ok
  unfold sendTo
  rw [findVTcpConnByFd_stranger hown]
  split
  · rfl
  dsimp only
  split
  · generalize S.ensureRelayConnected ok = r at hvtcp
    obtain ⟨S', connected⟩ := r
    cases connected with
    | false => exact hvtcp
    | true =>
      simp only at hvtcp ⊢
      split <;> exact hvtcp
  · rfl

end Service

/-- The arrays and the listener are the same in two virtual TCP states. -/
structure SameTables (t t' : VTcp) : Prop where
  conns : t'.conns = t.conns
  pendingAccepts : t'.pendingAccepts = t.pendingAccepts
  tcpListenFd : t'.tcpListenFd = t.tcpListenFd

theorem SameTables.of_eq {t t' : VTcp} (h : t' = t) : SameTables t t' := by
  subst h
  exact ⟨rfl, rfl, rfl⟩

/-- A poll result for `n` descriptors: the count of the ones reported on, or -1. -/
structure Answer.ValidPoll (n : Nat) (ans : Answer) : Prop where
  length : ans.pollfds.length = n
  ret : ans.ret = ans.pollfds.countP (fun p => p.revents != 0) ∨ ans.ret = -1 ∧ ∀ p ∈ ans.pollfds, p.revents = 0

/-- A poll result reports what the real service does for every descriptor but the bridged one. -/
structure PollsReal (s : Instance) (polled : List PollFd) (ans reply : Answer) : Prop where
  rc : reply.rc = ans.rc
  err : reply.err = ans.err
  failed : reply.ret < 0 ↔ ans.ret < 0
  revents : ∀ (j : Nat) (p : PollFd), polled[j]? = some p → p.fd ≠ s.bridgedFd →
    (reply.pollfds[j]?).map PollFd.revents = (ans.pollfds[j]?).map PollFd.revents
  ret : (∀ p ∈ polled, p.fd ≠ s.bridgedFd) → reply.ret = ans.ret

namespace Console

section Statement

variable (C : Console) (i : Nat) (s : Instance) (env : Env)

/-- The state after the relay draining a command starts with. -/
def drainedFor : Command → Console
  | .poll _ _ _ _ | .select _ _ _ _ _ _ _ _ | .recvFrom _ _ _ _ => (C.drainRawRelayQueue env.drained).1
  | _ => C

/-- A select result is the real service's, with the bridged descriptor injected. -/
def SelectsReal (readOut : Nat) (ans reply : Answer) : Prop :=
  let injected := C.injectReadfd i s readOut (ans.readfds, ans.ret) s.bridgedFd
  reply = { ans with readfds := injected.1, ret := injected.2 }

/-- The reply is the forwarded one, or the relay's for the instance's own bridged descriptor. -/
def RepliesReal (o : Outcome) : Command → Prop
  | .sendTo fd flags buffer addr =>
    if s.isBridged fd then o.requests = [] ∧ o.reply = (C.sendToRelay i s env fd buffer addr).reply
    else o.requests = [.sendTo fd flags buffer addr] ∧ o.reply = env.real (.sendTo fd flags buffer addr)
  | .recvFrom fd flags buffer addrOut =>
    if s.isBridged fd then
      o.requests = [] ∧ o.reply = ((C.drainRawRelayQueue env.drained).1.recvFromRelay s env buffer addrOut).reply
    else o.requests = [.recvFrom fd flags buffer addrOut] ∧ o.reply = env.real (.recvFrom fd flags buffer addrOut)
  | .poll fds fdsOut nfds timeout =>
    if pollWellShaped fds fdsOut nfds then
      let polled := fds.take nfds.toNat
      ∃ timeout', let r := Command.poll polled polled.length polled.length timeout'
        o.requests = [r] ∧ PollsReal s polled (env.real r) o.reply
    else o.requests = [.poll fds fdsOut nfds timeout] ∧ o.reply = env.real (.poll fds fdsOut nfds timeout)
  | .select nfds timeout readIn writeIn errorIn readOut writeOut errorOut =>
    if selectWellShaped nfds readIn readOut then
      ∃ timeout', let r := Command.select nfds timeout' ⟨selectWords nfds, readIn.has⟩ writeIn errorIn readOut writeOut errorOut
        o.requests = [r] ∧ (C.drainRawRelayQueue env.drained).1.SelectsReal i s readOut (env.real r) o.reply
    else
      let r := Command.select nfds timeout readIn writeIn errorIn readOut writeOut errorOut
      o.requests = [r] ∧ o.reply = env.real r
  | c => c ∈ o.requests ∧ o.reply = env.real c

/-- The command leaves the virtual TCP state as its draining does, and is answered from outside it. -/
structure Isolated (c : Command) : Prop where
  tables : SameTables (C.drainedFor env c).service.vtcp (C.command i env c).console.service.vtcp
  reply : C.RepliesReal i s env (C.command i env c) c

/-- The real poll of a stranger's descriptors is made and succeeds. -/
def PollSucceeds (fds : List PollFd) (nfds timeout : Int) : Prop :=
  let ans := env.real ((C.drainRawRelayQueue env.drained).1.pollRequest i s (fds.take nfds.toNat) timeout)
  nfds ≠ 0 ∧ ans.rc = 0 ∧ ans.ret ≠ -1

/-- The command neither takes over the listener nor is answered in the real service's place. -/
def KeepsOut : Command → Prop
  | .listen fd _ => 0 ≤ fd → fd = s.ldnTcpBindFd → fd = C.service.vtcp.tcpListenFd
  | .connect fd addr => connectsVirtually s fd addr = false
  | .poll fds fdsOut nfds timeout => pollWellShaped fds fdsOut nfds = true → C.PollSucceeds i s env fds nfds timeout
  | _ => True

end Statement

/-! ## Poll -/

section Poll

variable {s : Instance}

/-- **Each entry gets the real service's report for it**: those forwarded before it are counted. -/
theorem copyBack_at {synthetic : Int → Bool} {mask : Int → UInt16 → UInt16} : ∀ {ps outs : List PollFd} {j : Nat} {p : PollFd},
    ps[j]? = some p →
    (copyBack synthetic mask ps outs)[j]? = some { p with
      revents :=
        if synthetic p.fd then 0
        else mask p.fd ((outs[(ps.take j).countP (fun q => !synthetic q.fd)]?).getD {}).revents }
  | [], _, _, _, h => (by cases h)
  | q :: ps, outs, 0, p, h => by
    cases h
    rw [copyBack, List.take_zero, List.countP_nil]
    cases hsyn : synthetic q.fd <;> cases outs <;> simp
  | q :: ps, outs, j + 1, p, h => by
    rw [copyBack, List.take_succ_cons]
    cases hsyn : synthetic q.fd with
    | true =>
      have ih : (copyBack synthetic mask ps outs)[j]? = some _ := copyBack_at h
      rw [if_pos rfl, List.getElem?_cons_succ, ih, List.countP_cons_of_neg (by simp [hsyn])]
    | false =>
      have ih : (copyBack synthetic mask ps outs.tail)[j]? = some _ := copyBack_at h
      rw [if_neg (by simp), List.getElem?_cons_succ, ih, List.countP_cons_of_pos (by simp [hsyn]), List.getElem?_tail]

theorem copyBack_getElem? {mask : Int → UInt16 → UInt16} {ps outs : List PollFd} {j : Nat} {p : PollFd} (h : ps[j]? = some p) :
    (copyBack (fun _ => false) mask ps outs)[j]? = some { p with revents := mask p.fd ((outs[j]?).getD {}).revents } := by
  obtain ⟨hlt, -⟩ := List.getElem?_eq_some_iff.1 h
  have hall : (ps.take j).countP (fun _ => !false) = j := by
    rw [Bool.not_false, List.countP_true, List.length_take, Nat.min_eq_left (Nat.le_of_lt hlt)]
  rw [copyBack_at h, hall, if_neg (by simp)]

theorem mem_copyBack {mask : Int → UInt16 → UInt16} : ∀ {ps outs : List PollFd} {q : PollFd},
    q ∈ copyBack (fun _ => false) mask ps outs → ∃ p ∈ ps, q.fd = p.fd
  | [], _, _, h => (by cases h)
  | p :: ps, outs, q, h => by
    rw [copyBack, if_neg (by simp), List.mem_cons] at h
    obtain rfl | h := h
    · exact ⟨p, List.mem_cons_self, rfl⟩
    · obtain ⟨p', hp', he⟩ := mem_copyBack h
      exact ⟨p', List.mem_cons_of_mem p hp', he⟩

theorem countP_copyBack {mask : Int → UInt16 → UInt16} : ∀ {ps outs : List PollFd},
    (∀ p ∈ ps, ∀ r, mask p.fd r = r) → outs.length = ps.length →
    (copyBack (fun _ => false) mask ps outs).countP (fun p => p.revents != 0) = outs.countP (fun p => p.revents != 0)
  | [], [], _, _ => rfl
  | [], _ :: _, _, h => (by cases h)
  | _ :: _, [], _, h => (by cases h)
  | p :: ps, q :: outs, hm, h => by
    have ih : (copyBack (fun _ => false) mask ps outs).countP (fun p => p.revents != 0) =
        outs.countP (fun p => p.revents != 0) :=
      countP_copyBack (fun p' hp' => hm p' (List.mem_cons_of_mem p hp')) (Nat.succ.inj h)
    rw [copyBack, if_neg (by simp), List.countP_cons, List.countP_cons, List.tail_cons, ih, hm p List.mem_cons_self]
    rfl

theorem countP_copyBack_nil {mask : Int → UInt16 → UInt16} : ∀ {ps : List PollFd}, (∀ p ∈ ps, mask p.fd 0 = 0) →
    (copyBack (fun _ => false) mask ps []).countP (fun p => p.revents != 0) = 0
  | [], _ => rfl
  | p :: ps, hm => by
    have ih : (copyBack (fun _ => false) mask ps []).countP (fun p => p.revents != 0) = 0 :=
      countP_copyBack_nil (fun p' hp' => hm p' (List.mem_cons_of_mem p hp'))
    have hp := hm p List.mem_cons_self
    rw [copyBack, if_neg (by simp), List.countP_cons, List.tail_nil, ih]
    simp [hp]

theorem maskRevents_zero (s : Instance) (fd : Int) : maskRevents s fd 0 = 0 := by
  unfold maskRevents
  split
  · exact UInt16.zero_and
  · rfl

theorem maskRevents_of_ne {fd : Int} (h : fd ≠ s.bridgedFd) (r : UInt16) : maskRevents s fd r = r := by
  simp [maskRevents, h]

theorem injects_of_not_pending {pending : Int → Bool} {p : PollFd} (h : pending p.fd = false) : injects pending p = false := by
  simp [injects, h]

section Stranger

variable {C : Console} {i : Nat} (hown : C.service.owns i = false)

include hown

theorem vfdHasPendingRead_stranger {fd : Int} (h : fd ≠ s.bridgedFd) : C.vfdHasPendingRead i s fd = false := by
  unfold vfdHasPendingRead
  rw [Service.isOwnTcpListenFd_stranger hown, Service.findVTcpConnByFd_stranger hown, if_neg h]
  simp

theorem isSynthetic_fun : C.service.isSynthetic i = fun _ => false := by
  funext fd
  exact Service.isSynthetic_stranger hown fd

theorem pollRequest_stranger (polled : List PollFd) (timeout : Int) : ∃ timeout',
    C.pollRequest i s polled timeout = .poll polled polled.length polled.length timeout' := by
  have hall : polled.filter (fun p => !C.service.isSynthetic i p.fd) = polled := by
    refine List.filter_eq_self.2 (fun p _ => ?_)
    rw [Service.isSynthetic_stranger hown]
    rfl
  unfold pollRequest
  dsimp only
  rw [hall]
  exact ⟨_, rfl⟩

/-- The sizes of the two parts of a poll's count. -/
theorem pollReply_ret_of_unbridged {polled : List PollFd} {ans : Answer} (hv : ans.ValidPoll polled.length)
    (hret : ans.ret ≠ -1) (hfd : ∀ p ∈ polled, p.fd ≠ s.bridgedFd) : (C.pollReply i s polled ans).ret = ans.ret := by
  have hcount : ans.ret = ans.pollfds.countP (fun p => p.revents != 0) := by
    obtain h | h := hv.ret
    · exact h
    · exact absurd h.1 hret
  unfold pollReply
  dsimp only
  rw [isSynthetic_fun hown]
  have hinj : ∀ outs, (copyBack (fun _ => false) (maskRevents s) polled outs).countP (injects (C.vfdHasPendingRead i s)) =
      0 := by
    intro outs
    refine List.countP_eq_zero.2 (fun q hq => ?_)
    obtain ⟨p, hp, he⟩ := mem_copyBack hq
    rw [injects_of_not_pending (by rw [he]; exact vfdHasPendingRead_stranger hown (hfd p hp))]
    simp
  rw [hinj]
  by_cases hpos : 0 < ans.ret
  · rw [if_pos hpos, countP_copyBack (fun p hp => maskRevents_of_ne (hfd p hp)) hv.length, ← hcount]
    simp
  · rw [if_neg hpos, countP_copyBack_nil (fun p _ => maskRevents_zero s p.fd)]
    simp only [Int.natCast_zero]
    omega

theorem pollReply_revents {polled : List PollFd} {ans : Answer} (hv : ans.ValidPoll polled.length) (hret : ans.ret ≠ -1)
    {j : Nat} {p : PollFd} (hj : polled[j]? = some p) (hfd : p.fd ≠ s.bridgedFd) :
    ((C.pollReply i s polled ans).pollfds[j]?).map PollFd.revents = (ans.pollfds[j]?).map PollFd.revents := by
  have hcount : ans.ret = ans.pollfds.countP (fun p => p.revents != 0) := by
    obtain h | h := hv.ret
    · exact h
    · exact absurd h.1 hret
  obtain ⟨hlt, -⟩ := List.getElem?_eq_some_iff.1 hj
  obtain ⟨q, hq⟩ : ∃ q, ans.pollfds[j]? = some q := ⟨_, List.getElem?_eq_getElem (by rw [hv.length]; exact hlt)⟩
  unfold pollReply
  dsimp only
  have hno : ∀ r, injectPollin (C.vfdHasPendingRead i s) { p with revents := r } = { p with revents := r } := fun r => by
    have hpend : C.vfdHasPendingRead i s ({ p with revents := r } : PollFd).fd = false := vfdHasPendingRead_stranger hown hfd
    rw [injectPollin, injects_of_not_pending hpend, if_neg (by simp)]
  rw [isSynthetic_fun hown, List.getElem?_map, copyBack_getElem? hj, Option.map_some, hno, Option.map_some, hq,
    maskRevents_of_ne hfd, Option.map_some]
  by_cases hpos : 0 < ans.ret
  · rw [if_pos hpos, hq]
    rfl
  · -- a count of zero is one of empty reports
    have hzero : ans.pollfds.countP (fun p => p.revents != 0) = 0 := by omega
    have hq0 : q.revents = 0 := by simpa using List.countP_eq_zero.1 hzero q (List.mem_of_getElem? hq)
    rw [if_neg hpos, hq0]
    rfl

/-- **A stranger's poll reports what the real one reports** exactly when that one is dispatched and succeeds. -/
theorem pollsReal_iff {polled : List PollFd} {ans : Answer} (hv : ans.ValidPoll polled.length) :
    PollsReal s polled ans (C.pollReply i s polled ans) ↔ ans.rc = 0 ∧ ans.ret ≠ -1 := by
  have hnonneg : ¬ (C.pollReply i s polled ans).ret < 0 := by
    unfold pollReply
    dsimp only
    omega
  constructor
  · intro h
    refine ⟨h.rc.symm, fun hret => hnonneg (h.failed.2 ?_)⟩
    rw [hret]
    decide
  · rintro ⟨hrc, hret⟩
    refine ⟨hrc.symm, rfl, iff_of_false hnonneg ?_, fun j p hj hfd => pollReply_revents hown hv hret hj hfd,
      pollReply_ret_of_unbridged hown hv hret⟩
    obtain h | h := hv.ret
    · omega
    · exact absurd h.1 hret

end Stranger

end Poll

/-! ## The other commands -/

section Stranger

variable {C : Console} {i : Nat} {s : Instance} (hown : C.service.owns i = false) (env : Env)

include hown

theorem owns_drained : (C.drainRawRelayQueue env.drained).1.service.owns i = false := by
  unfold Service.owns
  rw [(C.drain_sameFds env.drained).activeLdnInstance]
  exact hown

theorem poll_isolated_iff (hpoll : ∀ fds timeout, (env.real (.poll fds fds.length fds.length timeout)).ValidPoll fds.length)
    (fds : List PollFd) (fdsOut : Nat) (nfds timeout : Int) :
    C.RepliesReal i s env (C.poll i s env fds fdsOut nfds timeout) (.poll fds fdsOut nfds timeout) ↔
      (pollWellShaped fds fdsOut nfds = true → C.PollSucceeds i s env fds nfds timeout) := by
  have hown' := owns_drained hown env
  unfold RepliesReal poll PollSucceeds
  dsimp only
  generalize (C.drainRawRelayQueue env.drained).1 = C' at hown'
  generalize (C.drainRawRelayQueue env.drained).2 = segs
  by_cases hw : pollWellShaped fds fdsOut nfds = true
  · rw [if_pos hw, if_neg (by simp [hw])]
    have hlen : (fds.take nfds.toNat).length = nfds.toNat := by
      simp only [pollWellShaped, Bool.and_eq_true, decide_eq_true_eq] at hw
      rw [List.length_take]
      omega
    have hnn : 0 ≤ nfds := by
      simp only [pollWellShaped, Bool.and_eq_true, decide_eq_true_eq] at hw
      exact hw.1.1.1
    generalize hpolled : fds.take nfds.toNat = polled at hlen
    obtain ⟨timeout', hreq⟩ := pollRequest_stranger (s := s) hown' polled timeout
    rw [isSynthetic_fun hown', hreq]
    cases polled with
    | nil =>
      have hzero : nfds = 0 := by
        rw [List.length_nil] at hlen
        omega
      refine iff_of_false ?_ (fun h => (h hw).1 hzero)
      rintro ⟨t, hr, -⟩
      simp at hr
    | cons p ps =>
      have hne : nfds ≠ 0 := by
        rw [List.length_cons] at hlen
        omega
      rw [if_neg (by simp)]
      constructor
      · rintro ⟨t, hr, hp⟩ -
        have ht : t = timeout' := by simpa using hr.symm
        rw [ht] at hp
        exact ⟨hne, (pollsReal_iff hown' (hpoll (p :: ps) timeout')).1 hp⟩
      · intro h
        exact ⟨timeout', rfl, (pollsReal_iff hown' (hpoll (p :: ps) timeout')).2 (h hw).2⟩
  · rw [if_neg hw, if_pos (by simp [hw])]
    exact iff_of_true ⟨rfl, rfl⟩ (fun h => absurd h hw)

theorem select_repliesReal (nfds : Int) (timeout : SelectTimeval) (readIn writeIn errorIn : FdSet)
    (readOut writeOut errorOut : Nat) :
    C.RepliesReal i s env (C.select i s env nfds timeout readIn writeIn errorIn readOut writeOut errorOut)
      (.select nfds timeout readIn writeIn errorIn readOut writeOut errorOut) := by
  have hown' := owns_drained hown env
  unfold RepliesReal select
  dsimp only
  generalize (C.drainRawRelayQueue env.drained).1 = C' at hown'
  generalize (C.drainRawRelayQueue env.drained).2 = segs
  by_cases hw : selectWellShaped nfds readIn readOut = true
  · rw [if_pos hw, if_neg (by simp [hw])]
    have hread : C'.forwardReadfds i nfds readIn = ⟨selectWords nfds, readIn.has⟩ := by
      unfold forwardReadfds
      congr 1
      funext fd
      rw [Service.isSynthetic_stranger hown', Bool.and_false, Bool.not_false, Bool.and_true]
    refine ⟨if (List.range nfds.toNat).any (fun fd => C'.vfdHasPendingRead i s fd) then ⟨0, 0, false⟩ else timeout, ?_, ?_⟩
    · rw [selectRequest, hread]
    · unfold SelectsReal selectReply injectedFds selectRequest
      rw [hown', hread]
      rfl
  · rw [if_neg hw, if_pos (by simp [hw])]
    exact ⟨rfl, rfl⟩

theorem sendTo_repliesReal (fd flags : Int) (buffer addr : Bytes) :
    C.RepliesReal i s env (C.sendTo i s env fd flags buffer addr) (.sendTo fd flags buffer addr) := by
  have hreq : (C.sendToRelay i s env fd buffer addr).requests = [] := by
    unfold sendToRelay
    dsimp only
    split
    · rfl
    · split <;> rfl
  unfold RepliesReal sendTo
  rw [Service.findVTcpConnByFd_stranger hown]
  dsimp only
  split
  · exact ⟨hreq, rfl⟩
  · exact ⟨rfl, rfl⟩

theorem recvFrom_repliesReal (fd flags : Int) (buffer addrOut : Nat) :
    C.RepliesReal i s env (C.recvFrom i s env fd flags buffer addrOut) (.recvFrom fd flags buffer addrOut) := by
  have hown' := owns_drained hown env
  unfold RepliesReal recvFrom
  dsimp only
  generalize (C.drainRawRelayQueue env.drained).1 = C' at hown'
  rw [Service.findVTcpConnByFd_stranger hown']
  dsimp only
  split <;> exact ⟨rfl, rfl⟩

theorem recvFrom_tables (fd flags : Int) (buffer addrOut : Nat) :
    (C.recvFrom i s env fd flags buffer addrOut).console.service.vtcp = (C.drainRawRelayQueue env.drained).1.service.vtcp := by
  have hown' := owns_drained hown env
  unfold recvFrom
  dsimp only
  generalize (C.drainRawRelayQueue env.drained).1 = C' at hown'
  rw [Service.findVTcpConnByFd_stranger hown']
  dsimp only
  split
  · unfold recvFromRelay
    generalize C'.controlQueue.recvFrom s.bridgedLocalPort buffer addrOut = r
    dsimp only
    split <;> rfl
  · rfl

theorem sendTo_tables (fd flags : Int) (buffer addr : Bytes) :
    (C.sendTo i s env fd flags buffer addr).console.service.vtcp = C.service.vtcp := by
  have hsend := Service.sendTo_stranger_vtcp hown fd buffer env.relayUp env.relayOk env.now
  unfold sendTo
  rw [Service.findVTcpConnByFd_stranger hown]
  dsimp only
  split
  · unfold sendToRelay
    dsimp only
    split
    · exact hsend
    · split <;> exact hsend
  · rfl

omit hown in
/-- What `Isolated` asks, of the handler that the command goes to. -/
theorem Isolated.of_handler (hs : C.service.instance? i = some s) {c : Command}
    (htables : SameTables (C.drainedFor env c).service.vtcp (C.commandOf i s env c).console.service.vtcp)
    (hreply : C.RepliesReal i s env (C.commandOf i s env c) c) : C.Isolated i s env c := by
  have hcmd : C.command i env c = C.commandOf i s env c := by rw [command, hs]
  constructor
  · rw [hcmd]
    exact htables
  · rw [hcmd]
    exact hreply

omit hown in
theorem connect_isolated_iff (hs : C.service.instance? i = some s) (fd : Int) (addr : Bytes) :
    C.Isolated i s env (.connect fd addr) ↔ connectsVirtually s fd addr = false := by
  have hcmd : C.command i env (.connect fd addr) = C.connect i s env fd addr := by
    rw [command, hs]
    rfl
  constructor
  · intro h
    by_contra hv
    have hmem := h.reply.1
    rw [hcmd, connect] at hmem
    simp only [Bool.not_eq_false] at hv
    simp only [hv, if_true, requests_connectVirtual] at hmem
    cases hmem
  · intro hv
    have hforward : C.connect i s env fd addr = env.forward C (.connect fd addr) := by
      rw [connect]
      simp [hv]
    apply Isolated.of_handler env hs
    · exact .of_eq (congrArg (fun o => o.console.service.vtcp) hforward)
    · show _ ∈ (C.connect i s env fd addr).requests ∧ (C.connect i s env fd addr).reply = _
      rw [hforward]
      exact ⟨List.mem_singleton_self _, rfl⟩

omit hown in
theorem listen_tcpListenFd (hs : C.service.instance? i = some s) (fd : Int) :
    (C.service.listen i fd).vtcp = { C.service.vtcp with
      tcpListenFd := if 0 ≤ fd ∧ fd = s.ldnTcpBindFd then fd else C.service.vtcp.tcpListenFd } := by
  unfold Service.listen
  rw [hs]
  dsimp only
  split <;> rfl

omit hown in
theorem listen_isolated_iff (hs : C.service.instance? i = some s) (fd backlog : Int) :
    C.Isolated i s env (.listen fd backlog) ↔ (0 ≤ fd → fd = s.ldnTcpBindFd → fd = C.service.vtcp.tcpListenFd) := by
  have hcmd : C.command i env (.listen fd backlog) =
      env.forward (C.setService (C.service.listen i fd)) (.listen fd backlog) := by
    rw [command, hs]
    rfl
  have hvtcp := listen_tcpListenFd hs fd
  constructor
  · intro h hfd hbind
    have hl := h.tables.tcpListenFd
    rw [hcmd] at hl
    have hset : (C.service.listen i fd).vtcp.tcpListenFd = fd := by
      rw [hvtcp]
      exact if_pos ⟨hfd, hbind⟩
    exact hset.symm.trans hl
  · intro h
    refine .of_handler env hs ⟨?_, ?_, ?_⟩ ⟨List.mem_singleton_self _, rfl⟩
    · show (C.service.listen i fd).vtcp.conns = C.service.vtcp.conns
      rw [hvtcp]
    · show (C.service.listen i fd).vtcp.pendingAccepts = C.service.vtcp.pendingAccepts
      rw [hvtcp]
    · show (C.service.listen i fd).vtcp.tcpListenFd = C.service.vtcp.tcpListenFd
      rw [hvtcp]
      dsimp only
      split
      · rename_i hc
        exact h hc.1 hc.2
      · rfl

omit hown in
theorem bind_tables (fd : Int) (addr : Bytes) :
    (C.bind i s env fd addr).console.service.vtcp = C.service.vtcp := by
  unfold bind
  dsimp only
  split
  · rfl
  · exact C.service.bind_vtcp i fd _ _ env.relayUp

omit hown in
theorem bind_repliesReal (fd : Int) (addr : Bytes) :
    C.RepliesReal i s env (C.bind i s env fd addr) (.bind fd addr) := by
  show _ ∈ (C.bind i s env fd addr).requests ∧ (C.bind i s env fd addr).reply = _
  unfold bind
  dsimp only
  split
  · exact ⟨List.mem_singleton_self _, rfl⟩
  · exact ⟨List.mem_cons_self, rfl⟩

theorem accept_forwards (fd : Int) (addrOut : Nat) :
    C.accept i env fd addrOut = env.forward C (.accept fd addrOut) := by
  rw [accept, Service.isOwnTcpListenFd_stranger hown]
  rfl

theorem close_forwards (fd : Int) : C.close i env fd = { env.forward (C.setService (C.service.close i fd).1) (.close fd) with
    segs := (C.service.close i fd).2 } := by
  rw [close, Service.isSynthetic_stranger hown]
  rfl

/-- **A command of an instance other than the owner is isolated exactly when it keeps out**, in every state and whatever
its arguments and the real service's answers. -/
theorem isolated_iff (hs : C.service.instance? i = some s)
    (hpoll : ∀ fds timeout, (env.real (.poll fds fds.length fds.length timeout)).ValidPoll fds.length) (c : Command) :
    C.Isolated i s env c ↔ C.KeepsOut i s env c := by
  cases c with
  | connect fd addr => exact connect_isolated_iff env hs fd addr
  | listen fd backlog => exact listen_isolated_iff env hs fd backlog
  | poll fds fdsOut nfds timeout =>
    have hiff := poll_isolated_iff (s := s) hown env hpoll fds fdsOut nfds timeout
    constructor
    · intro h
      have hreply := h.reply
      rw [command, hs] at hreply
      exact hiff.1 hreply
    · intro h
      apply Isolated.of_handler env hs
      · exact .of_eq (congrArg (fun C => C.service.vtcp) (C.console_poll i s env fds fdsOut nfds timeout))
      · exact hiff.2 h
  | select nfds timeout readIn writeIn errorIn readOut writeOut errorOut =>
    refine iff_of_true (.of_handler env hs ?_ ?_) trivial
    · exact .of_eq (congrArg (fun C => C.service.vtcp)
        (C.console_select i s env nfds timeout readIn writeIn errorIn readOut writeOut errorOut))
    · exact select_repliesReal hown env nfds timeout readIn writeIn errorIn readOut writeOut errorOut
  | sendTo fd flags buffer addr =>
    refine iff_of_true (.of_handler env hs ?_ ?_) trivial
    · exact .of_eq (sendTo_tables hown env fd flags buffer addr)
    · exact sendTo_repliesReal hown env fd flags buffer addr
  | recvFrom fd flags buffer addrOut =>
    refine iff_of_true (.of_handler env hs ?_ ?_) trivial
    · exact .of_eq (recvFrom_tables hown env fd flags buffer addrOut)
    · exact recvFrom_repliesReal hown env fd flags buffer addrOut
  | accept fd addrOut =>
    have hacc := accept_forwards hown env fd addrOut
    refine iff_of_true (.of_handler env hs ?_ ?_) trivial
    · exact .of_eq (congrArg (fun o => o.console.service.vtcp) hacc)
    · show _ ∈ (C.accept i env fd addrOut).requests ∧ (C.accept i env fd addrOut).reply = _
      rw [hacc]
      exact ⟨List.mem_singleton_self _, rfl⟩
  | close fd =>
    have hclose := close_forwards hown env fd
    refine iff_of_true (.of_handler env hs ?_ ?_) trivial
    · refine .of_eq ((congrArg (fun o => o.console.service.vtcp) hclose).trans ?_)
      exact Service.close_stranger_vtcp hown fd
    · show _ ∈ (C.close i env fd).requests ∧ (C.close i env fd).reply = _
      rw [hclose]
      exact ⟨List.mem_singleton_self _, rfl⟩
  | bind fd addr =>
    refine iff_of_true (.of_handler env hs ?_ ?_) trivial
    · exact .of_eq (bind_tables env fd addr)
    · exact bind_repliesReal env fd addr
  | socket domain type protocol =>
    refine iff_of_true (.of_handler env hs ?_ ?_) trivial
    · exact .of_eq (C.service.socket_vtcp i type _)
    · exact ⟨List.mem_singleton_self _, rfl⟩
  | socketExempt domain type protocol =>
    refine iff_of_true (.of_handler env hs ?_ ?_) trivial
    · exact .of_eq (C.service.socket_vtcp i type _)
    · exact ⟨List.mem_singleton_self _, rfl⟩
  | _ => exact iff_of_true (.of_handler env hs (.of_eq rfl) ⟨List.mem_singleton_self _, rfl⟩) trivial

end Stranger

/-! ## A second process on the control port -/

/-- ldn_mitm (0) listens as descriptor 4; another process (1) has bound a TCP socket, descriptor 7, to the same port. -/
def twoProcesses : List Service.Op :=
  [.create, .create, .socket 0 SOCK_DGRAM 3, .bind 0 3 ldnControlPort 0x0A0D0001 true, .socket 0 SOCK_STREAM 4,
    .bind 0 4 ldnControlPort 0 true, .listen 0 4, .socket 1 SOCK_STREAM 7, .bind 1 7 ldnControlPort 0 true]

def sharedConsole : Console where
  service := Service.run {} twoProcesses

theorem sharedConsole_stranger : ∃ s, sharedConsole.service.instance? 1 = some s ∧ s.ldnTcpBindFd = 7 ∧
    sharedConsole.service.owns 1 = false ∧ sharedConsole.service.vtcp.tcpListenFd = 4 := by
  have hs : (sharedConsole.service.instance? 1).any (fun s => s.ldnTcpBindFd == 7) = true := by decide +kernel
  obtain ⟨s, hs, hb⟩ := (Option.any_eq_true _ _).1 hs
  exact ⟨s, hs, by simpa using hb, by decide +kernel, by decide +kernel⟩

theorem quietEnv_validPoll (fds : List PollFd) (timeout : Int) :
    (quietEnv.real (.poll fds fds.length fds.length timeout)).ValidPoll fds.length where
  length := List.length_map _
  ret := by
    left
    have hzero : (fds.map (fun p => { p with revents := 0 })).countP (fun p : PollFd => p.revents != 0) = 0 := by
      refine List.countP_eq_zero.2 (fun p hp => ?_)
      obtain ⟨q, -, rfl⟩ := List.mem_map.1 hp
      simp
    show (0 : Int) = ((fds.map (fun p => { p with revents := 0 })).countP (fun p : PollFd => p.revents != 0) : Nat)
    rw [hzero]
    rfl

theorem isolated_iff_listen : ∃ s, sharedConsole.Isolated 1 s quietEnv (.listen 7 5) ↔
    sharedConsole.KeepsOut 1 s quietEnv (.listen 7 5) := by
  obtain ⟨s, hs, -, hown, -⟩ := sharedConsole_stranger
  exact ⟨s, isolated_iff hown quietEnv hs quietEnv_validPoll (.listen 7 5)⟩

/-- **Another process's `Listen` takes the virtual listener away** from the one that owns the virtual TCP state. -/
theorem listen_takes_over : Reached sharedConsole.service ∧ sharedConsole.service.activeLdnInstance = some 0 ∧
    sharedConsole.service.vtcp.tcpListenFd = 4 ∧ ∃ s, sharedConsole.service.instance? 1 = some s ∧
      (sharedConsole.command 1 quietEnv (.listen 7 5)).console.service.vtcp.tcpListenFd = 7 ∧
      ¬ sharedConsole.Isolated 1 s quietEnv (.listen 7 5) := by
  obtain ⟨s, hs, hbind, hown, hl⟩ := sharedConsole_stranger
  refine ⟨Service.reachable_run _ .init (by decide +kernel), by decide +kernel, hl, s, hs, by decide +kernel, fun h => ?_⟩
  have htables := h.tables.tcpListenFd
  have hset : (sharedConsole.command 1 quietEnv (.listen 7 5)).console.service.vtcp.tcpListenFd = 7 := by decide +kernel
  have hkept : (sharedConsole.drainedFor quietEnv (.listen 7 5)).service.vtcp.tcpListenFd = 4 := hl
  rw [hset, hkept] at htables
  exact absurd htables (by decide)

end Console
end Slp
