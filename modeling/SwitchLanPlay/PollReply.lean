import SwitchLanPlay.Isolation
/-!
# PollReply — what a `Poll` reports of its descriptors

A `Poll` is cut into the descriptors of the real service and the accepted connections, whose reports are put back at their
places; then POLLIN is set where data of the relay waits, whether asked for or not, and counted, also where the entry has been
counted for a report of its own.  A failure of the real service is not passed on.  `pollValid_iff` says when the reply is a
poll result nevertheless.
-/
namespace Slp

open Wire

/-- Half of an entry that the code takes for readable or in error already. -/
def POLLREPORTED : UInt16 := POLLIN ||| POLLPRI ||| POLLERR ||| POLLHUP ||| POLLNVAL

/-- Readable, or in error. -/
def POLLREADY : UInt16 := POLLIN ||| POLLERR ||| POLLHUP ||| POLLNVAL

/-! ## Bits -/

theorem or_and_distrib (a b c : UInt16) : (a ||| b) &&& c = (a &&& c) ||| (b &&& c) :=
  UInt16.toBitVec_inj.1 BitVec.and_or_distrib_right

theorem or_pollin_ne_zero (v : UInt16) : v ||| POLLIN ≠ 0 := by
  rw [Ne, UInt16.or_eq_zero_iff]
  exact fun h => absurd h.2 (by decide)

theorem or_pollin_ready (v : UInt16) : (v ||| POLLIN) &&& POLLREADY ≠ 0 := by
  rw [or_and_distrib, Ne, UInt16.or_eq_zero_iff]
  exact fun h => absurd h.2 (by decide)

theorem or_pollin_ne {v : UInt16} (h : v &&& POLLREPORTED = 0) : v ||| POLLIN ≠ v := by
  intro he
  rw [← he, or_and_distrib, UInt16.or_eq_zero_iff] at h
  exact absurd h.2 (by decide)

/-- **Two counts add up to the count of either exactly if nothing is counted in both.** -/
theorem countP_or_eq_add_iff {α : Type} (p q : α → Bool) (l : List α) :
    l.countP p + l.countP q = l.countP (fun a => p a || q a) ↔ ∀ a ∈ l, ¬ (p a = true ∧ q a = true) := by
  have hle : ∀ l : List α, l.countP (fun a => p a || q a) ≤ l.countP p + l.countP q := by
    intro l
    induction l with
    | nil => exact Nat.le_refl _
    | cons a l ih =>
      rw [List.countP_cons, List.countP_cons, List.countP_cons]
      cases p a <;> cases q a <;> simp <;> omega
  induction l with
  | nil => simp
  | cons a l ih =>
    have hl := hle l
    rw [List.countP_cons, List.countP_cons, List.countP_cons]
    simp only [List.forall_mem_cons, ← ih]
    cases p a <;> cases q a <;> simp <;> omega

namespace Console

/-! ## The reply -/

section Reply

variable (C : Console) (i : Nat) (s : Instance)

/-- What the real service reports of the `j`-th descriptor, the errors of the control socket masked; nothing of an accepted
connection's.  The forwarded descriptors before it are those of the real service. -/
def realRevents (polled : List PollFd) (ans : Answer) (j : Nat) : UInt16 :=
  match polled[j]? with
  | none => 0
  | some p =>
    if C.service.isSynthetic i p.fd then 0
    else
      maskRevents s p.fd
        ((ans.pollfds[(polled.take j).countP (fun q => !C.service.isSynthetic i q.fd)]?).getD {}).revents

/-- The real service refused the request or failed. -/
def PollFailed (ans : Answer) : Prop := ans.rc ≠ 0 ∨ ans.ret < 0

instance (ans : Answer) : Decidable (PollFailed ans) := by
  unfold PollFailed
  infer_instance

/-- The reply is a poll result for the descriptors: a failure that nothing of the relay makes up for is passed on, and the count
is that of the entries reported on otherwise; an entry with data waiting that was polled for reading is readable or in error;
what is reported is what the real service does, and POLLIN beside it only where it was asked for and data waits. -/
structure PollValid (polled : List PollFd) (ans reply : Answer) : Prop where
  length : reply.pollfds.length = polled.length
  failure : PollFailed ans → (∀ p ∈ polled, C.vfdHasPendingRead i s p.fd = false) → PollFailed reply
  count : ¬ (PollFailed ans ∧ ∀ p ∈ polled, C.vfdHasPendingRead i s p.fd = false) →
    reply.ret = ((reply.pollfds.countP (fun q => q.revents != 0) : Nat) : Int)
  ready : ∀ (j : Nat) (p q : PollFd), polled[j]? = some p → reply.pollfds[j]? = some q → C.vfdHasPendingRead i s p.fd = true →
    p.events &&& POLLIN ≠ 0 → q.revents &&& POLLREADY ≠ 0
  passed : ∀ (j : Nat) (p q : PollFd), polled[j]? = some p → reply.pollfds[j]? = some q →
    q.revents = C.realRevents i s polled ans j ∨
      q.revents = C.realRevents i s polled ans j ||| POLLIN ∧ C.vfdHasPendingRead i s p.fd = true ∧ p.events &&& POLLIN ≠ 0

/-- Nothing of an entry stands in the way of POLLIN: with no report of reading or an error there is none at all and reading was
asked for, and with one, if reading was asked for, it is not urgent data alone. -/
def InjectsWell (p : PollFd) (real : UInt16) : Prop :=
  (real &&& POLLREPORTED = 0 → real = 0 ∧ p.events &&& POLLIN ≠ 0) ∧
    (real &&& POLLREPORTED ≠ 0 → p.events &&& POLLIN ≠ 0 → real &&& POLLREADY ≠ 0)

variable {C i s} {polled : List PollFd} {ans : Answer}

/-- What the code puts into the client's order of a real answer. -/
def pollOut (C : Console) (i : Nat) (s : Instance) (polled : List PollFd) (ans : Answer) : List PollFd :=
  copyBack (C.service.isSynthetic i) (maskRevents s) polled (if 0 < ans.ret then ans.pollfds else [])

theorem length_copyBack {synthetic : Int → Bool} {mask : Int → UInt16 → UInt16} : ∀ (ps outs : List PollFd),
    (copyBack synthetic mask ps outs).length = ps.length
  | [], _ => rfl
  | p :: ps, outs => by
    rw [copyBack]
    split <;> rw [List.length_cons, List.length_cons, length_copyBack]

/-- **Each entry has the real report for it.** -/
theorem pollOut_at (hv : ans.ValidPoll (polled.filter (fun p => !C.service.isSynthetic i p.fd)).length) {j : Nat} {p : PollFd}
    (hj : polled[j]? = some p) :
    (C.pollOut i s polled ans)[j]? = some { p with revents := C.realRevents i s polled ans j } := by
  rw [pollOut, copyBack_at hj, realRevents, hj]
  by_cases hpos : 0 < ans.ret
  · rw [if_pos hpos]
  · -- the reports are empty when the count is not positive
    have hzero : ∀ q ∈ ans.pollfds, q.revents = 0 := by
      rcases hv.ret with hret | hret
      · have hc : ans.pollfds.countP (fun p => p.revents != 0) = 0 := by omega
        intro q hq
        simpa using List.countP_eq_zero.1 hc q hq
      · exact hret.2
    have hnone : ∀ n : Nat, ((ans.pollfds[n]?).getD {}).revents = 0 := by
      intro n
      cases hn : ans.pollfds[n]? with
      | none => rfl
      | some q => exact hzero q (List.mem_of_getElem? hn)
    rw [if_neg hpos, hnone]
    rfl

theorem pollReply_at (hv : ans.ValidPoll (polled.filter (fun p => !C.service.isSynthetic i p.fd)).length) {j : Nat} {p : PollFd}
    (hj : polled[j]? = some p) :
    (C.pollReply i s polled ans).pollfds[j]? = some (injectPollin (C.vfdHasPendingRead i s)
      { p with revents := C.realRevents i s polled ans j }) := by
  show ((C.pollOut i s polled ans).map (injectPollin (C.vfdHasPendingRead i s)))[j]? = _
  rw [List.getElem?_map, pollOut_at hv hj]
  rfl

/-- **The count is right exactly if no entry is counted for its own report and for POLLIN.** -/
theorem pollReply_count_iff (C : Console) (i : Nat) (s : Instance) (polled : List PollFd) (ans : Answer) :
    (C.pollReply i s polled ans).ret = (((C.pollReply i s polled ans).pollfds.countP (fun q => q.revents != 0) : Nat) : Int) ↔
      ∀ q ∈ C.pollOut i s polled ans, ¬ (q.revents ≠ 0 ∧ injects (C.vfdHasPendingRead i s) q = true) := by
  have hcount : (C.pollReply i s polled ans).pollfds.countP (fun q => q.revents != 0) =
      (C.pollOut i s polled ans).countP (fun q => (q.revents != 0) || injects (C.vfdHasPendingRead i s) q) := by
    show ((C.pollOut i s polled ans).map (injectPollin (C.vfdHasPendingRead i s))).countP (fun q => q.revents != 0) = _
    rw [List.countP_map]
    refine List.countP_congr (fun q _ => ?_)
    simp only [Function.comp, injectPollin]
    by_cases hinj : injects (C.vfdHasPendingRead i s) q = true
    · rw [if_pos hinj]
      exact iff_of_true (bne_iff_ne.2 (or_pollin_ne_zero _)) (by rw [hinj, Bool.or_true])
    · rw [if_neg hinj]
      simp [hinj]
  have hret : (C.pollReply i s polled ans).ret = (((C.pollOut i s polled ans).countP (fun q => q.revents != 0) +
      (C.pollOut i s polled ans).countP (injects (C.vfdHasPendingRead i s)) : Nat) : Int) := by
    show (((C.pollOut i s polled ans).countP (fun q => q.revents != 0) : Nat) : Int) +
      (((C.pollOut i s polled ans).countP (injects (C.vfdHasPendingRead i s)) : Nat) : Int) = _
    omega
  have hboth := countP_or_eq_add_iff (fun q : PollFd => q.revents != 0) (injects (C.vfdHasPendingRead i s))
    (C.pollOut i s polled ans)
  simp only [bne_iff_ne] at hboth
  rw [hret, hcount, Int.natCast_inj]
  exact hboth

theorem mem_pollOut (hv : ans.ValidPoll (polled.filter (fun p => !C.service.isSynthetic i p.fd)).length) {q : PollFd} :
    q ∈ C.pollOut i s polled ans ↔
      ∃ (j : Nat) (p : PollFd), polled[j]? = some p ∧ q = { p with revents := C.realRevents i s polled ans j } := by
  constructor
  · intro hq
    obtain ⟨j, hj⟩ := List.mem_iff_getElem?.1 hq
    have hlt : j < polled.length := by
      have hlen : (C.pollOut i s polled ans).length = polled.length := length_copyBack _ _
      rw [← hlen]
      exact (List.getElem?_eq_some_iff.1 hj).1
    have hat := pollOut_at (C := C) (i := i) (s := s) hv (List.getElem?_eq_getElem hlt)
    rw [hj, Option.some.injEq] at hat
    exact ⟨j, _, List.getElem?_eq_getElem hlt, hat⟩
  · rintro ⟨j, p, hj, rfl⟩
    exact List.mem_of_getElem? (pollOut_at hv hj)

theorem injects_iff {pending : Int → Bool} {p : PollFd} {v : UInt16} :
    injects pending { p with revents := v } = true ↔ v &&& POLLREPORTED = 0 ∧ pending p.fd = true := by
  rw [injects, Bool.and_eq_true, beq_iff_eq]
  exact Iff.rfl

/-- **An entry of the reply** has POLLIN beside the real report where data waits and the code takes it for neither readable nor
in error, and the real report elsewhere. -/
theorem pollReply_entry (hv : ans.ValidPoll (polled.filter (fun p => !C.service.isSynthetic i p.fd)).length) {j : Nat}
    {p q : PollFd} (hj : polled[j]? = some p) (hq : (C.pollReply i s polled ans).pollfds[j]? = some q) :
    C.realRevents i s polled ans j &&& POLLREPORTED = 0 ∧ C.vfdHasPendingRead i s p.fd = true ∧
        q.revents = C.realRevents i s polled ans j ||| POLLIN ∨
      ¬ (C.realRevents i s polled ans j &&& POLLREPORTED = 0 ∧ C.vfdHasPendingRead i s p.fd = true) ∧
        q.revents = C.realRevents i s polled ans j := by
  rw [pollReply_at hv hj, Option.some.injEq] at hq
  rw [← hq, injectPollin, ← and_assoc, ← injects_iff]
  by_cases hinj : injects (C.vfdHasPendingRead i s) { p with revents := C.realRevents i s polled ans j } = true
  · rw [if_pos hinj]
    exact Or.inl ⟨hinj, rfl⟩
  · rw [if_neg hinj]
    exact Or.inr ⟨hinj, rfl⟩

/-- **The reply is a poll result exactly if** a failure is made up for by data waiting, and nothing stands in the way of POLLIN
where data waits. -/
theorem pollReply_valid_iff (hv : ans.ValidPoll (polled.filter (fun p => !C.service.isSynthetic i p.fd)).length) :
    C.PollValid i s polled ans (C.pollReply i s polled ans) ↔
      (PollFailed ans → ∃ p ∈ polled, C.vfdHasPendingRead i s p.fd = true) ∧
        ∀ (j : Nat) (p : PollFd), polled[j]? = some p → C.vfdHasPendingRead i s p.fd = true →
          InjectsWell p (C.realRevents i s polled ans j) := by
  constructor
  · intro h
    have hfail : PollFailed ans → ∃ p ∈ polled, C.vfdHasPendingRead i s p.fd = true := by
      intro hf
      by_contra hnone
      have hquiet : ∀ p ∈ polled, C.vfdHasPendingRead i s p.fd = false := fun p hp => by
        by_contra hpend
        exact hnone ⟨p, hp, by simpa using hpend⟩
      rcases h.failure hf hquiet with hrc | hret
      · exact hrc rfl
      · change ((_ : Nat) : Int) + ((_ : Nat) : Int) < 0 at hret
        omega
    refine ⟨hfail, fun j p hj hpend => ?_⟩
    have hat := pollReply_at (C := C) (i := i) (s := s) hv hj
    rcases pollReply_entry hv hj hat with ⟨hfree, -, hq⟩ | ⟨hno, hq⟩
    · refine ⟨fun _ => ⟨?_, ?_⟩, fun hrep => absurd hfree hrep⟩
      · have hc := h.count (fun hboth => by
          rw [hboth.2 p (List.mem_of_getElem? hj)] at hpend
          cases hpend)
        by_contra hne
        exact (pollReply_count_iff C i s polled ans).1 hc _ ((mem_pollOut hv).2 ⟨j, p, hj, rfl⟩)
          ⟨hne, injects_iff.2 ⟨hfree, hpend⟩⟩
      · rcases h.passed j p _ hj hat with hsame | ⟨-, -, hasked⟩
        · exact absurd (hq.symm.trans hsame) (or_pollin_ne hfree)
        · exact hasked
    · refine ⟨fun hfree => absurd ⟨hfree, hpend⟩ hno, fun _ hasked => ?_⟩
      rw [← hq]
      exact h.ready j p _ hj hat hpend hasked
  · rintro ⟨hfail, hwell⟩
    refine ⟨?_, fun hf hquiet => ?_, fun _ => (pollReply_count_iff C i s polled ans).2 (fun q hq => ?_),
      fun j p q hj hq hpend hasked => ?_, fun j p q hj hq => ?_⟩
    · show ((C.pollOut i s polled ans).map _).length = _
      rw [List.length_map]
      exact length_copyBack _ _
    · obtain ⟨p, hp, hpend⟩ := hfail hf
      rw [hquiet p hp] at hpend
      cases hpend
    · obtain ⟨j, p, hj, rfl⟩ := (mem_pollOut hv).1 hq
      rintro ⟨hne, hinj⟩
      obtain ⟨hfree, hpend⟩ := injects_iff.1 hinj
      exact hne (((hwell j p hj hpend).1 hfree).1)
    · rcases pollReply_entry hv hj hq with ⟨-, -, hq⟩ | ⟨hno, hq⟩
      · rw [hq]
        exact or_pollin_ready _
      · rw [hq]
        exact (hwell j p hj hpend).2 (fun hfree => hno ⟨hfree, hpend⟩) hasked
    · rcases pollReply_entry hv hj hq with ⟨hfree, hpend, hq⟩ | ⟨-, hq⟩
      · exact Or.inr ⟨hq, hpend, ((hwell j p hj hpend).1 hfree).2⟩
      · exact Or.inl hq

end Reply

/-! ## The call -/

/-- The real answer a well-shaped `Poll` works with: none is asked for if every descriptor is an accepted connection's. -/
def pollAnswer (C : Console) (i : Nat) (s : Instance) (env : Env) (polled : List PollFd) (timeout : Int) : Answer :=
  if polled.all (fun p => C.service.isSynthetic i p.fd) then {} else env.real (C.pollRequest i s polled timeout)

theorem poll_reply {C : Console} {i : Nat} {s : Instance} {env : Env} {fds : List PollFd} {fdsOut : Nat} {nfds : Int}
    (hw : pollWellShaped fds fdsOut nfds = true) (timeout : Int) :
    (C.poll i s env fds fdsOut nfds timeout).console = (C.drainRawRelayQueue env.drained).1 ∧
      (C.poll i s env fds fdsOut nfds timeout).reply = (C.drainRawRelayQueue env.drained).1.pollReply i s (fds.take nfds.toNat)
        ((C.drainRawRelayQueue env.drained).1.pollAnswer i s env (fds.take nfds.toNat) timeout) := by
  refine ⟨console_poll C i s env fds fdsOut nfds timeout, ?_⟩
  unfold poll pollAnswer
  dsimp only
  rw [if_neg (by simp [hw])]
  split <;> rfl

/-- **A `Poll` of well-shaped buffers answers with a poll result exactly if** a failure of the real service is made up for by data
waiting, and nothing stands in the way of POLLIN where data waits. -/
theorem pollValid_iff {C : Console} {i : Nat} {s : Instance} {env : Env} {fds : List PollFd} {fdsOut : Nat} {nfds timeout : Int}
    (hw : pollWellShaped fds fdsOut nfds = true)
    (hreal : ∀ fds timeout, (env.real (.poll fds fds.length fds.length timeout)).ValidPoll fds.length) :
    (C.poll i s env fds fdsOut nfds timeout).console.PollValid i s (fds.take nfds.toNat)
        ((C.drainRawRelayQueue env.drained).1.pollAnswer i s env (fds.take nfds.toNat) timeout)
        (C.poll i s env fds fdsOut nfds timeout).reply ↔
      (PollFailed ((C.drainRawRelayQueue env.drained).1.pollAnswer i s env (fds.take nfds.toNat) timeout) →
          ∃ p ∈ fds.take nfds.toNat, (C.drainRawRelayQueue env.drained).1.vfdHasPendingRead i s p.fd = true) ∧
        ∀ (j : Nat) (p : PollFd), (fds.take nfds.toNat)[j]? = some p →
          (C.drainRawRelayQueue env.drained).1.vfdHasPendingRead i s p.fd = true →
          InjectsWell p ((C.drainRawRelayQueue env.drained).1.realRevents i s (fds.take nfds.toNat)
            ((C.drainRawRelayQueue env.drained).1.pollAnswer i s env (fds.take nfds.toNat) timeout) j) := by
  obtain ⟨hconsole, hreply⟩ := poll_reply hw timeout
  rw [hconsole, hreply]
  refine pollReply_valid_iff ?_
  unfold pollAnswer
  split
  · rename_i hall
    rw [List.filter_eq_nil_iff.2 (fun p hp => by simpa using List.all_eq_true.1 hall p hp)]
    exact ⟨rfl, Or.inl rfl⟩
  · exact hreal _ _

/-! ## A descriptor counted twice -/

/-- A datagram for the control port comes in, and the real service finds every descriptor writable. -/
def writableEnv : Env :=
  { quietEnv with
    real := fun c => match c with
      | .poll fds _ _ _ => { ret := fds.length, pollfds := fds.map (fun p => { p with revents := POLLOUT }) }
      | c => quietEnv.real c
    drained := ⟨0, [(0, ControlQueue.datagramTo ldnControlPort)]⟩ }

theorem validPoll_writable (fds : List PollFd) (timeout : Int) :
    (writableEnv.real (.poll fds fds.length fds.length timeout)).ValidPoll fds.length where
  length := List.length_map _
  ret := by
    left
    have hall : (fds.map (fun p => { p with revents := POLLOUT })).countP (fun p : PollFd => p.revents != 0) = fds.length := by
      rw [List.countP_map]
      exact List.countP_eq_length.2 (fun _ _ => rfl)
    show (fds.length : Int) = _
    rw [← hall]
    rfl

/-- The control socket, polled for reading and writing. -/
def pollControl : List PollFd := [{ fd := 3, events := POLLIN ||| POLLOUT }]

theorem pollValid_iff_pollControl : ∃ s, acceptedHost.service.instance? 0 = some s ∧
    ((acceptedHost.poll 0 s writableEnv pollControl 1 1 100).console.PollValid 0 s (pollControl.take (1 : Int).toNat)
        ((acceptedHost.drainRawRelayQueue writableEnv.drained).1.pollAnswer 0 s writableEnv (pollControl.take (1 : Int).toNat) 100)
        (acceptedHost.poll 0 s writableEnv pollControl 1 1 100).reply ↔
      (PollFailed ((acceptedHost.drainRawRelayQueue writableEnv.drained).1.pollAnswer 0 s writableEnv
            (pollControl.take (1 : Int).toNat) 100) →
          ∃ p ∈ pollControl.take (1 : Int).toNat,
            (acceptedHost.drainRawRelayQueue writableEnv.drained).1.vfdHasPendingRead 0 s p.fd = true) ∧
        ∀ (j : Nat) (p : PollFd), (pollControl.take (1 : Int).toNat)[j]? = some p →
          (acceptedHost.drainRawRelayQueue writableEnv.drained).1.vfdHasPendingRead 0 s p.fd = true →
          InjectsWell p ((acceptedHost.drainRawRelayQueue writableEnv.drained).1.realRevents 0 s
            (pollControl.take (1 : Int).toNat) ((acceptedHost.drainRawRelayQueue writableEnv.drained).1.pollAnswer 0 s
              writableEnv (pollControl.take (1 : Int).toNat) 100) j)) := by
  obtain ⟨s, hs⟩ := instance_acceptedHost
  exact ⟨s, hs, pollValid_iff (by decide) validPoll_writable⟩

theorem poll_counts_two : ∀ s ∈ acceptedHost.service.instance? 0,
    (acceptedHost.poll 0 s writableEnv pollControl 1 1 100).reply.ret = 2 ∧
      (acceptedHost.poll 0 s writableEnv pollControl 1 1 100).reply.pollfds.length = 1 ∧
      ¬ PollFailed ((acceptedHost.drainRawRelayQueue writableEnv.drained).1.pollAnswer 0 s writableEnv
        (pollControl.take (1 : Int).toNat) 100) := by
  decide +kernel

/-- **A `Poll` of one descriptor that is readable here and writable there answers 2.** -/
theorem poll_counts_twice : Reached acceptedHost.service ∧ pollWellShaped pollControl 1 1 = true ∧
    (∀ fds timeout, (writableEnv.real (.poll fds fds.length fds.length timeout)).ValidPoll fds.length) ∧
    ∃ s, acceptedHost.service.instance? 0 = some s ∧
      (acceptedHost.poll 0 s writableEnv pollControl 1 1 100).reply.ret = 2 ∧
      ¬ (acceptedHost.poll 0 s writableEnv pollControl 1 1 100).console.PollValid 0 s (pollControl.take (1 : Int).toNat)
        ((acceptedHost.drainRawRelayQueue writableEnv.drained).1.pollAnswer 0 s writableEnv (pollControl.take (1 : Int).toNat) 100)
        (acceptedHost.poll 0 s writableEnv pollControl 1 1 100).reply := by
  obtain ⟨s, hs⟩ := instance_acceptedHost
  obtain ⟨htwo, hone, hok⟩ := poll_counts_two s hs
  refine ⟨Service.reachable_run _ .init (by decide +kernel), by decide, validPoll_writable, s, hs, htwo, fun h => ?_⟩
  have hcount := h.count (fun hboth => hok hboth.1)
  have hle : (acceptedHost.poll 0 s writableEnv pollControl 1 1 100).reply.pollfds.countP (fun q => q.revents != 0) ≤ 1 := by
    rw [← hone]
    exact List.countP_le_length
  omega

end Console
end Slp
