import SwitchLanPlay.ListenerSocket
/-!
# PendingRequests — which listener a pending request belongs to

`g_tcp_listen_fd` is a number: it stays when a process closes it that does not own the virtual TCP state any more, and the
next socket may get it.  A run therefore keeps beside the service for which socket of which process, and when, `Listen` was
last marked (`Listener`), and when each pending entry was taken.  The listener is that socket, as long as the number names it
(`current`).  In runs in which requests are kept only for a listener of the owner, and the listener goes only while none is
pending (`KeepsListener`), every entry is younger than the listener it is accepted on (`requests_current`).
-/
namespace Slp

open Wire TcpSegment

/-- A socket that listens: its process, the socket itself, and when `Listen` was called. -/
structure Listener where
  process : Nat
  socket : Nat
  since : Nat

/-- The service with the real descriptors, the socket `Listen` was last marked for, when each pending entry was taken, and the
number of steps so far. -/
structure Listening where
  world : OpenSockets := {}
  marked : Option Listener := none
  taken : Fin maxPendingAccepts → Nat := fun _ => 0
  now : Nat := 0

namespace Listening

def vtcp (L : Listening) : VTcp := L.world.service.vtcp

/-- The listener: the marked socket, while `g_tcp_listen_fd` names it in its process. -/
def current (L : Listening) : Option Listener :=
  L.marked.filter (fun l => L.world.sockets.names l.process L.vtcp.tcpListenFd == some l.socket)

def Pending (L : Listening) : Prop := ∃ k, (L.vtcp.pendingAccepts k).used = true

/-- The descriptor names the listener. -/
def NamesListener (L : Listening) (i : Nat) (fd : Int) : Prop :=
  ∃ l ∈ L.current, l.process = i ∧ L.world.sockets.names i fd = some l.socket

instance decidablePending (L : Listening) : Decidable L.Pending :=
  inferInstanceAs (Decidable (∃ k, (L.vtcp.pendingAccepts k).used = true))

instance decidableNamesListener (L : Listening) (i : Nat) (fd : Int) : Decidable (L.NamesListener i fd) :=
  inferInstanceAs (Decidable (∃ l ∈ L.current, l.process = i ∧ L.world.sockets.names i fd = some l.socket))

/-- A `Listen` that is marked makes its socket the listener, if it is not already and the real `Listen` succeeds. -/
def markedStep (L : Listening) : OpenSockets.Op → Option Listener
  | .call (.listen i fd) real =>
    if L.world.service.marks i fd = true ∧ ¬ L.NamesListener i fd then
      if real then (L.world.sockets.names i fd).map (fun k => ⟨i, k, L.now⟩) else none
    else L.marked
  | _ => L.marked

def step (L : Listening) (op : OpenSockets.Op) : Listening where
  world := L.world.step op
  marked := L.markedStep op
  taken k :=
    if (L.vtcp.pendingAccepts k).used = false ∧ ((L.world.step op).service.vtcp.pendingAccepts k).used = true then L.now
    else L.taken k
  now := L.now + 1

/-- Requests are kept only for a listener of the owner, and while one is pending the listener stays and no other instance
becomes the owner. -/
def KeepsListener (L : Listening) : OpenSockets.Op → Prop
  | .call (.drainSegment _ m) _ => m.dstPort = ldnControlPort → L.vtcp.KeepsRequest m →
    ∀ o ∈ L.world.service.activeLdnInstance, ∃ l ∈ L.current, l.process = o
  | .call (.listen i fd) _ => L.world.service.marks i fd = true → L.Pending → L.NamesListener i fd
  | .call (.bind i fd port _ _) _ => L.world.service.takesOver i fd port = true → L.Pending → ∃ l ∈ L.current, l.process = i
  | .call (.close i fd) _ => L.Pending → ∀ l ∈ L.current, l.process = i → fd ≠ L.vtcp.tcpListenFd
  | .call (.destroy i) _ => L.Pending → ∀ l ∈ L.current, l.process ≠ i
  | _ => True

/-- The real service answers new descriptors only, and the step keeps the listener. -/
def Keeping (L : Listening) (op : OpenSockets.Op) : Prop := L.world.RealAnswers op ∧ L.KeepsListener op

instance decidableKeepsListener (L : Listening) : ∀ op : OpenSockets.Op, Decidable (L.KeepsListener op)
  | .call (.drainSegment _ m) _ => inferInstanceAs (Decidable (m.dstPort = ldnControlPort → L.vtcp.KeepsRequest m →
    ∀ o ∈ L.world.service.activeLdnInstance, ∃ l ∈ L.current, l.process = o))
  | .call (.listen i fd) _ =>
    inferInstanceAs (Decidable (L.world.service.marks i fd = true → L.Pending → L.NamesListener i fd))
  | .call (.bind i fd port _ _) _ => inferInstanceAs
    (Decidable (L.world.service.takesOver i fd port = true → L.Pending → ∃ l ∈ L.current, l.process = i))
  | .call (.close i fd) _ =>
    inferInstanceAs (Decidable (L.Pending → ∀ l ∈ L.current, l.process = i → fd ≠ L.vtcp.tcpListenFd))
  | .call (.destroy i) _ => inferInstanceAs (Decidable (L.Pending → ∀ l ∈ L.current, l.process ≠ i))
  | .call .create _ | .call (.socket ..) _ | .call (.accept ..) _ | .call (.connect ..) _ | .call (.connectTimedOut ..) _
  | .call (.sendTo ..) _ | .call (.recvFrom ..) _ | .call (.received _) _ | .call (.drainRetransmits _) _
  | .call (.watchdog _) _ | .call (.forceReconnect _) _ | .call .stop _ | .call (.start _) _ | .duplicateSocket ..
  | .opened .. => isTrue trivial

instance decidableKeeping (L : Listening) (op : OpenSockets.Op) : Decidable (L.Keeping op) :=
  inferInstanceAs (Decidable (L.world.RealAnswers op ∧ L.KeepsListener op))

/-! ## The invariant -/

/-- Every entry is younger than the listener, and the listener is the owner's. -/
structure Inv (L : Listening) : Prop where
  since : ∀ l ∈ L.marked, l.since < L.now
  entries : ∀ k, (L.vtcp.pendingAccepts k).used = true →
    ∃ l ∈ L.current, (∀ j, L.world.service.owns j = true → l.process = j) ∧ l.since < L.taken k

theorem mem_current_iff {L : Listening} {l : Listener} :
    l ∈ L.current ↔ l ∈ L.marked ∧ L.world.sockets.names l.process L.vtcp.tcpListenFd = some l.socket := by
  rw [current, Option.mem_filter_iff, beq_iff_eq]

section Step

variable {L : Listening} {op : OpenSockets.Op}

theorem since_step (h : L.Inv) : ∀ l ∈ (L.step op).marked, l.since < (L.step op).now := by
  intro l hl
  have hold : l ∈ L.marked → l.since < L.now + 1 := fun hm => Nat.lt_succ_of_lt (h.since l hm)
  change l ∈ L.markedStep op at hl
  show l.since < L.now + 1
  unfold markedStep at hl
  split at hl
  · split at hl
    · split at hl
      · obtain ⟨k, -, rfl⟩ := Option.mem_map.1 hl
        exact Nat.lt_succ_self _
      · cases hl
    · exact hold hl
  · exact hold hl

/-- While a request is pending, no `Listen` makes another socket the listener. -/
theorem markedStep_of_pending (hok : L.KeepsListener op) (hp : L.Pending) : L.markedStep op = L.marked := by
  unfold markedStep
  split
  · rename_i i fd real
    rw [if_neg]
    rintro ⟨hmarks, hnames⟩
    exact hnames (hok hmarks hp)
  · rfl

/-- The listener's number is not given to another socket, and its process neither ends nor closes it. -/
theorem names_listener (hok : L.Keeping op) (hp : L.Pending) {l : Listener} (hl : l ∈ L.current) :
    (L.world.step op).sockets.names l.process L.vtcp.tcpListenFd = some l.socket := by
  obtain ⟨hreal, hkeep⟩ := hok
  have hname := (mem_current_iff.1 hl).2
  cases op with
  | duplicateSocket i fd ret =>
    show (if 0 ≤ ret then L.world.sockets.duplicated i fd ret else L.world.sockets).names _ _ = _
    split
    · rename_i hret
      exact Descriptors.rename_of_open (hreal hret) hname
    · exact hname
  | opened i ret a =>
    show (if 0 ≤ ret then L.world.sockets.opened i ret a else L.world.sockets).names _ _ = _
    split
    · rename_i hret
      exact Descriptors.rename_of_open (hreal hret) hname
    · exact hname
  | call op real =>
    show (OpenSockets.realStep L.world.service L.world.sockets real op).names _ _ = _
    cases op with
    | socket i type ret =>
      unfold OpenSockets.realStep
      dsimp only
      split
      · rename_i hret
        exact Descriptors.rename_of_open (hreal hret) hname
      · exact hname
    | bind i fd port learnedIp ok =>
      unfold OpenSockets.realStep
      dsimp only
      split
      · rw [Descriptors.names_modified]
        exact hname
      · exact hname
    | destroy i =>
      show (if l.process = i then none else _) = _
      rw [if_neg (hkeep hp l hl)]
      exact hname
    | close i fd =>
      unfold OpenSockets.realStep
      dsimp only
      split
      · exact hname
      · refine (Descriptors.rename_of_ne ?_).trans hname
        rintro ⟨hprocess, hfd⟩
        exact hkeep hp l hl hprocess hfd.symm
    | _ => exact hname

/-- The number stays, or a `Listen` on the listener repeats it. -/
theorem tcpListenFd_step (h : L.Inv) (hok : L.KeepsListener op) (hp : L.Pending) {l : Listener} (hl : l ∈ L.current) :
    (L.step op).vtcp.tcpListenFd = L.vtcp.tcpListenFd ∨
      (L.world.step op).sockets.names l.process (L.step op).vtcp.tcpListenFd = some l.socket := by
  cases op with
  | duplicateSocket i fd ret => exact .inl rfl
  | opened i ret a => exact .inl rfl
  | call op real =>
    rcases Service.listener_step (S := L.world.service) op with hsame | ⟨i, fd, rfl, hmarks, hfd⟩ | ⟨⟨i, rfl, howns⟩, -⟩
    · exact .inl hsame
    · obtain ⟨l', hl', rfl, hname⟩ := hok hmarks hp
      obtain rfl := Option.mem_unique hl hl'
      right
      show L.world.sockets.names l.process (L.world.service.step (.listen l.process fd)).1.vtcp.tcpListenFd = _
      rw [hfd]
      exact hname
    · -- the owner is the listener's process
      obtain ⟨k, hk⟩ := hp
      obtain ⟨l', hl', howner, -⟩ := h.entries k hk
      obtain rfl := Option.mem_unique hl hl'
      exact absurd rfl (hok ⟨k, hk⟩ l hl (howner i howns))

theorem current_step (h : L.Inv) (hok : L.Keeping op) (hp : L.Pending) {l : Listener} (hl : l ∈ L.current) :
    l ∈ (L.step op).current := by
  have hmarked : (L.step op).marked = L.marked := markedStep_of_pending hok.2 hp
  rw [mem_current_iff, hmarked]
  refine ⟨(mem_current_iff.1 hl).1, ?_⟩
  rcases tcpListenFd_step h hok.2 hp hl with hsame | hname
  · rw [hsame]
    exact names_listener hok hp hl
  · exact hname

/-- The owner after a step has the listener, if a request was pending. -/
theorem owner_has_listener (h : L.Inv) (hok : L.KeepsListener op) {l : Listener} (hl : l ∈ L.current) (hp : L.Pending) {j : Nat}
    (hj : (L.world.step op).service.owns j = true) : l.process = j := by
  obtain ⟨k, hk⟩ := hp
  obtain ⟨l', hl', howner, -⟩ := h.entries k hk
  obtain rfl := Option.mem_unique hl hl'
  cases op with
  | duplicateSocket i fd ret => exact howner j hj
  | opened i ret a => exact howner j hj
  | call op real =>
    rcases Service.owner_step op hj with hold | ⟨fd, port, learnedIp, ok, rfl, htakes⟩
    · exact howner j hold
    · obtain ⟨l'', hl'', hprocess⟩ := hok htakes ⟨k, hk⟩
      rwa [Option.mem_unique hl hl'']

/-- **A step that takes no entry keeps every entry younger than the listener.** -/
theorem inv_of_old (h : L.Inv) (hok : L.Keeping op)
    (hold : ∀ k, ((L.step op).vtcp.pendingAccepts k).used = true → (L.vtcp.pendingAccepts k).used = true) :
    (L.step op).Inv where
  since := since_step h
  entries := fun k hk => by
    have hused := hold k hk
    obtain ⟨l, hl, -, hsince⟩ := h.entries k hused
    refine ⟨l, current_step h hok ⟨k, hused⟩ hl, fun j hj => owner_has_listener h hok.2 hl ⟨k, hused⟩ hj, ?_⟩
    simpa [step, hused] using hsince

/-- **A request kept for a listener of the owner is younger than it**, and the entries before it stay so. -/
theorem inv_segment {ourIsn : UInt32} {m : TcpSegment} {real : Bool} {o : Nat} (h : L.Inv)
    (ho : L.world.service.activeLdnInstance = some o) {l : Listener} (hl : l ∈ L.current) (hprocess : l.process = o) :
    (L.step (.call (.drainSegment ourIsn m) real)).Inv where
  since := since_step h
  entries := fun k hk => by
    have hfd : (L.step (.call (.drainSegment ourIsn m) real)).vtcp.tcpListenFd = L.vtcp.tcpListenFd := by
      rcases Service.listener_step (S := L.world.service) (.drainSegment ourIsn m) with hsame | ⟨_, _, hop, -⟩ | ⟨⟨_, hop, -⟩, -⟩
      · exact hsame
      · cases hop
      · cases hop
    have hcurrent : l ∈ (L.step (.call (.drainSegment ourIsn m) real)).current := by
      rw [mem_current_iff, hfd]
      exact mem_current_iff.1 hl
    refine ⟨l, hcurrent, fun j hj => ?_, ?_⟩
    · rcases Service.owner_step (S := L.world.service) (.drainSegment ourIsn m) hj with hold | ⟨_, _, _, _, hop, -⟩
      · rw [Service.owns, ho, beq_iff_eq, Option.some.injEq] at hold
        rw [hprocess, hold]
      · cases hop
    · show l.since < (if _ then L.now else L.taken k)
      split
      · exact h.since l (mem_current_iff.1 hl).1
      · rename_i hold
        have hused : (L.vtcp.pendingAccepts k).used = true := by
          by_contra hno
          exact hold ⟨by simpa using hno, hk⟩
        obtain ⟨l', hl', -, hsince⟩ := h.entries k hused
        rwa [Option.mem_unique hl hl']

/-- **A step that keeps the listener keeps every entry younger than it.** -/
theorem inv_step (h : L.Inv) (hok : L.Keeping op) : (L.step op).Inv := by
  by_cases hnew : ∃ k, ((L.step op).vtcp.pendingAccepts k).used = true ∧ (L.vtcp.pendingAccepts k).used = false
  · obtain ⟨k, hused, hfree⟩ := hnew
    cases op with
    | duplicateSocket i fd ret => cases hfree.symm.trans hused
    | opened i ret a => cases hfree.symm.trans hused
    | call op real =>
      obtain ⟨ourIsn, m, rfl, hport, hkeeps, o, ho⟩ := Service.keepsRequest_of_taken hfree hused
      obtain ⟨l, hl, hprocess⟩ := hok.2 hport hkeeps o ho
      exact inv_segment h ho hl hprocess
  · refine inv_of_old h hok (fun k hk => ?_)
    by_contra hno
    exact hnew ⟨k, hk, by simpa using hno⟩

end Step

theorem inv_start : Inv {} where
  since := fun l hl => by cases hl
  entries := fun k hk => by cases hk

/-- **In runs that keep the listener an entry is in use only while something listens, and a connection `Accept` returns comes
from a request that arrived after the `Listen` of the socket it is accepted on.** -/
theorem requests_current {L : Listening} (h : Runs.Reachable step Keeping {} L) :
    (∀ k, (L.vtcp.pendingAccepts k).used = true → ∃ l ∈ L.current, l.since < L.taken k) ∧
    ∀ i fd t newFd, L.world.service.ownListener i fd = true → L.vtcp.accept true = some (t, newFd) →
      ∃ p, SlotTable.first (fun p => p.used && p.gotFinalAck) L.vtcp.pendingAccepts = some p ∧
        ∃ l ∈ L.current, l.process = i ∧ L.world.sockets.names i fd = some l.socket ∧ l.since < L.taken p := by
  have hinv : L.Inv := h.keeps inv_start (fun L op hL hok => inv_step hL hok)
  refine ⟨fun k hk => ?_, fun i fd t newFd hown hacc => ?_⟩
  · obtain ⟨l, hl, -, hsince⟩ := hinv.entries k hk
    exact ⟨l, hl, hsince⟩
  · unfold VTcp.accept at hacc
    split at hacc
    · rename_i p k hp hk
      have hused := SlotTable.apply_of_first hp
      rw [Bool.and_eq_true] at hused
      obtain ⟨howns, rfl⟩ := Service.ownListener_iff.1 hown
      obtain ⟨l, hl, howner, hsince⟩ := hinv.entries p hused.1
      obtain rfl := howner i howns
      exact ⟨p, hp, l, hl, rfl, (mem_current_iff.1 hl).2, hsince⟩
    · cases hacc

/-! ## A request before the `Listen` -/

def stationRequest (seq ack : UInt32) (flags : UInt8) : TcpSegment where
  srcIp := 0x0A0D0002
  srcPort := ldnControlPort
  dstPort := ldnControlPort
  seq := seq
  ack := ack
  flags := flags
  payload := []

/-- A host that listens, and then is asked for a connection. -/
def listeningFirst : List OpenSockets.Op :=
  OpenSockets.stationSession ++ [.call (.listen 0 4) true, .call (.drainSegment 77 (stationRequest 100 0 TCP_SYN)) true,
    .call (.drainSegment 0 (stationRequest 101 78 TCP_ACK)) true]

/-- The request comes before the `Listen`. -/
def requestFirst : List OpenSockets.Op :=
  OpenSockets.stationSession ++ [.call (.drainSegment 77 (stationRequest 100 0 TCP_SYN)) true, .call (.listen 0 4) true,
    .call (.drainSegment 0 (stationRequest 101 78 TCP_ACK)) true]

theorem requests_current_listeningFirst :
    let L := Runs.run step {} listeningFirst
    ∃ p, SlotTable.first (fun p => p.used && p.gotFinalAck) L.vtcp.pendingAccepts = some p ∧
      ∃ l ∈ L.current, l.process = 0 ∧ L.world.sockets.names 0 4 = some l.socket ∧ l.since < L.taken p := by
  intro L
  have hr : Runs.Reachable step Keeping {} L := Runs.reachable_run listeningFirst .init (by decide +kernel)
  have hown : L.world.service.ownListener 0 4 = true := by decide +kernel
  cases hacc : L.vtcp.accept true with
  | none => exact absurd (congrArg Option.isSome hacc) (by decide +kernel)
  | some r => exact (requests_current hr).2 0 4 r.1 r.2 hown hacc

/-- **A request that comes before the `Listen` is kept while nothing listens, and accepted after it.** -/
theorem request_precedes_listener :
    let L := Runs.run step {} (requestFirst.take 6)
    let L' := Runs.run step {} requestFirst
    Runs.Reachable step (fun L op => L.world.RealAnswers op) {} L ∧ L.Pending ∧ L.vtcp.tcpListenFd = -1 ∧
    Runs.Reachable step (fun L op => L.world.RealAnswers op) {} L' ∧ L'.world.service.ownListener 0 4 = true ∧
    (L'.vtcp.accept true).isSome = true ∧ ∃ p,
      SlotTable.first (fun p => p.used && p.gotFinalAck) L'.vtcp.pendingAccepts = some p ∧
      ∃ l ∈ L'.current, l.process = 0 ∧ L'.world.sockets.names 0 4 = some l.socket ∧ L'.taken p < l.since := by
  intro L L'
  refine ⟨Runs.reachable_run _ .init (by decide +kernel), by decide +kernel, by decide +kernel,
    Runs.reachable_run _ .init (by decide +kernel), by decide +kernel, by decide +kernel, ⟨0, by decide⟩,
    by decide +kernel, by decide +kernel⟩

end Listening
end Slp
