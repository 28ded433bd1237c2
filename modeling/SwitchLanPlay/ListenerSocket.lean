import SwitchLanPlay.Descriptors
import SwitchLanPlay.Isolation
import SwitchLanPlay.Runs
import SwitchLanPlay.Teardown
import SwitchLanPlay.VTcpListener
/-!
# ListenerSocket — the socket behind the virtual listener's descriptor

Beside the service a run keeps the real service's descriptor tables: which socket each number of each process names now.
`Bind` remembers a number, `Listen` marks it and `Close` forgets neither the remembered number nor, on an instance that does
not own the virtual TCP state, the marked one.  As long as what is remembered and what is marked still names the socket it
described (`Orderly`), `Listen` marks only sockets bound to the control port as TCP, and `Accept` on every other socket is
forwarded (`listener_bound`).  A number closed and opened again breaks both (`reused_number_listens`).
-/
namespace Slp

open Wire

/-- A socket of the real service: how it was opened, and the port it is bound to. -/
structure BsdSocket where
  type : Int
  port : Option UInt16 := none

namespace BsdSocket

/-- A real `Bind` that succeeds: a socket that has an address keeps it. -/
def bindTo (port : UInt16) (k : BsdSocket) : BsdSocket := { k with port := k.port.or (some port) }

/-- ldn_mitm's station listener, before its `Listen`: a TCP socket bound to the control port. -/
def IsStation (k : BsdSocket) : Prop := k.type = SOCK_STREAM ∧ k.port = some ldnControlPort

instance decidableIsStation : DecidablePred IsStation := fun k =>
  inferInstanceAs (Decidable (k.type = SOCK_STREAM ∧ k.port = some ldnControlPort))

theorem isStation_bindTo {k : BsdSocket} (port : UInt16) (h : k.IsStation) : (k.bindTo port).IsStation := by
  refine ⟨h.1, ?_⟩
  rw [bindTo, h.2]
  rfl

end BsdSocket

namespace Service

/-- `Bind` remembers the number: it is bound to the control port and not known as UDP. -/
def remembers (S : Service) (i : Nat) (fd : Int) (port : UInt16) : Bool :=
  (S.instance? i).any (fun s => port == ldnControlPort && s.getTrackedType fd != SOCK_DGRAM)

/-- `Bind` makes the instance the owner of the virtual TCP state. -/
def takesOver (S : Service) (i : Nat) (fd : Int) (port : UInt16) : Bool :=
  (S.instance? i).any (fun s => port == ldnControlPort && s.getTrackedType fd == SOCK_DGRAM)

/-- `Listen` marks the number as the virtual listener. -/
def marks (S : Service) (i : Nat) (fd : Int) : Bool :=
  (S.instance? i).any (fun s => decide (0 ≤ fd) && fd == s.ldnTcpBindFd)

/-- A number is the calling instance's own listener: `Accept` answers it from the virtual TCP state. -/
def ownListener (S : Service) (i : Nat) (fd : Int) : Bool := S.vtcp.isOwnTcpListenFd (S.owns i) fd

theorem vtcpCall_listen_iff {S : Service} {i : Nat} {fd : Int} :
    S.vtcpCall (.listen i fd) = some (0, .listen fd) ↔ S.marks i fd = true := by
  unfold vtcpCall marks
  dsimp only
  cases S.instance? i with
  | none => simp
  | some s => simp

/-- Only `Listen` calls for a listener. -/
theorem listen_of_vtcpCall {S : Service} {op : Op} {ip : UInt32} {fd : Int} (h : S.vtcpCall op = some (ip, .listen fd)) :
    ∃ i, op = .listen i fd ∧ S.marks i fd = true := by
  cases op with
  | listen i fd' =>
    unfold vtcpCall at h
    dsimp only at h
    split at h
    · cases h
    rename_i s hs
    split at h
    · rename_i hguard
      cases h
      exact ⟨i, rfl, by simpa [marks, hs] using hguard⟩
    · cases h
  | _ =>
    simp only [vtcpCall] at h
    (repeat' split at h) <;> cases h

/-- Only the owner's `Close` calls for one. -/
theorem close_of_vtcpCall {S : Service} {op : Op} {ip : UInt32} {fd : Int} (h : S.vtcpCall op = some (ip, .close fd)) :
    ∃ i, op = .close i fd ∧ S.owns i = true := by
  cases op with
  | close i fd' =>
    unfold vtcpCall at h
    dsimp only at h
    split at h
    · cases h
    split at h
    · rename_i howns
      cases h
      exact ⟨i, rfl, howns⟩
    · cases h
  | _ =>
    simp only [vtcpCall] at h
    (repeat' split at h) <;> cases h

theorem ownListener_iff {S : Service} {i : Nat} {fd : Int} :
    S.ownListener i fd = true ↔ S.owns i = true ∧ fd = S.vtcp.tcpListenFd := by
  rw [ownListener, VTcp.isOwnTcpListenFd, Bool.and_eq_true, beq_iff_eq]

end Service

/-! ## How the listener and the owner change -/

/-- A call leaves the listener, sets it or closes it. -/
theorem VTcp.step_tcpListenFd (t : VTcp) (localIp : UInt32) (op : VTcp.Op) :
    (t.step localIp op).1.tcpListenFd = t.tcpListenFd ∨ op = .listen (t.step localIp op).1.tcpListenFd ∨
      (op = .close t.tcpListenFd ∧ (t.step localIp op).1.tcpListenFd = -1) := by
  cases op with
  | segment ourIsn m => exact .inl (t.segment_tcpListenFd localIp ourIsn m)
  | checkDataRetransmits now => exact .inl rfl
  | sendTo fd relay buf => exact .inl (passive_sendTo t localIp fd relay buf).tcpListenFd
  | recvFrom fd bufSize addrSize => exact .inl (passive_recvFrom t localIp fd bufSize addrSize).tcpListenFd
  | listen fd => exact .inr (.inl rfl)
  | accept => exact .inl (passive_accept t localIp).tcpListenFd
  | connect fd dstIp dstPort ourIsn => exact .inl (passive_connect t localIp fd dstIp dstPort ourIsn).tcpListenFd
  | connectTimedOut fd => exact .inl (passive_connectTimedOut t localIp fd).tcpListenFd
  | close fd =>
    have hclose := t.close_tcpListenFd true localIp fd
    change (t.step localIp (.close fd)).1.tcpListenFd = _ at hclose
    rw [hclose]
    split
    · rename_i hown
      rw [isOwnTcpListenFd, Bool.true_and, beq_iff_eq] at hown
      exact .inr (.inr ⟨by rw [hown], rfl⟩)
    · exact .inl rfl

namespace Service

variable {S : Service} {i j : Nat} {fd : Int}

/-- **Only a `Listen` on the remembered number gives the virtual TCP state a listener**, and only its owner's `Close` takes
it away. -/
theorem listener_step (op : Op) : (S.step op).1.vtcp.tcpListenFd = S.vtcp.tcpListenFd ∨
    (∃ i fd, op = .listen i fd ∧ S.marks i fd = true ∧ (S.step op).1.vtcp.tcpListenFd = fd) ∨
      (∃ i, op = .close i S.vtcp.tcpListenFd ∧ S.owns i = true) ∧ (S.step op).1.vtcp.tcpListenFd = -1 := by
  have hstep := S.vtcp_step op
  rw [hstep]
  cases hc : S.vtcpCall op with
  | none => exact .inl rfl
  | some c =>
    rcases S.vtcp.step_tcpListenFd c.1 c.2 with hsame | hlisten | ⟨hclose, hclear⟩
    · exact .inl hsame
    · have hc' : S.vtcpCall op = some (c.1, .listen (S.vtcp.step c.1 c.2).1.tcpListenFd) := by
        rw [hc, ← hlisten]
      obtain ⟨i, hop, hmarks⟩ := listen_of_vtcpCall hc'
      exact .inr (.inl ⟨i, _, hop, hmarks, rfl⟩)
    · have hc' : S.vtcpCall op = some (c.1, .close S.vtcp.tcpListenFd) := by rw [hc, ← hclose]
      exact .inr (.inr ⟨close_of_vtcpCall hc', hclear⟩)

theorem owns_of_destroy (h : (S.destroy i).owns j = true) : S.owns j = true := by
  unfold owns at h
  dsimp only [destroy] at h
  split at h
  · cases h
  · exact h

theorem owns_of_close (h : (S.close i fd).1.owns j = true) : S.owns j = true := by
  unfold close at h
  split at h
  · exact h
  dsimp only at h
  split at h
  · exact h
  · rw [owns, unbridge_activeLdnInstance] at h
    split at h
    · cases h
    · exact h

theorem owns_of_bind {port : UInt16} {learnedIp : UInt32} {ok : Bool} (h : (S.bind i fd port learnedIp ok).owns j = true) :
    S.owns j = true ∨ ∃ fd' port' learnedIp' ok', Op.bind i fd port learnedIp ok = .bind j fd' port' learnedIp' ok' ∧
      S.takesOver j fd' port' = true := by
  unfold bind at h
  split at h
  · exact .inl h
  rename_i s hs
  split at h
  · rename_i hbridges
    rw [ensureRelayConnected_owns, owns] at h
    dsimp only [bridge] at h
    split at h
    · rename_i hport
      rw [beq_iff_eq, Option.some.injEq] at h
      subst h
      rw [bridges, Bool.and_eq_true] at hbridges
      exact .inr ⟨fd, port, learnedIp, ok, rfl, by simp [takesOver, hs, hport, hbridges.1]⟩
    · exact .inl h
  · split at h <;> exact .inl h

/-- **Only a `Bind` of a UDP socket to the control port makes an owner.** -/
theorem owner_step (op : Op) (h : (S.step op).1.owns j = true) :
    S.owns j = true ∨ ∃ fd port learnedIp ok, op = .bind j fd port learnedIp ok ∧ S.takesOver j fd port = true := by
  have hsame : ∀ {S' : Service}, S'.activeLdnInstance = S.activeLdnInstance → S'.owns j = true → S.owns j = true :=
    fun ha ho => by rwa [owns, ha] at ho
  by_cases hb : op.bridging = false
  · exact .inl (hsame (S.step_keepsBridged hb).activeLdnInstance h)
  cases op with
  | create => exact .inl (hsame rfl h)
  | destroy i => exact .inl (owns_of_destroy h)
  | bind i fd port learnedIp ok => exact owns_of_bind h
  | close i fd => exact .inl (owns_of_close h)
  | watchdog now =>
    refine .inl (hsame ?_ h)
    show (S.watchdog now).activeLdnInstance = _
    unfold watchdog
    split <;> rfl
  | forceReconnect ok => exact .inl (hsame rfl h)
  | stop => exact .inl (hsame rfl h)
  | _ => exact absurd rfl hb

end Service

/-- The service and the real service's descriptors.  `boundAs` is the socket that the instance's remembered number named when
it was remembered. -/
structure OpenSockets where
  service : Service := {}
  sockets : Descriptors BsdSocket := {}
  boundAs : Nat → Option Nat := fun _ => none

namespace OpenSockets

inductive Op where
  -- `real` is whether a forwarded `Bind` or `Listen` succeeds
  | call (op : Service.Op) (real : Bool)
  | duplicateSocket (i : Nat) (fd ret : Int)
  -- another forwarded command that answers a new descriptor
  | opened (i : Nat) (ret : Int) (k : BsdSocket)

/-- What a call does to the real descriptors. -/
def realStep (S : Service) (D : Descriptors BsdSocket) (real : Bool) : Service.Op → Descriptors BsdSocket
  | .destroy i => D.exited i
  | .socket i type ret => if 0 ≤ ret then D.opened i ret { type := type } else D
  | .bind i fd port _ _ => if real then D.modified i fd (·.bindTo port) else D
  | .close i fd => if S.isSynthetic i fd then D else D.closed i fd
  | _ => D

def boundAsStep (W : OpenSockets) : Service.Op → Nat → Option Nat
  | .bind i fd port _ _ => if W.service.remembers i fd port then Function.update W.boundAs i (W.sockets.names i fd) else W.boundAs
  | _ => W.boundAs

def step (W : OpenSockets) : Op → OpenSockets
  | .call op real =>
    { service := (W.service.step op).1, sockets := realStep W.service W.sockets real op, boundAs := W.boundAsStep op }
  | .duplicateSocket i fd ret => { W with sockets := if 0 ≤ ret then W.sockets.duplicated i fd ret else W.sockets }
  | .opened i ret k => { W with sockets := if 0 ≤ ret then W.sockets.opened i ret k else W.sockets }

/-- The real service answers a new descriptor with a number that is not open. -/
def RealAnswers (W : OpenSockets) : Op → Prop
  | .call (.socket i _ ret) _ | .opened i ret _ | .duplicateSocket i _ ret => 0 ≤ ret → W.sockets.names i ret = none
  | _ => True

/-- A socket that is a station listener, or becomes one with this `Bind`. -/
def BecomesStation (real : Bool) (k : BsdSocket) : Prop := (if real then k.bindTo ldnControlPort else k).IsStation

/-- What is remembered and marked goes on naming the socket it described. -/
def Orderly (W : OpenSockets) : Op → Prop
  | .call (.bind i fd port _ _) real =>
    (W.service.remembers i fd port = true → W.sockets.At (BecomesStation real) i fd) ∧
    (W.service.takesOver i fd port = true → W.sockets.IfOpen BsdSocket.IsStation i W.service.vtcp.tcpListenFd)
  | .call (.listen i fd) _ => W.service.marks i fd = true →
    (W.boundAs i).isSome = true ∧ W.sockets.names i fd = W.boundAs i ∧
    ∀ j ∈ W.service.activeLdnInstance, j ≠ i → W.sockets.IfOpen BsdSocket.IsStation j fd
  | .call (.socket i _ ret) _ => W.service.ownListener i ret = true → ret < 0
  | .opened i ret k => W.service.ownListener i ret = true → ret < 0 ∨ k.IsStation
  | .duplicateSocket i fd ret => W.service.ownListener i ret = true → ret < 0 ∨ W.sockets.At BsdSocket.IsStation i fd
  | _ => True

instance decidableRealAnswers : ∀ (W : OpenSockets) (op : Op), Decidable (W.RealAnswers op) := fun W op => by
  unfold RealAnswers
  split <;> infer_instance

instance decidableBecomesStation (real : Bool) : DecidablePred (BecomesStation real) := fun k =>
  inferInstanceAs (Decidable (if real then k.bindTo ldnControlPort else k).IsStation)

instance decidableOrderly : ∀ (W : OpenSockets) (op : Op), Decidable (W.Orderly op) := fun W op => by
  unfold Orderly
  split <;> infer_instance

/-- `Listen` marks the number only if the socket open under it is a station listener. -/
def ListensRight (W : OpenSockets) (i : Nat) (fd : Int) : Prop :=
  W.service.vtcpCall (.listen i fd) = some (0, .listen fd) → W.sockets.At BsdSocket.IsStation i fd

/-- `Accept` on every other socket is forwarded. -/
def AcceptsReally (W : OpenSockets) : Prop :=
  ∀ i fd k, W.sockets.names i fd = some k → ¬ W.sockets.Has BsdSocket.IsStation k →
    ∀ (C : Console) (env : Env) (addrOut : Nat), C.service = W.service →
      C.accept i env fd addrOut = env.forward C (.accept fd addrOut)

/-! ## The invariant -/

structure Inv (W : OpenSockets) : Prop where
  bound : ∀ i k, W.boundAs i = some k → W.sockets.Has BsdSocket.IsStation k
  own : ∀ i fd k, W.service.ownListener i fd = true → W.sockets.names i fd = some k → W.sockets.Has BsdSocket.IsStation k
  nonneg : ∀ i fd k, W.sockets.names i fd = some k → 0 ≤ fd

section Step

variable {W : OpenSockets} {op : Service.Op} {real : Bool}

theorem inv_init : Inv {} where
  bound := fun i k h => by cases h
  own := fun i fd k _ h => by cases h
  nonneg := fun i fd k h => by cases h

/-- No call of the real service takes a station listener's type or port away. -/
theorem keeps_realStep (S : Service) (D : Descriptors BsdSocket) (real : Bool) (op : Service.Op) :
    Descriptors.Keeps BsdSocket.IsStation D (realStep S D real op) := by
  cases op with
  | destroy i => exact Descriptors.keeps_of_objects rfl
  | socket i type ret =>
    unfold realStep
    dsimp only
    split
    · exact Descriptors.keeps_opened i ret _
    · exact fun k hk => hk
  | bind i fd port learnedIp ok =>
    unfold realStep
    dsimp only
    split
    · exact Descriptors.keeps_modified i fd (fun k => BsdSocket.isStation_bindTo port)
    · exact fun k hk => hk
  | close i fd =>
    unfold realStep
    dsimp only
    split
    · exact fun k hk => hk
    · exact Descriptors.keeps_of_objects rfl
  | _ => exact fun k hk => hk

/-- A number open after a call was open before it, unless it is the answer of `Socket`. -/
theorem names_realStep {S : Service} {D : Descriptors BsdSocket} {i : Nat} {fd : Int} {k : Nat}
    (h : (realStep S D real op).names i fd = some k) : D.names i fd = some k ∨ ∃ type, op = .socket i type fd ∧ 0 ≤ fd := by
  cases op with
  | destroy j => exact .inl (Descriptors.names_exited h)
  | socket j type ret =>
    unfold realStep at h
    dsimp only at h
    split at h
    · rename_i hret
      by_cases hx : i = j ∧ fd = ret
      · obtain ⟨rfl, rfl⟩ := hx
        exact .inr ⟨type, rfl, hret⟩
      · exact .inl ((Descriptors.rename_of_ne hx).symm.trans h)
    · exact .inl h
  | bind j fd' port learnedIp ok =>
    unfold realStep at h
    dsimp only at h
    split at h
    · rw [Descriptors.names_modified] at h
      exact .inl h
    · exact .inl h
  | close j fd' =>
    unfold realStep at h
    dsimp only at h
    split at h
    · exact .inl h
    · exact .inl (Descriptors.names_closed h).1
  | _ => exact .inl h

/-- **Every remembered socket is a station listener.** -/
theorem bound_step (h : W.Inv) (hok : W.Orderly (.call op real)) (i : Nat) (k : Nat)
    (hk : W.boundAsStep op i = some k) : (realStep W.service W.sockets real op).Has BsdSocket.IsStation k := by
  have hkeep : W.boundAs i = some k → (realStep W.service W.sockets real op).Has BsdSocket.IsStation k :=
    fun hold => keeps_realStep _ _ _ _ k (h.bound i k hold)
  cases op with
  | bind j fd port learnedIp ok =>
    unfold boundAsStep at hk
    dsimp only at hk
    split at hk
    · rename_i hrem
      by_cases hij : i = j
      · subst hij
        rw [Function.update_self] at hk
        obtain ⟨k', hname, a, ha, hbecomes⟩ := hok.1 hrem
        obtain rfl : k = k' := Option.some.inj (hk.symm.trans hname)
        have hport : port = ldnControlPort := by
          obtain ⟨s, -, hs⟩ := (Option.any_eq_true _ _).1 hrem
          rw [Bool.and_eq_true, beq_iff_eq] at hs
          exact hs.1
        subst hport
        unfold realStep
        unfold BecomesStation at hbecomes
        cases real with
        | false => exact ⟨a, ha, hbecomes⟩
        | true => exact Descriptors.has_modified _ _ hk ha hbecomes
      · rw [Function.update_of_ne hij] at hk
        exact hkeep hk
    · exact hkeep hk
  | _ => exact hkeep hk

/-- A socket that keeps its number, or gets it in a call that asks for a new one, is not taken for the listener. -/
theorem own_step (h : W.Inv) (hok : W.Orderly (.call op real)) (i : Nat) (fd : Int) (k : Nat)
    (hown : (W.service.step op).1.ownListener i fd = true)
    (hname : (realStep W.service W.sockets real op).names i fd = some k) :
    (realStep W.service W.sockets real op).Has BsdSocket.IsStation k := by
  obtain ⟨howns, hfd⟩ := Service.ownListener_iff.1 hown
  have hkeep := keeps_realStep W.service W.sockets real op k
  have hnonneg : 0 ≤ fd := by
    rcases names_realStep hname with hold | ⟨-, -, hnew⟩
    · exact h.nonneg i fd k hold
    · exact hnew
  rcases Service.listener_step (S := W.service) op with hl | ⟨j, fd', rfl, hmarks, hl⟩ | ⟨-, hl⟩
  · -- the listener stays: the number or the ownership is new, or both are old
    rw [hl] at hfd
    rcases Service.owner_step op howns with hold | ⟨fd', port, learnedIp, ok, rfl, htakes⟩
    · rcases names_realStep hname with hn | ⟨type, rfl, hnn⟩
      · exact hkeep (h.own i fd k (Service.ownListener_iff.2 ⟨hold, hfd⟩) hn)
      · have := hok (Service.ownListener_iff.2 ⟨hold, hfd⟩)
        omega
    · rcases names_realStep hname with hn | ⟨type, hop, -⟩
      · exact hkeep (hok.2 htakes k (by rw [← hfd]; exact hn))
      · cases hop
  · -- a `Listen` marks the number
    rw [hl] at hfd
    subst hfd
    obtain ⟨hsome, hsame, hother⟩ := hok hmarks
    have howns' : W.service.owns i = true := by
      rcases Service.owner_step _ howns with hold | ⟨_, _, _, _, hop, -⟩
      · exact hold
      · cases hop
    by_cases hij : i = j
    · subst hij
      exact hkeep (h.bound i k (by rw [← hsame]; exact hname))
    · exact hkeep (hother i (beq_iff_eq.1 howns') hij k hname)
  · rw [hl] at hfd
    omega

theorem inv_call (h : W.Inv) (hok : W.Orderly (.call op real)) : (W.step (.call op real)).Inv where
  bound := bound_step h hok
  own := own_step h hok
  nonneg := fun i fd k hname => by
    rcases names_realStep hname with hold | ⟨-, -, hnew⟩
    · exact h.nonneg i fd k hold
    · exact hnew

/-- A new number for a socket, which is a station listener if the number is the owner's listener. -/
theorem inv_renamed {D : Descriptors BsdSocket} {i : Nat} {ret : Int} {new : Option Nat} (h : W.Inv) (hret : 0 ≤ ret)
    (hkeep : Descriptors.Keeps BsdSocket.IsStation W.sockets D)
    (hnames : D.names = Descriptors.rename W.sockets.names i ret new)
    (hnew : W.service.ownListener i ret = true → ∀ k, new = some k → D.Has BsdSocket.IsStation k) :
    Inv { W with sockets := D } where
  bound := fun j k hk => hkeep k (h.bound j k hk)
  own := fun j fd k hown hname => by
    dsimp only at hown hname
    rw [hnames] at hname
    by_cases hx : j = i ∧ fd = ret
    · obtain ⟨rfl, rfl⟩ := hx
      rw [Descriptors.rename_self] at hname
      exact hnew hown k hname
    · rw [Descriptors.rename_of_ne hx] at hname
      exact hkeep k (h.own j fd k hown hname)
  nonneg := fun j fd k hname => by
    dsimp only at hname
    rw [hnames] at hname
    by_cases hx : j = i ∧ fd = ret
    · rw [hx.2]
      exact hret
    · rw [Descriptors.rename_of_ne hx] at hname
      exact h.nonneg j fd k hname

/-- **An orderly step keeps the invariant.** -/
theorem inv_step (h : W.Inv) (op : Op) (hok : W.Orderly op) : (W.step op).Inv := by
  cases op with
  | call op real => exact inv_call h hok
  | duplicateSocket i fd ret =>
    by_cases hret : 0 ≤ ret
    · have hstep : W.step (.duplicateSocket i fd ret) = { W with sockets := W.sockets.duplicated i fd ret } := by
        rw [step, if_pos hret]
      rw [hstep]
      refine inv_renamed h hret (Descriptors.keeps_of_objects rfl) rfl (fun hown k hk => ?_)
      rcases hok hown with hneg | ⟨k', hname, hstation⟩
      · omega
      · rw [hk, Option.some.injEq] at hname
        rw [hname]
        exact hstation
    · rw [step, if_neg hret]
      exact h
  | opened i ret sock =>
    by_cases hret : 0 ≤ ret
    · have hstep : W.step (.opened i ret sock) = { W with sockets := W.sockets.opened i ret sock } := by
        rw [step, if_pos hret]
      rw [hstep]
      refine inv_renamed h hret (Descriptors.keeps_opened i ret sock) rfl (fun hown k hk => ?_)
      rcases hok hown with hneg | hstation
      · omega
      · cases hk
        exact ⟨sock, by simp [Descriptors.opened], hstation⟩
    · rw [step, if_neg hret]
      exact h

end Step

/-! ## Runs -/

theorem acceptsReally_of_inv {W : OpenSockets} (h : W.Inv) : W.AcceptsReally := by
  intro i fd k hname hother C env addrOut hC
  have hown : ¬ C.service.vtcp.isOwnTcpListenFd (C.service.owns i) fd = true := by
    rw [hC]
    exact fun hown => hother (h.own i fd k hown hname)
  rw [Console.accept, if_neg hown]

/-- **The virtual listener is a socket bound to the control port**: in a run whose steps are all orderly, `Listen` marks only
sockets bound to it as TCP, and `Accept` on any other socket is forwarded. -/
theorem listener_bound {W : OpenSockets} (h : Runs.Reachable step Orderly {} W) :
    (∀ i fd real, W.Orderly (.call (.listen i fd) real) → W.ListensRight i fd) ∧ W.AcceptsReally := by
  have hinv : W.Inv := h.keeps inv_init (fun W op hW hok => inv_step hW op hok)
  refine ⟨fun i fd real hok hmarked => ?_, acceptsReally_of_inv hinv⟩
  obtain ⟨hsome, hsame, -⟩ := hok (Service.vtcpCall_listen_iff.1 hmarked)
  obtain ⟨k, hk⟩ := Option.isSome_iff_exists.1 hsome
  exact ⟨k, hsame.trans hk, hinv.bound i k hk⟩

/-! ## A number used again -/

/-- A host's session: its control socket is 3, and 4 its station listener. -/
def stationSession : List Op :=
  [.call .create false, .call (.socket 0 SOCK_DGRAM 3) false, .call (.bind 0 3 ldnControlPort 0x0A0D0001 true) true,
    .call (.socket 0 SOCK_STREAM 4) false, .call (.bind 0 4 ldnControlPort 0 true) true]

/-- The listener is closed, and the next socket gets its number. -/
def reusedNumber : List Op :=
  stationSession ++ [.call (.listen 0 4) false, .call (.close 0 4) false, .call (.socket 0 SOCK_STREAM 4) false]

theorem listener_bound_stationSession : (Runs.run step {} stationSession).ListensRight 0 4 ∧
    (Runs.run step {} stationSession).AcceptsReally := by
  have h := listener_bound (Runs.reachable_run stationSession .init (by decide +kernel))
  exact ⟨h.1 0 4 false (by decide +kernel), h.2⟩

/-- **A socket that gets the number of a closed station listener listens in its place**: it is bound to nothing, `Listen`
marks it, and its `Accept` is not forwarded. -/
theorem reused_number_listens :
    let W := Runs.run step {} reusedNumber
    Runs.Reachable step RealAnswers {} W ∧ (W.sockets.names 0 4).isSome = true ∧ ¬ W.sockets.At BsdSocket.IsStation 0 4 ∧
    ¬ W.ListensRight 0 4 ∧ ¬ (W.step (.call (.listen 0 4) false)).AcceptsReally := by
  intro W
  have hother : ¬ W.sockets.At BsdSocket.IsStation 0 4 := by decide +kernel
  refine ⟨Runs.reachable_run reusedNumber .init (by decide +kernel), by decide +kernel, hother, fun h => ?_, fun h => ?_⟩
  · exact hother (h (Service.vtcpCall_listen_iff.2 (by decide +kernel)))
  · have hname : (W.step (.call (.listen 0 4) false)).sockets.names 0 4 = some 2 := by decide +kernel
    have hunbound : ¬ (W.step (.call (.listen 0 4) false)).sockets.Has BsdSocket.IsStation 2 := by decide +kernel
    have hforward := h 0 4 2 hname hunbound { service := (W.step (.call (.listen 0 4) false)).service } Console.quietEnv 0 rfl
    exact absurd (congrArg (fun o => o.requests.length) hforward) (by decide +kernel)

end OpenSockets
end Slp
