import SwitchLanPlay.RelayBridge
import SwitchLanPlay.Runs
import SwitchLanPlay.Traces
/-!
# RelayLifecycle — the relay's socket, its pump thread and its keepalives (source/relay_bridge.hpp)

`Connect` and `Close` run under `g_relay_mutex`, one statement after the other, while the pump thread goes through its loop.
`At` is the next statement of the lock's holder and `PumpAt` that of the pump thread; a step is one statement of either.  What a
call of the system answers is an input.  Frames of `SendIpv4` are not followed here; every other use of the socket is.

In any order of the steps, and with any of them failing, the pump thread uses the socket only while it is open, no socket is
opened before the last one is closed, and with no call under way a socket is open exactly when the relay is connected.  Two
keepalives are at least 2000 ms apart, and no pass of the loop begins later than that without sending one (`socket_used_open`).
-/
namespace Slp

/-- `KEEPALIVE_INTERVAL_MS`. -/
def keepaliveIntervalMs : UInt64 := 2000

namespace RelayLifecycle

/-- The next statement of the lock's holder.  A `Close` is followed by a `Connect` when it is `ForceReconnect`'s. -/
inductive At where
  | free
  -- `Connect`
  | opening
  | resolving
  | connecting
  | starting
  -- `Close`
  | stopping (reconnect : Bool)
  | waiting (reconnect : Bool)
  | closing (reconnect : Bool)
  | clearing (reconnect : Bool)
deriving DecidableEq

/-- The next statement of the pump thread, if there is one. -/
inductive PumpAt where
  | none
  | loop
  | receiving
  | ended
deriving DecidableEq

/-- A call on the socket, or a time that the keepalives are measured by. -/
inductive Event where
  | opened (fd : Int)
  | closed (fd : Int)
  | used (fd : Int)
  | connectedAt (tick : UInt64)
  | keepalive (tick : UInt64)
  -- a pass of the pump loop has made its check
  | passed (tick : UInt64)
deriving DecidableEq

/-- The fields of `RelayBridge` that the two sides share, where each is, and what has happened. -/
structure Lifecycle where
  fd : Int := -1
  connected : Bool := false
  lastKeepaliveTick : UInt64 := 0
  pumpStarted : Bool := false
  pumpStop : Bool := false
  holder : At := .free
  pump : PumpAt := .none
  trace : List Event := []

/-- What the system answers the lock's holder: `socket`, whether the host's address is found, whether the thread is made, and
`armGetSystemTick`. -/
structure Answers where
  socket : Int
  resolved : Bool
  created : Bool
  tick : UInt64

inductive Op where
  -- `EnsureRelayConnected` and `Start`
  | ensureConnected
  -- `Stop`, the watchdog and `Close` on the last bridged socket
  | close
  | forceReconnect
  | next (a : Answers)
  | pump (tick : UInt64) (more : Bool)

namespace Lifecycle

def record (L : Lifecycle) (es : List Event) : Lifecycle := { L with trace := L.trace ++ es }

/-- What follows `Close`. -/
def afterClose (reconnect : Bool) : At := if reconnect then .opening else .free

def openSocket (L : Lifecycle) (a : Answers) : Lifecycle :=
  if a.socket < 0 then { L with fd := a.socket, holder := .free }
  else { L.record [.opened a.socket] with fd := a.socket, holder := .resolving }

def resolve (L : Lifecycle) (a : Answers) : Lifecycle :=
  if a.resolved then { L with holder := .connecting }
  else { L.record [.closed L.fd] with fd := -1, holder := .free }

def connect (L : Lifecycle) (a : Answers) : Lifecycle :=
  { L.record [.connectedAt a.tick] with connected := true, lastKeepaliveTick := a.tick, holder := .starting }

def startPump (L : Lifecycle) (a : Answers) : Lifecycle :=
  if L.pumpStarted then { L with holder := .free }
  else if !a.created then { L with pumpStop := false, holder := .free }
  else { L with pumpStop := false, pump := .loop, pumpStarted := true, holder := .free }

def stopPump (L : Lifecycle) (reconnect : Bool) : Lifecycle :=
  if !L.pumpStarted then { L with holder := .closing reconnect }
  else { L with pumpStop := true, holder := .waiting reconnect }

/-- `WaitThread` and `DestroyThread`. -/
def waitThread (L : Lifecycle) (reconnect : Bool) : Lifecycle :=
  if L.pump = .ended then { L with pump := .none, pumpStarted := false, holder := .closing reconnect } else L

def closeSocket (L : Lifecycle) (reconnect : Bool) : Lifecycle :=
  if 0 ≤ L.fd then { L.record [.closed L.fd] with fd := -1, holder := .clearing reconnect }
  else { L with holder := .clearing reconnect }

/-- The queue is emptied too. -/
def clear (L : Lifecycle) (reconnect : Bool) : Lifecycle := { L with connected := false, holder := afterClose reconnect }

def next (L : Lifecycle) (a : Answers) : Lifecycle :=
  match L.holder with
  | .free => L
  | .opening => L.openSocket a
  | .resolving => L.resolve a
  | .connecting => L.connect a
  | .starting => L.startPump a
  | .stopping reconnect => L.stopPump reconnect
  | .waiting reconnect => L.waitThread reconnect
  | .closing reconnect => L.closeSocket reconnect
  | .clearing reconnect => L.clear reconnect

/-- libnx's `armTicksToNs` is a parameter. -/
def elapsedMs (armTicksToNs : UInt64 → UInt64) (now last : UInt64) : UInt64 := armTicksToNs (now - last) / 1000000

def checkKeepalive (armTicksToNs : UInt64 → UInt64) (L : Lifecycle) (now : UInt64) : Lifecycle :=
  if keepaliveIntervalMs ≤ elapsedMs armTicksToNs now L.lastKeepaliveTick then
    { L.record (.keepalive now :: if L.connected then [.used L.fd] else []) with lastKeepaliveTick := now }
  else L

/-- One statement of `PumpLoop`; `more` says that `recvfrom` had a packet. -/
def pumpLoop (armTicksToNs : UInt64 → UInt64) (L : Lifecycle) (now : UInt64) (more : Bool) : Lifecycle :=
  match L.pump with
  | .none | .ended => L
  | .loop =>
    if L.pumpStop then { L with pump := .ended }
    else { (L.checkKeepalive armTicksToNs now).record [.passed now] with pump := .receiving }
  | .receiving => { L.record [.used L.fd] with pump := if more then .receiving else .loop }

def step (armTicksToNs : UInt64 → UInt64) (L : Lifecycle) : Op → Lifecycle
  | .ensureConnected => if L.holder = .free ∧ L.connected = false then { L with holder := .opening } else L
  | .close => if L.holder = .free then { L with holder := .stopping false } else L
  | .forceReconnect => if L.holder = .free then { L with holder := .stopping true } else L
  | .next a => L.next a
  | .pump now more => L.pumpLoop armTicksToNs now more

end Lifecycle

/-! ## What the trace says -/

/-- The socket that is open. -/
def openSocket (trace : List Event) : Option Int :=
  trace.foldl (fun s e => match e with | .opened fd => some fd | .closed _ => none | _ => s) none

/-- When the relay was last connected or sent a keepalive. -/
def lastSent (trace : List Event) : Option UInt64 :=
  trace.foldl (fun s e => match e with | .connectedAt t => some t | .keepalive t => some t | _ => s) none

/-- What has to come before an event: the socket that is used or closed is the open one, none is open when one is opened, a
keepalive comes after its time and no pass without one does. -/
def Due (armTicksToNs : UInt64 → UInt64) (before : List Event) : Event → Prop
  | .opened _ => openSocket before = none
  | .closed fd | .used fd => openSocket before = some fd
  | .connectedAt _ => True
  | .keepalive now => ∃ t, lastSent before = some t ∧ keepaliveIntervalMs ≤ Lifecycle.elapsedMs armTicksToNs now t
  | .passed now => ∃ t, lastSent before = some t ∧ Lifecycle.elapsedMs armTicksToNs now t < keepaliveIntervalMs

theorem openSocket_append (before es : List Event) : openSocket (before ++ es) =
    es.foldl (fun s e => match e with | .opened fd => some fd | .closed _ => none | _ => s) (openSocket before) :=
  List.foldl_append

theorem lastSent_append (before es : List Event) : lastSent (before ++ es) =
    es.foldl (fun s e => match e with | .connectedAt t => some t | .keepalive t => some t | _ => s) (lastSent before) :=
  List.foldl_append

/-- The holder's next statement tells the state of the socket and of the thread. -/
def Phase (L : Lifecycle) : At → Prop
  | .free | .stopping _ => (L.connected = true ↔ 0 ≤ L.fd) ∧ (L.connected = false → L.pump = .none)
  | .opening => L.fd < 0 ∧ L.connected = false ∧ L.pump = .none
  | .resolving | .connecting => 0 ≤ L.fd ∧ L.connected = false ∧ L.pump = .none
  | .starting => 0 ≤ L.fd ∧ L.connected = true ∧ L.pump = .none
  | .waiting _ => 0 ≤ L.fd ∧ L.connected = true ∧ L.pump ≠ .none
  | .closing _ => (L.connected = true ↔ 0 ≤ L.fd) ∧ L.pump = .none
  | .clearing _ => L.fd < 0 ∧ L.pump = .none

structure Inv (armTicksToNs : UInt64 → UInt64) (L : Lifecycle) : Prop where
  phase : Phase L L.holder
  started : L.pumpStarted = true ↔ L.pump ≠ .none
  socket : openSocket L.trace = if 0 ≤ L.fd then some L.fd else none
  sent : L.connected = true → lastSent L.trace = some L.lastKeepaliveTick
  due : Traces.Justified (Due armTicksToNs) L.trace

section Steps

variable {armTicksToNs : UInt64 → UInt64} {L : Lifecycle} (h : Inv armTicksToNs L)

include h

/-- **A pump thread has a socket**, and its relay is connected. -/
theorem socket_of_pump (hp : L.pump ≠ .none) : 0 ≤ L.fd ∧ L.connected = true := by
  have hphase := h.phase
  cases hh : L.holder <;> rw [hh] at hphase
  case free | stopping =>
    have hc : L.connected = true := by
      by_contra hno
      exact hp (hphase.2 (Bool.not_eq_true _ ▸ hno))
    exact ⟨hphase.1.1 hc, hc⟩
  case waiting => exact ⟨hphase.1, hphase.2.1⟩
  case opening => exact absurd hphase.2.2 hp
  case resolving => exact absurd hphase.2.2 hp
  case connecting => exact absurd hphase.2.2 hp
  case starting => exact absurd hphase.2.2 hp
  case closing => exact absurd hphase.2 hp
  case clearing => exact absurd hphase.2 hp

/-- The holder's statement goes on to another while socket and thread stay. -/
theorem inv_holder {at' : At} (hphase : Phase L at') : Inv armTicksToNs { L with holder := at' } :=
  ⟨by cases at' <;> exact hphase, h.started, h.socket, h.sent, h.due⟩

theorem inv_openSocket (hat : L.holder = .opening) (a : Answers) : Inv armTicksToNs (L.openSocket a) := by
  have hphase := h.phase
  rw [hat] at hphase
  obtain ⟨hfd, hconn, hpump⟩ := hphase
  have hnone : openSocket L.trace = none := by rw [h.socket, if_neg (by omega)]
  have hoff : ¬ L.connected = true := by simp [hconn]
  unfold Lifecycle.openSocket
  split
  · rename_i hsock
    have hneg : ¬ (0 : Int) ≤ a.socket := by omega
    refine ⟨⟨⟨fun hc => absurd hc hoff, fun hf => absurd hf hneg⟩, fun _ => hpump⟩, h.started, ?_, h.sent, h.due⟩
    rw [if_neg hneg]
    exact hnone
  · rename_i hsock
    have hpos : (0 : Int) ≤ a.socket := by omega
    refine ⟨⟨hpos, hconn, hpump⟩, h.started, ?_, fun hc => absurd hc hoff,
      Traces.justified_append_singleton.2 ⟨h.due, hnone⟩⟩
    rw [if_pos hpos]
    exact openSocket_append _ _

theorem inv_resolve (hat : L.holder = .resolving) (a : Answers) : Inv armTicksToNs (L.resolve a) := by
  have hphase := h.phase
  rw [hat] at hphase
  obtain ⟨hfd, hconn, hpump⟩ := hphase
  have hopen : openSocket L.trace = some L.fd := by rw [h.socket, if_pos hfd]
  have hoff : ¬ L.connected = true := by simp [hconn]
  unfold Lifecycle.resolve
  split
  · exact inv_holder h ⟨hfd, hconn, hpump⟩
  · have hneg : ¬ (0 : Int) ≤ -1 := by decide
    refine ⟨⟨⟨fun hc => absurd hc hoff, fun hf => absurd hf hneg⟩, fun _ => hpump⟩, h.started, ?_,
      fun hc => absurd hc hoff, Traces.justified_append_singleton.2 ⟨h.due, hopen⟩⟩
    exact openSocket_append _ _

theorem inv_connect (hat : L.holder = .connecting) (a : Answers) : Inv armTicksToNs (L.connect a) := by
  have hphase := h.phase
  rw [hat] at hphase
  obtain ⟨hfd, hconn, hpump⟩ := hphase
  refine ⟨⟨hfd, rfl, hpump⟩, h.started, ?_, fun _ => ?_, Traces.justified_append_singleton.2 ⟨h.due, trivial⟩⟩
  · exact (openSocket_append _ _).trans h.socket
  · exact lastSent_append _ _

theorem inv_startPump (hat : L.holder = .starting) (a : Answers) : Inv armTicksToNs (L.startPump a) := by
  have hphase := h.phase
  rw [hat] at hphase
  obtain ⟨hfd, hconn, hpump⟩ := hphase
  have hup : L.connected = true ↔ 0 ≤ L.fd := ⟨fun _ => hfd, fun _ => hconn⟩
  unfold Lifecycle.startPump
  split
  · exact inv_holder h ⟨hup, fun _ => hpump⟩
  split
  · exact ⟨⟨hup, fun _ => hpump⟩, h.started, h.socket, h.sent, h.due⟩
  · have hon : ¬ L.connected = false := by simp [hconn]
    exact ⟨⟨hup, fun hc => absurd hc hon⟩, by simp, h.socket, h.sent, h.due⟩

theorem inv_stopPump {reconnect : Bool} (hat : L.holder = .stopping reconnect) :
    Inv armTicksToNs (L.stopPump reconnect) := by
  have hphase := h.phase
  rw [hat] at hphase
  have hstarted := h.started
  unfold Lifecycle.stopPump
  split
  · rename_i hs
    have hpump : L.pump = .none := by
      by_contra hno
      rw [hstarted.2 hno] at hs
      cases hs
    exact ⟨⟨hphase.1, hpump⟩, h.started, h.socket, h.sent, h.due⟩
  · rename_i hs
    have hpump := hstarted.1 (by simpa using hs)
    obtain ⟨hfd, hconn⟩ := socket_of_pump h hpump
    exact ⟨⟨hfd, hconn, hpump⟩, h.started, h.socket, h.sent, h.due⟩

theorem inv_waitThread {reconnect : Bool} (hat : L.holder = .waiting reconnect) :
    Inv armTicksToNs (L.waitThread reconnect) := by
  have hphase := h.phase
  rw [hat] at hphase
  obtain ⟨hfd, hconn, -⟩ := hphase
  unfold Lifecycle.waitThread
  split
  · exact ⟨⟨⟨fun _ => hfd, fun _ => hconn⟩, rfl⟩, by simp, h.socket, h.sent, h.due⟩
  · exact h

theorem inv_closeSocket {reconnect : Bool} (hat : L.holder = .closing reconnect) :
    Inv armTicksToNs (L.closeSocket reconnect) := by
  have hphase := h.phase
  rw [hat] at hphase
  unfold Lifecycle.closeSocket
  split
  · rename_i hfd
    have hopen : openSocket L.trace = some L.fd := by rw [h.socket, if_pos hfd]
    refine ⟨⟨by show (-1 : Int) < 0; decide, hphase.2⟩, h.started, openSocket_append _ _, fun hc => ?_,
      Traces.justified_append_singleton.2 ⟨h.due, hopen⟩⟩
    exact (lastSent_append _ _).trans (h.sent hc)
  · rename_i hfd
    exact inv_holder h ⟨by omega, hphase.2⟩

theorem inv_clear {reconnect : Bool} (hat : L.holder = .clearing reconnect) : Inv armTicksToNs (L.clear reconnect) := by
  have hphase := h.phase
  rw [hat] at hphase
  obtain ⟨hfd, hpump⟩ := hphase
  refine ⟨?_, h.started, h.socket, fun hc => (by cases hc), h.due⟩
  cases reconnect with
  | false =>
    have hneg : ¬ 0 ≤ L.fd := by omega
    exact ⟨⟨fun hc => (by cases hc), fun hf => absurd hf hneg⟩, fun _ => hpump⟩
  | true => exact ⟨hfd, rfl, hpump⟩

/-- **Every statement of the lock's holder keeps the invariant.** -/
theorem inv_next (a : Answers) : Inv armTicksToNs (L.next a) := by
  unfold Lifecycle.next
  cases hat : L.holder with
  | free => exact h
  | opening => exact inv_openSocket h hat a
  | resolving => exact inv_resolve h hat a
  | connecting => exact inv_connect h hat a
  | starting => exact inv_startPump h hat a
  | stopping reconnect => exact inv_stopPump h hat
  | waiting reconnect => exact inv_waitThread h hat
  | closing reconnect => exact inv_closeSocket h hat
  | clearing reconnect => exact inv_clear h hat

omit h in
/-- While there is a pump thread, the phase does not depend on where it is. -/
theorem phase_of_pump {L' : Lifecycle} {at' : At} (hphase : Phase L at') (hfd : L'.fd = L.fd)
    (hconn : L'.connected = L.connected) (hp : L.pump ≠ .none) (hp' : L'.pump ≠ .none) : Phase L' at' := by
  cases at' <;> unfold Phase at hphase ⊢ <;> dsimp only at hphase ⊢ <;> simp only [hfd, hconn]
  case free | stopping => exact ⟨hphase.1, fun hc => absurd (hphase.2 hc) hp⟩
  case waiting => exact ⟨hphase.1, hphase.2.1, hp'⟩
  case opening => exact absurd hphase.2.2 hp
  case resolving => exact absurd hphase.2.2 hp
  case connecting => exact absurd hphase.2.2 hp
  case starting => exact absurd hphase.2.2 hp
  case closing => exact absurd hphase.2 hp
  case clearing => exact absurd hphase.2 hp

/-- A statement of the pump thread that only moves it. -/
theorem inv_moved (hp : L.pump ≠ .none) {pump : PumpAt} (hpump : pump ≠ .none) : Inv armTicksToNs { L with pump := pump } :=
  ⟨phase_of_pump h.phase rfl rfl hp hpump, ⟨fun _ => hpump, fun _ => h.started.2 hp⟩, h.socket, h.sent, h.due⟩

/-- The pump thread uses the socket. -/
theorem inv_used (hp : L.pump ≠ .none) : Inv armTicksToNs (L.record [.used L.fd]) := by
  have hopen : openSocket L.trace = some L.fd := by rw [h.socket, if_pos (socket_of_pump h hp).1]
  refine ⟨h.phase, h.started, ?_, fun hc => ?_, Traces.justified_append_singleton.2 ⟨h.due, hopen⟩⟩
  · exact (openSocket_append _ _).trans h.socket
  · exact (lastSent_append _ _).trans (h.sent hc)

/-- **A keepalive is sent when it is due**, and then the next is not. -/
theorem inv_checkKeepalive (h0 : armTicksToNs 0 = 0) (hp : L.pump ≠ .none) (now : UInt64) :
    Inv armTicksToNs (L.checkKeepalive armTicksToNs now) ∧
    Lifecycle.elapsedMs armTicksToNs now (L.checkKeepalive armTicksToNs now).lastKeepaliveTick < keepaliveIntervalMs := by
  have hconn := (socket_of_pump h hp).2
  unfold Lifecycle.checkKeepalive
  split
  · rename_i hdue
    have hkept : Inv armTicksToNs { L.record [.keepalive now] with lastKeepaliveTick := now } := by
      refine ⟨h.phase, h.started, (openSocket_append _ _).trans h.socket, fun _ => lastSent_append _ _, ?_⟩
      exact Traces.justified_append_singleton.2 ⟨h.due, L.lastKeepaliveTick, h.sent hconn, hdue⟩
    have hused := inv_used hkept hp
    constructor
    · have htrace : L.trace ++ (.keepalive now :: [.used L.fd]) = (L.trace ++ [.keepalive now]) ++ [.used L.fd] := by simp
      simp only [Lifecycle.record, htrace]
      exact hused
    · rw [Lifecycle.elapsedMs, UInt64.sub_self, h0]
      decide
  · rename_i hlate
    exact ⟨h, UInt64.not_le.1 hlate⟩

theorem inv_pumpLoop (h0 : armTicksToNs 0 = 0) (now : UInt64) (more : Bool) :
    Inv armTicksToNs (L.pumpLoop armTicksToNs now more) := by
  unfold Lifecycle.pumpLoop
  cases hpump : L.pump with
  | none => exact h
  | ended => exact h
  | loop =>
    have hp : L.pump ≠ .none := by simp [hpump]
    dsimp only
    split
    · exact inv_moved h hp (by decide)
    · obtain ⟨hkept, hearly⟩ := inv_checkKeepalive h h0 hp now
      have hsame : (L.checkKeepalive armTicksToNs now).pump = L.pump ∧
          (L.checkKeepalive armTicksToNs now).connected = L.connected := by
        unfold Lifecycle.checkKeepalive
        split <;> exact ⟨rfl, rfl⟩
      have hp' : (L.checkKeepalive armTicksToNs now).pump ≠ .none := by rw [hsame.1]; exact hp
      have hconn := (socket_of_pump hkept hp').2
      have hpassed : Inv armTicksToNs ((L.checkKeepalive armTicksToNs now).record [.passed now]) := by
        refine ⟨hkept.phase, hkept.started, (openSocket_append _ _).trans hkept.socket, fun hc => ?_, ?_⟩
        · exact (lastSent_append _ _).trans (hkept.sent hc)
        · exact Traces.justified_append_singleton.2 ⟨hkept.due, _, hkept.sent hconn, hearly⟩
      exact inv_moved hpassed hp' (by decide)
  | receiving =>
    have hp : L.pump ≠ .none := by simp [hpump]
    refine inv_moved (inv_used h hp) hp ?_
    cases more <;> decide

/-- **Every step keeps the invariant.** -/
theorem inv_step (h0 : armTicksToNs 0 = 0) (op : Op) : Inv armTicksToNs (L.step armTicksToNs op) := by
  cases op with
  | ensureConnected =>
    unfold Lifecycle.step
    dsimp only
    split
    · rename_i hfree
      have hphase := h.phase
      rw [hfree.1] at hphase
      have hfd : L.fd < 0 := by
        by_contra hno
        have := hphase.1.2 (by omega)
        rw [hfree.2] at this
        cases this
      exact inv_holder h ⟨hfd, hfree.2, hphase.2 hfree.2⟩
    · exact h
  | close =>
    unfold Lifecycle.step
    dsimp only
    split
    · rename_i hfree
      have hphase : Phase L (.stopping false) := by
        have hphase := h.phase
        rw [hfree] at hphase
        exact hphase
      exact inv_holder h hphase
    · exact h
  | forceReconnect =>
    unfold Lifecycle.step
    dsimp only
    split
    · rename_i hfree
      have hphase : Phase L (.stopping true) := by
        have hphase := h.phase
        rw [hfree] at hphase
        exact hphase
      exact inv_holder h hphase
    · exact h
  | next a => exact inv_next h a
  | pump now more => exact inv_pumpLoop h h0 now more

end Steps

theorem inv_init (armTicksToNs : UInt64 → UInt64) : Inv armTicksToNs {} where
  phase := ⟨⟨fun h => (by cases h), fun h => absurd h (by decide)⟩, fun _ => rfl⟩
  started := ⟨fun h => (by cases h), fun h => absurd rfl h⟩
  socket := rfl
  sent h := by cases h
  due := Traces.justified_nil

/-- The states of the runs of a bridge from its construction on. -/
abbrev Reachable (armTicksToNs : UInt64 → UInt64) : Lifecycle → Prop :=
  Runs.Reachable (Lifecycle.step armTicksToNs) (fun _ _ => True) {}

/-- **The socket is used only while it is open, and keepalives keep their time**, in any order of the two sides' steps and with
any of the system's calls failing.  With no call under way, a socket is open exactly when the relay is connected, and a pump
thread runs only then. -/
theorem socket_used_open {armTicksToNs : UInt64 → UInt64} (h0 : armTicksToNs 0 = 0) {L : Lifecycle}
    (h : Reachable armTicksToNs L) :
    Traces.Justified (Due armTicksToNs) L.trace ∧
    (L.holder = .free → (L.connected = true ↔ (openSocket L.trace).isSome = true) ∧
      (L.pump ≠ .none → L.connected = true)) := by
  have hinv : Inv armTicksToNs L := h.keeps (inv_init armTicksToNs) (fun _ op hL _ => inv_step hL h0 op)
  refine ⟨hinv.due, fun hfree => ?_⟩
  have hphase := hinv.phase
  rw [hfree] at hphase
  refine ⟨?_, fun hp => (socket_of_pump hinv hp).2⟩
  rw [hinv.socket, hphase.1]
  by_cases hfd : 0 ≤ L.fd <;> simp [hfd]

/-! ## A reconnect in the middle of a pass -/

/-- libnx's, for a counter of 19.2 MHz. -/
def ticksToNs (tick : UInt64) : UInt64 := tick * 625 / 12

def answers (socket : Int) (tick : UInt64) : Answers := ⟨socket, true, true, tick⟩

/-- The relay is connected, its pump sends a keepalive after two seconds, and it is reconnected before the pass ends. -/
def reconnecting : List Op :=
  .ensureConnected :: List.replicate 4 (.next (answers 5 0)) ++
    [.pump 100 false, .pump 200 false, .pump 38400000 false, .forceReconnect, .next (answers 5 0), .next (answers 5 0),
      .pump 0 false, .pump 38400100 false] ++ List.replicate 7 (.next (answers 6 38500000)) ++ [.pump 38500100 true]

def reconnectingTrace : List Event :=
  [.opened 5, .connectedAt 0, .passed 100, .used 5, .keepalive 38400000, .used 5, .passed 38400000, .used 5, .closed 5,
    .opened 6, .connectedAt 38500000, .passed 38500100]

theorem socket_used_open_reconnecting : (Runs.run (Lifecycle.step ticksToNs) {} reconnecting).trace = reconnectingTrace ∧
    Traces.Justified (Due ticksToNs) (Runs.run (Lifecycle.step ticksToNs) {} reconnecting).trace := by
  have hreach : Reachable ticksToNs (Runs.run (Lifecycle.step ticksToNs) {} reconnecting) :=
    Runs.reachable_run reconnecting .init (by decide +kernel)
  exact ⟨by decide +kernel, (socket_used_open (by decide) hreach).1⟩

end RelayLifecycle
end Slp
