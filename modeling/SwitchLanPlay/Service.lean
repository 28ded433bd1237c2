import SwitchLanPlay.RelayBridge
import SwitchLanPlay.VTcp
/-!
# Service — the bridge instances and the state they share (source/bsd/bsd_bridge_service.{hpp,cpp})

Every intercepted process has an `Instance`, a `BsdBridgeService`; `Service` holds all of them, in the order they were
made, with the globals of the file.  `Service.step` is one command of one instance, the end of an instance, one turn of the
watchdog or of the drain thread, or one of the overlay's buttons.  What the real bsd:u service, nifm, the clock and the
relay's socket answer is part of the command; a command that only forwards is none.
-/
namespace Slp

open Wire

def SOCK_STREAM : Int := 1
def SOCK_DGRAM : Int := 2

/-! ## One instance -/

def maxTrackedFds : Nat := 16

structure Instance where
  bridgedFd : Int := -1
  bridgedLocalIp : UInt32 := 0
  bridgedLocalPort : UInt16 := 0
  ldnTcpBindFd : Int := -1
  trackedFd : Fin maxTrackedFds → Int := fun _ => -1
  trackedType : Fin maxTrackedFds → Int := fun _ => -1

namespace Instance

/-- A type that finds no free slot is not recorded. -/
def trackFd (s : Instance) (fd type : Int) : Instance :=
  if fd < 0 then s
  else
    match SlotTable.first (fun x => x == -1 || x == fd) s.trackedFd with
    | none => s
    | some k =>
      { s with trackedFd := Function.update s.trackedFd k fd, trackedType := Function.update s.trackedType k type }

/-- The type of an untracked slot stays behind. -/
def untrackFd (s : Instance) (fd : Int) : Instance :=
  { s with trackedFd := fun k => if s.trackedFd k = fd then -1 else s.trackedFd k }

def getTrackedType (s : Instance) (fd : Int) : Int :=
  match SlotTable.first (fun x => x == fd) s.trackedFd with
  | none => -1
  | some k => s.trackedType k

def isBridged (s : Instance) (fd : Int) : Bool := decide (0 ≤ fd) && fd == s.bridgedFd

/-- The instance has a bridged socket. -/
def hasBridged (s : Instance) : Bool := decide (0 ≤ s.bridgedFd)

def unbridged (s : Instance) : Instance := { s with bridgedFd := -1, bridgedLocalIp := 0, bridgedLocalPort := 0 }

end Instance

/-! ## The shared state -/

structure Service where
  relay : RelayBridge := RelayBridge.init
  relayConnectAttempted : Bool := false
  relayEnabled : Bool := true
  lastBridgedLocalIp : UInt32 := 0
  bridgedSocketCount : Int := 0
  activeLdnInstance : Option Nat := none
  lastBridgeActivityMs : UInt64 := 0
  vtcp : VTcp := {}
  /-- An instance that has ended leaves its place empty. -/
  instances : List (Option Instance) := []

namespace Service

def instance? (S : Service) (i : Nat) : Option Instance := S.instances[i]?.join

def setInstance (S : Service) (i : Nat) (s : Instance) : Service := { S with instances := S.instances.set i (some s) }

/-- `this == g_active_ldn_instance`. -/
def owns (S : Service) (i : Nat) : Bool := S.activeLdnInstance == some i

/-- The instances with a bridged socket. -/
def bridgedInstances (S : Service) : Nat := S.instances.countP (fun o => o.any Instance.hasBridged)

/-- What `SendTcpSegment` gets onto the relay. -/
def sendSegments (S : Service) (segs : List Segment) : List Segment := if S.relay.connected then segs else []

/-! ## The relay's connection -/

/-- `ConnectRelayLocked`: `ok` is the result of `RelayBridge::Connect`. -/
def connectRelay (S : Service) (ok : Bool) : Service :=
  { S with relayConnectAttempted := true, relay := if ok then S.relay.connect else S.relay }

def ensureRelayConnected (S : Service) (ok : Bool) : Service × Bool :=
  if !S.relayEnabled then (S, false)
  else if S.relay.connected then (S, true)
  else if S.relayConnectAttempted then (S, false)
  else (S.connectRelay ok, ok)

def forceReconnect (S : Service) (ok : Bool) : Service :=
  connectRelay { S with
    relayEnabled := true
    relay := S.relay.close
    relayConnectAttempted := false
    lastBridgeActivityMs := 0 } ok

def stop (S : Service) : Service :=
  { S with relayEnabled := false, relay := S.relay.close, relayConnectAttempted := false, lastBridgeActivityMs := 0 }

def start (S : Service) (ok : Bool) : Service :=
  let S' := { S with relayEnabled := true }
  if S.relay.connected then S' else connectRelay { S' with relayConnectAttempted := false } ok

def touchBridgeActivity (S : Service) (now : UInt64) : Service := { S with lastBridgeActivityMs := now }

def watchdogIdleTimeoutMs : UInt64 := 600000

/-- The watchdog finds the relay idle for too long. -/
def watchdogFires (S : Service) (now : UInt64) : Bool :=
  S.relay.connected && S.lastBridgeActivityMs != 0 && decide (watchdogIdleTimeoutMs ≤ now - S.lastBridgeActivityMs)

/-- One turn of `WatchdogThreadMain`. -/
def watchdog (S : Service) (now : UInt64) : Service :=
  if S.watchdogFires now then
    { S with
      relay := S.relay.close
      relayConnectAttempted := false
      lastBridgedLocalIp := 0
      bridgedSocketCount := 0
      lastBridgeActivityMs := 0 }
  else S

/-! ## The bridged commands -/

/-- A new instance for an intercepted process. -/
def create (S : Service) : Service := { S with instances := S.instances ++ [some {}] }

/-- The destructor. -/
def destroy (S : Service) (i : Nat) : Service :=
  { S with
    activeLdnInstance := if S.owns i then none else S.activeLdnInstance
    instances := S.instances.set i none }

/-- `Socket` and `SocketExempt`: `ret` is the real service's answer. -/
def socket (S : Service) (i : Nat) (type ret : Int) : Service :=
  match S.instance? i with
  | none => S
  | some s => S.setInstance i (s.trackFd ret type)

/-- `Bind` bridges the socket: it is bound to the control port, or its address is the one the session uses. -/
def bridges (S : Service) (s : Instance) (fd : Int) (port : UInt16) (learnedIp : UInt32) : Bool :=
  s.getTrackedType fd == SOCK_DGRAM &&
    (port == ldnControlPort || (S.lastBridgedLocalIp != 0 && learnedIp == S.lastBridgedLocalIp))

/-- A bridging `Bind` before it connects the relay. -/
def bridge (S : Service) (i : Nat) (s : Instance) (fd : Int) (port : UInt16) (learnedIp : UInt32) : Service :=
  { S.setInstance i { s with bridgedFd := fd, bridgedLocalIp := learnedIp, bridgedLocalPort := port } with
    lastBridgedLocalIp := learnedIp
    bridgedSocketCount := S.bridgedSocketCount + 1
    activeLdnInstance := if port == ldnControlPort then some i else S.activeLdnInstance }

/-- `Bind` to a full address: `learnedIp` is what `GetSockName` and nifm answer, `ok` the relay's connect.  The real `Bind`'s
result changes nothing. -/
def bind (S : Service) (i : Nat) (fd : Int) (port : UInt16) (learnedIp : UInt32) (ok : Bool) : Service :=
  match S.instance? i with
  | none => S
  | some s =>
    if S.bridges s fd port learnedIp then ((S.bridge i s fd port learnedIp).ensureRelayConnected ok).1
    else if port == ldnControlPort && s.getTrackedType fd != SOCK_DGRAM then S.setInstance i { s with ldnTcpBindFd := fd }
    else S

def listen (S : Service) (i : Nat) (fd : Int) : Service :=
  match S.instance? i with
  | none => S
  | some s =>
    if 0 ≤ fd ∧ fd = s.ldnTcpBindFd then { S with vtcp := { S.vtcp with tcpListenFd := fd } } else S

def accept (S : Service) (i : Nat) (fd : Int) : Service :=
  match S.instance? i with
  | none => S
  | some s =>
    if S.vtcp.isOwnTcpListenFd (S.owns i) fd then
      match S.vtcp.accept (S.owns i) with
      | none => S
      | some (vtcp, newFd) => { S.setInstance i (s.trackFd newFd SOCK_STREAM) with vtcp := vtcp }
    else S

/-- `Connect` up to its first SYN; `ourIsn` is the random initial sequence number. -/
def connect (S : Service) (i : Nat) (fd : Int) (dstIp : UInt32) (dstPort : UInt16) (ourIsn : UInt32) (ok : Bool) :
    Service × List Segment :=
  match S.instance? i with
  | none => (S, [])
  | some s =>
    if s.getTrackedType fd == SOCK_STREAM && dstPort == ldnControlPort then
      match S.ensureRelayConnected ok with
      | (S', false) => (S', [])
      | (S', true) =>
        match S'.vtcp.connect (S'.owns i) s.bridgedLocalIp fd dstIp dstPort ourIsn with
        | none => (S', [])
        | some (vtcp, syn) => ({ S' with vtcp := vtcp }, S'.sendSegments [syn])
    else (S, [])

/-- `Connect` after its last attempt. -/
def connectTimedOut (S : Service) (i : Nat) (fd : Int) : Service :=
  { S with vtcp := S.vtcp.connectTimedOut (S.owns i) fd }

/-- `SendTo` on a virtual connection or on the bridged socket; `relayOk` is the outcome of `SendIpv4`. -/
def sendTo (S : Service) (i : Nat) (fd : Int) (buf : Bytes) (ok relayOk : Bool) (now : UInt64) :
    Service × List Segment :=
  match S.instance? i with
  | none => (S, [])
  | some s =>
    match S.vtcp.findVTcpConnByFd (S.owns i) fd with
    | some k =>
      if !(S.vtcp.conns k).established then (S, [])
      else
        match S.ensureRelayConnected ok with
        | (S', false) => (S', [])
        | (S', true) =>
          let (c, segs, _, _) := (S'.vtcp.conns k).sendTo s.bridgedLocalIp ⟨true, relayOk, now⟩ buf
          let S'' := { S' with vtcp := S'.vtcp.setConn k c }
          (if vtcpInboxCap < buf.length then S'' else S''.touchBridgeActivity now, segs)
    | none =>
      if s.isBridged fd then
        match S.ensureRelayConnected ok with
        | (S', false) => (S', [])
        | (S', true) => (if maxBridgedPayload < buf.length then S' else S'.touchBridgeActivity now, [])
      else (S, [])

/-- `RecvFrom` on a virtual connection. -/
def recvFrom (S : Service) (i : Nat) (fd : Int) (bufSize addrSize : Nat) (now : UInt64) : Service :=
  match S.vtcp.findVTcpConnByFd (S.owns i) fd with
  | none => S
  | some k =>
    let (c, out) := (S.vtcp.conns k).recvFrom bufSize addrSize
    let S' := { S with vtcp := S.vtcp.setConn k c }
    if out.src.isSome then S'.touchBridgeActivity now else S'

/-- `if (g_bridged_socket_count > 0) g_bridged_socket_count--;` -/
def countAfter (S : Service) : Int := if 0 < S.bridgedSocketCount then S.bridgedSocketCount - 1 else S.bridgedSocketCount

/-- The end of `Close` on the bridged socket: the relay goes with the last one. -/
def unbridge (S : Service) (i : Nat) (s : Instance) : Service :=
  let S' := { S.setInstance i s.unbridged with
    activeLdnInstance := if s.bridgedLocalPort == ldnControlPort && S.owns i then none else S.activeLdnInstance
    bridgedSocketCount := S.countAfter }
  if S.countAfter = 0 then
    { S' with
      relay := S'.relay.close
      relayConnectAttempted := false
      lastBridgedLocalIp := 0
      lastBridgeActivityMs := 0 }
  else S'

/-- The descriptor is a synthetic one, that of an accepted connection: `Close` ends before the real service. -/
def isSynthetic (S : Service) (i : Nat) (fd : Int) : Bool :=
  (S.vtcp.findVTcpConnByFd (S.owns i) fd).any (fun k => decide (1000 ≤ (S.vtcp.conns k).fd))

def close (S : Service) (i : Nat) (fd : Int) : Service × List Segment :=
  match S.instance? i with
  | none => (S, [])
  | some s =>
    let (vtcp, segs) := S.vtcp.close (S.owns i) s.bridgedLocalIp fd
    let s' := s.untrackFd fd
    let S' := { S.setInstance i s' with vtcp := vtcp }
    (if S.isSynthetic i fd || !s'.isBridged fd then S' else S'.unbridge i s', S.sendSegments segs)

/-! ## The drain thread -/

/-- A TCP segment popped from the relay goes to the owner of the virtual TCP state. -/
def drainSegment (S : Service) (ourIsn : UInt32) (m : TcpSegment) : Service × List Segment :=
  if S.activeLdnInstance.isNone || m.dstPort != ldnControlPort then (S, [])
  else
    let (vtcp, segs) := S.vtcp.handleTcpSegment true S.lastBridgedLocalIp ourIsn m
    ({ S with vtcp := vtcp }, S.sendSegments segs)

def drainRetransmits (S : Service) (now : UInt64) : Service × List Segment :=
  if S.activeLdnInstance.isNone then (S, [])
  else
    let (vtcp, segs) := S.vtcp.checkDataRetransmits S.lastBridgedLocalIp now
    ({ S with vtcp := vtcp }, S.sendSegments segs)

theorem drainSegment_relay (S : Service) (ourIsn : UInt32) (m : TcpSegment) : (S.drainSegment ourIsn m).1.relay = S.relay := by
  unfold drainSegment
  split <;> rfl

theorem drainRetransmits_relay (S : Service) (now : UInt64) : (S.drainRetransmits now).1.relay = S.relay := by
  unfold drainRetransmits
  split <;> rfl

/-! ## What an unbridging leaves -/

section Unbridge

variable (S : Service) (i : Nat) (s : Instance)

@[simp] theorem unbridge_vtcp : (S.unbridge i s).vtcp = S.vtcp := by
  unfold unbridge
  dsimp only
  split <;> rfl

@[simp] theorem unbridge_instances : (S.unbridge i s).instances = S.instances.set i (some s.unbridged) := by
  unfold unbridge
  dsimp only
  split <;> rfl

@[simp] theorem unbridge_activeLdnInstance : (S.unbridge i s).activeLdnInstance =
    if s.bridgedLocalPort == ldnControlPort && S.owns i then none else S.activeLdnInstance := by
  unfold unbridge
  dsimp only
  split <;> rfl

@[simp] theorem unbridge_bridgedSocketCount : (S.unbridge i s).bridgedSocketCount = S.countAfter := by
  unfold unbridge
  dsimp only
  split <;> rfl

@[simp] theorem unbridge_relay : (S.unbridge i s).relay = if S.countAfter = 0 then S.relay.close else S.relay := by
  unfold unbridge
  dsimp only
  split <;> rfl

end Unbridge

/-! ## Runs -/

inductive Op where
  | create
  | destroy (i : Nat)
  | socket (i : Nat) (type ret : Int)
  | bind (i : Nat) (fd : Int) (port : UInt16) (learnedIp : UInt32) (ok : Bool)
  | listen (i : Nat) (fd : Int)
  | accept (i : Nat) (fd : Int)
  | connect (i : Nat) (fd : Int) (dstIp : UInt32) (dstPort : UInt16) (ourIsn : UInt32) (ok : Bool)
  | connectTimedOut (i : Nat) (fd : Int)
  | sendTo (i : Nat) (fd : Int) (buf : Bytes) (ok relayOk : Bool) (now : UInt64)
  | recvFrom (i : Nat) (fd : Int) (bufSize addrSize : Nat) (now : UInt64)
  -- a packet returned by `RecvFrom` on a bridged socket
  | received (now : UInt64)
  | close (i : Nat) (fd : Int)
  | drainSegment (ourIsn : UInt32) (m : TcpSegment)
  | drainRetransmits (now : UInt64)
  | watchdog (now : UInt64)
  | forceReconnect (ok : Bool)
  | stop
  | start (ok : Bool)

def step (S : Service) : Op → Service × List Segment
  | .create => (S.create, [])
  | .destroy i => (S.destroy i, [])
  | .socket i type ret => (S.socket i type ret, [])
  | .bind i fd port learnedIp ok => (S.bind i fd port learnedIp ok, [])
  | .listen i fd => (S.listen i fd, [])
  | .accept i fd => (S.accept i fd, [])
  | .connect i fd dstIp dstPort ourIsn ok => S.connect i fd dstIp dstPort ourIsn ok
  | .connectTimedOut i fd => (S.connectTimedOut i fd, [])
  | .sendTo i fd buf ok relayOk now => S.sendTo i fd buf ok relayOk now
  | .recvFrom i fd bufSize addrSize now => (S.recvFrom i fd bufSize addrSize now, [])
  | .received now => (S.touchBridgeActivity now, [])
  | .close i fd => S.close i fd
  | .drainSegment ourIsn m => S.drainSegment ourIsn m
  | .drainRetransmits now => S.drainRetransmits now
  | .watchdog now => (S.watchdog now, [])
  | .forceReconnect ok => (S.forceReconnect ok, [])
  | .stop => (S.stop, [])
  | .start ok => (S.start ok, [])

/-- The states of the runs whose steps all meet `ok`. -/
inductive Reachable (ok : Service → Op → Prop) : Service → Prop
  | init : Reachable ok {}
  | step {S : Service} (h : Reachable ok S) (op : Op) (hok : ok S op) : Reachable ok (S.step op).1

def run (S : Service) (ops : List Op) : Service := ops.foldl (fun S op => (S.step op).1) S

/-- Every step of the run meets `ok`. -/
def AllOk (ok : Service → Op → Prop) : Service → List Op → Prop
  | _, [] => True
  | S, op :: ops => ok S op ∧ AllOk ok (S.step op).1 ops

instance decidableAllOk {ok : Service → Op → Prop} [hd : ∀ S op, Decidable (ok S op)] :
    ∀ (S : Service) (ops : List Op), Decidable (AllOk ok S ops)
  | _, [] => isTrue trivial
  | S, op :: ops => @instDecidableAnd _ _ (hd S op) (decidableAllOk (S.step op).1 ops)

/-- Every state of the run, its first included, has `P`. -/
def Throughout (P : Service → Prop) : Service → List Op → Prop
  | S, [] => P S
  | S, op :: ops => P S ∧ Throughout P (S.step op).1 ops

theorem Throughout.head {P : Service → Prop} {S : Service} : ∀ {ops : List Op}, Throughout P S ops → P S
  | [], h => h
  | _ :: _, h => h.1

/-- **A property that a step keeps exactly when it meets `ok` holds throughout the runs whose steps all do.** -/
theorem throughout_iff {P : Service → Prop} {ok : Service → Op → Prop}
    (hstep : ∀ S op, P S → (P (S.step op).1 ↔ ok S op)) : ∀ (ops : List Op) {S : Service}, P S →
      (Throughout P S ops ↔ AllOk ok S ops)
  | [], _, hS => iff_of_true hS trivial
  | op :: ops, S, hS => by
    constructor
    · intro h
      have hnext : P (S.step op).1 := h.2.head
      exact ⟨(hstep S op hS).1 hnext, (throughout_iff hstep ops hnext).1 h.2⟩
    · intro h
      have hnext : P (S.step op).1 := (hstep S op hS).2 h.1
      exact ⟨hS, (throughout_iff hstep ops hnext).2 h.2⟩

theorem reachable_run {ok : Service → Op → Prop} : ∀ (ops : List Op) {S : Service}, Reachable ok S → AllOk ok S ops →
    Reachable ok (run S ops)
  | [], _, h, _ => h
  | op :: ops, _, h, hok => reachable_run ops (h.step op hok.1) hok.2

end Service
end Slp
