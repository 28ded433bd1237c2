import SwitchLanPlay.Commands
import SwitchLanPlay.ConfigService
import SwitchLanPlay.ConnectRace
import SwitchLanPlay.Traces
/-!
# RelayPicker — which server the frames go to (overlay/source/main.cpp, source/cfg, source/bsd/bsd_bridge_service.cpp)

The overlay selects a server and then has the relay connected anew, while the games' commands, the drain thread and the watchdog
go on.  A step is one locked region of any of them, a call of the overlay's or an edit of selected.cfg.  `Connect` reads the
selection once, so a frame goes to the server that was selected when the relay was last connected, and none is sent after `Stop`
before `Start` or `Reconnect` (`frames_justified`).  A pick takes effect with the `Reconnect` that follows it (`frames_to_picked`).
-/
namespace Slp

open Wire CStrings Servers

/-- What `RelayBridge::Connect` is given. -/
abbrev HostPort := CStr 128 × UInt16

namespace RelayPicker

/-- A packet that is handed to `SendIpv4`. -/
abbrev Frame := Segment ⊕ UdpSend

inductive Event where
  | selected (addr : HostPort)
  | started
  | stopped
  | connected (addr : HostPort)
  | closed
  | sent (addr : Option HostPort) (frame : Frame)

inductive Op where
  -- a locked region of a command, of the drain thread, of the watchdog or of `Reconnect`, `Start` and `Stop`
  | move (m : Console.Move)
  -- `SendTo`, with the datagram of a bridged socket: `EnsureRelayConnected` and `SendIpv4` together, though the latter comes
  -- after g_relay_mutex is given back
  | sendTo (i : Nat) (env : Env) (fd flags : Int) (buffer addr : Bytes)
  -- one of the attempts of a `Connect` sends its SYN
  | attempt (syn : Segment)
  | openOverlay (file : Option Bytes)
  | config (e : RuntimeCfg.Event)

end RelayPicker

/-- The sysmodule, the overlay's own list, and `m_relay_addr` as what the last `Connect` that succeeded was given. -/
structure RelayPicker where
  console : Console := {}
  cfg : RuntimeCfg := {}
  overlay : ServerList := ⟨[], by decide⟩
  relayAddr : Option HostPort := none
  trace : List RelayPicker.Event := []

namespace RelayPicker

def connected (C : Console) : Bool := C.service.relay.connected

/-- What a step leaves of the console, and the packets that it hands to the relay. -/
def act (C : Console) : Op → Console × List Frame
  | .move (.packet ourIsn pkt) => ((C.drainPacket ourIsn pkt).1, (C.drainPacket ourIsn pkt).2.map .inl)
  | .move (.step op) => (C.setService (C.service.step op).1, (C.service.step op).2.map .inl)
  | .move m => (C.move m, [])
  | .sendTo i env fd flags buffer addr =>
    let o := C.command i env (.sendTo fd flags buffer addr)
    (o.console, o.segs.map .inl ++ o.udp.map .inr)
  | .attempt syn => (C, (C.service.sendSegments [syn]).map .inl)
  | .openOverlay _ | .config _ => (C, [])

/-- `Reconnect` closes the relay whether or not it is connected. -/
def Op.reconnects : Op → Bool
  | .move (.step (.forceReconnect _)) => true
  | _ => false

/-- What a step does to `g_relay_enabled`. -/
def Op.switches : Op → List Event
  | .move (.step (.forceReconnect _)) | .move (.step (.start _)) => [.started]
  | .move (.step .stop) => [.stopped]
  | _ => []

/-- The step loads the sysmodule's list anew. -/
def Op.loads : Op → Bool
  | .openOverlay _ | .config (.reloadServers _) => true
  | _ => false

/-- The step may select another server. -/
def Op.selects : Op → Bool
  | .openOverlay _ | .config (.reloadServers _) | .config (.selectServer _ _) => true
  | _ => false

/-- The overlay loads its list when it starts. -/
def configure (cfg : RuntimeCfg) (overlay : ServerList) : Op → RuntimeCfg × ServerList
  | .openOverlay file => ((cfg.initServices file).sysmodule, (cfg.initServices file).overlay)
  | .config e => (cfg.after e, overlay)
  | _ => (cfg, overlay)

/-- What a step does with the relay, which was connected or not before it, and is up or not after it.  One that sends and closes
sends first, one that connects and sends connects first. -/
def relayEvents (was up reconnects : Bool) (old : Option HostPort) (selected : HostPort) (frames : List Frame) : List Event :=
  match was, up, reconnects with
  | true, true, false => frames.map (.sent old)
  | true, true, true => frames.map (.sent old) ++ [.closed, .connected selected]
  | true, false, _ => frames.map (.sent old) ++ [.closed]
  | false, true, _ => .connected selected :: frames.map (.sent (some selected))
  | false, false, _ => frames.map (.sent old)

def step (P : RelayPicker) (op : Op) : RelayPicker :=
  let (C, frames) := act P.console op
  let (cfg, overlay) := configure P.cfg P.overlay op
  let was := connected P.console
  let selected := P.cfg.connectHostPort
  { console := C
    cfg := cfg
    overlay := overlay
    relayAddr := if connected C && (!was || op.reconnects) then some selected else P.relayAddr
    trace := P.trace ++ op.switches ++ relayEvents was (connected C) op.reconnects P.relayAddr selected frames ++
      if op.selects then [.selected cfg.connectHostPort] else [] }

/-! ## What the trace says -/

/-- What is remembered of a trace: the server that is selected, whether the relay is switched on, and the server it is
connected to. -/
structure Memory where
  selected : HostPort := RuntimeCfg.connectHostPort { list := ⟨[], Nat.zero_le _⟩ }
  on : Bool := true
  openTo : Option HostPort := none

def Memory.after (m : Memory) : Event → Memory
  | .selected addr => { m with selected := addr }
  | .started => { m with on := true }
  | .stopped => { m with on := false }
  | .connected addr => { m with openTo := some addr }
  | .closed => { m with openTo := none }
  | .sent _ _ => m

def remember (trace : List Event) : Memory := trace.foldl Memory.after {}

/-- The relay is connected while it is switched on and closed, to the server that is selected, and a frame goes to the server
that it is connected to while it is switched on. -/
def Memory.Due (m : Memory) : Event → Prop
  | .selected _ | .started | .stopped => True
  | .connected addr => m.on = true ∧ m.openTo = none ∧ addr = m.selected
  | .closed => m.openTo.isSome = true
  | .sent addr _ => m.on = true ∧ addr.isSome = true ∧ m.openTo = addr

theorem foldl_sent (m : Memory) (addr : Option HostPort) : ∀ frames : List Frame,
    (frames.map (Event.sent addr)).foldl Memory.after m = m
  | [] => rfl
  | _ :: frames => foldl_sent m addr frames

theorem accepted_sent {m : Memory} {addr : Option HostPort} (h : ∀ f, m.Due (.sent addr f)) : ∀ frames : List Frame,
    Traces.Accepted Memory.after Memory.Due m (frames.map (Event.sent addr))
  | [] => trivial
  | f :: frames => ⟨h f, accepted_sent h frames⟩

end RelayPicker

/-! ## What one step does to the relay -/

namespace Service

/-- A step that is none of `Reconnect`, `Start` and `Stop`: it connects the relay only while it is switched on, and is `silent`
unless the relay is connected before it or after. -/
structure Acts (S S' : Service) (silent : Prop) : Prop where
  on : S'.relayEnabled = S.relayEnabled
  dials : S.relay.connected = false → S'.relay.connected = true → S.relayEnabled = true
  silent : S.relay.connected = false → S'.relay.connected = false → silent

theorem Acts.and_silent {S S' : Service} {p q : Prop} (h : Acts S S' p) (h' : p → q) : Acts S S' q :=
  ⟨h.on, h.dials, fun hdown hstill => h' (h.silent hdown hstill)⟩

variable (S : Service)

theorem acts_of_relay {S S' : Service} {silent : Prop} (hon : S'.relayEnabled = S.relayEnabled) (hrelay : S'.relay = S.relay)
    (h : S.relay.connected = false → silent) : Acts S S' silent where
  on := hon
  dials hdown hup := by
    rw [hrelay, hdown] at hup
    cases hup
  silent hdown _ := h hdown

theorem sendSegments_down {S : Service} (h : S.relay.connected = false) (segs : List Segment) : S.sendSegments segs = [] := by
  rw [sendSegments, h]
  rfl

theorem acts_ensure (ok : Bool) : Acts S (S.ensureRelayConnected ok).1 ((S.ensureRelayConnected ok).2 = false) := by
  unfold ensureRelayConnected
  split
  · exact acts_of_relay rfl rfl fun _ => rfl
  rename_i hon
  split
  · rename_i hup
    exact acts_of_relay rfl rfl fun hdown => by rw [hdown] at hup; cases hup
  split
  · exact acts_of_relay rfl rfl fun _ => rfl
  · refine ⟨rfl, fun _ _ => by simpa using hon, fun hdown hstill => ?_⟩
    cases ok with
    | false => rfl
    | true => cases hstill

/-- A step that closes the relay or leaves it. -/
theorem acts_of_close {S S' : Service} {silent : Prop} (hon : S'.relayEnabled = S.relayEnabled)
    (hrelay : S'.relay = S.relay ∨ S'.relay = S.relay.close) (h : S.relay.connected = false → silent) : Acts S S' silent := by
  rcases hrelay with hsame | hclosed
  · exact acts_of_relay hon hsame h
  · refine ⟨hon, fun _ hup => ?_, fun hdown _ => h hdown⟩
    rw [hclosed] at hup
    cases hup

theorem acts_socket (i : Nat) (type ret : Int) : Acts S (S.socket i type ret) True := by
  unfold socket
  split <;> exact acts_of_relay rfl rfl fun _ => trivial

theorem acts_listen (i : Nat) (fd : Int) : Acts S (S.listen i fd) True := by
  unfold listen
  split
  · exact acts_of_relay rfl rfl fun _ => trivial
  · split <;> exact acts_of_relay rfl rfl fun _ => trivial

theorem acts_accept (i : Nat) (fd : Int) : Acts S (S.accept i fd) True := by
  unfold accept
  split
  · exact acts_of_relay rfl rfl fun _ => trivial
  split
  · split <;> exact acts_of_relay rfl rfl fun _ => trivial
  · exact acts_of_relay rfl rfl fun _ => trivial

theorem acts_watchdog (now : UInt64) : Acts S (S.watchdog now) True := by
  unfold watchdog
  split
  · exact acts_of_close rfl (.inr rfl) fun _ => trivial
  · exact acts_of_relay rfl rfl fun _ => trivial

theorem acts_bind (i : Nat) (fd : Int) (port : UInt16) (learnedIp : UInt32) (ok : Bool) :
    Acts S (S.bind i fd port learnedIp ok) True := by
  unfold bind
  split
  · exact acts_of_relay rfl rfl fun _ => trivial
  rename_i s hs
  split
  · have hensure := (S.bridge i s fd port learnedIp).acts_ensure ok
    exact ⟨hensure.on, hensure.dials, fun _ _ => trivial⟩
  split <;> exact acts_of_relay rfl rfl fun _ => trivial

theorem acts_connect (i : Nat) (fd : Int) (dstIp : UInt32) (dstPort : UInt16) (ourIsn : UInt32) (ok : Bool) :
    Acts S (S.connect i fd dstIp dstPort ourIsn ok).1 ((S.connect i fd dstIp dstPort ourIsn ok).2 = []) := by
  have hensure := S.acts_ensure ok
  unfold connect
  split
  · exact acts_of_relay rfl rfl fun _ => rfl
  split
  · generalize S.ensureRelayConnected ok = r at hensure
    obtain ⟨S', up⟩ := r
    cases up with
    | false => exact ⟨hensure.on, hensure.dials, fun _ _ => rfl⟩
    | true =>
      dsimp only
      split
      · exact ⟨hensure.on, hensure.dials, fun _ _ => rfl⟩
      · exact ⟨hensure.on, hensure.dials, fun _ hdown => sendSegments_down hdown _⟩
  · exact acts_of_relay rfl rfl fun _ => rfl

theorem acts_sendTo (i : Nat) (fd : Int) (buf : Bytes) (ok relayOk : Bool) (now : UInt64) :
    Acts S (S.sendTo i fd buf ok relayOk now).1 ((S.sendTo i fd buf ok relayOk now).2 = []) := by
  have hensure := S.acts_ensure ok
  unfold sendTo
  split
  · exact acts_of_relay rfl rfl fun _ => rfl
  split
  · split
    · exact acts_of_relay rfl rfl fun _ => rfl
    generalize S.ensureRelayConnected ok = r at hensure
    obtain ⟨S', up⟩ := r
    cases up with
    | false => exact ⟨hensure.on, hensure.dials, fun _ _ => rfl⟩
    | true =>
      have hnot : S.relay.connected = false → S'.relay.connected = false → False := fun hdown hstill =>
        Bool.noConfusion (hensure.silent hdown hstill)
      dsimp only
      split
      · exact ⟨hensure.on, hensure.dials, fun hdown hstill => (hnot hdown hstill).elim⟩
      · exact ⟨hensure.on, hensure.dials, fun hdown hstill => (hnot hdown hstill).elim⟩
  · split
    · generalize S.ensureRelayConnected ok = r at hensure
      obtain ⟨S', up⟩ := r
      cases up with
      | false => exact ⟨hensure.on, hensure.dials, fun _ _ => rfl⟩
      | true =>
        dsimp only
        split <;> exact ⟨hensure.on, hensure.dials, fun _ _ => rfl⟩
    · exact acts_of_relay rfl rfl fun _ => rfl

theorem sendTo_relay {S : Service} {i : Nat} {s : Instance} {fd : Int} (hs : S.instance? i = some s)
    (hfd : S.vtcp.findVTcpConnByFd (S.owns i) fd = none) (hbridged : s.isBridged fd = true) (buf : Bytes) (ok relayOk : Bool)
    (now : UInt64) : (S.sendTo i fd buf ok relayOk now).1.relay = (S.ensureRelayConnected ok).1.relay := by
  unfold sendTo
  rw [hs]
  dsimp only
  rw [hfd]
  dsimp only
  rw [if_pos hbridged]
  generalize S.ensureRelayConnected ok = r
  obtain ⟨S', up⟩ := r
  cases up with
  | false => rfl
  | true =>
    dsimp only
    split <;> rfl

theorem acts_recvFrom (i : Nat) (fd : Int) (bufSize addrSize : Nat) (now : UInt64) :
    Acts S (S.recvFrom i fd bufSize addrSize now) True := by
  unfold recvFrom
  split
  · exact acts_of_relay rfl rfl fun _ => trivial
  · dsimp only
    split <;> exact acts_of_relay rfl rfl fun _ => trivial

theorem acts_close (i : Nat) (fd : Int) : Acts S (S.close i fd).1 ((S.close i fd).2 = []) := by
  unfold close
  split
  · exact acts_of_relay rfl rfl fun _ => rfl
  dsimp only
  split
  · exact acts_of_relay rfl rfl fun hdown => sendSegments_down hdown _
  · refine acts_of_close ?_ ?_ fun hdown => sendSegments_down hdown _
    · unfold unbridge
      dsimp only
      split <;> rfl
    · rw [unbridge_relay]
      split
      · exact .inr rfl
      · exact .inl rfl

theorem acts_drainSegment (ourIsn : UInt32) (m : TcpSegment) :
    Acts S (S.drainSegment ourIsn m).1 ((S.drainSegment ourIsn m).2 = []) := by
  unfold drainSegment
  split
  · exact acts_of_relay rfl rfl fun _ => rfl
  · exact acts_of_relay rfl rfl fun hdown => sendSegments_down hdown _

theorem acts_drainRetransmits (now : UInt64) : Acts S (S.drainRetransmits now).1 ((S.drainRetransmits now).2 = []) := by
  unfold drainRetransmits
  split
  · exact acts_of_relay rfl rfl fun _ => rfl
  · exact acts_of_relay rfl rfl fun hdown => sendSegments_down hdown _

theorem start_relayEnabled (ok : Bool) : (S.start ok).relayEnabled = true := by
  unfold start
  dsimp only
  split <;> rfl

/-- **Every step of the service but the overlay's buttons** connects the relay only while it is switched on, and hands it
packets only while it is connected. -/
theorem acts_step {op : Op} (hop : RelayPicker.Op.switches (.move (.step op)) = []) :
    Acts S (S.step op).1 ((S.step op).2 = []) := by
  have hquiet : ∀ {T : Service}, Acts S T True → Acts S T (([] : List Segment) = []) := fun h =>
    ⟨h.on, h.dials, fun _ _ => rfl⟩
  cases op with
  | create | destroy _ | connectTimedOut _ _ | received _ => exact acts_of_relay rfl rfl fun _ => rfl
  | socket i type ret => exact hquiet (S.acts_socket i type ret)
  | listen i fd => exact hquiet (S.acts_listen i fd)
  | accept i fd => exact hquiet (S.acts_accept i fd)
  | bind i fd port learnedIp ok => exact hquiet (S.acts_bind i fd port learnedIp ok)
  | connect i fd dstIp dstPort ourIsn ok => exact S.acts_connect i fd dstIp dstPort ourIsn ok
  | sendTo i fd buf ok relayOk now => exact S.acts_sendTo i fd buf ok relayOk now
  | recvFrom i fd bufSize addrSize now => exact hquiet (S.acts_recvFrom i fd bufSize addrSize now)
  | close i fd => exact S.acts_close i fd
  | drainSegment ourIsn m => exact S.acts_drainSegment ourIsn m
  | drainRetransmits now => exact S.acts_drainRetransmits now
  | watchdog now => exact hquiet (S.acts_watchdog now)
  | forceReconnect ok | stop | start ok => cases hop

end Service

namespace RelayPicker

open RuntimeCfg (Loadable)
open Service (Acts acts_of_relay)

/-- A `SendTo` takes the step of the service, and hands on a datagram when the relay is connected after it. -/
theorem acts_sendTo (C : Console) (i : Nat) (env : Env) (fd flags : Int) (buffer addr : Bytes) :
    let o := C.command i env (.sendTo fd flags buffer addr)
    Acts C.service o.console.service (o.segs = [] ∧ o.udp = []) := by
  have hsend := C.service.acts_sendTo i fd buffer env.relayUp env.relayOk env.now
  intro o
  have hnone : Acts C.service C.service (([] : List Segment) = [] ∧ ([] : List UdpSend) = []) :=
    acts_of_relay rfl rfl fun _ => ⟨rfl, rfl⟩
  show Acts C.service (C.command i env (.sendTo fd flags buffer addr)).console.service
    ((C.command i env (.sendTo fd flags buffer addr)).segs = [] ∧ (C.command i env (.sendTo fd flags buffer addr)).udp = [])
  unfold Console.command
  cases hs : C.service.instance? i with
  | none => exact hnone
  | some s =>
    show Acts C.service (C.sendTo i s env fd flags buffer addr).console.service
      ((C.sendTo i s env fd flags buffer addr).segs = [] ∧ (C.sendTo i s env fd flags buffer addr).udp = [])
    unfold Console.sendTo
    split
    · exact hsend.and_silent fun h => ⟨h, rfl⟩
    split
    · rename_i hfd hbridged
      have hrelay := Service.sendTo_relay hs hfd hbridged buffer env.relayUp env.relayOk env.now
      unfold Console.sendToRelay
      dsimp only
      split
      · exact hsend.and_silent fun _ => ⟨rfl, rfl⟩
      rename_i hup
      -- the relay is connected after it
      have hnot : (C.service.sendTo i fd buffer env.relayUp env.relayOk env.now).1.relay.connected = true := by
        rw [hrelay]
        exact Service.connected_of_ensure (by simpa using hup)
      split
      · exact hsend.and_silent fun _ => ⟨rfl, rfl⟩
      · exact ⟨hsend.on, hsend.dials, fun _ hstill => Bool.noConfusion (hstill.symm.trans hnot)⟩
    · exact hnone

theorem acts_drainPacket (C : Console) (ourIsn : UInt32) (pkt : Bytes) :
    Acts C.service (C.drainPacket ourIsn pkt).1.service ((C.drainPacket ourIsn pkt).2 = []) := by
  have hnone : Acts C.service C.service (([] : List Segment) = []) := acts_of_relay rfl rfl fun _ => rfl
  unfold Console.drainPacket
  split
  · exact hnone
  dsimp only
  split
  · exact hnone
  split
  · exact hnone
  split
  · exact hnone
  · rename_i m _
    exact C.service.acts_drainSegment ourIsn m

/-- **Every step but the overlay's buttons** connects the relay only while it is switched on, and hands it packets only while it
is connected. -/
theorem act_acts (C : Console) {op : Op} (hop : op.switches = []) :
    Acts C.service (act C op).1.service ((act C op).2 = []) := by
  cases op with
  | move m =>
    cases m with
    | packet ourIsn pkt =>
      exact (acts_drainPacket C ourIsn pkt).and_silent fun h => by rw [act, h, List.map_nil]
    | read port bufSize addrSize => exact acts_of_relay rfl rfl fun _ => rfl
    | step op => exact (C.service.acts_step hop).and_silent fun h => by rw [act, h, List.map_nil]
  | sendTo i env fd flags buffer addr =>
    exact (acts_sendTo C i env fd flags buffer addr).and_silent fun h => by
      show List.map _ _ ++ List.map _ _ = []
      rw [h.1, h.2]
      rfl
  | attempt syn =>
    refine acts_of_relay rfl rfl fun hdown => ?_
    show (C.service.sendSegments [syn]).map _ = []
    rw [Service.sendSegments_down hdown, List.map_nil]
  | openOverlay file => exact acts_of_relay rfl rfl fun _ => rfl
  | config e => exact acts_of_relay rfl rfl fun _ => rfl

/-- What a step leaves of the relay, be it a button or not. -/
structure Leaves (C C' : Console) (op : Op) (frames : List Frame) : Prop where
  switched : ∀ m : Memory, m.on = C.service.relayEnabled →
    op.switches.foldl Memory.after m = { m with on := C'.service.relayEnabled }
  live : C'.service.relayEnabled = true ∨ (connected C' = false ∧ frames = [])
  silent : connected C = false → connected C' = false → frames = []
  quiet : op.reconnects = true → frames = []

/-- Connected only while switched on. -/
def OnWhileConnected (C : Console) : Prop := connected C = true → C.service.relayEnabled = true

theorem leaves_of_acts {C : Console} (hC : OnWhileConnected C) {op : Op} (hop : op.switches = []) :
    Leaves C (act C op).1 op (act C op).2 := by
  have hacts := act_acts C hop
  refine ⟨fun m hm => ?_, ?_, hacts.silent, fun hre => ?_⟩
  · rw [hop, hacts.on, ← hm]
    rfl
  · cases hon : C.service.relayEnabled with
    | true => exact .inl (hacts.on.trans hon)
    | false =>
      have hdown : connected C = false := Bool.eq_false_iff.2 fun hup => by rw [hC hup] at hon; cases hon
      have hstill : connected (act C op).1 = false := Bool.eq_false_iff.2 fun hup => by
        rw [hacts.dials hdown hup] at hon
        cases hon
      exact .inr ⟨hstill, hacts.silent hdown hstill⟩
  · unfold Op.reconnects at hre
    split at hre
    · cases hop
    · cases hre

theorem leaves_act {C : Console} (hC : OnWhileConnected C) (op : Op) : Leaves C (act C op).1 op (act C op).2 := by
  by_cases hop : op.switches = []
  · exact leaves_of_acts hC hop
  unfold Op.switches at hop
  split at hop
  · -- `Reconnect`
    exact ⟨fun _ _ => rfl, .inl rfl, fun _ _ => rfl, fun _ => rfl⟩
  · -- `Start`
    rename_i ok
    have hon : (act C (.move (.step (.start ok)))).1.service.relayEnabled = true := C.service.start_relayEnabled ok
    refine ⟨fun m _ => ?_, .inl hon, fun _ _ => rfl, fun _ => rfl⟩
    rw [hon]
    rfl
  · -- `Stop`
    exact ⟨fun _ _ => rfl, .inr ⟨rfl, rfl⟩, fun _ _ => rfl, fun _ => rfl⟩
  · exact absurd rfl hop

/-! ## Every run -/

/-- What the state says that the trace is remembered for. -/
def view (P : RelayPicker) : Memory where
  selected := P.cfg.connectHostPort
  on := P.console.service.relayEnabled
  openTo := if connected P.console then P.relayAddr else none

/-- Every event is due by what is remembered of those before it. -/
def Justified (trace : List Event) : Prop := Traces.Justified (fun before e => (remember before).Due e) trace

structure Inv (P : RelayPicker) : Prop where
  remembered : remember P.trace = P.view
  on : OnWhileConnected P.console
  addr : connected P.console = true → P.relayAddr.isSome = true
  justified : Justified P.trace

theorem accepted_relayEvents {m : Memory} (was : Bool) {up reconnects : Bool} {old : Option HostPort} {frames : List Frame}
    (hopen : m.openTo = if was then old else none) (hold : was = true → old.isSome = true)
    (hlive : m.on = true ∨ (up = false ∧ frames = [])) (hsilent : was = false → up = false → frames = [])
    (hquiet : reconnects = true → frames = []) :
    Traces.Accepted Memory.after Memory.Due m (relayEvents was up reconnects old m.selected frames) ∧
      (relayEvents was up reconnects old m.selected frames).foldl Memory.after m =
        { m with openTo := if up then (if up && (!was || reconnects) then some m.selected else old) else none } := by
  cases was with
  | true =>
    have hsent : Traces.Accepted Memory.after Memory.Due m (frames.map (Event.sent old)) := by
      rcases hlive with hon | ⟨-, rfl⟩
      · exact accepted_sent (fun _ => ⟨hon, hold rfl, hopen⟩) frames
      · trivial
    have hclosed : m.Due .closed := by
      show m.openTo.isSome = true
      rw [hopen]
      exact hold rfl
    have hkept : { m with openTo := old } = m := by
      rw [if_pos rfl] at hopen
      rw [← hopen]
    cases up with
    | true =>
      have hon : m.on = true := hlive.resolve_right fun h => Bool.noConfusion h.1
      cases reconnects with
      | true =>
        obtain rfl := hquiet rfl
        exact ⟨⟨hclosed, ⟨hon, rfl, rfl⟩, trivial⟩, rfl⟩
      | false => exact ⟨hsent, (foldl_sent m old frames).trans hkept.symm⟩
    | false =>
      refine ⟨(Traces.accepted_append _ _).2 ⟨hsent, ?_⟩, ?_⟩
      · rw [foldl_sent]
        exact ⟨hclosed, trivial⟩
      · show (frames.map (Event.sent old) ++ [Event.closed]).foldl Memory.after m = _
        rw [List.foldl_append, foldl_sent]
        rfl
  | false =>
    cases up with
    | true =>
      have hon : m.on = true := hlive.resolve_right fun h => Bool.noConfusion h.1
      have hsent : ∀ f, (m.after (.connected m.selected)).Due (.sent (some m.selected) f) := fun _ => ⟨hon, rfl, rfl⟩
      exact ⟨⟨⟨hon, hopen, rfl⟩, accepted_sent hsent frames⟩, foldl_sent _ _ frames⟩
    | false =>
      obtain rfl := hsilent rfl rfl
      refine ⟨trivial, ?_⟩
      rw [if_neg Bool.false_ne_true] at hopen
      show m = { m with openTo := none }
      rw [← hopen]

theorem configure_selected (cfg : RuntimeCfg) (overlay : ServerList) {op : Op} (h : op.selects = false) :
    (configure cfg overlay op).1.connectHostPort = cfg.connectHostPort := by
  unfold configure
  split
  · cases h
  · rename_i e
    cases e with
    | edit file => rfl
    | reloadServers file | selectServer fs index => cases h
  · rfl

theorem accepted_switches (m : Memory) (op : Op) : Traces.Accepted Memory.after Memory.Due m op.switches := by
  unfold Op.switches
  split
  · exact ⟨trivial, trivial⟩
  · exact ⟨trivial, trivial⟩
  · exact ⟨trivial, trivial⟩
  · trivial

/-- A step remembers what its configuration selects. -/
theorem foldl_selects (cfg : RuntimeCfg) (overlay : ServerList) (op : Op) {m : Memory} (hm : m.selected = cfg.connectHostPort) :
    (if op.selects then [Event.selected (configure cfg overlay op).1.connectHostPort] else []).foldl Memory.after m =
      { m with selected := (configure cfg overlay op).1.connectHostPort } := by
  cases hop : op.selects with
  | true => rfl
  | false =>
    rw [configure_selected cfg overlay hop, ← hm]
    rfl

/-- What a step does with the relay. -/
def relayEventsOf (P : RelayPicker) (op : Op) : List Event :=
  relayEvents (connected P.console) (connected (act P.console op).1) op.reconnects P.relayAddr P.cfg.connectHostPort
    (act P.console op).2

theorem trace_step (P : RelayPicker) (op : Op) : (P.step op).trace = P.trace ++ (op.switches ++ P.relayEventsOf op) ++
    if op.selects then [.selected (configure P.cfg P.overlay op).1.connectHostPort] else [] := by
  rw [← List.append_assoc]
  rfl

theorem relayAddr_step (P : RelayPicker) (op : Op) : (P.step op).relayAddr =
    if connected (act P.console op).1 && (!connected P.console || op.reconnects) then some P.cfg.connectHostPort
    else P.relayAddr := rfl

theorem inv_step {P : RelayPicker} (h : P.Inv) (op : Op) : (P.step op).Inv := by
  have hleaves := leaves_act h.on op
  have hon : OnWhileConnected (act P.console op).1 := fun hup =>
    hleaves.live.resolve_right fun hdown => by rw [hup] at hdown; exact Bool.noConfusion hdown.1
  -- what is remembered after the switch, and after the relay's events
  have hswitched := hleaves.switched P.view rfl
  have hrelay := accepted_relayEvents (m := { P.view with on := (act P.console op).1.service.relayEnabled })
    (connected P.console) rfl h.addr hleaves.live hleaves.silent hleaves.quiet
  have haccepted : Traces.Accepted Memory.after Memory.Due (remember P.trace) (op.switches ++ P.relayEventsOf op) := by
    rw [h.remembered]
    refine (Traces.accepted_append _ _).2 ⟨accepted_switches _ op, ?_⟩
    rw [hswitched]
    exact hrelay.1
  have hmemory : (op.switches ++ P.relayEventsOf op).foldl Memory.after (remember P.trace) =
      { (P.step op).view with selected := P.cfg.connectHostPort } := by
    rw [h.remembered, List.foldl_append, hswitched]
    exact hrelay.2
  have hjustified := Traces.justified_append_accepted _ h.justified haccepted
  refine ⟨?_, hon, fun hup => ?_, ?_⟩
  · rw [remember, trace_step, List.foldl_append, List.foldl_append]
    show List.foldl _ (List.foldl _ (remember P.trace) _) _ = _
    rw [hmemory]
    exact foldl_selects P.cfg P.overlay op rfl
  · rw [relayAddr_step, show connected (act P.console op).1 = true from hup, Bool.true_and]
    cases hwas : connected P.console with
    | false => rfl
    | true =>
      cases op.reconnects with
      | false => exact h.addr hwas
      | true => rfl
  · rw [Justified, trace_step]
    exact Traces.justified_append_free _ hjustified fun e he before => by
      split at he
      · rw [List.mem_singleton.1 he]
        trivial
      · cases he

theorem inv_run (ops : List Op) : (Runs.run step {} ops).Inv := by
  have hinit : Inv {} := ⟨rfl, fun h => Bool.noConfusion h, fun h => Bool.noConfusion h, Traces.justified_nil⟩
  exact Runs.run_keeps (P := Inv) (fun _ op h => inv_step h op) ops hinit

/-- **A frame goes to the server that was selected when the relay was last connected, and none is sent while the relay is
switched off**: in every run of any number of instances, of the threads and of the overlay. -/
theorem frames_justified (ops : List Op) : Justified (Runs.run step {} ops).trace := (inv_run ops).justified

/-! ## A pick -/

/-- A server as `RelayBridge::Connect` is given it. -/
structure IsServer (s : SlpNxServer) (addr : HostPort) : Prop where
  host : addr.1.bytes = s.host.bytes
  port : addr.2 = s.port

/-- **What the steps that are not of a kind keep, the runs without them keep.** -/
theorem keeps_without {k : Op → Bool} {K : RelayPicker → Prop}
    (hstep : ∀ {P : RelayPicker} {op : Op}, k op = false → K P → K (P.step op)) :
    ∀ (ops : List Op) {P : RelayPicker}, (∀ op ∈ ops, k op = false) → K P → K (Runs.run step P ops)
  | [], _, _, h => h
  | op :: ops, _, hno, h =>
    keeps_without hstep ops (fun o ho => hno o (List.mem_cons_of_mem _ ho)) (hstep (hno op List.mem_cons_self) h)

/-- The overlay and the sysmodule have the same list. -/
def SameLists (P : RelayPicker) : Prop := P.overlay = P.cfg.list

theorem sameLists_open (P : RelayPicker) {text : Bytes} (hload : Loadable text)
    (hread : text.length ≤ 1679 ∨ CutHarmless 1679 text) : (P.step (.openOverlay (some text))).SameLists := by
  show slpnxServersParse (text.take 1679) = (P.cfg.reloadServers (some text)).1.list
  rw [RuntimeCfg.list_reloadServers, RuntimeCfg.readConfigText_of_loadable hload]
  show _ = slpnxServersParse text
  rcases hread with hshort | hcut
  · rw [List.take_of_length_le hshort]
  · exact (parse_take_iff 1679 text).2 hcut

theorem sameLists_step {P : RelayPicker} {op : Op} (hop : op.loads = false) (h : P.SameLists) : (P.step op).SameLists := by
  suffices hc : (configure P.cfg P.overlay op).1.list = P.cfg.list ∧ (configure P.cfg P.overlay op).2 = P.overlay from
    hc.2.trans (h.trans hc.1.symm)
  unfold configure
  split
  · cases hop
  · rename_i e
    refine ⟨?_, rfl⟩
    cases e with
    | edit file => rfl
    | reloadServers file => cases hop
    | selectServer fs index =>
      show (P.cfg.trySelectServer fs index).1.list = _
      unfold RuntimeCfg.trySelectServer
      split <;> rfl
  · exact ⟨rfl, rfl⟩

/-- The server is selected, and the relay is connected to none other. -/
structure Dials (s : SlpNxServer) (P : RelayPicker) : Prop where
  inv : P.Inv
  selected : IsServer s P.cfg.connectHostPort
  addr : connected P.console = true → ∃ a, P.relayAddr = some a ∧ IsServer s a

/-- **An entry of the list is selected**: what `Connect` would be given is the entry. -/
theorem isServer_selected {cfg : RuntimeCfg} {s : SlpNxServer} (h : cfg.selected = some s) :
    IsServer s cfg.connectHostPort := by
  constructor
  · rw [ConfigService.connectHostPort_host, RuntimeCfg.selectedHost, h]
  · rw [RuntimeCfg.connectHostPort, RuntimeCfg.getSelectedHostPort, h]

theorem selected_pick {cfg : RuntimeCfg} {fs : RuntimeCfg.FileCalls} {index : UInt32} {s : SlpNxServer}
    (h : cfg.list.get index.toNat = some s) : (cfg.after (.selectServer fs index)).selected = some s := by
  have hlt : index.toNat < cfg.list.count := by
    by_contra hge
    rw [ServerList.get, if_pos (.inr (by omega))] at h
    cases h
  have hcount := cfg.count_le
  have hsmall : index.toNat < 2 ^ 31 := by omega
  have hint := RuntimeCfg.toInt_of_lt hsmall
  show (cfg.trySelectServer fs index).1.selected = some s
  rw [RuntimeCfg.trySelectServer, if_neg (by rw [hint]; omega), hint]
  exact h

theorem dials_reconnect {P : RelayPicker} {s : SlpNxServer} (hinv : P.Inv) (h : IsServer s P.cfg.connectHostPort) (ok : Bool) :
    (P.step (.move (.step (.forceReconnect ok)))).Dials s := by
  refine ⟨inv_step hinv _, h, fun hup => ⟨P.cfg.connectHostPort, ?_, h⟩⟩
  have hop : Op.reconnects (.move (.step (.forceReconnect ok))) = true := rfl
  rw [relayAddr_step, hop, Bool.or_true, Bool.and_true]
  exact if_pos hup

/-- The frames of a list of events go to the server. -/
def AllTo (s : SlpNxServer) (es : List Event) : Prop := ∀ addr frame, .sent addr frame ∈ es → ∃ a, addr = some a ∧ IsServer s a

theorem allTo_append {s : SlpNxServer} {es es' : List Event} (h : AllTo s es) (h' : AllTo s es') : AllTo s (es ++ es') :=
  fun addr frame hmem => (List.mem_append.1 hmem).elim (h addr frame) (h' addr frame)

theorem allTo_sent {s : SlpNxServer} {addr : Option HostPort} (h : ∃ a, addr = some a ∧ IsServer s a) (frames : List Frame) :
    AllTo s (frames.map (Event.sent addr)) := by
  intro addr' frame hmem
  obtain ⟨_, _, he⟩ := List.mem_map.1 hmem
  cases he
  exact h

theorem allTo_switches (s : SlpNxServer) (op : Op) : AllTo s op.switches := by
  intro addr frame hmem
  unfold Op.switches at hmem
  split at hmem <;> simp at hmem

theorem allTo_relayEvents {s : SlpNxServer} {was up : Bool} (reconnects : Bool) {old : Option HostPort} {selected : HostPort}
    {frames : List Frame} (hold : was = true → ∃ a, old = some a ∧ IsServer s a) (hselected : IsServer s selected)
    (hsilent : was = false → up = false → frames = []) : AllTo s (relayEvents was up reconnects old selected frames) := by
  have hclosed : AllTo s [.closed] := fun _ _ hmem => by simp at hmem
  have hconnected : AllTo s [.connected selected] := fun _ _ hmem => by simp at hmem
  cases was with
  | true =>
    have hsent := allTo_sent (hold rfl) frames
    cases up with
    | true =>
      cases reconnects with
      | true => exact allTo_append hsent (allTo_append hclosed hconnected)
      | false => exact hsent
    | false => exact allTo_append hsent hclosed
  | false =>
    cases up with
    | true => exact allTo_append hconnected (allTo_sent ⟨selected, rfl, hselected⟩ frames)
    | false =>
      rw [hsilent rfl rfl]
      exact fun _ _ hmem => by cases hmem

theorem dials_step {P : RelayPicker} {s : SlpNxServer} {op : Op} (hop : op.selects = false) (h : P.Dials s) :
    (P.step op).Dials s ∧ AllTo s (P.relayEventsOf op) := by
  have hleaves := leaves_act h.inv.on op
  refine ⟨⟨inv_step h.inv op, ?_, fun hup => ?_⟩, allTo_relayEvents _ h.addr h.selected hleaves.silent⟩
  · rw [show (P.step op).cfg.connectHostPort = P.cfg.connectHostPort from configure_selected P.cfg P.overlay hop]
    exact h.selected
  · rw [relayAddr_step]
    split
    · exact ⟨_, rfl, h.selected⟩
    · rename_i hdials
      refine h.addr (by_contra fun hwas => hdials ?_)
      rw [Bool.and_eq_true, Bool.or_eq_true]
      exact ⟨hup, .inl (by simpa using hwas)⟩

theorem dials_run {s : SlpNxServer} : ∀ (ops : List Op) {P : RelayPicker}, (∀ op ∈ ops, op.selects = false) → P.Dials s →
    ∃ es, (Runs.run step P ops).trace = P.trace ++ es ∧ AllTo s es
  | [], P, _, _ => ⟨[], (List.append_nil _).symm, fun _ _ hmem => by cases hmem⟩
  | op :: ops, P, hno, h => by
    have hop := hno op List.mem_cons_self
    obtain ⟨hnext, hto⟩ := dials_step hop h
    obtain ⟨es, htrace, hes⟩ := dials_run ops (fun o ho => hno o (List.mem_cons_of_mem _ ho)) hnext
    refine ⟨op.switches ++ P.relayEventsOf op ++ es, ?_, allTo_append (allTo_append (allTo_switches s op) hto) hes⟩
    rw [trace_step, hop] at htrace
    show (Runs.run step (P.step op) ops).trace = _
    rw [htrace]
    simp

/-- **A pick takes effect with the `Reconnect` that follows it**: when the overlay reads as much of the file as matters, the
user picks an entry of the overlay's list and the relay is connected anew, every frame goes to the entry's host and port until
the overlay is used again, whatever the games, the threads and the other buttons do. -/
theorem frames_to_picked (before idle between after : List Op) {text : Bytes} (fs : RuntimeCfg.FileCalls) (index : UInt32)
    (ok : Bool) {s : SlpNxServer} (hload : Loadable text) (hread : text.length ≤ 1679 ∨ CutHarmless 1679 text)
    (hidle : ∀ op ∈ idle, op.loads = false) (hbetween : ∀ op ∈ between, op.selects = false)
    (hafter : ∀ op ∈ after, op.selects = false) :
    let P := Runs.run step {} (before ++ .openOverlay (some text) :: idle)
    let Q := Runs.run step P (.config (.selectServer fs index) :: between ++ [.move (.step (.forceReconnect ok))])
    P.overlay.get index.toNat = some s → ∃ es, (Runs.run step Q after).trace = Q.trace ++ es ∧ AllTo s es := by
  intro P Q hget
  -- the lists are the same until the pick
  have hlists : P.SameLists := by
    show (Runs.run step {} (before ++ .openOverlay (some text) :: idle)).SameLists
    rw [Runs.run, List.foldl_append]
    exact keeps_without (k := Op.loads) sameLists_step idle hidle (sameLists_open _ hload hread)
  rw [hlists] at hget
  -- the pick, and what it leaves selected until the `Reconnect`
  have hpicked : IsServer s (P.step (.config (.selectServer fs index))).cfg.connectHostPort :=
    isServer_selected (selected_pick hget)
  have hkept := keeps_without (k := Op.selects) (K := fun R => IsServer s R.cfg.connectHostPort)
    (fun {R} {op} hop h => by
      rw [show (R.step op).cfg.connectHostPort = R.cfg.connectHostPort from configure_selected R.cfg R.overlay hop]
      exact h) between hbetween hpicked
  have hdials : Q.Dials s := by
    show (Runs.run step P (.config (.selectServer fs index) :: between ++ _)).Dials s
    rw [Runs.run, List.foldl_append]
    have hinv : (Runs.run step P (.config (.selectServer fs index) :: between)).Inv :=
      Runs.run_keeps (P := Inv) (fun _ op h => inv_step h op) _ (inv_run _)
    exact dials_reconnect hinv hkept ok
  exact dials_run after hafter hdials

/-- The lines "a b 1" and "c d 2". -/
def twoServers : Bytes := [97, 32, 98, 32, 49, 10, 99, 32, 100, 32, 50, 10]

/-- The second of them. -/
def secondServer : SlpNxServer := ⟨⟨[99], by decide, by decide⟩, ⟨[100], by decide, by decide⟩, 2⟩

/-- Before the list is loaded a control socket is bound, so that the relay is connected to the default server. -/
def bindsFirst : List Op :=
  [.create, .socket 0 SOCK_DGRAM 3, .bind 0 3 ldnControlPort 0x0A0D0001 true].map fun op => .move (.step op)

def sendsByte : Op := .sendTo 0 Console.quietEnv 3 0 [7] (sockaddrBytes 0x0A0D0002 ldnControlPort)

/-- The servers that the frames went to. -/
def destinations (trace : List Event) : List (Option HostPort) :=
  trace.filterMap fun e => match e with | .sent addr _ => some addr | _ => none

/-- The overlay is opened, the second server picked and the relay connected anew, while a byte is sent after each. -/
theorem frames_to_picked_second :
    let P := Runs.run step {} (bindsFirst ++ .openOverlay (some twoServers) :: [sendsByte])
    let Q := Runs.run step P (.config (.selectServer .fine 1) :: [sendsByte] ++ [.move (.step (.forceReconnect true))])
    (∃ es, (Runs.run step Q [sendsByte]).trace = Q.trace ++ es ∧ AllTo secondServer es) ∧
    (destinations (Runs.run step Q [sendsByte]).trace).map (Option.map fun a => a.1.bytes) =
      [some RuntimeCfg.defaultRelayHost, some RuntimeCfg.defaultRelayHost, some [100]] := by
  have hload : Loadable twoServers := ⟨by decide, by decide⟩
  have hget : (Runs.run step {} (bindsFirst ++ .openOverlay (some twoServers) :: [sendsByte])).overlay.get (1 : UInt32).toNat =
      some secondServer := by decide +kernel
  refine ⟨frames_to_picked bindsFirst [sendsByte] [sendsByte] [sendsByte] .fine 1 true hload (.inl (by decide)) ?_ ?_ ?_ hget,
    by decide +kernel⟩
  all_goals exact fun op hop => by rw [List.mem_singleton.1 hop]; rfl

end RelayPicker
end Slp
