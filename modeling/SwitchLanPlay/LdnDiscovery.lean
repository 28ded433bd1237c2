import SwitchLanPlay.LdnCodec
import SwitchLanPlay.LdnHost
import SwitchLanPlay.LdnWire
/-!
# LdnDiscovery — scans, answers and announcements between the tools' consoles (LdnNode in tools/slp_ldn.py)

Any number of consoles, each of them host or station as its owner likes, exchange LDN packets over a relay that may lose,
repeat, delay and reorder their frames and hand them to whom it likes.  A console handles packets in batches, in any number of
threads; an exception that `_handle_packet` does not catch ends the thread's batch.

A step is a whole piece of what a thread does: one packet handled, the two assignments that a `scan` begins with, the part of
`connect` before the handshake, or one operation of a host, a `_handle_connect` among them.  The tool holds no lock over these,
so that the runs here are those in which no thread cuts into such a piece of another one of its console: two that search
`scan_results` for one host at a time would both append it.

What a console finds in a scan, what it dials and what it takes for its network is a network that some console created: the
host's address and what `create_network` was called with come back as they were, but for the channel, whose bytes may be
swapped (`networks_created`).  The results of a scan tell of different hosts and pass the scan's filter.  A scan that reaches a
host, with the answer reaching back, finds the host's network as it is sent once its threads come to the two packets
(`scan_finds`), and a station whose Connect a host has handled is listed in the network that it is sent (`connect_listed`).
-/
namespace Slp
namespace Ldn

open Wire

def LAN_SCAN : Nat := 0
def LAN_SCAN_RESP : Nat := 1
def LAN_CONNECT : Nat := 2
def LAN_SYNC_NETWORK : Nat := 3

/-- `network_id_of`. -/
def networkIdOf (info : NetworkInfo) : Option Nat := (Layout.uintLE 8).unpack (info.intent.take 8)

/-- `scene_id_of`. -/
def sceneIdOf (info : NetworkInfo) : Option Nat := (Layout.uintLE 2).unpack (bytesAt info.intent 10 2)

/-- An `LdnNode` in both of its roles.  A batch is what a thread in `step` or `recv_next` took from the inbox and has not
handled yet. -/
structure VirtualConsole where
  node : LdnNode
  scanResults : List NetworkInfo
  scanFilterLcid : Option Nat
  hostNetwork : Option NetworkInfo
  inbox : List (Bytes × Bytes)
  batches : List (List (Bytes × Bytes))

/-- The loop over `scan_results` in `_handle_packet`, and the `append` after it. -/
def storeResult : List NetworkInfo → NetworkInfo → List NetworkInfo
  | [], info => [info]
  | e :: rest, info => if e.bssid = info.bssid then info :: rest else e :: storeResult rest info

namespace VirtualConsole

def broadcastIp (c : VirtualConsole) : Bytes := c.node.ip.take 3 ++ [255]

/-- `_network_bytes`, `none` where it raises. -/
def networkBytes (c : VirtualConsole) : Option Bytes := do
  let info ← c.node.networkInfo
  (Ldn.networkBytes info c.node.stations.nodes).toOption

/-- The frame of `send_unicast` and `send_broadcast`. -/
def frame (c : VirtualConsole) (dst : Bytes) (ptype : Nat) (body : Bytes) : Option Bytes := do
  let packet ← (packHeader ptype body true).toOption
  (LdnWire.controlFrame c.node.ip dst packet).toOption

/-- A ScanResp that was parsed. -/
def heard (c : VirtualConsole) (info : NetworkInfo) : Option VirtualConsole :=
  match c.scanFilterLcid with
  | none => some { c with scanResults := storeResult c.scanResults info }
  | some lcid => do
    let id ← networkIdOf info
    if id ≠ lcid then return c else return { c with scanResults := storeResult c.scanResults info }

/-- A SyncNetwork that was parsed, in `_handle_packet` and in `connect`. -/
def synced (c : VirtualConsole) (info : NetworkInfo) : VirtualConsole :=
  { c with node := { c.node with
      networkInfo := some info
      state := if c.node.state = .station then .stationConnected else c.node.state } }

/-- What follows `parse_network_info`: a ValueError is caught, the other exceptions are not. -/
def parsed (c : VirtualConsole) (body : Bytes) (k : NetworkInfo → Option VirtualConsole) : Option VirtualConsole :=
  match parseNetworkInfo body with
  | .ok info => k info
  | .error (.valueError _) => some c
  | .error _ => none

/-- `_handle_packet`: the console after it and the frame it sends, `none` where it raises. -/
def handlePacket (c : VirtualConsole) (src payload : Bytes) : Option (VirtualConsole × Option Bytes) :=
  match unpackPacket payload with
  | .error _ => none
  | .ok none => some (c, none)
  | .ok (some (ptype, body)) =>
    if ptype = LAN_SCAN then
      if c.node.state = .accessPointCreated then do
        let bytes ← c.networkBytes
        let sent ← c.frame src LAN_SCAN_RESP bytes
        return (c, some sent)
      else some (c, none)
    else if ptype = LAN_SCAN_RESP then (c.parsed body c.heard).map (·, none)
    else if ptype = LAN_CONNECT then some (c, none)
    else if ptype = LAN_SYNC_NETWORK then (c.parsed body fun info => some (c.synced info)).map (·, none)
    else some (c, none)

/-- `open_station`. -/
def openStation (c : VirtualConsole) : VirtualConsole :=
  if c.node.state = .none then c else { c with node := { c.node with stations := [], state := .station } }

def closeStation (c : VirtualConsole) : VirtualConsole :=
  { c with node := { c.node with stations := [], state := .initialized } }

def disconnect (c : VirtualConsole) : VirtualConsole := { c with node := { c.node with state := .station } }

/-- `scan`, up to its wait. -/
def scan (c : VirtualConsole) (lcid : Option Nat) : VirtualConsole := { c with scanResults := [], scanFilterLcid := lcid }

/-- `connect`, up to the handshake: it raises for a network without nodes, or when its own node cannot be packed. -/
def dial (c : VirtualConsole) (info : NetworkInfo) : VirtualConsole :=
  match info.nodes with
  | [] => c
  | n0 :: _ =>
    match buildNodeInfo c.node.ip 0 1 c.node.name n0.lcv none with
    | .error _ => c
    | .ok _ => { c with hostNetwork := some info }

/-- What `connect` makes of a message that its `recv` returned. -/
def received (c : VirtualConsole) (payload : Bytes) : VirtualConsole :=
  match unpackPacket payload with
  | .ok (some (ptype, body)) =>
    if ptype = LAN_SYNC_NETWORK then (c.parsed body fun info => some (c.synced info)).getD c else c
  | _ => c

end VirtualConsole

/-- The consoles, the frames that were sent over the relay, the messages that hosts passed to `VTcp.send`, and the calls of
`create_network` that did not raise. -/
structure DiscoveryNet (ι : Type) where
  nodes : ι → VirtualConsole
  net : List Bytes
  streams : List Bytes
  created : List (ι × LdnNode.NetworkParams)

namespace DiscoveryNet

variable {ι : Type} [DecidableEq ι]

/-- `setInitialized` is what the scripts do before they open a role.  `arrive`, `dial` and `receive` pick a frame, a
result or a message by its place in the list. -/
inductive Op (ι : Type) where
  | setInitialized (i : ι)
  | host (i : ι) (op : LdnNode.HostOp)
  | broadcastNetwork (i : ι)
  | syncStation (i : ι)
  | openStation (i : ι)
  | closeStation (i : ι)
  | disconnect (i : ι)
  | scan (i : ι) (lcid : Option Nat)
  | arrive (i : ι) (k : Nat)
  | take (i : ι)
  | handle (i : ι) (b : Nat)
  | dial (i : ι) (k : Nat)
  | receive (i : ι) (k : Nat)

def put (N : DiscoveryNet ι) (i : ι) (c : VirtualConsole) : DiscoveryNet ι :=
  { N with nodes := Function.update N.nodes i c }

def send (N : DiscoveryNet ι) (frame : Option Bytes) : DiscoveryNet ι := { N with net := N.net ++ frame.toList }

/-- A call of `create_network` in the right state whose network can be built. -/
def creates (h : LdnNode) : LdnNode.HostOp → Option LdnNode.NetworkParams
  | .createNetwork p => if h.state = .accessPoint ∧ (p.make h).toOption.isSome then some p else none
  | _ => none

/-- A turn of `_recv_loop`: what is to the control port goes into the inbox. -/
def arrived (c : VirtualConsole) (frame : Bytes) : VirtualConsole :=
  match LdnWire.recvLoop none 0 frame with
  | .control src _ payload => { c with inbox := c.inbox ++ [(src, payload)] }
  | _ => c

/-- A turn of the loop over a batch. -/
def handled (N : DiscoveryNet ι) (i : ι) (b : Nat) : DiscoveryNet ι :=
  match (N.nodes i).batches[b]? with
  | some ((src, payload) :: rest) =>
    match (N.nodes i).handlePacket src payload with
    | some (c, frame) => (N.put i { c with batches := (N.nodes i).batches.set b rest }).send frame
    | none => N.put i { N.nodes i with batches := (N.nodes i).batches.set b [] }
  | _ => N

def step (N : DiscoveryNet ι) : Op ι → DiscoveryNet ι
  | .setInitialized i => N.put i { N.nodes i with node := { (N.nodes i).node with state := .initialized } }
  | .host i op =>
    { N.put i { N.nodes i with node := (N.nodes i).node.step op } with
      created := N.created ++ ((creates (N.nodes i).node op).map (i, ·)).toList }
  | .broadcastNetwork i =>
    N.send ((N.nodes i).networkBytes.bind ((N.nodes i).frame (N.nodes i).broadcastIp LAN_SYNC_NETWORK))
  | .syncStation i =>
    { N with streams := N.streams ++
        ((N.nodes i).networkBytes.bind fun body => (packHeader LAN_SYNC_NETWORK body true).toOption).toList }
  | .openStation i => N.put i (N.nodes i).openStation
  | .closeStation i => N.put i (N.nodes i).closeStation
  | .disconnect i => N.put i (N.nodes i).disconnect
  | .scan i lcid => (N.put i ((N.nodes i).scan lcid)).send ((N.nodes i).frame (N.nodes i).broadcastIp LAN_SCAN [])
  | .arrive i k =>
    match N.net[k]? with
    | some frame => N.put i (arrived (N.nodes i) frame)
    | none => N
  | .take i => N.put i { N.nodes i with inbox := [], batches := (N.nodes i).batches ++ [(N.nodes i).inbox] }
  | .handle i b => N.handled i b
  | .dial i k =>
    match (N.nodes i).scanResults[k]? with
    | some info => N.put i ((N.nodes i).dial info)
    | none => N
  | .receive i k =>
    match N.streams[k]? with
    | some payload => N.put i ((N.nodes i).received payload)
    | none => N

/-- Consoles of these addresses and names that nothing has happened to. -/
def start (ip : ι → { b : Bytes // b.length = 4 }) (name : ι → List Char) : DiscoveryNet ι where
  nodes i := ⟨⟨(ip i).1, name i, .none, none, [], (ip i).2⟩, [], none, none, [], []⟩
  net := []
  streams := []
  created := []

end DiscoveryNet

theorem toOption_eq_some {ε α : Type} {x : Except ε α} {a : α} : x.toOption = some a ↔ x = .ok a := by
  cases x <;> simp [Except.toOption]

/-! ## The results of a scan -/

theorem mem_storeResult {info x : NetworkInfo} : ∀ {results : List NetworkInfo}, x ∈ storeResult results info →
    x = info ∨ x ∈ results
  | [], h => .inl (List.mem_singleton.1 h)
  | e :: rest, h => by
    rw [storeResult] at h
    split at h
    · rcases List.mem_cons.1 h with rfl | hx
      · exact .inl rfl
      · exact .inr (List.mem_cons_of_mem _ hx)
    · rcases List.mem_cons.1 h with rfl | hx
      · exact .inr (List.mem_cons_self ..)
      · exact (mem_storeResult hx).imp_right (List.mem_cons_of_mem _)

/-- **A network that is stored is the only one with its BSSID.** -/
theorem nodup_storeResult {info : NetworkInfo} : ∀ {results : List NetworkInfo}, (results.map NetworkInfo.bssid).Nodup →
    ((storeResult results info).map NetworkInfo.bssid).Nodup
  | [], _ => List.nodup_singleton _
  | e :: rest, h => by
    rw [List.map_cons, List.nodup_cons] at h
    rw [storeResult]
    by_cases he : e.bssid = info.bssid
    · rw [if_pos he, List.map_cons, List.nodup_cons, ← he]
      exact h
    · rw [if_neg he, List.map_cons, List.nodup_cons]
      refine ⟨fun hin => ?_, nodup_storeResult h.2⟩
      obtain ⟨x, hx, hxe⟩ := List.mem_map.1 hin
      rcases mem_storeResult hx with rfl | hx
      · exact he hxe.symm
      · exact h.1 (List.mem_map.2 ⟨x, hx, hxe⟩)

/-! ## A network on its way -/

/-- `info` tells of the network that the console at `ip` created with these arguments. -/
structure Describes (ip : Bytes) (p : LdnNode.NetworkParams) (info : NetworkInfo) : Prop where
  intent : INTENT.pack (p.localCommId, 0, p.sceneId, ()) = some info.intent
  session : info.session = fit 16 p.sessionId
  bssid : info.bssid = fakeMac ip
  ssid : info.ssid = FAKE_SSID
  channel : info.channel = p.channel ∨ info.channel = swapped p.channel
  range : InSigned 2 p.channel
  radio : info.linkLevel = 3 ∧ info.networkType = 2
  nodeCountMax : info.nodeCountMax = p.nodeCountMax
  host : ∃ n0 rest, info.nodes = n0 :: rest ∧ n0.ip = ip ∧ n0.mac = fakeMac ip ∧ n0.lcv = p.lcv
  advertise : info.advertise = []

/-- **The bytes swapped twice are the bytes.** -/
theorem swapped_swapped {channel : Int} (h : InSigned 2 channel) : swapped (swapped channel) = channel := by
  have hlen : (leBytes 2 (toUnsigned 2 channel)).reverse.length = 2 := by
    rw [List.length_reverse, length_leBytes]
  have hlt : leValue (leBytes 2 (toUnsigned 2 channel)).reverse < 256 ^ 2 :=
    Nat.lt_of_lt_of_eq (leValue_lt _) (by rw [hlen])
  have hback := leBytes_leValue (leBytes 2 (toUnsigned 2 channel)).reverse
  rw [hlen] at hback
  rw [swapped, swapped, toUnsigned_toSigned hlt, hback, List.reverse_reverse, leValue_leBytes (toUnsigned_lt 2 channel),
    toSigned_toUnsigned h]

theorem session_field {intent : Bytes} (h : intent.length = 16) (session : Bytes) :
    bytesAt (fit 32 (intent ++ session)) 0 16 = intent ∧ bytesAt (fit 32 (intent ++ session)) 16 16 = fit 16 session := by
  have hfit : fit 32 (intent ++ session) = intent ++ fit 16 session := by
    have hroom : 32 - (intent ++ session).length = 16 - session.length := by
      rw [List.length_append]
      omega
    rw [fit, hroom, List.append_assoc, show (32 : Nat) = intent.length + 16 by omega, List.take_length_add_append]
    rfl
  have hat := bytesAt_append intent (fit 16 session) 0 16
  rw [h, Nat.add_zero] at hat
  rw [hfit, hat]
  refine ⟨bytesAt_left _ _ h, ?_⟩
  rw [bytesAt, List.drop_zero, List.take_of_length_le (Nat.le_of_eq (length_fit 16 session))]

namespace Describes

variable {ip : Bytes} {p : LdnNode.NetworkParams} {info : NetworkInfo}

theorem length_intent (h : Describes ip p info) : info.intent.length = 16 := INTENT.length_pack h.intent

/-- **Its ids are those it was created with.** -/
theorem ids (h : Describes ip p info) : networkIdOf info = some p.localCommId ∧ sceneIdOf info = some p.sceneId := by
  obtain ⟨a, b, hintent, ha, hb⟩ := Layout.pack_seq h.intent
  obtain ⟨zero, c, rfl, hzero, hc⟩ := Layout.pack_seq hb
  obtain ⟨scene, tail, rfl, hscene, -⟩ := Layout.pack_seq hc
  have hlen : a.length = 8 := (Layout.uintLE 8).length_pack ha
  have hzeroLen : zero.length = 2 := (Layout.uintLE 2).length_pack hzero
  have hsceneLen : scene.length = 2 := (Layout.uintLE 2).length_pack hscene
  constructor
  · rw [networkIdOf, hintent, List.take_left' hlen]
    exact Layout.unpack_pack ha
  · have hat : bytesAt (a ++ (zero ++ (scene ++ tail))) 10 2 = scene := by
      rw [show (10 : Nat) = a.length + (zero.length + 0) by omega, bytesAt_append, bytesAt_append]
      exact bytesAt_left _ _ hsceneLen
    rw [sceneIdOf, hintent, hat]
    exact Layout.unpack_pack hscene

/-- **What is sent of it is read, describes it too** and lists the stations. -/
theorem sent (h : Describes ip p info) (hip : ip.length = 4) {stations : List NodeInfo}
    (hsizes : ∀ n ∈ stations, n.ip.length = 4 ∧ n.mac.length = 6) {buf : Bytes}
    (hbuf : Ldn.networkBytes info stations = .ok buf) : ∃ info', parseNetworkInfo buf = .ok info' ∧ Describes ip p info' ∧
      ∀ n ∈ stations, readNode { n with isConnected := 1 } ∈ info'.nodes := by
  obtain ⟨n0, rest, hnodes, hn0, hmac, hlcv⟩ := h.host
  have hmacLen : (fakeMac ip).length = 6 := by simp [fakeMac, hip]
  have hsizes' : ∀ n ∈ hostNode n0 :: stations.map (fun n => { n with isConnected := 1 }),
      n.ip.length = 4 ∧ n.mac.length = 6 := by
    intro n hn
    rcases List.mem_cons.1 hn with rfl | hn
    · exact ⟨(congrArg List.length hn0).trans hip, (congrArg List.length hmac).trans hmacLen⟩
    · obtain ⟨m, hm, rfl⟩ := List.mem_map.1 hn
      exact hsizes m hm
  rw [networkBytes_eq hnodes] at hbuf
  have hbssid : info.bssid.length = 6 := (congrArg List.length h.bssid).trans hmacLen
  refine ⟨_, parse_buildInfo_ids
    (v := { info with nodes := hostNode n0 :: stations.map (fun n => { n with isConnected := 1 }) }) hbssid hsizes' rfl hbuf, ?_,
    fun n hn => List.mem_map_of_mem (List.mem_cons_of_mem _ (List.mem_map_of_mem hn))⟩
  obtain ⟨hintentAt, hsessionAt⟩ := session_field h.length_intent info.session
  have hsession : info.session.length = 16 := by rw [h.session, length_fit]
  exact {
    intent := h.intent.trans (congrArg some hintentAt.symm)
    session := (hsessionAt.trans (fit_of_length hsession)).trans h.session
    bssid := h.bssid
    ssid := h.ssid
    channel := by
      show swapped info.channel = _ ∨ swapped info.channel = _
      rcases h.channel with hc | hc
      · exact .inr (congrArg swapped hc)
      · exact .inl ((congrArg swapped hc).trans (swapped_swapped h.range))
    range := h.range
    radio := h.radio
    nodeCountMax := h.nodeCountMax
    host := ⟨_, _, rfl, hn0, hmac, hlcv⟩
    advertise := rfl }

end Describes

/-- **A network that was created describes itself.** -/
theorem describes_make {h : LdnNode} {p : LdnNode.NetworkParams} {info : NetworkInfo} (hp : p.make h = .ok info) :
    Describes h.ip p info := by
  obtain ⟨intent, hintent, hrange, rfl⟩ := makeNetwork_eq h.length_ip hp
  obtain ⟨hintentAt, hsessionAt⟩ := session_field (INTENT.length_pack hintent) p.sessionId
  exact {
    intent := hintent.trans (congrArg some hintentAt.symm)
    session := hsessionAt
    bssid := rfl
    ssid := rfl
    channel := .inr rfl
    range := hrange
    radio := ⟨rfl, rfl⟩
    nodeCountMax := rfl
    host := ⟨_, _, rfl, rfl, rfl, rfl⟩
    advertise := rfl }

/-- Whatever `info` describes, `info'` does. -/
def Onward (info info' : NetworkInfo) : Prop := ∀ ip p, ip.length = 4 → Describes ip p info → Describes ip p info'

/-! ## The host's part -/

def Stations.Sized (t : Stations) : Prop := ∀ x ∈ t, x.2.node.ip.length = 4 ∧ x.2.node.mac.length = 6

namespace Stations

variable {t : Stations}

theorem sized_map {f : Nat × Station → Nat × Station}
    (hf : ∀ x ∈ t, (f x).2.node.ip.length = 4 ∧ (f x).2.node.mac.length = 6) : Sized (t.map f) := by
  intro y hy
  obtain ⟨x, hx, rfl⟩ := List.mem_map.1 hy
  exact hf x hx

theorem sized_mark (h : t.Sized) : t.mark.Sized := sized_map fun x hx => h x hx

theorem sized_drop (h : t.Sized) (nid : Nat) : (t.drop nid).Sized := by
  refine sized_map fun x hx => ?_
  split
  · exact h x hx
  · exact h x hx

theorem sized_put (h : t.Sized) (nid : Nat) {s : Station} (hs : s.node.ip.length = 4 ∧ s.node.mac.length = 6) :
    (t.put nid s).Sized := by
  unfold put
  split
  · refine sized_map fun x hx => ?_
    split
    · exact hs
    · exact h x hx
  · intro x hx
    rcases List.mem_append.1 hx with hx | hx
    · exact h x hx
    · rw [List.mem_singleton.1 hx]
      exact hs

theorem Sized.nodes (h : t.Sized) : ∀ n ∈ t.nodes, n.ip.length = 4 ∧ n.mac.length = 6 := by
  intro n hn
  obtain ⟨x, hx, rfl⟩ := List.mem_map.1 hn
  exact h x ((List.perm_insertionSort _ t).mem_iff.1 (List.mem_of_mem_filter hx))

end Stations

namespace LdnNode

/-- A host that goes on with the network it had. -/
structure GoesOn (h h' : LdnNode) : Prop where
  ip : h'.ip = h.ip
  stations : h.stations.Sized → h'.stations.Sized
  network : ∀ info' ∈ h'.networkInfo, ∃ info ∈ h.networkInfo, Onward info info'

theorem GoesOn.trans {h h' h'' : LdnNode} (h1 : GoesOn h h') (h2 : GoesOn h' h'') : GoesOn h h'' where
  ip := h2.ip.trans h1.ip
  stations hs := h2.stations (h1.stations hs)
  network info'' hinfo'' := by
    obtain ⟨info', hinfo', h'⟩ := h2.network info'' hinfo''
    obtain ⟨info, hinfo, h⟩ := h1.network info' hinfo'
    exact ⟨info, hinfo, fun ip p hip hd => h' ip p hip (h ip p hip hd)⟩

/-- Only the state and the stations are others. -/
theorem goesOn_of_eq {h h' : LdnNode} (hip : h'.ip = h.ip) (hinfo : h'.networkInfo = h.networkInfo)
    (ht : h.stations.Sized → h'.stations.Sized) : GoesOn h h' where
  ip := hip
  stations := ht
  network info' hinfo' := ⟨info', hinfo ▸ hinfo', fun _ _ _ hd => hd⟩

theorem GoesOn.refl (h : LdnNode) : GoesOn h h := goesOn_of_eq rfl rfl id

variable {h : LdnNode}

/-- **`_update_nodes` changes nothing that describes the network.** -/
theorem goesOn_updateNodes (h : LdnNode) : GoesOn h h.updateNodes := by
  constructor
  · unfold updateNodes
    split
    · rfl
    · split <;> rfl
  · rw [updateNodes_stations]
    exact Stations.sized_mark
  · intro info' hinfo'
    unfold updateNodes at hinfo'
    cases hinfo : h.networkInfo with
    | none =>
      rw [hinfo] at hinfo'
      cases hinfo'
    | some info =>
      refine ⟨info, rfl, fun ip p _ hd => ?_⟩
      obtain ⟨n0, rest, hnodes, hn0⟩ := hd.host
      rw [hinfo] at hinfo'
      simp only [hnodes] at hinfo'
      cases hinfo'
      exact { hd with host := ⟨_, _, rfl, hn0⟩ }

theorem goesOn_stations {t : Stations} (ht : h.stations.Sized → t.Sized) : GoesOn h (updateNodes { h with stations := t }) :=
  (goesOn_of_eq rfl rfl ht : GoesOn h { h with stations := t }).trans (goesOn_updateNodes _)

theorem goesOn_handleConnect (src body : Bytes) : GoesOn h (h.handleConnect src body) := by
  by_cases hstate : h.state = .accessPointCreated
  swap
  · rw [handleConnect, if_pos hstate]
    exact .refl h
  by_cases hlen : body.length = NODE.size
  swap
  · rw [handleConnect, if_neg (not_not.2 hstate), if_pos hlen]
    exact .refl h
  obtain ⟨ni, hni, hip, hmac⟩ := parseNodeInfo_ok hlen
  cases hslot : h.slotFor src with
  | none =>
    rw [handleConnect, if_neg (not_not.2 hstate), if_neg (not_not.2 hlen), hni]
    simp only [hslot]
    exact .refl h
  | some nid =>
    rw [handleConnect_eq hstate hlen hni hslot]
    exact goesOn_stations fun ht => Stations.sized_put ht nid ⟨hip, hmac⟩

theorem goesOn_exchange (turn : Nat → Turn) : ∀ (nids : List Nat) {h : LdnNode}, GoesOn h (exchange turn nids h)
  | [], h => .refl h
  | nid :: nids, h => by
    have hdrop : GoesOn h (updateNodes { h with stations := h.stations.drop nid }) :=
      goesOn_stations fun ht => Stations.sized_drop ht nid
    rw [exchange]
    cases turn nid with
    | sent => exact goesOn_exchange turn nids
    | failed => exact hdrop.trans (goesOn_exchange turn nids)
    | failedTwice => exact hdrop
    | raised => exact .refl h

/-- **Every operation of a host goes on with its network, but for the one that creates one.** -/
theorem goesOn_step (op : HostOp) (hop : ∀ p, op ≠ .createNetwork p) : GoesOn h (h.step op) := by
  have hnil : ∀ c, GoesOn h { h with stations := [], state := c } := fun c => goesOn_of_eq rfl rfl fun _ x hx => by cases hx
  cases op with
  | openAccessPoint =>
    show GoesOn h h.openAccessPoint
    unfold openAccessPoint
    split
    · exact .refl h
    · exact hnil _
  | closeAccessPoint => exact hnil _
  | createNetwork p => exact absurd rfl (hop p)
  | destroyNetwork => exact hnil _
  | handleConnect src body => exact goesOn_handleConnect src body
  | stationExchange turn =>
    show GoesOn h (h.stationExchange turn)
    unfold stationExchange
    split
    · exact goesOn_exchange turn _
    · exact .refl h

end LdnNode

/-! ## What packets carry -/

section Carried

variable {K K' : NetworkInfo → Prop}

/-- Of the networks in a ScanResp or a SyncNetwork all are `K`. -/
def Carries (K : NetworkInfo → Prop) (payload : Bytes) : Prop :=
  ∀ ptype body info, unpackPacket payload = .ok (some (ptype, body)) → ptype = LAN_SCAN_RESP ∨ ptype = LAN_SYNC_NETWORK →
    parseNetworkInfo body = .ok info → K info

def FrameCarries (K : NetworkInfo → Prop) (frame : Bytes) : Prop :=
  ∀ src dst payload, LdnWire.recvLoop none 0 frame = .control src dst payload → Carries K payload

theorem Carries.mono (hK : ∀ info, K info → K' info) {payload : Bytes} (h : Carries K payload) : Carries K' payload :=
  fun ptype body info hunpack hptype hparse => hK info (h ptype body info hunpack hptype hparse)

/-- **A packet carries what its body tells.** -/
theorem carries_packHeader {ptype : Nat} {body packet : Bytes} (hbody : ∀ info, parseNetworkInfo body = .ok info → K info)
    (h : packHeader ptype body true = .ok packet) : Carries K packet := by
  rcases packHeader_cases ptype body true with ⟨packet', hpacket, -, hunpack⟩ | ⟨herror, -⟩
  · rw [hpacket] at h
    cases h
    intro ptype' body' info hunpack' _ hparse
    have hwhole := hunpack []
    rw [List.append_nil, hunpack'] at hwhole
    cases hwhole
    exact hbody info hparse
  · rw [herror] at h
    cases h

theorem frameCarries_frame {c : VirtualConsole} {dst body frame : Bytes} {ptype : Nat}
    (hbody : ∀ info, parseNetworkInfo body = .ok info → K info) (h : c.frame dst ptype body = some frame) :
    FrameCarries K frame := by
  obtain ⟨packet, hpacket, hframe⟩ := Option.bind_eq_some_iff.1 h
  intro src dst' payload htaken
  rw [LdnWire.recvLoop_controlFrame (toOption_eq_some.1 hframe) (by simp)] at htaken
  cases htaken
  exact carries_packHeader hbody (toOption_eq_some.1 hpacket)

end Carried

/-! ## A console -/

/-- What the console at `ip` knows of networks is `K`; its results are of different hosts and pass the filter. -/
structure Knows (ip : Bytes) (K : NetworkInfo → Prop) (c : VirtualConsole) : Prop where
  ip : c.node.ip = ip
  stations : c.node.stations.Sized
  network : ∀ info ∈ c.node.networkInfo, K info
  results : ∀ info ∈ c.scanResults, K info
  dialled : ∀ info ∈ c.hostNetwork, K info
  distinct : (c.scanResults.map NetworkInfo.bssid).Nodup
  filter : ∀ lcid ∈ c.scanFilterLcid, ∀ info ∈ c.scanResults, networkIdOf info = some lcid
  inbox : ∀ x ∈ c.inbox, Carries K x.2
  batches : ∀ b ∈ c.batches, ∀ x ∈ b, Carries K x.2

section Console

variable {ip : Bytes} {K K' : NetworkInfo → Prop} {c c' : VirtualConsole}

theorem Knows.mono (hK : ∀ info, K info → K' info) (h : Knows ip K c) : Knows ip K' c where
  ip := h.ip
  stations := h.stations
  network info hinfo := hK info (h.network info hinfo)
  results info hinfo := hK info (h.results info hinfo)
  dialled info hinfo := hK info (h.dialled info hinfo)
  distinct := h.distinct
  filter := h.filter
  inbox x hx := (h.inbox x hx).mono hK
  batches b hb x hx := (h.batches b hb x hx).mono hK

/-- **A console's own network, as it is sent, is one it knows.** -/
theorem Knows.sent (h : Knows ip K c) (hK : ∀ info info', Onward info info' → K info → K info') {body : Bytes}
    (hbody : c.networkBytes = some body) : ∀ info, parseNetworkInfo body = .ok info → K info := by
  intro info' hparse
  obtain ⟨info, hinfo, hbytes⟩ := Option.bind_eq_some_iff.1 hbody
  refine hK info info' (fun _ _ hip hd => ?_) (h.network info hinfo)
  obtain ⟨info'', hparse', hd', -⟩ := hd.sent hip h.stations.nodes (toOption_eq_some.1 hbytes)
  rw [hparse] at hparse'
  cases hparse'
  exact hd'

theorem Knows.store (h : Knows ip K c) {info : NetworkInfo} (hinfo : K info)
    (hfilter : ∀ lcid ∈ c.scanFilterLcid, networkIdOf info = some lcid) :
    Knows ip K { c with scanResults := storeResult c.scanResults info } := by
  refine { h with results := fun x hx => ?_, distinct := nodup_storeResult h.distinct, filter := fun lcid hl x hx => ?_ }
  · rcases mem_storeResult hx with rfl | hx
    · exact hinfo
    · exact h.results x hx
  · rcases mem_storeResult hx with rfl | hx
    · exact hfilter lcid hl
    · exact h.filter lcid hl x hx

theorem Knows.heard (h : Knows ip K c) {info : NetworkInfo} (hinfo : K info) (hc : c.heard info = some c') : Knows ip K c' := by
  unfold VirtualConsole.heard at hc
  split at hc
  · rename_i hnone
    cases hc
    exact h.store hinfo fun lcid hl => by rw [hnone] at hl; cases hl
  · rename_i lcid hsome
    obtain ⟨id, hid, hc⟩ := Option.bind_eq_some_iff.1 hc
    split at hc
    · cases hc
      exact h
    · rename_i heq
      cases hc
      refine h.store hinfo fun lcid' hl => ?_
      rw [hsome] at hl
      cases hl
      rw [hid, not_not.1 heq]

theorem Knows.synced (h : Knows ip K c) {info : NetworkInfo} (hinfo : K info) : Knows ip K (c.synced info) :=
  { h with network := fun x hx => by cases hx; exact hinfo }

theorem Knows.parsed (h : Knows ip K c) {body : Bytes} (hbody : ∀ info, parseNetworkInfo body = .ok info → K info)
    {k : NetworkInfo → Option VirtualConsole} (hk : ∀ info c', K info → k info = some c' → Knows ip K c')
    (hc : c.parsed body k = some c') : Knows ip K c' := by
  unfold VirtualConsole.parsed at hc
  split at hc
  · rename_i info hparse
    exact hk info c' (hbody info hparse) hc
  · cases hc
    exact h
  · cases hc

/-- **What a handled packet leaves of a console**, and the frame it sends. -/
theorem Knows.handlePacket (h : Knows ip K c) (hK : ∀ info info', Onward info info' → K info → K info') {src payload : Bytes}
    (hpayload : Carries K payload) {sent : Option Bytes} (hc : c.handlePacket src payload = some (c', sent)) :
    Knows ip K c' ∧ ∀ frame ∈ sent, FrameCarries K frame := by
  unfold VirtualConsole.handlePacket at hc
  split at hc
  · cases hc
  · cases hc
    exact ⟨h, by simp⟩
  rename_i ptype body hunpack
  split at hc
  · split at hc
    · obtain ⟨bytes, hbytes, hc⟩ := Option.bind_eq_some_iff.1 hc
      obtain ⟨frame, hframe, hc⟩ := Option.bind_eq_some_iff.1 hc
      cases hc
      refine ⟨h, fun f hf => ?_⟩
      cases hf
      exact frameCarries_frame (h.sent hK hbytes) hframe
    · cases hc
      exact ⟨h, by simp⟩
  · split at hc
    · rename_i hptype
      obtain ⟨c'', hc'', hc⟩ := Option.map_eq_some_iff.1 hc
      cases hc
      refine ⟨h.parsed (fun info => hpayload ptype body info hunpack (.inl hptype)) (fun info _ => h.heard) hc'', by simp⟩
    · split at hc
      · cases hc
        exact ⟨h, by simp⟩
      · split at hc
        · rename_i hptype
          obtain ⟨c'', hc'', hc⟩ := Option.map_eq_some_iff.1 hc
          cases hc
          refine ⟨h.parsed (fun info => hpayload ptype body info hunpack (.inr hptype)) (fun info _ hinfo hk => ?_) hc'',
            by simp⟩
          cases hk
          exact h.synced hinfo
        · cases hc
          exact ⟨h, by simp⟩

theorem Knows.received (h : Knows ip K c) {payload : Bytes} (hpayload : Carries K payload) :
    Knows ip K (c.received payload) := by
  unfold VirtualConsole.received
  split
  · rename_i ptype body hunpack
    split
    · rename_i hptype
      cases hc : c.parsed body fun info => some (c.synced info) with
      | none => exact h
      | some c' =>
        refine h.parsed (fun info => hpayload ptype body info hunpack (.inr hptype)) (fun info _ hinfo hk => ?_) hc
        cases hk
        exact h.synced hinfo
    · exact h
  · exact h

theorem Knows.arrived (h : Knows ip K c) {frame : Bytes} (hframe : FrameCarries K frame) :
    Knows ip K (DiscoveryNet.arrived c frame) := by
  unfold DiscoveryNet.arrived
  split
  · rename_i src dst payload htaken
    refine { h with inbox := fun x hx => ?_ }
    rcases List.mem_append.1 hx with hx | hx
    · exact h.inbox x hx
    · rw [List.mem_singleton.1 hx]
      exact hframe src dst payload htaken
  · exact h

theorem Knows.dial (h : Knows ip K c) {info : NetworkInfo} (hinfo : K info) : Knows ip K (c.dial info) := by
  unfold VirtualConsole.dial
  split
  · exact h
  · split
    · exact h
    · exact { h with dialled := fun x hx => by cases hx; exact hinfo }

/-- **The host goes on, and so does the console.** -/
theorem Knows.goesOn (h : Knows ip K c) (hK : ∀ info info', Onward info info' → K info → K info') {node : LdnNode}
    (hn : LdnNode.GoesOn c.node node) : Knows ip K { c with node := node } := by
  refine { h with ip := hn.ip.trans h.ip, stations := hn.stations h.stations, network := fun info' hinfo' => ?_ }
  obtain ⟨info, hinfo, honward⟩ := hn.network info' hinfo'
  exact hK info info' honward (h.network info hinfo)

/-- **A thread that goes on with its batch knows no less.** -/
theorem Knows.setBatch (h' : Knows ip K c') (h : Knows ip K c) {b : Nat} {batch rest : List (Bytes × Bytes)}
    (hb : c.batches[b]? = some batch) (hrest : rest ⊆ batch) : Knows ip K { c' with batches := c.batches.set b rest } := by
  refine { h' with batches := fun l hl x hx => ?_ }
  rcases List.mem_or_eq_of_mem_set hl with hl | rfl
  · exact h.batches l hl x hx
  · exact h.batches batch (List.mem_of_getElem? hb) x (hrest hx)

end Console

/-! ## The consoles together -/

namespace DiscoveryNet

variable {ι : Type} {ip : ι → { b : Bytes // b.length = 4 }} {N : DiscoveryNet ι}

/-- A network that a console created. -/
def Created (ip : ι → { b : Bytes // b.length = 4 }) (N : DiscoveryNet ι) (info : NetworkInfo) : Prop :=
  ∃ x ∈ N.created, Describes (ip x.1).1 x.2 info

/-- Host address and creation arguments of a network that a console created. -/
structure From (ip : ι → { b : Bytes // b.length = 4 }) (N : DiscoveryNet ι) (info : NetworkInfo) (i : ι)
    (p : LdnNode.NetworkParams) : Prop where
  created : (i, p) ∈ N.created
  networkId : networkIdOf info = some p.localCommId
  sceneId : sceneIdOf info = some p.sceneId
  describes : Describes (ip i).1 p info

theorem exists_from {info : NetworkInfo} (h : Created ip N info) : ∃ i p, From ip N info i p := by
  obtain ⟨⟨i, p⟩, hmem, hd⟩ := h
  exact ⟨i, p, hmem, hd.ids.1, hd.ids.2, hd⟩

/-- **What every state of the consoles has.** -/
structure Sound (ip : ι → { b : Bytes // b.length = 4 }) (N : DiscoveryNet ι) : Prop where
  nodes : ∀ i, Knows (ip i).1 (Created ip N) (N.nodes i)
  net : ∀ frame ∈ N.net, FrameCarries (Created ip N) frame
  streams : ∀ payload ∈ N.streams, Carries (Created ip N) payload

theorem created_onward {info info' : NetworkInfo} (h : Onward info info') (hinfo : Created ip N info) :
    Created ip N info' := by
  obtain ⟨x, hx, hd⟩ := hinfo
  exact ⟨x, hx, h _ _ (ip x.1).2 hd⟩

theorem Sound.send (h : Sound ip N) {frame : Option Bytes} (hframe : ∀ f ∈ frame, FrameCarries (Created ip N) f) :
    Sound ip (N.send frame) := by
  refine ⟨h.nodes, fun f hf => ?_, h.streams⟩
  rcases List.mem_append.1 hf with hf | hf
  · exact h.net f hf
  · exact hframe f (Option.mem_toList.1 hf)

theorem sound_start (name : ι → List Char) : Sound ip (start ip name) where
  nodes i := by constructor <;> simp [start, Stations.Sized]
  net := by simp [start]
  streams := by simp [start]

variable [DecidableEq ι]

theorem Sound.put (h : Sound ip N) {i : ι} {c : VirtualConsole} (hc : Knows (ip i).1 (Created ip N) c) :
    Sound ip (N.put i c) := by
  refine ⟨fun j => ?_, h.net, h.streams⟩
  show Knows (ip j).1 (Created ip N) (Function.update N.nodes i c j)
  by_cases hj : j = i
  · subst hj
    rw [Function.update_self]
    exact hc
  · rw [Function.update_of_ne hj]
    exact h.nodes j

/-- **A host's operation leaves its console with networks that were created**, this one by now. -/
theorem Sound.host (h : Sound ip N) (i : ι) (op : LdnNode.HostOp) : Sound ip (N.step (.host i op)) := by
  have hmono : ∀ info, Created ip N info → Created ip (N.step (.host i op)) info := by
    rintro info ⟨x, hx, hd⟩
    exact ⟨x, List.mem_append_left _ hx, hd⟩
  have hnode : Knows (ip i).1 (Created ip (N.step (.host i op))) { N.nodes i with node := (N.nodes i).node.step op } := by
    have hi := (h.nodes i).mono hmono
    have hgoes : LdnNode.GoesOn (N.nodes i).node ((N.nodes i).node.step op) →
        Knows (ip i).1 (Created ip (N.step (.host i op))) { N.nodes i with node := (N.nodes i).node.step op } :=
      hi.goesOn fun _ _ => created_onward
    cases op with
    | createNetwork p =>
      by_cases hstate : (N.nodes i).node.state = .accessPoint
      · cases hp : p.make (N.nodes i).node with
        | error _ =>
          refine hgoes ?_
          rw [LdnNode.step, LdnNode.createNetwork_error hp]
          exact .refl _
        | ok info =>
          -- the network is a new one, and logged
          have hlogged : (i, p) ∈ (N.step (.host i (.createNetwork p))).created := by
            refine List.mem_append_right _ ?_
            rw [creates, if_pos ⟨hstate, by rw [hp]; rfl⟩]
            exact List.mem_singleton_self _
          have hcreated : Created ip (N.step (.host i (.createNetwork p))) info := by
            have hd := describes_make hp
            rw [hi.ip] at hd
            exact ⟨(i, p), hlogged, hd⟩
          have hnew : Knows (ip i).1 (Created ip (N.step (.host i (.createNetwork p)))) { N.nodes i with node :=
              { (N.nodes i).node with networkInfo := some info, stations := [], state := .accessPointCreated } } :=
            { hi with stations := fun x hx => (by cases hx), network := fun x hx => (by cases hx; exact hcreated) }
          rw [LdnNode.step, LdnNode.createNetwork_ok hstate hp]
          exact hnew.goesOn (fun _ _ => created_onward) (LdnNode.goesOn_updateNodes _)
      · refine hgoes ?_
        rw [LdnNode.step, LdnNode.createNetwork, if_pos hstate]
        exact .refl _
    | openAccessPoint => exact hgoes (LdnNode.goesOn_step _ (by simp))
    | closeAccessPoint => exact hgoes (LdnNode.goesOn_step _ (by simp))
    | destroyNetwork => exact hgoes (LdnNode.goesOn_step _ (by simp))
    | handleConnect src body => exact hgoes (LdnNode.goesOn_step _ (by simp))
    | stationExchange turn => exact hgoes (LdnNode.goesOn_step _ (by simp))
  have hall : Sound ip { N with created := (N.step (.host i op)).created } :=
    ⟨fun j => (h.nodes j).mono hmono, fun f hf src dst payload htaken => (h.net f hf src dst payload htaken).mono hmono,
      fun payload hpayload => (h.streams payload hpayload).mono hmono⟩
  exact hall.put hnode

theorem Sound.handled (h : Sound ip N) (i : ι) (b : Nat) : Sound ip (N.handled i b) := by
  unfold DiscoveryNet.handled
  split
  · rename_i src payload rest hb
    have hi := h.nodes i
    have hpayload : Carries (Created ip N) payload :=
      hi.batches _ (List.mem_of_getElem? hb) (src, payload) (List.mem_cons_self ..)
    split
    · rename_i c frame hc
      obtain ⟨hknows, hframe⟩ := hi.handlePacket (fun _ _ => created_onward) hpayload hc
      exact (h.put (hknows.setBatch hi hb (List.subset_cons_self _ _))).send hframe
    · exact h.put (hi.setBatch hi hb (List.nil_subset _))
  · exact h

/-- **Every step keeps what consoles and relay know to what was created.** -/
theorem Sound.step (h : Sound ip N) (op : Op ι) : Sound ip (N.step op) := by
  cases op with
  | setInitialized i => exact h.put { h.nodes i with }
  | host i op => exact h.host i op
  | broadcastNetwork i =>
    refine h.send fun frame hframe => ?_
    obtain ⟨body, hbody, hf⟩ := Option.bind_eq_some_iff.1 hframe
    exact frameCarries_frame ((h.nodes i).sent (fun _ _ => created_onward) hbody) hf
  | syncStation i =>
    refine ⟨h.nodes, h.net, fun payload hpayload => ?_⟩
    rcases List.mem_append.1 hpayload with hp | hp
    · exact h.streams payload hp
    · obtain ⟨body, hbody, hpacket⟩ := Option.bind_eq_some_iff.1 (Option.mem_toList.1 hp)
      exact carries_packHeader ((h.nodes i).sent (fun _ _ => created_onward) hbody) (toOption_eq_some.1 hpacket)
  | openStation i =>
    refine h.put ?_
    unfold VirtualConsole.openStation
    split
    · exact h.nodes i
    · exact { h.nodes i with stations := fun x hx => by cases hx }
  | closeStation i => exact h.put { h.nodes i with stations := fun x hx => by cases hx }
  | disconnect i => exact h.put { h.nodes i with }
  | scan i lcid =>
    have hscan : Knows (ip i).1 (Created ip N) ((N.nodes i).scan lcid) :=
      { h.nodes i with
        results := fun x hx => by cases hx
        distinct := List.nodup_nil
        filter := fun _ _ x hx => by cases hx }
    refine (h.put hscan).send fun frame hframe => frameCarries_frame (fun info hparse => ?_) hframe
    cases hparse
  | arrive i k =>
    show Sound ip (match N.net[k]? with | some frame => _ | none => _)
    split
    · rename_i frame hframe
      exact h.put ((h.nodes i).arrived (h.net frame (List.mem_of_getElem? hframe)))
    · exact h
  | take i =>
    have hi := h.nodes i
    refine h.put { hi with inbox := by simp, batches := fun l hl x hx => ?_ }
    rcases List.mem_append.1 hl with hl | hl
    · exact hi.batches l hl x hx
    · rw [List.mem_singleton.1 hl] at hx
      exact hi.inbox x hx
  | handle i b => exact h.handled i b
  | dial i k =>
    show Sound ip (match (N.nodes i).scanResults[k]? with | some info => _ | none => _)
    split
    · rename_i info hinfo
      exact h.put ((h.nodes i).dial ((h.nodes i).results info (List.mem_of_getElem? hinfo)))
    · exact h
  | receive i k =>
    show Sound ip (match N.streams[k]? with | some payload => _ | none => _)
    split
    · rename_i payload hpayload
      exact h.put ((h.nodes i).received (h.streams payload (List.mem_of_getElem? hpayload)))
    · exact h

theorem sound_run (name : ι → List Char) (ops : List (Op ι)) : Sound ip (Runs.run step (start ip name) ops) :=
  Runs.run_keeps (P := Sound ip) (fun _ op h => h.step op) ops (sound_start name)

/-- **Consoles know of no networks but those that consoles created**: in every run of whole steps, each result of a scan, each
network that is dialled and each that a console has for its own comes from a console and a call of its `create_network` that did
not raise, with the ids of that call and the address of that console as its host.  The results of a scan come from different
addresses and have the id that the scan was for. -/
theorem networks_created (ip : ι → { b : Bytes // b.length = 4 }) (name : ι → List Char) (ops : List (Op ι)) (i : ι) :
    let N := Runs.run step (start ip name) ops
    let c := N.nodes i
    (∀ info, info ∈ c.scanResults ∨ info ∈ c.hostNetwork ∨ info ∈ c.node.networkInfo → ∃ j p, From ip N info j p) ∧
    (c.scanResults.map fun info => (info.nodes.map NodeInfo.ip).head?).Nodup ∧
    ∀ lcid ∈ c.scanFilterLcid, ∀ info ∈ c.scanResults, networkIdOf info = some lcid := by
  intro N c
  have hc : Knows (ip i).1 (Created ip N) c := (sound_run name ops).nodes i
  refine ⟨fun info hinfo => exists_from ?_, ?_, hc.filter⟩
  · rcases hinfo with h | h | h
    · exact hc.results info h
    · exact hc.dialled info h
    · exact hc.network info h
  · -- the BSSID is the address behind two bytes
    refine List.Nodup.map_on (fun x hx y hy he => ?_) (List.Nodup.of_map _ hc.distinct)
    obtain ⟨a, -, ha⟩ := hc.results x hx
    obtain ⟨b, -, hb⟩ := hc.results y hy
    obtain ⟨m, _, hm, hmip, -⟩ := ha.host
    obtain ⟨n, _, hn, hnip, -⟩ := hb.host
    rw [hm, hn] at he
    have hip : (ip a.1).1 = (ip b.1).1 := by rw [← hmip, ← hnip]; simpa using he
    have hbssid : x.bssid = y.bssid := by rw [ha.bssid, hb.bssid, hip]
    exact List.inj_on_of_nodup_map hc.distinct hx hy hbssid

/-! ## A scan that is answered -/

/-- What was sent, over the relay and on the streams, stays in its place. -/
structure Extends (N N' : DiscoveryNet ι) : Prop where
  net : N.net <+: N'.net
  streams : N.streams <+: N'.streams

omit [DecidableEq ι] in
theorem extends_of_eq {N' : DiscoveryNet ι} (hnet : N'.net = N.net) (hstreams : N'.streams = N.streams) : N.Extends N' :=
  ⟨hnet ▸ List.prefix_rfl, hstreams ▸ List.prefix_rfl⟩

omit [DecidableEq ι] in
theorem extends_send {M : DiscoveryNet ι} (frame : Option Bytes) (hnet : M.net = N.net) (hstreams : M.streams = N.streams) :
    N.Extends (M.send frame) := ⟨hnet ▸ List.prefix_append _ _, hstreams ▸ List.prefix_rfl⟩

theorem extends_step (N : DiscoveryNet ι) (op : Op ι) : N.Extends (N.step op) := by
  cases op with
  | broadcastNetwork i => exact extends_send _ rfl rfl
  | syncStation i => exact ⟨List.prefix_rfl, List.prefix_append _ _⟩
  | scan i lcid => exact extends_send _ rfl rfl
  | arrive i k =>
    show N.Extends (match N.net[k]? with | some frame => _ | none => N)
    split <;> exact extends_of_eq rfl rfl
  | handle i b =>
    show N.Extends (N.handled i b)
    unfold handled
    split
    · split
      · exact extends_send _ rfl rfl
      · exact extends_of_eq rfl rfl
    · exact extends_of_eq rfl rfl
  | dial i k =>
    show N.Extends (match (N.nodes i).scanResults[k]? with | some info => _ | none => N)
    split <;> exact extends_of_eq rfl rfl
  | receive i k =>
    show N.Extends (match N.streams[k]? with | some payload => _ | none => N)
    split <;> exact extends_of_eq rfl rfl
  | setInitialized | host | openStation | closeStation | disconnect | take => exact extends_of_eq rfl rfl

theorem getElem?_of_isPrefix {l l' : List Bytes} (h : l <+: l') {k : Nat} {b : Bytes} (hk : l[k]? = some b) :
    l'[k]? = some b := by
  obtain ⟨hlt, hat⟩ := List.getElem?_eq_some_iff.1 hk
  exact (List.prefix_iff_getElem?.1 h k hlt).trans (congrArg some hat)

/-- **What was sent can arrive at any time later.** -/
theorem extends_run (N : DiscoveryNet ι) (ops : List (Op ι)) : N.Extends (Runs.run step N ops) :=
  Runs.run_keeps (P := N.Extends)
    (fun _ op h => ⟨h.net.trans (extends_step _ op).net, h.streams.trans (extends_step _ op).streams⟩)
    ops (extends_of_eq rfl rfl)

theorem mem_storeResult_self (info : NetworkInfo) : ∀ results : List NetworkInfo, info ∈ storeResult results info
  | [] => List.mem_singleton_self _
  | e :: rest => by
    rw [storeResult]
    split
    · exact List.mem_cons_self ..
    · exact List.mem_cons_of_mem _ (mem_storeResult_self info rest)

/-- **A frame of a network or of nothing is always built**, and hands its packet to whom it reaches. -/
theorem exists_frame (c : VirtualConsole) (dst : Bytes) (ptype : Nat) (body : Bytes) (hptype : ptype ≤ 255)
    (hbody : body.length ≤ 1152) : ∃ packet frame, c.frame dst ptype body = some frame ∧
      LdnWire.recvLoop none 0 frame = .control (fit 4 c.node.ip) (fit 4 dst) packet ∧
      unpackPacket packet = .ok (some (ptype, body)) := by
  rcases packHeader_cases ptype body true with ⟨packet, hpacket, -, hunpack⟩ | ⟨-, hnot⟩
  · have hlen := length_packHeader hpacket
    have hroom : packet.length ≤ 65478 := by omega
    obtain ⟨frame, hframe⟩ := LdnWire.exists_controlFrame c.node.ip dst hroom
    refine ⟨packet, frame, ?_, LdnWire.recvLoop_controlFrame hframe (by simp), ?_⟩
    · rw [VirtualConsole.frame, toOption_eq_some.2 hpacket, Option.bind_eq_bind, Option.bind_some, toOption_eq_some.2 hframe]
    · rw [← List.append_nil packet]
      exact hunpack []
  · exact absurd ⟨hptype, by omega⟩ hnot

theorem handlePacket_scan {c : VirtualConsole} {src payload body bytes frame : Bytes}
    (hunpack : unpackPacket payload = .ok (some (LAN_SCAN, body))) (hstate : c.node.state = .accessPointCreated)
    (hbytes : c.networkBytes = some bytes) (hframe : c.frame src LAN_SCAN_RESP bytes = some frame) :
    c.handlePacket src payload = some (c, some frame) := by
  unfold VirtualConsole.handlePacket
  rw [hunpack]
  simp only [if_true, hstate, hbytes, hframe, Option.bind_eq_bind, Option.bind_some]
  rfl

theorem handlePacket_answer {c : VirtualConsole} {src payload body : Bytes} {info : NetworkInfo}
    (hunpack : unpackPacket payload = .ok (some (LAN_SCAN_RESP, body))) (hparse : parseNetworkInfo body = .ok info)
    (hfilter : ∀ lcid ∈ c.scanFilterLcid, networkIdOf info = some lcid) :
    c.handlePacket src payload = some ({ c with scanResults := storeResult c.scanResults info }, none) := by
  have hheard : c.heard info = some { c with scanResults := storeResult c.scanResults info } := by
    unfold VirtualConsole.heard
    split
    · rfl
    · rename_i lcid hsome
      rw [hfilter lcid hsome, Option.bind_eq_bind, Option.bind_some, if_neg (not_not.2 rfl)]
      rfl
  unfold VirtualConsole.handlePacket
  rw [hunpack]
  simp only [if_neg (by decide : ¬ LAN_SCAN_RESP = LAN_SCAN), if_true, VirtualConsole.parsed, hparse, hheard, Option.map_some]

/-- What a frame becomes in the inbox. -/
def entryOf (frame : Bytes) : Option (Bytes × Bytes) :=
  match LdnWire.recvLoop none 0 frame with
  | .control src _ payload => some (src, payload)
  | _ => none

/-- A thread of the console comes to the packet of the `k`-th frame, in its batch `b`. -/
def Comes (N : DiscoveryNet ι) (i : ι) (b k : Nat) : Prop :=
  ∃ x ∈ N.net[k]?.bind entryOf, (N.nodes i).batches[b]?.bind List.head? = some x

instance (N : DiscoveryNet ι) (i : ι) (b k : Nat) : Decidable (N.Comes i b k) :=
  inferInstanceAs (Decidable (∃ x ∈ N.net[k]?.bind entryOf, (N.nodes i).batches[b]?.bind List.head? = some x))

/-- **A thread handles the packet that it comes to.** -/
theorem handled_of_comes {i : ι} {b k : Nat} (h : N.Comes i b k) {frame src dst payload : Bytes} (hframe : N.net[k]? = some frame)
    (htaken : LdnWire.recvLoop none 0 frame = .control src dst payload) {c : VirtualConsole} {sent : Option Bytes}
    (hc : (N.nodes i).handlePacket src payload = some (c, sent)) :
    ∃ batches, N.step (.handle i b) = (N.put i { c with batches := batches }).send sent := by
  obtain ⟨x, hx, hb⟩ := h
  have hentry : entryOf frame = some (src, payload) := by
    unfold entryOf
    rw [htaken]
  rw [hframe, Option.bind_some, hentry] at hx
  cases hx
  obtain ⟨batch, hbatch, hhead⟩ := Option.bind_eq_some_iff.1 hb
  obtain ⟨rest, rfl⟩ := List.head?_eq_some_iff.1 hhead
  refine ⟨(N.nodes i).batches.set b rest, ?_⟩
  show N.handled i b = _
  simp only [handled, hbatch, hc]

theorem length_networkBytes {info : NetworkInfo} {stations : List NodeInfo} {body : Bytes}
    (h : Ldn.networkBytes info stations = .ok body) : body.length = 1152 := by
  cases hnodes : info.nodes with
  | nil =>
    rw [networkBytes, hnodes] at h
    cases h
  | cons n0 rest =>
    rw [networkBytes_eq hnodes] at h
    obtain ⟨_, _, _, _, -, -, -, -, hpack⟩ := buildInfo_pieces h
    exact NETWORK.length_pack hpack

/-- **A scan finds the network of a host that it reaches**: in every run, whatever else is done before a thread of the host
comes to the Scan and before a thread of the console comes to the answer, when the host advertises a network that passes the
filter, the network is among the results as the host sent it. -/
theorem scan_finds (ip : ι → { b : Bytes // b.length = 4 }) (name : ι → List Char) (before between after : List (Op ι))
    (i j : ι) (lcid : Option Nat) (b b' : Nat) :
    let N₀ := Runs.run step (start ip name) before
    let N₁ := Runs.run step (N₀.step (.scan i lcid)) between
    let N₂ := Runs.run step (N₁.step (.handle j b)) after
    ∀ info body, N₁.Comes j b N₀.net.length → (N₁.nodes j).node.state = .accessPointCreated →
      (N₁.nodes j).node.networkInfo = some info → (N₁.nodes j).networkBytes = some body → N₂.Comes i b' N₁.net.length →
      (∀ lcid ∈ (N₂.nodes i).scanFilterLcid, networkIdOf info = some lcid) →
      ∃ info', parseNetworkInfo body = .ok info' ∧ Onward info info' ∧
        info' ∈ ((N₂.step (.handle i b')).nodes i).scanResults := by
  intro N₀ N₁ N₂ info body hasked hstate hinfo hbody hanswered hfilter
  have hsound₁ : Sound ip N₁ :=
    Runs.run_keeps (P := Sound ip) (fun _ op h => h.step op) between ((sound_run name before).step _)
  -- the network as it is sent
  have hbytes : Ldn.networkBytes info (N₁.nodes j).node.stations.nodes = .ok body := by
    obtain ⟨info', hinfo', hb⟩ := Option.bind_eq_some_iff.1 hbody
    rw [hinfo] at hinfo'
    cases hinfo'
    exact toOption_eq_some.1 hb
  obtain ⟨x, -, hd⟩ := (hsound₁.nodes j).network info hinfo
  obtain ⟨info', hparse, hd', -⟩ := hd.sent (ip x.1).2 (hsound₁.nodes j).stations.nodes hbytes
  have honward : Onward info info' := by
    intro ip' p hip hdesc
    obtain ⟨info'', hparse', hdesc', -⟩ := hdesc.sent hip (hsound₁.nodes j).stations.nodes hbytes
    rw [hparse] at hparse'
    cases hparse'
    exact hdesc'
  refine ⟨info', hparse, honward, ?_⟩
  -- the Scan
  obtain ⟨scanPacket, scanFrame, hscanFrame, hscanTaken, hscanUnpack⟩ :=
    exists_frame (N₀.nodes i) (N₀.nodes i).broadcastIp LAN_SCAN [] (by decide) (by decide)
  have hscanSent : N₁.net[N₀.net.length]? = some scanFrame := by
    refine getElem?_of_isPrefix (extends_run _ between).net ?_
    show (N₀.net ++ _)[N₀.net.length]? = _
    rw [hscanFrame]
    exact List.getElem?_concat_length
  -- the answer
  obtain ⟨packet, frame, hframe, htaken, hunpack⟩ := exists_frame (N₁.nodes j) (fit 4 (N₀.nodes i).node.ip)
    LAN_SCAN_RESP body (by decide) (Nat.le_of_eq (length_networkBytes hbytes))
  obtain ⟨_, hanswer⟩ :=
    handled_of_comes hasked hscanSent hscanTaken (handlePacket_scan hscanUnpack hstate hbody hframe)
  have hanswerSent : N₂.net[N₁.net.length]? = some frame := by
    refine getElem?_of_isPrefix (extends_run _ after).net ?_
    rw [hanswer]
    exact List.getElem?_concat_length
  -- the result
  have hpasses : ∀ lcid ∈ (N₂.nodes i).scanFilterLcid, networkIdOf info' = some lcid := by
    intro lcid hl
    have hid := hfilter lcid hl
    rw [hd.ids.1] at hid
    rw [hd'.ids.1, hid]
  obtain ⟨_, hstored⟩ := handled_of_comes hanswered hanswerSent htaken (handlePacket_answer hunpack hparse hpasses)
  rw [hstored]
  show info' ∈ (Function.update N₂.nodes i _ i).scanResults
  rw [Function.update_self]
  exact mem_storeResult_self info' _

def luigiIp : Bytes := [10, 13, 37, 4]

theorem length_fakeIp : fakeIp.length = 4 := rfl

theorem length_luigiIp : luigiIp.length = 4 := rfl

def lobbyIp : Bool → { b : Bytes // b.length = 4 }
  | true => ⟨fakeIp, length_fakeIp⟩
  | false => ⟨luigiIp, length_luigiIp⟩

def lobbyName : Bool → List Char
  | true => "mario".toList
  | false => "luigi".toList

/-- One console hosts, and the other one scans. -/
def lobby : List (Op Bool) := [.setInitialized true, .host true .openAccessPoint,
  .host true (.createNetwork ⟨0x0100152000022000, 0, zeroId, 8, 6, 0, 6⟩)]

def lobbyNet : DiscoveryNet Bool := Runs.run step (start lobbyIp lobbyName) lobby

def lobbyScanned : DiscoveryNet Bool := lobbyNet.step (.scan false (some 0x0100152000022000))

def lobbyAsked : DiscoveryNet Bool := Runs.run step lobbyScanned [.arrive true 0, .take true]

/-- The Scan comes back to the console that sent it, and waits there before the answer. -/
def lobbyAnswered : DiscoveryNet Bool :=
  Runs.run step (lobbyAsked.step (.handle true 0)) [.arrive false 0, .arrive false 1, .take false, .handle false 0]

theorem scan_finds_lobby : ∃ info ∈ ((lobbyAnswered.step (.handle false 0)).nodes false).scanResults,
    networkIdOf info = some 0x0100152000022000 := by
  have hid : (lobbyAsked.nodes true).node.networkInfo.bind networkIdOf = some 0x0100152000022000 := by decide +kernel
  obtain ⟨info, hinfo, hinfoId⟩ := Option.bind_eq_some_iff.1 hid
  obtain ⟨body, hbody⟩ := Option.isSome_iff_exists.1 (by decide +kernel : (lobbyAsked.nodes true).networkBytes.isSome = true)
  have hfilter : ∀ lcid ∈ (lobbyAnswered.nodes false).scanFilterLcid, networkIdOf info = some lcid := by
    have hsame : (lobbyAnswered.nodes false).scanFilterLcid = some 0x0100152000022000 := by decide +kernel
    rw [hsame]
    intro lcid hl
    cases hl
    exact hinfoId
  have hfinds := scan_finds lobbyIp lobbyName lobby [.arrive true 0, .take true]
    [.arrive false 0, .arrive false 1, .take false, .handle false 0] false true (some 0x0100152000022000) 0 0 info body
  have hnet : Runs.run step (start lobbyIp lobbyName) lobby = lobbyNet := rfl
  have hscan : lobbyNet.step (.scan false (some 0x0100152000022000)) = lobbyScanned := rfl
  have hasked : Runs.run step lobbyScanned [.arrive true 0, .take true] = lobbyAsked := rfl
  have hanswered : Runs.run step (lobbyAsked.step (.handle true 0))
    [.arrive false 0, .arrive false 1, .take false, .handle false 0] = lobbyAnswered := rfl
  simp only [hnet, hscan, hasked, hanswered] at hfinds
  obtain ⟨info', -, honward, hfound⟩ :=
    hfinds (by decide +kernel) (by decide +kernel) hinfo hbody (by decide +kernel) hfilter
  have hscanned : Sound lobbyIp lobbyScanned := (sound_run lobbyName lobby).step _
  have hsound : Sound lobbyIp lobbyAsked := (hscanned.step (.arrive true 0)).step (.take true)
  obtain ⟨x, -, hd⟩ := (hsound.nodes true).network info hinfo
  exact ⟨info', hfound, ((honward _ _ (lobbyIp x.1).2 hd).ids.1.trans hd.ids.1.symm).trans hinfoId⟩

/-! ## A station that joins -/

theorem mem_put (t : Stations) (nid : Nat) (s : Station) : (nid, s) ∈ t.put nid s := by
  unfold Stations.put
  split
  · rename_i hin
    obtain ⟨x, hx, hxid⟩ := List.mem_map.1 hin
    exact List.mem_map.2 ⟨x, hx, if_pos hxid⟩
  · exact List.mem_append_right _ (List.mem_singleton_self _)

theorem mem_nodes {t : Stations} {x : Nat × Station} (hx : x ∈ t) (hconn : x.2.connected = true) : x.2.node ∈ t.nodes :=
  List.mem_map_of_mem (List.mem_filter.2 ⟨(List.perm_insertionSort _ t).mem_iff.2 hx, hconn⟩)

/-- **A station that connects is one of the host's nodes**, with its slot for an id. -/
theorem connected_node {h : LdnNode} {src my : Bytes} {lcv : Int} {sname : List Char} {sip : Bytes} (hsip : sip.length = 4)
    (hmy : buildNodeInfo sip 0 1 sname lcv none = .ok my) (hstate : h.state = .accessPointCreated) {nid : Nat}
    (hslot : h.slotFor src = some nid) : ∃ n ∈ (h.handleConnect src my).stations.nodes, n.ip = sip ∧ n.nodeId = nid := by
  have hmac : (fakeMac sip).length = 6 := by simp [fakeMac, hsip]
  obtain ⟨hlen, hparse⟩ := parse_buildNode (n := ⟨sip, fakeMac sip, 0, 1, sname, lcv⟩) hsip hmac hmy
  rw [LdnNode.handleConnect_eq hstate hlen hparse hslot, LdnNode.updateNodes_stations]
  exact ⟨_, mem_nodes (List.mem_map_of_mem (mem_put h.stations nid _)) rfl, rfl, rfl⟩

/-- **A station that joins is listed in the network it joins**: in every run, whatever else is done before the station reads
it, what a host sends a station once its Connect is handled lists the station's address with the slot it was given, and tells of
a network that was created; a console in the station role is connected when it has read it. -/
theorem connect_listed (ip : ι → { b : Bytes // b.length = 4 }) (name : ι → List Char) (before after : List (Op ι)) (i j : ι)
    (src my : Bytes) (sname : List Char) (lcv : Int) (nid : Nat) :
    let N₀ := Runs.run step (start ip name) before
    let N₁ := N₀.step (.host j (.handleConnect src my))
    let N₂ := Runs.run step (N₁.step (.syncStation j)) after
    let N₃ := N₂.step (.receive i N₁.streams.length)
    buildNodeInfo (ip i).1 0 1 sname lcv none = .ok my → (N₀.nodes j).node.state = .accessPointCreated →
      (N₀.nodes j).node.slotFor src = some nid → (N₁.nodes j).networkBytes.isSome →
      ∃ info, (N₃.nodes i).node.networkInfo = some info ∧ (∃ k p, From ip N₃ info k p) ∧
        (∃ n ∈ info.nodes, n.ip = (ip i).1 ∧ n.nodeId = nid ∧ n.isConnected = 1) ∧
        ((N₂.nodes i).node.state = .station → (N₃.nodes i).node.state = .stationConnected) := by
  intro N₀ N₁ N₂ N₃ hmy hstate hslot hbytes
  obtain ⟨body, hbody⟩ := Option.isSome_iff_exists.1 hbytes
  have hsound : Sound ip N₁ := (sound_run name before).step _
  obtain ⟨info, hinfo, hb⟩ := Option.bind_eq_some_iff.1 hbody
  have hsent := toOption_eq_some.1 hb
  -- the network that is sent lists the station
  obtain ⟨x, -, hd⟩ := (hsound.nodes j).network info hinfo
  obtain ⟨info', hparse, -, hlist⟩ := hd.sent (ip x.1).2 (hsound.nodes j).stations.nodes hsent
  obtain ⟨n, hn, hnip, hnid⟩ := connected_node (ip i).2 hmy hstate hslot
  have hnode : (N₁.nodes j).node = (N₀.nodes j).node.handleConnect src my := by
    show (Function.update N₀.nodes j _ j).node = _
    rw [Function.update_self]
    rfl
  rw [← hnode] at hn
  -- what the station reads
  rcases packHeader_cases LAN_SYNC_NETWORK body true with ⟨packet, hpacket, -, hunpack⟩ | ⟨-, hnot⟩
  swap
  · exact absurd ⟨by decide, by rw [length_networkBytes hsent]; decide⟩ hnot
  have hwritten : N₂.streams[N₁.streams.length]? = some packet := by
    refine getElem?_of_isPrefix (extends_run _ after).streams ?_
    show (N₁.streams ++ _)[N₁.streams.length]? = _
    rw [hbody, Option.bind_some, hpacket]
    exact List.getElem?_concat_length
  have hread : (N₂.nodes i).received packet = (N₂.nodes i).synced info' := by
    have hbare := hunpack []
    rw [List.append_nil] at hbare
    simp only [VirtualConsole.received, hbare, if_true, VirtualConsole.parsed, hparse, Option.getD_some]
  have hstation : N₃.nodes i = (N₂.nodes i).synced info' := by
    show (match N₂.streams[N₁.streams.length]? with | some payload => _ | none => N₂ : DiscoveryNet ι).nodes i = _
    rw [hwritten]
    show Function.update N₂.nodes i _ i = _
    rw [Function.update_self, hread]
  have hsound₃ : Sound ip N₃ :=
    (Runs.run_keeps (P := Sound ip) (fun _ op h => h.step op) after (hsound.step _)).step _
  refine ⟨info', by rw [hstation]; rfl, exists_from ((hsound₃.nodes i).network info' (by rw [hstation]; rfl)),
    ⟨_, hlist n hn, hnip, hnid, rfl⟩, fun hst => ?_⟩
  rw [hstation]
  exact if_pos hst

def luigiNode : Bytes := (buildNodeInfo (lobbyIp false).1 0 1 (lobbyName false) 6 none).toOption.getD []

def joinNet : DiscoveryNet Bool :=
  Runs.run step (start lobbyIp lobbyName) (lobby ++ [.setInitialized false, .openStation false])

def joinConnected : DiscoveryNet Bool := joinNet.step (.host true (.handleConnect (lobbyIp false).1 luigiNode))

def joinSent : DiscoveryNet Bool := joinConnected.step (.syncStation true)

theorem connect_listed_lobby : ∃ info,
    ((joinSent.step (.receive false joinConnected.streams.length)).nodes false).node.networkInfo = some info ∧
      (∃ n ∈ info.nodes, n.ip = (lobbyIp false).1 ∧ n.nodeId = 1 ∧ n.isConnected = 1) ∧
      ((joinSent.step (.receive false joinConnected.streams.length)).nodes false).node.state = .stationConnected := by
  have hlisted := connect_listed lobbyIp lobbyName (lobby ++ [.setInitialized false, .openStation false]) [] false true
    (lobbyIp false).1 luigiNode (lobbyName false) 6 1
  have hnil : ∀ N : DiscoveryNet Bool, Runs.run step N [] = N := fun _ => rfl
  have hnet : Runs.run step (start lobbyIp lobbyName) (lobby ++ [.setInitialized false, .openStation false]) = joinNet := rfl
  have hconnected : joinNet.step (.host true (.handleConnect (lobbyIp false).1 luigiNode)) = joinConnected := rfl
  have hsent : joinConnected.step (.syncStation true) = joinSent := rfl
  simp only [hnil, hnet, hconnected, hsent] at hlisted
  have hmy : buildNodeInfo (lobbyIp false).1 0 1 (lobbyName false) 6 none = .ok luigiNode := by
    obtain ⟨b, hb⟩ := exists_ok
      (by decide +kernel : (buildNodeInfo (lobbyIp false).1 0 1 (lobbyName false) 6 none).toOption.isSome = true)
    rw [luigiNode, hb]
    rfl
  obtain ⟨info, hinfo, -, hnode, hstate⟩ := hlisted hmy (by decide +kernel) (by decide +kernel) (by decide +kernel)
  exact ⟨info, hinfo, hnode, hstate (by decide +kernel)⟩

end DiscoveryNet

end Ldn
end Slp
