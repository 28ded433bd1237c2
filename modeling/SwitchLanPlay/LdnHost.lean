import Mathlib.Data.List.Perm.Subperm
import Mathlib.Data.List.Sort
import SwitchLanPlay.NetworkInfo
import SwitchLanPlay.Runs
/-!
# LdnHost — the station table of an emulated host (LdnNode in tools/slp_ldn.py)

A station keeps its slot by its address, whatever connects and fails, so that ids and addresses stay distinct and what the
host advertises counts itself and the connected stations (`inv_run`).  The number of slots is fixed, whatever number of nodes
the network was created for: the advertised count keeps to that number as long as stations connect only while there is room
for them (`stations_iff`).

What a call of `vtcp.send` does is part of the step: it returns, or it raises.
-/
namespace Slp
namespace Ldn

open Wire
open scoped List

inductive CommState where
  | none
  | initialized
  | accessPoint
  | accessPointCreated
  | station
  | stationConnected
  | error
deriving DecidableEq

/-- A value of `stations`. -/
structure Station where
  ip : Bytes
  node : NodeInfo
  connected : Bool

/-- The `stations` of a host by node id, oldest key first. -/
abbrev Stations := List (Nat × Station)

/-- The part of an `LdnNode` its host role works on. -/
structure LdnNode where
  ip : Bytes
  name : List Char
  state : CommState
  networkInfo : Option NetworkInfo
  stations : Stations
  length_ip : ip.length = 4

namespace Stations

def ids (t : Stations) : List Nat := t.map Prod.fst

def connected (t : Stations) : List Nat := ids (t.filter (fun x => x.2.connected))

/-- The nodes of the connected stations in the order of their ids. -/
def nodes (t : Stations) : List NodeInfo :=
  ((t.insertionSort (fun x y => x.1 ≤ y.1)).filter (fun x => x.2.connected)).map (fun x => x.2.node)

/-- The first loop of `_update_nodes`. -/
def mark (t : Stations) : Stations :=
  t.map (fun x => (x.1, { x.2 with node := { x.2.node with isConnected := if x.2.connected then 1 else 0 } }))

/-- `stations[nid] = s`. -/
def put (t : Stations) (nid : Nat) (s : Station) : Stations :=
  if nid ∈ t.ids then t.map (fun x => if x.1 = nid then (nid, s) else x) else t ++ [(nid, s)]

/-- `stations[nid]["connected"] = False`. -/
def drop (t : Stations) (nid : Nat) : Stations :=
  t.map (fun x => if x.1 = nid then (x.1, { x.2 with connected := false }) else x)

/-- The slot that an address holds. -/
def slotOf (t : Stations) (src : Bytes) : Option (Nat × Station) := t.find? (fun x => x.2.ip = src)

/-- `while nid in self.stations: nid += 1`, which ends before there are more turns than keys. -/
def nextFree (keys : List Nat) : Nat → Nat → Nat
  | 0, nid => nid
  | turns + 1, nid => if nid ∈ keys then nextFree keys turns (nid + 1) else nid

end Stations

namespace LdnNode

/-- `_update_nodes`, up to its sends. -/
def updateNodes (h : LdnNode) : LdnNode :=
  let count := h.stations.connected.length + 1
  let stations := h.stations.mark
  match h.networkInfo with
  | none => { h with stations := stations }
  | some info =>
    match info.nodes with
    | [] => { h with stations := stations, networkInfo := some { info with nodeCount := count } }
    | n0 :: _ =>
      { h with
        stations := stations
        networkInfo := some { info with nodeCount := count, nodes := { n0 with isConnected := 1 } :: stations.nodes } }

def openAccessPoint (h : LdnNode) : LdnNode :=
  if h.state = .none then h else { h with stations := [], state := .accessPoint }

def closeAccessPoint (h : LdnNode) : LdnNode := { h with stations := [], state := .initialized }

def destroyNetwork (h : LdnNode) : LdnNode := { h with stations := [], state := .accessPoint }

/-- The arguments of `create_network`. -/
structure NetworkParams where
  localCommId : Nat
  sceneId : Nat
  sessionId : Bytes
  nodeCountMax : Nat
  channel : Int
  securityMode : Nat
  lcv : Int

def NetworkParams.make (p : NetworkParams) (h : LdnNode) : Except NetworkError NetworkInfo :=
  makeNetwork h.ip h.name p.localCommId p.sceneId p.sessionId p.nodeCountMax p.channel p.securityMode p.lcv

def createNetwork (h : LdnNode) (p : NetworkParams) : LdnNode :=
  if h.state ≠ .accessPoint then h
  else
    match p.make h with
    | .error _ => h
    | .ok info => updateNodes { h with networkInfo := some info, stations := [], state := .accessPointCreated }

/-- The slot for an address: the one it holds, or the first free one, unless all are held. -/
def slotFor (h : LdnNode) (src : Bytes) : Option Nat :=
  match h.stations.slotOf src with
  | some x => some x.1
  | none =>
    if NODE_COUNT_MAX - 1 ≤ h.stations.length then none
    else some (Stations.nextFree h.stations.ids h.stations.length 1)

def handleConnect (h : LdnNode) (src body : Bytes) : LdnNode :=
  if h.state ≠ .accessPointCreated then h
  else if body.length ≠ NODE.size then h
  else
    match parseNodeInfo body with
    | .error _ => h
    | .ok ni =>
      match h.slotFor src with
      | none => h
      | some nid => updateNodes { h with stations := h.stations.put nid ⟨src, { ni with nodeId := nid }, true⟩ }

/-- What happens at one station of `station_exchange`: its send goes through or is left out, it raises, it raises and so does
one of those that tell the others of it, or the network cannot be packed. -/
inductive Turn where
  | sent
  | failed
  | failedTwice
  | raised

/-- The loop over the stations that were connected when it began. -/
def exchange (turn : Nat → Turn) : List Nat → LdnNode → LdnNode
  | [], h => h
  | nid :: rest, h =>
    match turn nid with
    | .sent => exchange turn rest h
    | .failed => exchange turn rest (updateNodes { h with stations := h.stations.drop nid })
    | .failedTwice => updateNodes { h with stations := h.stations.drop nid }
    | .raised => h

/-- `station_exchange` as a host. -/
def stationExchange (h : LdnNode) (turn : Nat → Turn) : LdnNode :=
  if h.state = .accessPointCreated then exchange turn h.stations.connected h else h

inductive HostOp where
  | openAccessPoint
  | closeAccessPoint
  | createNetwork (p : NetworkParams)
  | destroyNetwork
  | handleConnect (src body : Bytes)
  | stationExchange (turn : Nat → Turn)

def step (h : LdnNode) : HostOp → LdnNode
  | .openAccessPoint => h.openAccessPoint
  | .closeAccessPoint => h.closeAccessPoint
  | .createNetwork p => h.createNetwork p
  | .destroyNetwork => h.destroyNetwork
  | .handleConnect src body => h.handleConnect src body
  | .stationExchange turn => h.stationExchange turn

end LdnNode

/-! ## The table -/

namespace Stations

/-- A table of at most seven stations with distinct ids from 1 to 7 and distinct addresses. -/
structure Ordered (t : Stations) : Prop where
  ids_nodup : t.ids.Nodup
  range : ∀ x ∈ t, 1 ≤ x.1 ∧ x.1 ≤ 7
  length_le : t.length ≤ 7
  addresses : (t.map (fun x => x.2.ip)).Nodup
  nodes : ∀ x ∈ t, x.2.node.nodeId = x.1 ∧ x.2.node.ip.length = 4 ∧ x.2.node.mac.length = 6

theorem ordered_nil : Ordered [] := ⟨List.nodup_nil, by simp, Nat.zero_le 7, List.nodup_nil, by simp⟩

/-- **What keeps every station's id and address keeps the table ordered.** -/
theorem Ordered.map {t : Stations} (h : t.Ordered) {f : Nat × Station → Nat × Station}
    (hid : ∀ x ∈ t, (f x).1 = x.1) (hip : ∀ x ∈ t, (f x).2.ip = x.2.ip)
    (hnode : ∀ x ∈ t, (f x).2.node.nodeId = x.1 ∧ (f x).2.node.ip.length = 4 ∧ (f x).2.node.mac.length = 6) :
    Ordered (t.map f) := by
  have hids : ids (t.map f) = t.ids := by
    rw [ids, ids, List.map_map]
    exact List.map_congr_left hid
  have hips : (t.map f).map (fun x => x.2.ip) = t.map (fun x => x.2.ip) := by
    rw [List.map_map]
    exact List.map_congr_left hip
  constructor
  · rw [hids]
    exact h.ids_nodup
  · intro y hy
    obtain ⟨x, hx, rfl⟩ := List.mem_map.1 hy
    rw [hid x hx]
    exact h.range x hx
  · rw [List.length_map]
    exact h.length_le
  · rw [hips]
    exact h.addresses
  · intro y hy
    obtain ⟨x, hx, rfl⟩ := List.mem_map.1 hy
    rw [hid x hx]
    exact hnode x hx

theorem ordered_mark {t : Stations} (h : t.Ordered) : t.mark.Ordered :=
  h.map (fun _ _ => rfl) (fun _ _ => rfl) fun x hx => h.nodes x hx

theorem ordered_drop {t : Stations} (h : t.Ordered) (nid : Nat) : (t.drop nid).Ordered := by
  refine h.map (fun x _ => ?_) (fun x _ => ?_) fun x hx => ?_
  · by_cases he : x.1 = nid <;> simp [he]
  · by_cases he : x.1 = nid <;> simp [he]
  · have hnode := h.nodes x hx
    by_cases he : x.1 = nid
    · rw [if_pos he]
      exact hnode
    · rw [if_neg he]
      exact hnode

theorem Ordered.eq_of_id {t : Stations} (h : t.Ordered) {x y : Nat × Station} (hx : x ∈ t) (hy : y ∈ t) (he : x.1 = y.1) :
    x = y := List.inj_on_of_nodup_map h.ids_nodup hx hy he

/-- The ids from 1 to `nid` are not more than the keys, if all are taken. -/
theorem le_length_of_taken {keys : List Nat} {nid : Nat} (h : ∀ i, 1 ≤ i → i ≤ nid → i ∈ keys) : nid ≤ keys.length := by
  have hsub : List.range' 1 nid ⊆ keys := by
    intro i hi
    rw [List.mem_range'_1] at hi
    exact h i hi.1 (by omega)
  have hnodup : (List.range' 1 nid).Nodup := List.nodup_range'
  have hlen := (hnodup.subperm hsub).length_le
  rwa [List.length_range'] at hlen

/-- **The loop ends at an id that is not taken**, which is at most one more than there are keys. -/
theorem nextFree_spec (keys : List Nat) : ∀ (turns nid : Nat), keys.length < turns + nid → 1 ≤ nid →
    (∀ i, 1 ≤ i → i < nid → i ∈ keys) →
    nextFree keys turns nid ∉ keys ∧ 1 ≤ nextFree keys turns nid ∧ nextFree keys turns nid ≤ keys.length + 1
  | 0, nid, hturns, h1, hall => by
    have hle : nid - 1 ≤ keys.length := le_length_of_taken fun i hi hlt => hall i hi (by omega)
    refine ⟨fun hmem => ?_, h1, by rw [nextFree]; omega⟩
    have : nid ≤ keys.length := le_length_of_taken fun i hi hle => by
      rcases Nat.lt_or_eq_of_le hle with hlt | rfl
      · exact hall i hi hlt
      · exact hmem
    omega
  | turns + 1, nid, hturns, h1, hall => by
    rw [nextFree]
    by_cases hmem : nid ∈ keys
    · rw [if_pos hmem]
      refine nextFree_spec keys turns (nid + 1) (by omega) (by omega) fun i hi hlt => ?_
      rcases Nat.lt_or_eq_of_le (Nat.le_of_lt_succ hlt) with hlt | rfl
      · exact hall i hi hlt
      · exact hmem
    · rw [if_neg hmem]
      have hle : nid - 1 ≤ keys.length := le_length_of_taken fun i hi hlt => hall i hi (by omega)
      exact ⟨hmem, h1, by omega⟩

/-- **A station at a free id and a new address keeps the table ordered.** -/
theorem Ordered.append {t : Stations} (h : t.Ordered) {nid : Nat} {s : Station} (hnew : nid ∉ t.ids) (h1 : 1 ≤ nid)
    (hlen : t.length ≤ 6) (hle : nid ≤ 7) (hip : ∀ x ∈ t, x.2.ip ≠ s.ip)
    (hnode : s.node.nodeId = nid ∧ s.node.ip.length = 4 ∧ s.node.mac.length = 6) : Ordered (t ++ [(nid, s)]) := by
  have hmem : ∀ x ∈ t ++ [(nid, s)], x ∈ t ∨ x = (nid, s) := by
    intro x hx
    simpa using hx
  constructor
  · rw [ids, List.map_append, List.map_singleton, ← List.concat_eq_append]
    exact h.ids_nodup.concat hnew
  · intro x hx
    rcases hmem x hx with hx | rfl
    · exact h.range x hx
    · exact ⟨h1, hle⟩
  · rw [List.length_append, List.length_singleton]
    omega
  · rw [List.map_append, List.map_singleton, ← List.concat_eq_append]
    refine h.addresses.concat fun hin => ?_
    obtain ⟨x, hx, he⟩ := List.mem_map.1 hin
    exact hip x hx he
  · intro x hx
    rcases hmem x hx with hx | rfl
    · exact h.nodes x hx
    · exact hnode

/-- **A station at an id and an address that it had keeps the table ordered.** -/
theorem Ordered.replace {t : Stations} (h : t.Ordered) {x : Nat × Station} (hx : x ∈ t) {s : Station} (hip : s.ip = x.2.ip)
    (hnode : s.node.nodeId = x.1 ∧ s.node.ip.length = 4 ∧ s.node.mac.length = 6) :
    Ordered (t.map (fun y => if y.1 = x.1 then (x.1, s) else y)) := by
  refine h.map (fun y hy => ?_) (fun y hy => ?_) fun y hy => ?_
  · by_cases he : y.1 = x.1 <;> simp [he]
  · by_cases he : y.1 = x.1
    · rw [if_pos he, h.eq_of_id hy hx he]
      exact hip
    · rw [if_neg he]
  · by_cases he : y.1 = x.1
    · rw [if_pos he, he]
      exact hnode
    · rw [if_neg he]
      exact h.nodes y hy

theorem slotOf_some {t : Stations} {src : Bytes} {x : Nat × Station} (h : t.slotOf src = some x) : x ∈ t ∧ x.2.ip = src :=
  ⟨List.mem_of_find?_eq_some h, by simpa using List.find?_some h⟩

theorem slotOf_none {t : Stations} {src : Bytes} (h : t.slotOf src = none) : ∀ x ∈ t, x.2.ip ≠ src := by
  intro x hx
  simpa using List.find?_eq_none.1 h x hx

/-! ## Connected stations -/

theorem length_connected (t : Stations) : t.connected.length = t.countP (fun x => x.2.connected) := by
  rw [connected, ids, List.length_map, List.countP_eq_length_filter]

theorem connected_mark (t : Stations) : t.mark.connected.length = t.connected.length := by
  rw [length_connected, length_connected, mark, List.countP_map]
  rfl

theorem connected_drop_le (t : Stations) (nid : Nat) : (t.drop nid).connected.length ≤ t.connected.length := by
  rw [length_connected, length_connected, drop, List.countP_map]
  refine List.countP_mono_left fun x _ hconn => ?_
  by_cases he : x.1 = nid <;> simp_all

/-- **A slot that is filled again is one more connected station, unless its station was.** -/
theorem connected_replace {t : Stations} (h : t.ids.Nodup) {x : Nat × Station} (hx : x ∈ t) {s : Station}
    (hs : s.connected = true) :
    (connected (t.map (fun y => if y.1 = x.1 then (x.1, s) else y))).length =
      t.connected.length + if x.2.connected then 0 else 1 := by
  obtain ⟨front, back, rfl⟩ := List.append_of_mem hx
  have hother : ∀ y ∈ front ++ back, y.1 ≠ x.1 := by
    intro y hy he
    have hperm : ids (front ++ x :: back) ~ x.1 :: ids (front ++ back) := List.perm_middle.map Prod.fst
    exact (List.nodup_cons.1 (hperm.nodup_iff.1 h)).1 (List.mem_map.2 ⟨y, hy, he⟩)
  have hsame : ∀ part : Stations, (∀ y ∈ part, y ∈ front ++ back) →
      part.map (fun y => if y.1 = x.1 then (x.1, s) else y) = part := by
    intro part hpart
    refine (List.map_congr_left fun y hy => if_neg (hother y (hpart y hy))).trans (List.map_id' _)
  rw [length_connected, length_connected, List.map_append, List.map_cons, if_pos rfl,
    hsame front fun y hy => List.mem_append_left _ hy, hsame back fun y hy => List.mem_append_right _ hy, List.countP_append,
    List.countP_append, List.countP_cons, List.countP_cons, if_pos hs]
  cases hx : x.2.connected with
  | true => simp
  | false =>
    simp only [Bool.false_eq_true, if_false]
    omega

theorem connected_append (t : Stations) {nid : Nat} {s : Station} (hs : s.connected = true) :
    (connected (t ++ [(nid, s)])).length = t.connected.length + 1 := by
  rw [length_connected, length_connected, List.countP_append, List.countP_singleton, if_pos hs]

/-- **The nodes that are told are those of the connected stations**, with distinct ids from 1 to 7. -/
theorem nodes_spec {t : Stations} (h : t.Ordered) : t.nodes.length = t.connected.length ∧
    (t.nodes.map NodeInfo.nodeId).Nodup ∧
    ∀ n ∈ t.nodes, 1 ≤ n.nodeId ∧ n.nodeId ≤ 7 ∧ n.ip.length = 4 ∧ n.mac.length = 6 := by
  have hperm : (t.insertionSort (fun x y => x.1 ≤ y.1)).filter (fun x => x.2.connected) ~
      t.filter (fun x => x.2.connected) := (List.perm_insertionSort _ t).filter _
  have hfrom : ∀ n ∈ t.nodes, ∃ x ∈ t, x.2.node = n := by
    intro n hn
    obtain ⟨x, hx, rfl⟩ := List.mem_map.1 hn
    exact ⟨x, List.mem_of_mem_filter (hperm.mem_iff.1 hx), rfl⟩
  have hids : t.nodes.map NodeInfo.nodeId ~ t.connected.map Int.ofNat := by
    rw [nodes, connected, ids, List.map_map, List.map_map]
    refine (hperm.map _).trans (List.Perm.of_eq (List.map_congr_left fun x hx => ?_))
    exact (h.nodes x (List.mem_of_mem_filter hx)).1
  refine ⟨?_, ?_, ?_⟩
  · have hlen := hids.length_eq
    rwa [List.length_map, List.length_map] at hlen
  · rw [hids.nodup_iff]
    refine (h.ids_nodup.sublist ?_).map fun _ _ => Int.ofNat.inj
    exact List.filter_sublist.map _
  · intro n hn
    obtain ⟨x, hx, rfl⟩ := hfrom n hn
    obtain ⟨hid, hip, hmac⟩ := h.nodes x hx
    obtain ⟨hlo, hhi⟩ := h.range x hx
    exact ⟨by omega, by omega, hip, hmac⟩

end Stations

/-! ## The host -/

namespace LdnNode

/-- The network that the host advertises lists itself first and the connected stations. -/
def Advertised (h : LdnNode) (info : NetworkInfo) : Prop :=
  info.bssid.length = 6 ∧ info.nodeCount = h.stations.connected.length + 1 ∧
    ∃ n0, info.nodes = n0 :: h.stations.nodes ∧ n0.nodeId = 0 ∧ n0.ip.length = 4 ∧ n0.mac.length = 6

/-- **What every state of a host has.** -/
structure Inv (h : LdnNode) : Prop where
  ordered : h.stations.Ordered
  advertised : h.state = .accessPointCreated → ∃ info, h.networkInfo = some info ∧ h.Advertised info

/-- A network under a host: of its nodes the first is the host's. -/
def Hosted (h : LdnNode) : Prop :=
  ∃ info n0 rest, h.networkInfo = some info ∧ info.nodes = n0 :: rest ∧ info.bssid.length = 6 ∧ n0.nodeId = 0 ∧
    n0.ip.length = 4 ∧ n0.mac.length = 6

/-- The number of nodes that the network was created for. -/
def nodeCountMax (h : LdnNode) : Option Nat := h.networkInfo.map NetworkInfo.nodeCountMax

theorem updateNodes_stations (h : LdnNode) : h.updateNodes.stations = h.stations.mark := by
  unfold updateNodes
  split
  · rfl
  · split <;> rfl

theorem updateNodes_state (h : LdnNode) : h.updateNodes.state = h.state := by
  unfold updateNodes
  split
  · rfl
  · split <;> rfl

theorem updateNodes_nodeCountMax (h : LdnNode) : h.updateNodes.nodeCountMax = h.nodeCountMax := by
  unfold updateNodes nodeCountMax
  split
  · rfl
  · rename_i info hinfo
    rw [hinfo]
    split <;> rfl

/-- **`_update_nodes` keeps the table and advertises what is in it.** -/
theorem inv_updateNodes {h : LdnNode} (ht : h.stations.Ordered) (hh : h.Hosted) : h.updateNodes.Inv := by
  constructor
  · rw [updateNodes_stations]
    exact Stations.ordered_mark ht
  · intro _
    obtain ⟨info, n0, rest, hinfo, hnodes, hbssid, hid, hip, hmac⟩ := hh
    unfold updateNodes
    rw [hinfo]
    simp only [hnodes]
    refine ⟨_, rfl, hbssid, ?_, _, rfl, hid, hip, hmac⟩
    rw [Stations.connected_mark]

theorem Inv.hosted {h : LdnNode} (hinv : h.Inv) (hstate : h.state = .accessPointCreated) : h.Hosted := by
  obtain ⟨info, hinfo, hbssid, -, n0, hnodes, hid, hip, hmac⟩ := hinv.advertised hstate
  exact ⟨info, n0, _, hinfo, hnodes, hbssid, hid, hip, hmac⟩

/-- **No stations, and no network of its own**: the states in which nothing is advertised. -/
theorem inv_of_state {h : LdnNode} {c : CommState} (ht : h.stations.Ordered) (hstate : h.state = c)
    (hc : c ≠ .accessPointCreated) : h.Inv := ⟨ht, fun hcreated => absurd (hstate.symm.trans hcreated) hc⟩

/-! ## The operations -/

section Operations

variable {h : LdnNode}

theorem createNetwork_error {p : NetworkParams} {e : NetworkError} (hp : p.make h = .error e) : h.createNetwork p = h := by
  unfold createNetwork
  split
  · rfl
  · rw [hp]

theorem createNetwork_ok {p : NetworkParams} {info : NetworkInfo} (hstate : h.state = .accessPoint)
    (hp : p.make h = .ok info) : h.createNetwork p =
      updateNodes { h with networkInfo := some info, stations := [], state := .accessPointCreated } := by
  unfold createNetwork
  rw [if_neg (not_not.2 hstate), hp]

theorem hosted_make {p : NetworkParams} {info : NetworkInfo} (hp : p.make h = .ok info) :
    Hosted { h with networkInfo := some info, stations := [], state := .accessPointCreated } ∧
      info.nodeCountMax = p.nodeCountMax := by
  obtain ⟨intent, session, rfl⟩ := makeNetwork_ok h.length_ip hp
  have hmac : (fakeMac h.ip).length = 6 := by simp [fakeMac, h.length_ip]
  exact ⟨⟨_, _, _, rfl, rfl, hmac, rfl, h.length_ip, hmac⟩, rfl⟩

/-- **Every body of a node's size is read.** -/
theorem parseNodeInfo_ok {body : Bytes} (hlen : body.length = NODE.size) :
    ∃ ni, parseNodeInfo body = .ok ni ∧ ni.ip.length = 4 ∧ ni.mac.length = 6 := by
  unfold parseNodeInfo
  rw [Layout.unpack, if_pos hlen]
  refine ⟨_, rfl, ?_, ?_⟩
  · show (leBytes 4 _).reverse.length = 4
    rw [List.length_reverse, length_leBytes]
  · show ((body.drop 4).take 6).length = 6
    have hsize : NODE.size = 64 := rfl
    rw [List.length_take, List.length_drop]
    omega

/-- A Connect from this source brings one more connected station: it holds no slot and one is free, or its station failed. -/
def Joins (h : LdnNode) (src body : Bytes) : Prop :=
  h.state = .accessPointCreated ∧ body.length = NODE.size ∧
    (h.stations.slotOf src = none → h.stations.length + 1 < NODE_COUNT_MAX) ∧
    ∀ x ∈ h.stations.slotOf src, x.2.connected = false

instance (h : LdnNode) (src body : Bytes) : Decidable (h.Joins src body) := by
  unfold Joins
  infer_instance

/-- What an operation leaves of a host: its state, the number its network was created for and, of connected stations, `n`. -/
def Keeps (h h' : LdnNode) (n : Nat) : Prop :=
  h'.Inv ∧ h'.state = h.state ∧ h'.nodeCountMax = h.nodeCountMax ∧ h'.stations.connected.length = n

theorem keeps_updateNodes (hinv : h.Inv) (hstate : h.state = .accessPointCreated) {t : Stations} (ht : t.Ordered) :
    h.Keeps (updateNodes { h with stations := t }) t.connected.length := by
  have hh : Hosted { h with stations := t } := hinv.hosted hstate
  refine ⟨inv_updateNodes ht hh, updateNodes_state _, updateNodes_nodeCountMax _, ?_⟩
  rw [updateNodes_stations, Stations.connected_mark]

theorem handleConnect_eq {src body : Bytes} (hstate : h.state = .accessPointCreated) (hlen : body.length = NODE.size)
    {ni : NodeInfo} (hni : parseNodeInfo body = .ok ni) {nid : Nat} (hslot : h.slotFor src = some nid) :
    h.handleConnect src body =
      updateNodes { h with stations := h.stations.put nid ⟨src, { ni with nodeId := nid }, true⟩ } := by
  unfold handleConnect
  rw [if_neg (not_not.2 hstate), if_neg (not_not.2 hlen), hni]
  simp only [hslot]

/-- **A Connect keeps the table, and has one more station connected exactly if it joins.** -/
theorem handleConnect_keeps (hinv : h.Inv) (src body : Bytes) : ∃ n, h.Keeps (h.handleConnect src body) n ∧
    (h.Joins src body → n = h.stations.connected.length + 1) ∧ (¬ h.Joins src body → n = h.stations.connected.length) := by
  have hsame : ¬ h.Joins src body → h.handleConnect src body = h → ∃ n, h.Keeps (h.handleConnect src body) n ∧
      (h.Joins src body → n = h.stations.connected.length + 1) ∧ (¬ h.Joins src body → n = h.stations.connected.length) := by
    intro hnot heq
    rw [heq]
    exact ⟨_, ⟨hinv, rfl, rfl, rfl⟩, fun hj => absurd hj hnot, fun _ => rfl⟩
  by_cases hstate : h.state = .accessPointCreated
  swap
  · refine hsame (fun hj => hstate hj.1) ?_
    rw [handleConnect, if_pos hstate]
  by_cases hlen : body.length = NODE.size
  swap
  · refine hsame (fun hj => hlen hj.2.1) ?_
    rw [handleConnect, if_neg (not_not.2 hstate), if_pos hlen]
  obtain ⟨ni, hni, hip, hmac⟩ := parseNodeInfo_ok hlen
  cases hslot : h.stations.slotOf src with
  | some x =>
    -- the station keeps its slot
    obtain ⟨hx, hsrc⟩ := Stations.slotOf_some hslot
    have hin : x.1 ∈ h.stations.ids := List.mem_map_of_mem hx
    rw [handleConnect_eq hstate hlen hni (by rw [slotFor, hslot]), Stations.put, if_pos hin]
    refine ⟨_, keeps_updateNodes hinv hstate (hinv.ordered.replace hx hsrc.symm ⟨rfl, hip, hmac⟩), ?_, ?_⟩
    · intro hj
      rw [Stations.connected_replace hinv.ordered.ids_nodup hx rfl, hj.2.2.2 x hslot]
      rfl
    · intro hnot
      have hconn : x.2.connected = true := by
        by_contra hc
        refine hnot ⟨hstate, hlen, fun hnone => ?_, fun y hy => ?_⟩
        · rw [hslot] at hnone
          cases hnone
        · rw [hslot] at hy
          cases hy
          exact Bool.eq_false_iff.2 hc
      rw [Stations.connected_replace hinv.ordered.ids_nodup hx rfl, hconn]
      rfl
  | none =>
    by_cases hfull : NODE_COUNT_MAX - 1 ≤ h.stations.length
    · refine hsame (fun hj => ?_) ?_
      · have := hj.2.2.1 hslot
        omega
      · have hfor : h.slotFor src = none := by rw [slotFor, hslot, if_pos hfull]
        unfold handleConnect
        rw [if_neg (not_not.2 hstate), if_neg (not_not.2 hlen), hni]
        simp only [hfor]
    · have hlength : h.stations.length ≤ 6 := by
        have : NODE_COUNT_MAX = 8 := rfl
        omega
      have hids : h.stations.ids.length = h.stations.length := List.length_map ..
      obtain ⟨hnew, h1, hle⟩ := Stations.nextFree_spec h.stations.ids h.stations.length 1 (by omega) (Nat.le_refl 1)
        fun i hi hlt => by omega
      rw [handleConnect_eq hstate hlen hni (by rw [slotFor, hslot, if_neg hfull]), Stations.put, if_neg hnew]
      refine ⟨_, keeps_updateNodes hinv hstate
        (hinv.ordered.append hnew h1 hlength (by omega) (Stations.slotOf_none hslot) ⟨rfl, hip, hmac⟩), ?_, ?_⟩
      · intro _
        exact Stations.connected_append _ rfl
      · intro hnot
        refine absurd ⟨hstate, hlen, fun _ => by omega, fun y hy => ?_⟩ hnot
        rw [hslot] at hy
        cases hy

/-- **A round of exchanges keeps the table, with no more stations connected than before.** -/
theorem exchange_keeps (turn : Nat → Turn) : ∀ (nids : List Nat) {h : LdnNode}, h.Inv → h.state = .accessPointCreated →
    ∃ n, h.Keeps (exchange turn nids h) n ∧ n ≤ h.stations.connected.length
  | [], h, hinv, _ => ⟨_, ⟨hinv, rfl, rfl, rfl⟩, Nat.le_refl _⟩
  | nid :: nids, h, hinv, hstate => by
    have hdrop := keeps_updateNodes hinv hstate (Stations.ordered_drop hinv.ordered nid)
    have hle := Stations.connected_drop_le h.stations nid
    rw [exchange]
    cases turn nid with
    | sent => exact exchange_keeps turn nids hinv hstate
    | failed =>
      obtain ⟨hinv', hstate', hmax', hcount⟩ := hdrop
      obtain ⟨n, ⟨hinv'', hstate'', hmax'', hcount'⟩, hle'⟩ := exchange_keeps turn nids hinv' (hstate'.trans hstate)
      exact ⟨n, ⟨hinv'', hstate''.trans hstate', hmax''.trans hmax', hcount'⟩, by omega⟩
    | failedTwice => exact ⟨_, hdrop, hle⟩
    | raised => exact ⟨_, ⟨hinv, rfl, rfl, rfl⟩, Nat.le_refl _⟩

theorem createNetwork_inv (hinv : h.Inv) (p : NetworkParams) : (h.createNetwork p).Inv := by
  by_cases hstate : h.state = .accessPoint
  · cases hp : p.make h with
    | error _ =>
      rw [createNetwork_error hp]
      exact hinv
    | ok info =>
      rw [createNetwork_ok hstate hp]
      exact inv_updateNodes Stations.ordered_nil (hosted_make hp).1
  · rw [createNetwork, if_pos hstate]
    exact hinv

theorem openAccessPoint_inv (hinv : h.Inv) : h.openAccessPoint.Inv := by
  unfold openAccessPoint
  split
  · exact hinv
  · exact inv_of_state (c := .accessPoint) Stations.ordered_nil rfl (by decide)

/-- **Every operation keeps the table and what is advertised of it.** -/
theorem step_inv (hinv : h.Inv) (op : HostOp) : (h.step op).Inv := by
  cases op with
  | openAccessPoint => exact openAccessPoint_inv hinv
  | closeAccessPoint => exact inv_of_state (c := .initialized) Stations.ordered_nil rfl (by decide)
  | createNetwork p => exact createNetwork_inv hinv p
  | destroyNetwork => exact inv_of_state (c := .accessPoint) Stations.ordered_nil rfl (by decide)
  | handleConnect src body =>
    obtain ⟨_, hkeeps, -⟩ := handleConnect_keeps hinv src body
    exact hkeeps.1
  | stationExchange turn =>
    show (h.stationExchange turn).Inv
    unfold stationExchange
    split
    · rename_i hstate
      obtain ⟨_, hkeeps, -⟩ := exchange_keeps turn h.stations.connected hinv hstate
      exact hkeeps.1
    · exact hinv

theorem inv_run (hinv : h.Inv) (ops : List HostOp) : (Runs.run step h ops).Inv :=
  Runs.run_keeps (P := Inv) (fun _ op hs => step_inv hs op) ops hinv

end Operations

/-! ## What it tells -/

/-- A network that tells its own nodes and their number. -/
structure Tells (h : LdnNode) (info : NetworkInfo) : Prop where
  count : info.nodeCount = info.nodes.length
  connected : info.nodeCount = h.stations.connected.length + 1
  ids : (info.nodes.map NodeInfo.nodeId).Nodup
  max : info.nodeCount ≤ info.nodeCountMax

/-- Ids and addresses are distinct, and the network tells of the connected stations, in memory and as it is sent. -/
structure Consistent (h : LdnNode) : Prop where
  ids : h.stations.ids.Nodup
  range : ∀ nid ∈ h.stations.ids, 1 ≤ nid ∧ nid ≤ 7
  addresses : (h.stations.map (fun x => x.2.ip)).Nodup
  advertised : h.state = .accessPointCreated → ∃ info, h.networkInfo = some info ∧ h.Tells info ∧
    ∀ buf sent, networkBytes info h.stations.nodes = .ok buf → parseNetworkInfo buf = .ok sent → h.Tells sent

/-- The host and its connected stations are not more than the network was created for. -/
def Fits (h : LdnNode) : Prop :=
  h.state = .accessPointCreated → ∀ nmax ∈ h.nodeCountMax, h.stations.connected.length + 1 ≤ nmax

/-- A station joins only while there is room for one more. -/
def HasRoom (h : LdnNode) : HostOp → Prop
  | .createNetwork p => h.state = .accessPoint → (p.make h).toOption.isSome → 1 ≤ p.nodeCountMax
  | .handleConnect src body => h.Joins src body → ∀ nmax ∈ h.nodeCountMax, h.stations.connected.length + 2 ≤ nmax
  | _ => True

instance (h : LdnNode) : ∀ op : HostOp, Decidable (h.HasRoom op)
  | .createNetwork p =>
    inferInstanceAs (Decidable (h.state = .accessPoint → (p.make h).toOption.isSome → 1 ≤ p.nodeCountMax))
  | .handleConnect src body =>
    inferInstanceAs (Decidable (h.Joins src body → ∀ nmax ∈ h.nodeCountMax, h.stations.connected.length + 2 ≤ nmax))
  | .openAccessPoint => isTrue trivial
  | .closeAccessPoint => isTrue trivial
  | .destroyNetwork => isTrue trivial
  | .stationExchange _ => isTrue trivial

section Consistency

variable {h : LdnNode}

theorem nodup_ids {n0 : NodeInfo} (ht : h.stations.Ordered) (hid : n0.nodeId = 0) :
    ((n0 :: h.stations.nodes).map NodeInfo.nodeId).Nodup := by
  obtain ⟨-, hnodup, hrange⟩ := Stations.nodes_spec ht
  rw [List.map_cons, List.nodup_cons]
  refine ⟨fun hin => ?_, hnodup⟩
  obtain ⟨n, hn, he⟩ := List.mem_map.1 hin
  have := hrange n hn
  omega

/-- **What is advertised tells of the stations exactly if they fit.** -/
theorem tells_iff (hinv : h.Inv) {info : NetworkInfo} (hadv : h.Advertised info) :
    h.Tells info ↔ h.stations.connected.length + 1 ≤ info.nodeCountMax := by
  obtain ⟨-, hcount, n0, hnodes, hid, -⟩ := hadv
  obtain ⟨hlen, -⟩ := Stations.nodes_spec hinv.ordered
  constructor
  · intro ht
    rw [← hcount]
    exact ht.max
  · intro hfits
    refine ⟨?_, hcount, ?_, hcount ▸ hfits⟩
    · rw [hcount, hnodes, List.length_cons, hlen]
    · rw [hnodes]
      exact nodup_ids hinv.ordered hid

/-- **What is sent is read with the ids and the count of what is advertised.** -/
theorem tells_sent (hinv : h.Inv) {info sent : NetworkInfo} (hadv : h.Advertised info)
    (hfits : h.stations.connected.length + 1 ≤ info.nodeCountMax) {buf : Bytes}
    (hbuf : networkBytes info h.stations.nodes = .ok buf) (hsent : parseNetworkInfo buf = .ok sent) : h.Tells sent := by
  obtain ⟨hbssid, -, n0, hnodes, hid, hip, hmac⟩ := hadv
  obtain ⟨hlen, -, hrange⟩ := Stations.nodes_spec hinv.ordered
  rw [networkBytes_eq hnodes] at hbuf
  have hsizes : ∀ n ∈ hostNode n0 :: h.stations.nodes.map (fun n => { n with isConnected := 1 }),
      n.ip.length = 4 ∧ n.mac.length = 6 := by
    intro n hn
    rcases List.mem_cons.1 hn with rfl | hn
    · exact ⟨hip, hmac⟩
    · obtain ⟨m, hm, rfl⟩ := List.mem_map.1 hn
      exact (hrange m hm).2.2
  rw [parse_buildInfo_ids (v := { info with nodes := hostNode n0 :: h.stations.nodes.map (fun n => { n with isConnected := 1 }) })
    hbssid hsizes rfl hbuf] at hsent
  cases hsent
  have hcount : (hostNode n0 :: h.stations.nodes.map (fun n => { n with isConnected := 1 })).length =
      h.stations.connected.length + 1 := by
    rw [List.length_cons, List.length_map, hlen]
  refine ⟨(List.length_map _).symm, hcount, ?_, ?_⟩
  · have hids : (readInfo { info with
        nodes := hostNode n0 :: h.stations.nodes.map (fun n => { n with isConnected := 1 }) }).nodes.map NodeInfo.nodeId =
        (hostNode n0 :: h.stations.nodes).map NodeInfo.nodeId := by
      simp [readInfo, readNode]
    exact hids ▸ nodup_ids hinv.ordered rfl
  · exact hcount ▸ hfits

theorem consistent_iff_fits (hinv : h.Inv) : h.Consistent ↔ h.Fits := by
  constructor
  · intro hc hstate nmax hmax
    obtain ⟨info, hinfo, htells, -⟩ := hc.advertised hstate
    rw [nodeCountMax, hinfo] at hmax
    cases hmax
    rw [← htells.connected]
    exact htells.max
  · intro hfits
    refine ⟨hinv.ordered.ids_nodup, ?_, hinv.ordered.addresses, fun hstate => ?_⟩
    · intro nid hnid
      obtain ⟨x, hx, rfl⟩ := List.mem_map.1 hnid
      exact hinv.ordered.range x hx
    · obtain ⟨info, hinfo, hadv⟩ := hinv.advertised hstate
      have hroom := hfits hstate info.nodeCountMax (by rw [nodeCountMax, hinfo]; rfl)
      exact ⟨info, hinfo, (tells_iff hinv hadv).2 hroom, fun _ _ hbuf hsent => tells_sent hinv hadv hroom hbuf hsent⟩

theorem fits_of_state {c : CommState} (hstate : h.state = c) (hc : c ≠ .accessPointCreated) : h.Fits :=
  fun hcreated => absurd (hstate.symm.trans hcreated) hc

theorem fits_createNetwork (hf : h.Fits) (p : NetworkParams) : (h.createNetwork p).Fits ↔ h.HasRoom (.createNetwork p) := by
  by_cases hstate : h.state = .accessPoint
  · cases hp : p.make h with
    | error _ =>
      rw [createNetwork_error hp]
      refine iff_of_true hf fun _ hok => ?_
      rw [hp] at hok
      cases hok
    | ok info =>
      have hmax : (h.createNetwork p).nodeCountMax = some p.nodeCountMax := by
        rw [createNetwork_ok hstate hp, updateNodes_nodeCountMax, ← (hosted_make hp).2]
        rfl
      have hnone : (h.createNetwork p).stations.connected.length = 0 := by
        rw [createNetwork_ok hstate hp, updateNodes_stations, Stations.connected_mark]
        rfl
      have hcreated : (h.createNetwork p).state = .accessPointCreated := by
        rw [createNetwork_ok hstate hp, updateNodes_state]
      rw [Fits, hmax, hnone, HasRoom, hp]
      constructor
      · intro hfits _ _
        exact hfits hcreated _ rfl
      · rintro hroom - nmax hnmax
        cases hnmax
        exact hroom hstate rfl
  · rw [createNetwork, if_pos hstate]
    exact iff_of_true hf fun hs => absurd hs hstate

theorem fits_handleConnect (hinv : h.Inv) (hf : h.Fits) (src body : Bytes) :
    (h.handleConnect src body).Fits ↔ h.HasRoom (.handleConnect src body) := by
  obtain ⟨n, ⟨-, hstate, hmax, hcount⟩, hjoins, hnot⟩ := handleConnect_keeps hinv src body
  rw [Fits, hstate, hmax, hcount, HasRoom]
  by_cases hj : h.Joins src body
  · rw [hjoins hj]
    exact ⟨fun hfits _ => hfits hj.1, fun hroom _ => hroom hj⟩
  · rw [hnot hj]
    exact iff_of_true hf fun hj' => absurd hj' hj

theorem fits_stationExchange (hinv : h.Inv) (hf : h.Fits) (turn : Nat → Turn) : (h.stationExchange turn).Fits := by
  unfold stationExchange
  split
  · rename_i hstate
    obtain ⟨n, ⟨-, -, hmax, hcount⟩, hle⟩ := exchange_keeps turn h.stations.connected hinv hstate
    intro _ nmax hnmax
    rw [hmax] at hnmax
    have := hf hstate nmax hnmax
    omega
  · exact hf

/-- **A step leaves the stations fitting exactly if it has room.** -/
theorem fits_step (hinv : h.Inv) (hf : h.Fits) (op : HostOp) : (h.step op).Fits ↔ h.HasRoom op := by
  cases op with
  | openAccessPoint =>
    refine iff_of_true ?_ trivial
    show h.openAccessPoint.Fits
    unfold openAccessPoint
    split
    · exact hf
    · exact fits_of_state (c := .accessPoint) rfl (by decide)
  | closeAccessPoint => exact iff_of_true (fits_of_state (c := .initialized) rfl (by decide)) trivial
  | createNetwork p => exact fits_createNetwork hf p
  | destroyNetwork => exact iff_of_true (fits_of_state (c := .accessPoint) rfl (by decide)) trivial
  | handleConnect src body => exact fits_handleConnect hinv hf src body
  | stationExchange turn => exact iff_of_true (fits_stationExchange hinv hf turn) trivial

/-- **The stations are consistent in all states of exactly the runs in which stations join only while there is room.** -/
theorem stations_iff (hstate : h.state = .initialized) (hstations : h.stations = []) (ops : List HostOp) :
    Runs.Throughout step Consistent h ops ↔ Runs.AllOk step HasRoom h ops := by
  have hinv : h.Inv := inv_of_state (hstations ▸ Stations.ordered_nil) hstate (by decide)
  have hkeep : ∀ s op, Inv s → Inv (step s op) := fun _ op hs => step_inv hs op
  rw [Runs.throughout_congr hkeep (fun _ hs => consistent_iff_fits hs) ops hinv]
  exact Runs.throughout_iff_allOk hkeep (fun _ op hs hf => fits_step hs hf op) ops hinv (fits_of_state hstate (by decide))

end Consistency

/-- A host before it opens its access point. -/
def fakeHost : LdnNode := ⟨fakeIp, "FAKE-HOST".toList, .initialized, none, [], rfl⟩

/-- The defaults of `create_network`. -/
def defaults : NetworkParams := ⟨0x1234, 0, (List.range 16).map UInt8.ofNat, 7, 6, 0, 6⟩

/-- A station at 10.13.37.`i` connects. -/
def connectFrom (i : UInt8) : HostOp := .handleConnect [10, 13, 37, i] (List.replicate 64 0)

/-- A station that fails and connects again. -/
def rejoin : List HostOp :=
  [.openAccessPoint, .createNetwork defaults, connectFrom 2, connectFrom 3, .stationExchange (fun _ => .failed), connectFrom 2]

theorem stations_iff_rejoin : Runs.Throughout step Consistent fakeHost rejoin :=
  (stations_iff rfl rfl rejoin).2 (by decide +kernel)

def sevenConnects : List HostOp :=
  [.openAccessPoint, .createNetwork defaults] ++ [1, 2, 3, 4, 5, 6, 7].map connectFrom

/-- **Seven stations connect to a network for seven nodes**, which then has eight. -/
theorem sevenConnects_eight : ¬ Runs.Throughout step Consistent fakeHost sevenConnects := by
  intro h
  obtain ⟨info, hinfo, htells, -⟩ := h.run.advertised (by decide +kernel)
  have hcounts : (Runs.run step fakeHost sevenConnects).networkInfo.map (fun i => (i.nodeCount, i.nodeCountMax)) =
      some (8, 7) := by decide +kernel
  rw [hinfo] at hcounts
  obtain ⟨hcount, hmax⟩ := Prod.mk.inj (Option.some.inj hcounts)
  have := htells.max
  omega

end LdnNode

end Ldn
end Slp
