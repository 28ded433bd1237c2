import SwitchLanPlay.Stripping
import SwitchLanPlay.StructLayout
import SwitchLanPlay.Utf8
/-!
# NetworkInfo — what a host advertises (tools/slp_ldn.py)

A NetworkInfo is four nested structures of fixed layout, with every number little-endian.  The parser reads the channel
big-endian, and the length of the advertise data from the field before it, which is always 0.  So it gives back what was
built exactly if the two bytes of the channel are equal, there are no advertise data, and every name survives its field of
32 bytes (`networkInfo_iff`), and a host that parses its own network sends the channel on with its bytes swapped.
-/
namespace Slp
namespace Ldn

open Wire

def NODE_COUNT_MAX : Nat := 8

inductive NetworkError where
  | structError
  | overflowError
  | indexError
  | valueError (text : String)

/-- What `struct` packs or unpacks, or its exception. -/
def checked {α : Type} : Option α → Except NetworkError α
  | some v => .ok v
  | none => .error .structError

/-- An `s` field of `struct.pack` of `n` bytes: cut, or filled up with zeros. -/
def fit (n : Nat) (b : Bytes) : Bytes := (b ++ List.replicate (n - b.length) 0).take n

/-- `b.ljust(n, b"\x00")`. -/
def ljust (n : Nat) (b : Bytes) : Bytes := b ++ List.replicate (n - b.length) 0

/-- `b.rstrip(b"\x00")`. -/
def rstrip (b : Bytes) : Bytes := b.rdropWhile (· == 0)

/-- `int.from_bytes(ip, "big")`. -/
def ipBytesU32 (ip : Bytes) : Nat := leValue ip.reverse

/-- `v.to_bytes(4, "big")`. -/
def ipU32Bytes (v : Nat) : Bytes := (leBytes 4 v).reverse

/-! ## The layouts -/

/-- "<B33s". -/
def SSID : Layout (Nat × Bytes) := (Layout.uintLE 1).seq (Layout.bytes 33)

/-- "<I6sbb33sb h16s". -/
def NODE : Layout (Nat × Bytes × Int × Int × Bytes × Int × Int × Bytes) :=
  (Layout.uintLE 4).seq ((Layout.bytes 6).seq ((Layout.sintLE 1).seq ((Layout.sintLE 1).seq ((Layout.bytes 33).seq
    ((Layout.sintLE 1).seq ((Layout.sintLE 2).seq (Layout.bytes 16)))))))

/-- "<6s34sh bB4x". -/
def COMMON : Layout (Bytes × Bytes × Int × Int × Nat × Unit) :=
  (Layout.bytes 6).seq ((Layout.bytes 34).seq ((Layout.sintLE 2).seq ((Layout.sintLE 1).seq ((Layout.uintLE 1).seq
    (Layout.pad 4)))))

/-- "<16sHB3xBB512sHH384s148s". -/
def LDN : Layout (Bytes × Nat × Nat × Unit × Nat × Nat × Bytes × Nat × Nat × Bytes × Bytes) :=
  (Layout.bytes 16).seq ((Layout.uintLE 2).seq ((Layout.uintLE 1).seq ((Layout.pad 3).seq ((Layout.uintLE 1).seq
    ((Layout.uintLE 1).seq ((Layout.bytes 512).seq ((Layout.uintLE 2).seq ((Layout.uintLE 2).seq ((Layout.bytes 384).seq
      (Layout.bytes 148))))))))))

/-- "<32s48s1072s". -/
def NETWORK : Layout (Bytes × Bytes × Bytes) := (Layout.bytes 32).seq ((Layout.bytes 48).seq (Layout.bytes 1072))

/-- ">hbB". -/
def CHANNEL : Layout (Int × Int × Nat) := (Layout.sintBE 2).seq ((Layout.sintBE 1).seq (Layout.uintBE 1))

/-! ## Nodes -/

/-- What `parse_node_info` returns. -/
structure NodeInfo where
  ip : Bytes
  mac : Bytes
  nodeId : Int
  isConnected : Int
  name : List Char
  lcv : Int
deriving DecidableEq

def fakeMac (ip : Bytes) : Bytes := [0x02, 0x00] ++ ip

def buildNodeInfo (ip : Bytes) (nodeId isConnected : Int) (name : List Char) (lcv : Int) (mac : Option Bytes) :
    Except NetworkError Bytes :=
  let nameB := (Utf8.encode name).take 32
  checked (NODE.pack (ipBytesU32 ip, fit 6 (mac.getD (fakeMac ip)), nodeId, isConnected, fit 33 (ljust 32 nameB ++ [0]), 0,
    lcv, List.replicate 16 0))

def parseNodeInfo (buf : Bytes) : Except NetworkError NodeInfo := do
  let (ip, mac, nid, conn, name, _, lcv, _) ← checked (NODE.unpack buf)
  return ⟨ipU32Bytes ip, mac, nid, conn, Utf8.decode (rstrip name), lcv⟩

/-! ## Networks -/

def buildSsid (s : List Char) : Except NetworkError Bytes :=
  let raw := Utf8.encode s
  if 32 < raw.length then .error (.valueError "ssid too long")
  else checked (SSID.pack (raw.length, fit 33 (ljust 32 raw ++ [0])))

def buildLdnNetworkInfo (nodes : List Bytes) (nodeCountMax securityMode : Nat) (advertise unkRandom : Bytes) :
    Except NetworkError Bytes :=
  if NODE_COUNT_MAX < nodes.length then .error (.valueError "too many nodes")
  else if 384 < advertise.length then .error (.valueError "advertise too long")
  else
    checked (LDN.pack (fit 16 unkRandom, securityMode, 0, (), nodeCountMax, nodes.length, fit 512 (ljust 512 nodes.flatten),
      0, advertise.length, fit 384 (ljust 384 advertise), List.replicate 148 0))

def buildCommonNetworkInfo (bssid : Bytes) (ssid : List Char) (channel linkLevel : Int) (networkType : Nat) :
    Except NetworkError Bytes := do
  let ssid ← buildSsid ssid
  checked (COMMON.pack (fit 6 bssid, fit 34 ssid, channel, linkLevel, networkType, ()))

/-- An intent id is passed as an int or as bytes. -/
inductive IntentId where
  | int (n : Nat)
  | bytes (b : Bytes)

def IntentId.toBytes : IntentId → Except NetworkError Bytes
  | .int n => if n < 256 ^ 16 then .ok (leBytes 16 n) else .error .overflowError
  | .bytes b => .ok b

def buildNetworkInfo (intentId : IntentId) (session common ldn : Bytes) : Except NetworkError Bytes := do
  let intent ← intentId.toBytes
  checked (NETWORK.pack (fit 32 (intent ++ session), fit 48 common, fit 1072 ldn))

/-- What `parse_network_info` returns. -/
structure NetworkInfo where
  intent : Bytes
  session : Bytes
  bssid : Bytes
  ssid : List Char
  channel : Int
  linkLevel : Int
  networkType : Nat
  nodeCountMax : Nat
  nodeCount : Nat
  nodes : List NodeInfo
  advertise : Bytes
deriving DecidableEq

def parseNodes : List Bytes → Except NetworkError (List NodeInfo)
  | [] => .ok []
  | b :: rest => do
    let node ← parseNodeInfo b
    let nodes ← parseNodes rest
    return node :: nodes

/-- The channel is read highest byte first, and the length of the advertise data at 536, where the builder has a 0. -/
def parseNetworkInfo (buf : Bytes) : Except NetworkError NetworkInfo :=
  if buf.length ≠ NETWORK.size then
    let n := buf.length
    .error (.valueError s!"NetworkInfo size {n} != 0x480")
  else do
    let (netid, common, ldn) ← checked (NETWORK.unpack buf)
    let slen := (byteAt common 6).toNat
    let (channel, link, ntype) ← checked (CHANNEL.unpack (bytesAt common 40 4))
    let ncount := (byteAt ldn 23).toNat
    let nodes ← parseNodes ((List.range ncount).map (fun i => bytesAt ldn (24 + i * 64) 64))
    let advSize := (Layout.uintBE 2).read (bytesAt ldn 536 2)
    return {
      intent := bytesAt netid 0 16
      session := bytesAt netid 16 16
      bssid := bytesAt common 0 6
      ssid := Utf8.decode (bytesAt common 7 slen)
      channel := channel
      linkLevel := link
      networkType := ntype
      nodeCountMax := (byteAt ldn 22).toNat
      nodeCount := ncount
      nodes := nodes
      advertise := bytesAt ldn 540 advSize }

/-! ## The host's own network -/

def buildNodes : List NodeInfo → Except NetworkError (List Bytes)
  | [] => .ok []
  | n :: rest => do
    let b ← buildNodeInfo n.ip n.nodeId n.isConnected n.name n.lcv (some n.mac)
    let bs ← buildNodes rest
    return b :: bs

/-- A network put together from its values by the four builders. -/
def buildInfo (intentId : IntentId) (v : NetworkInfo) (securityMode : Nat) (unkRandom : Bytes) : Except NetworkError Bytes := do
  let nodes ← buildNodes v.nodes
  let ldn ← buildLdnNetworkInfo nodes v.nodeCountMax securityMode v.advertise unkRandom
  let common ← buildCommonNetworkInfo v.bssid v.ssid v.channel v.linkLevel v.networkType
  buildNetworkInfo intentId v.session common ldn

/-- The node of the host is announced as connected, with the id 0. -/
def hostNode (n : NodeInfo) : NodeInfo := { n with nodeId := 0, isConnected := 1 }

/-- `_network_bytes`, with the nodes of the connected stations in the order of their ids. -/
def networkBytes (info : NetworkInfo) (stations : List NodeInfo) : Except NetworkError Bytes :=
  match info.nodes with
  | [] => .error .indexError
  | n0 :: _ => do
    let nodes ← buildNodes (hostNode n0 :: stations.map (fun n => { n with isConnected := 1 }))
    let ldn ← buildLdnNetworkInfo nodes info.nodeCountMax 0 info.advertise (List.replicate 16 0)
    let common ← buildCommonNetworkInfo info.bssid info.ssid info.channel info.linkLevel info.networkType
    buildNetworkInfo (.bytes info.intent) info.session common ldn

/-- "<QHH4x". -/
def INTENT : Layout (Nat × Nat × Nat × Unit) :=
  (Layout.uintLE 8).seq ((Layout.uintLE 2).seq ((Layout.uintLE 2).seq (Layout.pad 4)))

def FAKE_SSID : List Char := "12345678123456781234567812345678".toList

/-- `_make_network`, at the address `ip` and under the name `name`. -/
def makeNetwork (ip : Bytes) (name : List Char) (lcid scene : Nat) (session : Bytes) (nmax : Nat) (channel : Int) (smode : Nat)
    (lcv : Int) : Except NetworkError NetworkInfo := do
  let intent ← checked (INTENT.pack (lcid, 0, scene, ()))
  let node0 ← buildNodeInfo ip 0 1 name lcv none
  let ldn ← buildLdnNetworkInfo [node0] nmax smode [] (List.replicate 16 0)
  let common ← buildCommonNetworkInfo (fakeMac ip) FAKE_SSID channel 3 2
  let buf ← buildNetworkInfo (.bytes intent) session common ldn
  parseNetworkInfo buf

/-! ## Fields -/

theorem checked_eq_ok {α : Type} {o : Option α} {v : α} (h : checked o = .ok v) : o = some v := by
  cases o with
  | none => cases h
  | some w => cases h; rfl

theorem fit_of_length {n : Nat} {b : Bytes} (h : b.length = n) : fit n b = b := by
  rw [fit, h, Nat.sub_self, List.replicate_zero, List.append_nil, ← h, List.take_length]

theorem length_fit (n : Nat) (b : Bytes) : (fit n b).length = n := by
  rw [fit, List.length_take, List.length_append, List.length_replicate]
  omega

theorem length_ljust {n : Nat} {b : Bytes} (h : b.length ≤ n) : (ljust n b).length = n := by
  rw [ljust, List.length_append, List.length_replicate]
  omega

theorem byteAt_append (a b : Bytes) (i : Nat) : byteAt (a ++ b) (a.length + i) = byteAt b i := by
  rw [byteAt, byteAt, List.getD_eq_getElem?_getD, List.getD_eq_getElem?_getD, List.getElem?_append_right (Nat.le_add_right ..),
    Nat.add_sub_cancel_left]

theorem bytesAt_append (a b : Bytes) (i n : Nat) : bytesAt (a ++ b) (a.length + i) n = bytesAt b i n := by
  rw [bytesAt, bytesAt, ← List.drop_drop, List.drop_left]

theorem bytesAt_left (a b : Bytes) {n : Nat} (h : a.length = n) : bytesAt (a ++ b) 0 n = a := by
  rw [bytesAt, List.drop_zero, List.take_left' h]

theorem bytesAt_within (a b : Bytes) {i n : Nat} (h : i + n ≤ a.length) : bytesAt (a ++ b) i n = bytesAt a i n := by
  rw [bytesAt, bytesAt, List.drop_append_of_le_length (by omega), List.take_append_of_le_length]
  rw [List.length_drop]
  omega

theorem ipU32Bytes_ipBytesU32 {ip : Bytes} (h : ip.length = 4) : ipU32Bytes (ipBytesU32 ip) = ip := by
  have hlen : ip.reverse.length = 4 := by rw [List.length_reverse, h]
  rw [ipU32Bytes, ipBytesU32, ← hlen, leBytes_leValue, List.reverse_reverse]

/-! ## A node read back -/

/-- The name that comes back: the first 32 bytes, without the NULs at their end. -/
def readName (name : List Char) : List Char := Utf8.decode (rstrip ((Utf8.encode name).take 32))

def readNode (n : NodeInfo) : NodeInfo := { n with name := readName n.name }

theorem length_nameField (name : List Char) : (ljust 32 ((Utf8.encode name).take 32) ++ [0]).length = 33 := by
  rw [List.length_append, length_ljust (List.length_take_le _ _)]
  rfl

theorem rstrip_nameField (b : Bytes) : rstrip (ljust 32 b ++ [0]) = rstrip b := by
  have hzeros : ljust 32 b ++ [0] = b ++ List.replicate (32 - b.length + 1) 0 := by
    rw [ljust, List.append_assoc, List.replicate_succ']
  rw [hzeros, rstrip, rdropWhile_append_replicate (by decide), rstrip]

/-- **A node is read back with its name as the field holds it.** -/
theorem parse_buildNode {n : NodeInfo} {b : Bytes} (hip : n.ip.length = 4) (hmac : n.mac.length = 6)
    (h : buildNodeInfo n.ip n.nodeId n.isConnected n.name n.lcv (some n.mac) = .ok b) :
    b.length = 64 ∧ parseNodeInfo b = .ok (readNode n) := by
  have hpack := checked_eq_ok h
  refine ⟨NODE.length_pack hpack, ?_⟩
  rw [parseNodeInfo, Layout.unpack_pack hpack]
  show Except.ok (NodeInfo.mk _ _ _ _ _ _) = _
  rw [ipU32Bytes_ipBytesU32 hip, Option.getD_some, fit_of_length hmac, fit_of_length (length_nameField n.name),
    rstrip_nameField]
  rfl

theorem parse_buildNodes : ∀ {nodes : List NodeInfo} {bufs : List Bytes},
    (∀ n ∈ nodes, n.ip.length = 4 ∧ n.mac.length = 6) → buildNodes nodes = .ok bufs →
    bufs.length = nodes.length ∧ (∀ b ∈ bufs, b.length = 64) ∧ parseNodes bufs = .ok (nodes.map readNode)
  | [], bufs, _, h => by
    cases h
    exact ⟨rfl, by simp, rfl⟩
  | n :: rest, bufs, hsizes, h => by
    obtain ⟨b, hb, h⟩ := bind_eq_ok h
    obtain ⟨bs, hbs, h⟩ := bind_eq_ok h
    cases h
    obtain ⟨hip, hmac⟩ := hsizes n (List.mem_cons_self ..)
    obtain ⟨hlen, hread⟩ := parse_buildNode hip hmac hb
    obtain ⟨hcount, hlens, hreads⟩ := parse_buildNodes (fun m hm => hsizes m (List.mem_cons_of_mem _ hm)) hbs
    refine ⟨congrArg (· + 1) hcount, ?_, ?_⟩
    · intro c hc
      rcases List.mem_cons.1 hc with rfl | hc
      · exact hlen
      · exact hlens c hc
    · rw [parseNodes, hread, hreads]
      rfl

/-- **Pieces of one size are cut out where they were put.** -/
theorem cut_flatten {c : Nat} (rest : Bytes) : ∀ (bufs : List Bytes), (∀ b ∈ bufs, b.length = c) →
    (List.range bufs.length).map (fun i => bytesAt (bufs.flatten ++ rest) (i * c) c) = bufs
  | [], _ => rfl
  | b :: bufs, h => by
    have hb : b.length = c := h b (List.mem_cons_self ..)
    have hnext : ∀ i, bytesAt ((b :: bufs).flatten ++ rest) ((i + 1) * c) c = bytesAt (bufs.flatten ++ rest) (i * c) c := by
      intro i
      have hat : (i + 1) * c = b.length + i * c := by rw [hb, Nat.succ_mul, Nat.add_comm]
      rw [List.flatten_cons, List.append_assoc, hat, bytesAt_append]
    rw [List.length_cons, List.range_succ_eq_map, List.map_cons, List.map_map]
    have htail : (List.range bufs.length).map ((fun i => bytesAt ((b :: bufs).flatten ++ rest) (i * c) c) ∘ Nat.succ) = bufs :=
      (List.map_congr_left fun i _ => hnext i).trans (cut_flatten rest bufs fun d hd => h d (List.mem_cons_of_mem _ hd))
    rw [htail, List.flatten_cons, List.append_assoc, Nat.zero_mul, bytesAt_left b _ hb]

/-! ## A network read back -/

/-- The channel with its bytes swapped, as it is read. -/
def swapped (channel : Int) : Int := toSigned 2 (leValue (leBytes 2 (toUnsigned 2 channel)).reverse)

/-- **The LDN part**: the counts at 22, the nodes at 24, behind them a 0 of two bytes and the advertise data. -/
theorem ldn_pieces {bufs : List Bytes} {nmax smode : Nat} {advertise unk ldn : Bytes} (hlens : ∀ b ∈ bufs, b.length = 64)
    (h : buildLdnNetworkInfo bufs nmax smode advertise unk = .ok ldn) :
    bufs.length ≤ 8 ∧ nmax < 256 ∧ advertise.length ≤ 384 ∧ ldn.length = 1072 ∧ ∃ head rest, head.length = 22 ∧
      ldn = head ++ ([UInt8.ofNat nmax, UInt8.ofNat bufs.length] ++ (ljust 512 bufs.flatten ++ ([0, 0] ++
        (leBytes 2 advertise.length ++ (ljust 384 advertise ++ rest))))) := by
  unfold buildLdnNetworkInfo at h
  split at h
  · cases h
  rename_i hcount
  split at h
  · cases h
  rename_i hadv
  have hpack := checked_eq_ok h
  have hsize : ldn.length = 1072 := LDN.length_pack hpack
  obtain ⟨u, _, rfl, hu, hpack⟩ := Layout.pack_seq hpack
  obtain ⟨sm, _, rfl, hsm, hpack⟩ := Layout.pack_seq hpack
  obtain ⟨z, _, rfl, hz, hpack⟩ := Layout.pack_seq hpack
  obtain ⟨pd, _, rfl, hpd, hpack⟩ := Layout.pack_seq hpack
  obtain ⟨m, _, rfl, hm, hpack⟩ := Layout.pack_seq hpack
  obtain ⟨c, _, rfl, hc, hpack⟩ := Layout.pack_seq hpack
  obtain ⟨ns, _, rfl, hns, hpack⟩ := Layout.pack_seq hpack
  obtain ⟨o, _, rfl, ho, hpack⟩ := Layout.pack_seq hpack
  obtain ⟨al, _, rfl, hal, hpack⟩ := Layout.pack_seq hpack
  obtain ⟨ad, rest, rfl, had, hpack⟩ := Layout.pack_seq hpack
  have hulen : u.length = 16 := (Layout.bytes 16).length_pack hu
  have hsmlen : sm.length = 2 := (Layout.uintLE 2).length_pack hsm
  have hzlen : z.length = 1 := (Layout.uintLE 1).length_pack hz
  have hpdlen : pd.length = 3 := (Layout.pad 3).length_pack hpd
  obtain ⟨hmlt, rfl⟩ := Layout.pack_uintLE hm
  obtain ⟨-, rfl⟩ := Layout.pack_uintLE hc
  obtain ⟨-, rfl⟩ := Layout.pack_uintLE ho
  obtain ⟨-, rfl⟩ := Layout.pack_bytes hns
  obtain ⟨-, rfl⟩ := Layout.pack_uintLE hal
  obtain ⟨-, rfl⟩ := Layout.pack_bytes had
  have hflat : bufs.flatten.length = bufs.length * 64 := by
    rw [List.length_flatten, List.map_congr_left (fun b hb => hlens b hb)]
    simp
  have hle : bufs.length ≤ 8 := Nat.not_lt.1 hcount
  have hadv384 : advertise.length ≤ 384 := Nat.not_lt.1 hadv
  refine ⟨hle, hmlt, hadv384, hsize, u ++ (sm ++ (z ++ pd)), rest, ?_, ?_⟩
  · simp [hulen, hsmlen, hzlen, hpdlen]
  · rw [fit_of_length (length_ljust (by omega)), fit_of_length (length_ljust hadv384)]
    simp only [List.append_assoc]
    rfl

/-- **The fields of the LDN part, as the parser reads them.** -/
theorem parse_ldn {bufs : List Bytes} {nmax smode : Nat} {advertise unk ldn : Bytes} (hlens : ∀ b ∈ bufs, b.length = 64)
    (h : buildLdnNetworkInfo bufs nmax smode advertise unk = .ok ldn) :
    (byteAt ldn 22).toNat = nmax ∧ (byteAt ldn 23).toNat = bufs.length ∧
      (List.range bufs.length).map (fun i => bytesAt ldn (24 + i * 64) 64) = bufs ∧ bytesAt ldn 536 2 = [0, 0] ∧
      bytesAt ldn 538 2 = leBytes 2 advertise.length ∧ bytesAt ldn 540 advertise.length = advertise ∧
      advertise.length ≤ 384 := by
  obtain ⟨hle, hmax, hadv, -, head, rest, hhead, hldn⟩ := ldn_pieces hlens h
  have hflat : bufs.flatten.length = bufs.length * 64 := by
    rw [List.length_flatten, List.map_congr_left (fun b hb => hlens b hb)]
    simp
  have hnodes : (ljust 512 bufs.flatten).length = 512 := length_ljust (by omega)
  have hafter : ∀ i n, bytesAt ldn (24 + i) n = bytesAt (ljust 512 bufs.flatten ++ ([0, 0] ++
      (leBytes 2 advertise.length ++ (ljust 384 advertise ++ rest)))) i n := by
    intro i n
    have hat : 24 + i = head.length + ([UInt8.ofNat nmax, UInt8.ofNat bufs.length].length + i) := by
      rw [hhead, List.length_cons, List.length_singleton]
      omega
    rw [hat, hldn, bytesAt_append, bytesAt_append]
  have htail : ∀ i n, bytesAt ldn (536 + i) n = bytesAt ([0, 0] ++
      (leBytes 2 advertise.length ++ (ljust 384 advertise ++ rest))) i n := by
    intro i n
    rw [show 536 + i = 24 + ((ljust 512 bufs.flatten).length + i) by omega, hafter, bytesAt_append]
  refine ⟨?_, ?_, ?_, ?_, ?_, ?_, hadv⟩
  · have hat : byteAt ldn 22 = UInt8.ofNat nmax := by
      rw [hldn, ← hhead]
      exact byteAt_append _ _ 0
    rw [hat, UInt8.toNat_ofNat_of_lt' hmax]
  · have hat : byteAt ldn 23 = UInt8.ofNat bufs.length := by
      rw [hldn, show (23 : Nat) = head.length + 1 by omega]
      exact byteAt_append _ _ 1
    rw [hat, UInt8.toNat_ofNat_of_lt' (Nat.lt_of_le_of_lt hle (by decide))]
  · have hcut : ∀ i ∈ List.range bufs.length, bytesAt ldn (24 + i * 64) 64 =
        bytesAt (bufs.flatten ++ List.replicate (512 - bufs.flatten.length) 0) (i * 64) 64 := by
      intro i hi
      have := List.mem_range.1 hi
      rw [hafter, bytesAt_within _ _ (by omega), ljust]
    exact (List.map_congr_left hcut).trans (cut_flatten _ bufs hlens)
  · rw [htail 0 2]
    exact bytesAt_left _ _ rfl
  · rw [htail 2 2, show (2 : Nat) = [(0 : UInt8), 0].length + 0 from rfl, bytesAt_append]
    exact bytesAt_left _ _ (length_leBytes 2 _)
  · rw [htail 4, show (4 : Nat) = [(0 : UInt8), 0].length + ((leBytes 2 advertise.length).length + 0) from rfl, bytesAt_append,
      bytesAt_append, ljust, List.append_assoc]
    exact bytesAt_left _ _ rfl

/-- **The common part**: the channel at 40, lowest byte first. -/
theorem common_pieces {bssid : Bytes} {ssid : List Char} {channel linkLevel : Int} {networkType : Nat} {common : Bytes}
    (hbssid : bssid.length = 6) (h : buildCommonNetworkInfo bssid ssid channel linkLevel networkType = .ok common) :
    (Utf8.encode ssid).length ≤ 32 ∧ InSigned 2 channel ∧ InSigned 1 linkLevel ∧ networkType < 256 ∧ common.length = 48 ∧
      ∃ rest, common = bssid ++ (([UInt8.ofNat (Utf8.encode ssid).length] ++ (ljust 32 (Utf8.encode ssid) ++ [0])) ++
        ((leBytes 2 (toUnsigned 2 channel) ++ (leBytes 1 (toUnsigned 1 linkLevel) ++ leBytes 1 networkType)) ++ rest)) := by
  obtain ⟨s, hs, h⟩ := bind_eq_ok h
  simp only [buildSsid] at hs
  split at hs
  · cases hs
  rename_i hraw
  have hraw32 : (Utf8.encode ssid).length ≤ 32 := Nat.not_lt.1 hraw
  have hspack := checked_eq_ok hs
  have hpack := checked_eq_ok h
  have hsize : common.length = 48 := COMMON.length_pack hpack
  have hslen : s.length = 34 := SSID.length_pack hspack
  rw [fit_of_length (by rw [List.length_append, length_ljust hraw32]; rfl)] at hspack
  obtain ⟨l, t, rfl, hl, ht⟩ := Layout.pack_seq hspack
  obtain ⟨-, rfl⟩ := Layout.pack_uintLE hl
  obtain ⟨-, rfl⟩ := Layout.pack_bytes ht
  rw [fit_of_length hbssid, fit_of_length hslen] at hpack
  obtain ⟨b, _, rfl, hb, hpack⟩ := Layout.pack_seq hpack
  obtain ⟨s', _, rfl, hs', hpack⟩ := Layout.pack_seq hpack
  obtain ⟨c, _, rfl, hc, hpack⟩ := Layout.pack_seq hpack
  obtain ⟨k, _, rfl, hk, hpack⟩ := Layout.pack_seq hpack
  obtain ⟨n, rest, rfl, hn, hpack⟩ := Layout.pack_seq hpack
  obtain ⟨-, rfl⟩ := Layout.pack_bytes hb
  obtain ⟨-, rfl⟩ := Layout.pack_bytes hs'
  obtain ⟨hcin, rfl⟩ := Layout.pack_sintLE hc
  obtain ⟨hkin, rfl⟩ := Layout.pack_sintLE hk
  obtain ⟨hnlt, rfl⟩ := Layout.pack_uintLE hn
  refine ⟨hraw32, hcin, hkin, hnlt, hsize, rest, ?_⟩
  simp only [List.append_assoc]
  rfl

/-- **The fields of the common part, as the parser reads them**: the channel with its bytes swapped. -/
theorem parse_common {bssid : Bytes} {ssid : List Char} {channel linkLevel : Int} {networkType : Nat} {common : Bytes}
    (hbssid : bssid.length = 6) (h : buildCommonNetworkInfo bssid ssid channel linkLevel networkType = .ok common) :
    bytesAt common 0 6 = bssid ∧ Utf8.decode (bytesAt common 7 (byteAt common 6).toNat) = ssid ∧
      CHANNEL.unpack (bytesAt common 40 4) = some (swapped channel, linkLevel, networkType) ∧
      bytesAt common 40 2 = leBytes 2 (toUnsigned 2 channel) := by
  obtain ⟨hraw, hcin, hkin, hnlt, -, rest, hcommon⟩ := common_pieces hbssid h
  generalize hs : [UInt8.ofNat (Utf8.encode ssid).length] ++ (ljust 32 (Utf8.encode ssid) ++ [0]) = s at hcommon
  have hslen : s.length = 34 := by
    rw [← hs, List.length_append, List.length_append, length_ljust hraw]
    rfl
  have hat40 : ∀ n, bytesAt common 40 n = bytesAt ((leBytes 2 (toUnsigned 2 channel) ++
      (leBytes 1 (toUnsigned 1 linkLevel) ++ leBytes 1 networkType)) ++ rest) 0 n := by
    intro n
    rw [show (40 : Nat) = bssid.length + (s.length + 0) by omega, hcommon, bytesAt_append, bytesAt_append]
  refine ⟨by rw [hcommon]; exact bytesAt_left _ _ hbssid, ?_, ?_, ?_⟩
  · have hcount : byteAt common 6 = UInt8.ofNat (Utf8.encode ssid).length := by
      rw [hcommon, ← hs, ← hbssid]
      exact byteAt_append _ _ 0
    have htext : bytesAt common 7 (Utf8.encode ssid).length = Utf8.encode ssid := by
      rw [show (7 : Nat) = bssid.length + ([UInt8.ofNat (Utf8.encode ssid).length].length + 0) by
        rw [hbssid, List.length_singleton], hcommon, bytesAt_append, ← hs, List.append_assoc, bytesAt_append, ljust,
        List.append_assoc, List.append_assoc]
      exact bytesAt_left _ _ rfl
    rw [hcount, UInt8.toNat_ofNat_of_lt' (Nat.lt_of_le_of_lt hraw (by decide)), htext, Utf8.decode_encode]
  · rw [hat40, bytesAt_left _ _ (by rw [List.length_append, List.length_append, length_leBytes, length_leBytes, length_leBytes])]
    have hlink : toSigned 1 (leValue (leBytes 1 (toUnsigned 1 linkLevel))) = linkLevel := by
      rw [leValue_leBytes (toUnsigned_lt 1 linkLevel), toSigned_toUnsigned hkin]
    have htype : leValue (leBytes 1 networkType) = networkType := leValue_leBytes hnlt
    have hread : CHANNEL.unpack (leBytes 2 (toUnsigned 2 channel) ++ (leBytes 1 (toUnsigned 1 linkLevel) ++
        leBytes 1 networkType)) = some (swapped channel, toSigned 1 (leValue (leBytes 1 (toUnsigned 1 linkLevel))),
          leValue (leBytes 1 networkType)) := rfl
    rw [hread, hlink, htype]
  · rw [hat40, List.append_assoc]
    exact bytesAt_left _ _ (length_leBytes 2 _)

/-! ## Which names survive -/

/-- The name fits its field, or the field cuts it within a replacement character at its end. -/
def Survives (name : List Char) : Prop :=
  (Utf8.encode name).length ≤ 32 ∨ name.getLast? = some Utf8.replacement ∧ (Utf8.encode name).length ≤ 34

theorem rdropWhile_nul {name : List Char} (h : name.getLast? ≠ some Utf8.nul) : name.rdropWhile (· == Utf8.nul) = name := by
  rw [List.rdropWhile_eq_self_iff]
  intro hne
  rw [List.getLast?_eq_some_getLast hne] at h
  simpa using h

/-- **A name that the field cuts survives exactly if it cuts within a replacement character at its end.** -/
theorem survives_cut_iff {pre post : List Char} {c : Char} {k : Nat} (hlong : ¬ (Utf8.encode (pre ++ c :: post)).length ≤ 32)
    (hlen : 32 = (Utf8.encode pre).length + k) (hk : k < (Utf8.encodeChar c).length) :
    Survives (pre ++ c :: post) ↔ post = [] ∧ c = Utf8.replacement ∧ 0 < k := by
  have htotal : (Utf8.encode (pre ++ c :: post)).length =
      (Utf8.encode pre).length + (Utf8.encodeChar c).length + (Utf8.encode post).length := by
    rw [Utf8.encode_append, Utf8.encode_cons, List.length_append, List.length_append, Nat.add_assoc]
  have hthree : (Utf8.encodeChar Utf8.replacement).length = 3 := rfl
  constructor
  · rintro (h | ⟨hlast, hle⟩)
    · exact absurd h hlong
    · rcases List.eq_nil_or_concat post with rfl | ⟨front, d, rfl⟩
      · have hc : c = Utf8.replacement := by simpa using hlast
        refine ⟨rfl, hc, ?_⟩
        rw [htotal, hc, hthree] at hle
        omega
      · have hd : d = Utf8.replacement := by
          rw [List.concat_eq_append, ← List.cons_append, ← List.append_assoc, List.getLast?_concat] at hlast
          exact Option.some.inj hlast
        have hpost : 3 ≤ (Utf8.encode (front.concat d)).length := by
          rw [List.concat_eq_append, Utf8.encode_append, hd, List.length_append]
          exact Nat.le_add_left _ _
        omega
  · rintro ⟨rfl, rfl, hpos⟩
    refine Or.inr ⟨by simp, ?_⟩
    rw [htotal, hthree]
    show _ + 0 ≤ 34
    omega

/-- **A name without a NUL at its end comes back exactly if it survives.** -/
theorem readName_eq_iff {name : List Char} (hnul : name.getLast? ≠ some Utf8.nul) : readName name = name ↔ Survives name := by
  by_cases hfits : (Utf8.encode name).length ≤ 32
  · refine iff_of_true ?_ (Or.inl hfits)
    rw [readName, List.take_of_length_le hfits, rstrip, Utf8.rdropWhile_encode, rdropWhile_nul hnul, Utf8.decode_encode]
  · obtain ⟨pre, c, post, k, rfl, htake, hlen, hk⟩ := Utf8.take_encode name 32 (by omega)
    rw [survives_cut_iff hfits hlen hk, readName, htake]
    by_cases hpos : 0 < k
    · have hc : c ≠ Utf8.nul := by
        rintro rfl
        rw [Utf8.encodeChar_nul, List.length_singleton] at hk
        omega
      have hcut : ∀ b ∈ (Utf8.encodeChar c).take k, b ≠ 0 := fun b hb =>
        Utf8.ne_zero_of_mem_encodeChar hc b (List.mem_of_mem_take hb)
      have hself := Utf8.rdropWhile_of_ne_zero hcut
      have hne : ((Utf8.encodeChar c).take k).rdropWhile (· == 0) ≠ [] := by
        rw [hself]
        refine List.ne_nil_of_length_pos ?_
        rw [List.length_take]
        omega
      rw [rstrip, rdropWhile_append_ne hne, hself, Utf8.decode_cut pre c hpos hk, List.append_right_inj]
      constructor
      · intro h
        obtain ⟨rfl, rfl⟩ := List.cons.inj h
        exact ⟨rfl, rfl, hpos⟩
      · rintro ⟨rfl, rfl, -⟩
        rfl
    · have hk0 : k = 0 := by omega
      refine iff_of_false (fun h => ?_) (fun h => hpos h.2.2)
      rw [hk0, List.take_zero, List.append_nil, rstrip, Utf8.rdropWhile_encode, Utf8.decode_encode] at h
      have hle := (List.rdropWhile_prefix (· == Utf8.nul) pre).length_le
      have hlens := congrArg List.length h
      rw [List.length_append, List.length_cons] at hlens
      omega

/-- The two bytes of the channel are equal. -/
def SameBytes (channel : Int) : Prop := channel % 256 = channel / 256 % 256

theorem leBytes_two (u : Nat) : leBytes 2 u = [UInt8.ofNat u, UInt8.ofNat (u / 256)] := rfl

theorem swapped_eq_iff {channel : Int} (h : InSigned 2 channel) : swapped channel = channel ↔ SameBytes channel := by
  have hu : toUnsigned 2 channel < 65536 := toUnsigned_lt 2 channel
  have hmod : ((toUnsigned 2 channel : Nat) : Int) = channel % 65536 := by
    unfold toUnsigned
    omega
  have hval : leValue (leBytes 2 (toUnsigned 2 channel)).reverse =
      toUnsigned 2 channel / 256 + 256 * (toUnsigned 2 channel % 256) := by
    rw [leBytes_two]
    show (UInt8.ofNat (toUnsigned 2 channel / 256)).toNat + 256 * ((UInt8.ofNat (toUnsigned 2 channel)).toNat + 256 * 0) = _
    rw [UInt8.toNat_ofNat', UInt8.toNat_ofNat']
    omega
  have hsigned : swapped channel = channel ↔
      toUnsigned 2 channel / 256 + 256 * (toUnsigned 2 channel % 256) = toUnsigned 2 channel := by
    rw [← toSigned_inj (n := 2) (by omega) (toUnsigned_lt 2 channel), toSigned_toUnsigned h, ← hval]
    rfl
  rw [hsigned, SameBytes]
  clear hsigned hval
  generalize toUnsigned 2 channel = u at hu hmod ⊢
  obtain ⟨q, hq⟩ : ∃ q : Int, channel = 65536 * q + u := ⟨channel / 65536, by omega⟩
  have hlow : channel % 256 = ((u % 256 : Nat) : Int) := by omega
  have hhigh : channel / 256 % 256 = ((u / 256 : Nat) : Int) := by omega
  rw [hlow, hhigh]
  omega

/-! ## From end to end -/

/-- The ids and addresses have their sizes, and the count is that of the nodes. -/
structure NetworkInfo.Sized (v : NetworkInfo) : Prop where
  intent : v.intent.length = 16
  session : v.session.length = 16
  bssid : v.bssid.length = 6
  nodes : ∀ n ∈ v.nodes, n.ip.length = 4 ∧ n.mac.length = 6
  nodeCount : v.nodeCount = v.nodes.length

theorem length_buildNodes : ∀ {nodes : List NodeInfo} {bufs : List Bytes}, buildNodes nodes = .ok bufs →
    ∀ b ∈ bufs, b.length = 64
  | [], _, h => by
    cases h
    simp
  | n :: rest, _, h => by
    obtain ⟨b, hb, h⟩ := bind_eq_ok h
    obtain ⟨bs, hbs, h⟩ := bind_eq_ok h
    cases h
    intro c hc
    rcases List.mem_cons.1 hc with rfl | hc
    · exact NODE.length_pack (checked_eq_ok hb)
    · exact length_buildNodes hbs c hc

section BuildInfo

variable {intentId : IntentId} {v : NetworkInfo} {smode : Nat} {unk buf : Bytes}

/-- **A network that was built is its two parts behind its ids.** -/
theorem buildInfo_pieces (h : buildInfo intentId v smode unk = .ok buf) : ∃ intent bufs ldn common,
    intentId.toBytes = .ok intent ∧ buildNodes v.nodes = .ok bufs ∧
      buildLdnNetworkInfo bufs v.nodeCountMax smode v.advertise unk = .ok ldn ∧
      buildCommonNetworkInfo v.bssid v.ssid v.channel v.linkLevel v.networkType = .ok common ∧
      NETWORK.pack (fit 32 (intent ++ v.session), common, ldn) = some buf := by
  obtain ⟨bufs, hbufs, h⟩ := bind_eq_ok h
  obtain ⟨ldn, hldn, h⟩ := bind_eq_ok h
  obtain ⟨common, hcommon, h⟩ := bind_eq_ok h
  obtain ⟨intent, hintent, h⟩ := bind_eq_ok h
  have hpack := checked_eq_ok h
  have hldnLen : ldn.length = 1072 := (ldn_pieces (length_buildNodes hbufs) hldn).2.2.2.1
  have hcommonLen : common.length = 48 := by
    obtain ⟨s, -, hc⟩ := bind_eq_ok hcommon
    exact COMMON.length_pack (checked_eq_ok hc)
  rw [fit_of_length hldnLen, fit_of_length hcommonLen] at hpack
  exact ⟨intent, bufs, ldn, common, hintent, hbufs, hldn, hcommon, hpack⟩

/-- What the parser makes of a network. -/
def readInfo (v : NetworkInfo) : NetworkInfo :=
  { v with channel := swapped v.channel, nodes := v.nodes.map readNode, advertise := [] }

/-- **What is read of a network that was built**: the channel with its bytes swapped, no advertise data, each name as its
field holds it, and the ids as theirs does. -/
theorem parse_buildInfo_ids (hbssid : v.bssid.length = 6) (hsizes : ∀ n ∈ v.nodes, n.ip.length = 4 ∧ n.mac.length = 6)
    {intent : Bytes} (hintent : intentId.toBytes = .ok intent) (h : buildInfo intentId v smode unk = .ok buf) :
    parseNetworkInfo buf = .ok { readInfo v with
      intent := bytesAt (fit 32 (intent ++ v.session)) 0 16
      session := bytesAt (fit 32 (intent ++ v.session)) 16 16
      nodeCount := v.nodes.length } := by
  obtain ⟨intent', bufs, ldn, common, hintent', hbufs, hldn, hcommon, hpack⟩ := buildInfo_pieces h
  rw [hintent] at hintent'
  cases hintent'
  obtain ⟨hcount, hlens, hread⟩ := parse_buildNodes hsizes hbufs
  obtain ⟨hmax, hcountAt, hnodes, hzero, -, -, -⟩ := parse_ldn hlens hldn
  obtain ⟨hbssidAt, hssid, hchannel, -⟩ := parse_common hbssid hcommon
  have hsize : ¬ buf.length ≠ NETWORK.size := not_not.2 (NETWORK.length_pack hpack)
  have hadv : (Layout.uintBE 2).read [0, 0] = 0 := rfl
  unfold parseNetworkInfo
  rw [if_neg hsize, Layout.unpack_pack hpack]
  show (do
    let (channel, link, ntype) ← checked (CHANNEL.unpack (bytesAt common 40 4))
    let nodes ← parseNodes ((List.range (byteAt ldn 23).toNat).map (fun i => bytesAt ldn (24 + i * 64) 64))
    return NetworkInfo.mk _ _ _ _ channel link ntype _ _ nodes _) = _
  rw [hchannel, hcountAt, hnodes, hread, hzero, hadv, hbssidAt, hssid, hmax, hcount]
  rfl

theorem parse_buildInfo (hsized : v.Sized) (hintent : intentId.toBytes = .ok v.intent)
    (h : buildInfo intentId v smode unk = .ok buf) : parseNetworkInfo buf = .ok (readInfo v) := by
  have hids : fit 32 (v.intent ++ v.session) = v.intent ++ v.session :=
    fit_of_length (by rw [List.length_append, hsized.intent, hsized.session])
  have hsession : bytesAt (v.intent ++ v.session) 16 16 = v.session := by
    have hat := bytesAt_append v.intent v.session 0 16
    rw [hsized.intent] at hat
    rw [hat, bytesAt, List.drop_zero, List.take_of_length_le (Nat.le_of_eq hsized.session)]
  have hintentAt : bytesAt (v.intent ++ v.session) 0 16 = v.intent := bytesAt_left _ _ hsized.intent
  rw [parse_buildInfo_ids hsized.bssid hsized.nodes hintent h, hids, hsession, hintentAt, ← hsized.nodeCount]
  rfl

end BuildInfo

/-! ## The host sends it on -/

/-- The channel of a network on the wire, as a console reads it. -/
def wireChannel (buf : Bytes) : Int := (Layout.sintLE 2).read (bytesAt buf 72 2)

/-- The advertise data of a network on the wire. -/
def wireAdvertise (buf : Bytes) : Bytes := bytesAt buf 620 ((Layout.uintLE 2).read (bytesAt buf 618 2))

/-- **What a network that was built has on the wire.** -/
theorem wire_buildInfo {intentId : IntentId} {v : NetworkInfo} {smode : Nat} {unk buf : Bytes} (hbssid : v.bssid.length = 6)
    (h : buildInfo intentId v smode unk = .ok buf) : wireChannel buf = v.channel ∧ wireAdvertise buf = v.advertise := by
  obtain ⟨intent, bufs, ldn, common, -, hbufs, hldn, hcommon, hpack⟩ := buildInfo_pieces h
  obtain ⟨-, -, -, -, hlenAt, hadvAt, hadv⟩ := parse_ldn (length_buildNodes hbufs) hldn
  obtain ⟨-, -, -, hchannelAt⟩ := parse_common hbssid hcommon
  obtain ⟨-, hin, -, -, hcommonLen, -⟩ := common_pieces hbssid hcommon
  obtain ⟨ids, _, rfl, hids, hpack⟩ := Layout.pack_seq hpack
  obtain ⟨c, l, rfl, hc, hl⟩ := Layout.pack_seq hpack
  have hidsLen : ids.length = 32 := (Layout.bytes 32).length_pack hids
  obtain ⟨-, rfl⟩ := Layout.pack_bytes hc
  obtain ⟨-, rfl⟩ := Layout.pack_bytes hl
  have hcommonAt : bytesAt (ids ++ (c ++ l)) 72 2 = bytesAt c 40 2 := by
    rw [show (72 : Nat) = ids.length + 40 by omega, bytesAt_append, bytesAt_within _ _ (by omega)]
  have hldnAt : ∀ i n, bytesAt (ids ++ (c ++ l)) (80 + i) n = bytesAt l i n := by
    intro i n
    rw [show 80 + i = ids.length + (c.length + i) by omega, bytesAt_append, bytesAt_append]
  have hlen : leValue (leBytes 2 v.advertise.length) = v.advertise.length :=
    leValue_leBytes (Nat.lt_of_le_of_lt hadv (by decide))
  constructor
  · rw [wireChannel, hcommonAt, hchannelAt]
    show toSigned 2 (leValue (leBytes 2 (toUnsigned 2 v.channel))) = v.channel
    rw [leValue_leBytes (toUnsigned_lt 2 v.channel), toSigned_toUnsigned hin]
  · rw [wireAdvertise, hldnAt 538 2, hlenAt]
    show bytesAt (ids ++ (c ++ l)) (80 + 540) (leValue (leBytes 2 v.advertise.length)) = v.advertise
    rw [hlen, hldnAt, hadvAt]

/-- **What a host sends is its network with its own node and the stations'.** -/
theorem networkBytes_eq {info : NetworkInfo} {n0 : NodeInfo} {rest : List NodeInfo} (hnodes : info.nodes = n0 :: rest)
    (stations : List NodeInfo) : networkBytes info stations =
      buildInfo (.bytes info.intent)
        { info with nodes := hostNode n0 :: stations.map (fun n => { n with isConnected := 1 }) } 0 (List.replicate 16 0) := by
  unfold networkBytes
  rw [hnodes]
  rfl

/-- **A network comes back as it was built, and the host that read it sends on the same channel and advertise data, exactly if
the two bytes of the channel are equal, there are no advertise data and every name survives.** -/
theorem networkInfo_iff {intentId : IntentId} {v : NetworkInfo} {smode : Nat} {unk buf : Bytes} (hsized : v.Sized)
    (hintent : intentId.toBytes = .ok v.intent) (hnames : ∀ n ∈ v.nodes, n.name.getLast? ≠ some Utf8.nul)
    (h : buildInfo intentId v smode unk = .ok buf) :
    (parseNetworkInfo buf = .ok v ∧ ∀ info stations out, parseNetworkInfo buf = .ok info →
      networkBytes info stations = .ok out → wireChannel out = v.channel ∧ wireAdvertise out = v.advertise) ↔
      SameBytes v.channel ∧ v.advertise = [] ∧ ∀ n ∈ v.nodes, Survives n.name := by
  have hparse := parse_buildInfo hsized hintent h
  have hin : InSigned 2 v.channel := by
    obtain ⟨_, _, _, _, -, -, -, hcommon, -⟩ := buildInfo_pieces h
    exact (common_pieces hsized.bssid hcommon).2.1
  have hnodes : v.nodes.map readNode = v.nodes ↔ ∀ n ∈ v.nodes, Survives n.name := by
    rw [← List.map_id v.nodes, List.map_map, List.map_inj_left, List.map_id]
    refine forall₂_congr fun n hn => ?_
    rw [← readName_eq_iff (hnames n hn)]
    show readNode n = n ↔ readName n.name = n.name
    constructor
    · exact fun he => congrArg NodeInfo.name he
    · intro he
      rw [readNode, he]
  have hread : readInfo v = v ↔ SameBytes v.channel ∧ v.advertise = [] ∧ ∀ n ∈ v.nodes, Survives n.name := by
    rw [← swapped_eq_iff hin, ← hnodes]
    constructor
    · intro he
      exact ⟨congrArg NetworkInfo.channel he, (congrArg NetworkInfo.advertise he).symm, congrArg NetworkInfo.nodes he⟩
    · rintro ⟨hc, ha, hn⟩
      rw [readInfo, hc, hn, ← ha]
  rw [hparse, ← hread]
  constructor
  · rintro ⟨heq, -⟩
    exact Except.ok.inj heq
  · intro heq
    refine ⟨congrArg _ heq, fun info stations out hinfo hout => ?_⟩
    cases hinfo
    rw [heq] at hout
    cases hn : v.nodes with
    | nil =>
      rw [networkBytes, hn] at hout
      cases hout
    | cons n0 rest =>
      rw [networkBytes_eq hn] at hout
      exact wire_buildInfo
        (v := { v with nodes := hostNode n0 :: stations.map (fun n => { n with isConnected := 1 }) }) hsized.bssid hout

/-- The network a host is created with. -/
def created (ip : Bytes) (name : List Char) (intent session : Bytes) (nmax : Nat) (channel lcv : Int) : NetworkInfo where
  intent := intent
  session := session
  bssid := fakeMac ip
  ssid := FAKE_SSID
  channel := channel
  linkLevel := 3
  networkType := 2
  nodeCountMax := nmax
  nodeCount := 1
  nodes := [⟨ip, fakeMac ip, 0, 1, name, lcv⟩]
  advertise := []

/-- **A host's network is what it reads of the one it was created with**, its ids as the fields hold them. -/
theorem makeNetwork_eq {ip : Bytes} {name : List Char} {lcid scene nmax smode : Nat} {session : Bytes} {channel lcv : Int}
    {info : NetworkInfo} (hip : ip.length = 4) (h : makeNetwork ip name lcid scene session nmax channel smode lcv = .ok info) :
    ∃ intent, INTENT.pack (lcid, 0, scene, ()) = some intent ∧ InSigned 2 channel ∧
      info = readInfo (created ip name (bytesAt (fit 32 (intent ++ session)) 0 16) (bytesAt (fit 32 (intent ++ session)) 16 16)
        nmax channel lcv) := by
  obtain ⟨intent, hintent, h⟩ := bind_eq_ok h
  obtain ⟨node0, hnode, h⟩ := bind_eq_ok h
  obtain ⟨ldn, hldn, h⟩ := bind_eq_ok h
  obtain ⟨common, hcommon, h⟩ := bind_eq_ok h
  obtain ⟨buf, hbuf, h⟩ := bind_eq_ok h
  have hmac : (fakeMac ip).length = 6 := by simp [fakeMac, hip]
  have hsizes : ∀ n ∈ (created ip name intent session nmax channel lcv).nodes, n.ip.length = 4 ∧ n.mac.length = 6 := by
    intro n hn
    rw [List.mem_singleton.1 hn]
    exact ⟨hip, hmac⟩
  have hnodes : buildNodes (created ip name intent session nmax channel lcv).nodes = .ok [node0] := by
    have hsome : buildNodeInfo ip 0 1 name lcv (some (fakeMac ip)) = .ok node0 := hnode
    simp only [created, buildNodes, hsome]
    rfl
  have hbuild : buildInfo (.bytes intent) (created ip name intent session nmax channel lcv) smode (List.replicate 16 0) =
      .ok buf := by
    rw [buildInfo, hnodes]
    show (do
      let ldn ← buildLdnNetworkInfo [node0] nmax smode [] (List.replicate 16 0)
      let common ← buildCommonNetworkInfo (fakeMac ip) FAKE_SSID channel 3 2
      buildNetworkInfo (.bytes intent) session common ldn) = _
    rw [hldn, hcommon]
    exact hbuf
  rw [parse_buildInfo_ids hmac hsizes rfl hbuild] at h
  exact ⟨intent, checked_eq_ok hintent, (common_pieces hmac hcommon).2.1, (Except.ok.inj h).symm⟩

theorem makeNetwork_ok {ip : Bytes} {name : List Char} {lcid scene nmax smode : Nat} {session : Bytes} {channel lcv : Int}
    {info : NetworkInfo} (hip : ip.length = 4) (h : makeNetwork ip name lcid scene session nmax channel smode lcv = .ok info) :
    ∃ intent session', info = readInfo (created ip name intent session' nmax channel lcv) := by
  obtain ⟨_, -, -, heq⟩ := makeNetwork_eq hip h
  exact ⟨_, _, heq⟩

/-! ## Two networks -/

theorem exists_ok {ε α : Type} {x : Except ε α} (h : x.toOption.isSome = true) : ∃ a, x = .ok a := by
  cases x with
  | error _ => cases h
  | ok a => exact ⟨a, rfl⟩

def fakeIp : Bytes := [10, 13, 200, 77]

def zeroId : Bytes := List.replicate 16 0

/-- A channel of two equal bytes and nothing advertised. -/
def quiet : NetworkInfo := created fakeIp "FAKE-HOST".toList zeroId zeroId 8 257 6

theorem networkInfo_quiet : ∃ buf, buildInfo (.int 0) quiet 0 zeroId = .ok buf ∧ parseNetworkInfo buf = .ok quiet := by
  obtain ⟨buf, h⟩ := exists_ok (by decide +kernel : (buildInfo (.int 0) quiet 0 zeroId).toOption.isSome = true)
  exact ⟨buf, h, ((networkInfo_iff ⟨by decide, by decide, by decide, by decide, by decide⟩ (by rfl) (by decide +kernel) h).2
    ⟨rfl, rfl, fun n hn => Or.inl (by revert n; decide +kernel)⟩).1⟩

/-- **A host on channel 6 with 3 bytes of advertise data** reads channel 1536 and none, and sends channel 1536. -/
theorem networkInfo_changes :
    (buildInfo (.int 0) { quiet with channel := 6, advertise := [1, 2, 3] } 0 zeroId >>= parseNetworkInfo).toOption =
        some { quiet with channel := 1536 } ∧
      (do
        let info ← makeNetwork fakeIp "FAKE-HOST".toList 0x1234 0 zeroId 7 6 0 6
        let out ← networkBytes info []
        return wireChannel out).toOption = some 1536 := by
  decide +kernel

end Ldn
end Slp
