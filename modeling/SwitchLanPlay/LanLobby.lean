import SwitchLanPlay.LanBrowse
import SwitchLanPlay.PiaPacket
import SwitchLanPlay.RelayPeer
/-!
# LanLobby — two players who meet over the relay (tools/slp_pia.py, tools/test_lan.py)

A player finds the other's session by a browse request and its reply, both derive the session key from their challenge keys,
and from there on talk in Pia packets, which the test's peers send over the relay.  What arrives of a bundle is said by
`bundle_received_iff`, and of the messages of the session layer by `session_info_received` and `message_received_iff`.
-/
namespace Slp

open Wire

/-! ## What a peer receives (test_lan.py) -/

namespace RelayPeer

/-- `pump`: the frames that arrive are kept if they are of type 0x01. -/
def pump (pending arrived : List Bytes) : List Bytes :=
  pending ++ (arrived.filter (fun d => decide (d ≠ [] ∧ byteAt d 0 &&& 0x7F = 0x01))).map (List.drop 1)

def isFor (dst pkt : Bytes) : Bool := decide (20 ≤ pkt.length ∧ bytesAt pkt 16 4 = dst)

/-- The payload by the header's lengths. -/
def udpPayload (pkt : Bytes) : Bytes :=
  let u := (byteAt pkt 0 &&& 0x0F).toNat * 4
  let ulen := (Layout.uintBE 2).read (bytesAt pkt (u + 4) 2)
  bytesAt pkt (u + 8) (ulen - 8)

/-- `next_udp`: the payload of the first packet for the address, which is taken out. -/
def nextUdp (dst : Bytes) (pending : List Bytes) : Option Bytes × List Bytes :=
  ((pending.find? (isFor dst)).map udpPayload, pending.eraseP (isFor dst))

theorem read_be16 (x : UInt16) : (Layout.uintBE 2).read (be16 x) = x.toNat := by
  have hx := x.toNat_lt
  have hhi : ((x >>> 8).toUInt8).toNat = x.toNat / 256 := by
    rw [UInt16.toNat_toUInt8, UInt16.toNat_shiftRight, Nat.shiftRight_eq_div_pow]
    show x.toNat / 256 % 256 = x.toNat / 256
    omega
  have hlo : x.toUInt8.toNat = x.toNat % 256 := UInt16.toNat_toUInt8 x
  show x.toUInt8.toNat + 256 * ((x >>> 8).toUInt8.toNat + 256 * 0) = x.toNat
  omega

/-- **A packet is for its destination, and its payload reads back.** -/
theorem udpPayload_buildUdp {src dst payload packet : Bytes} {sport dport : Int}
    (h : Spike.buildUdp src sport dst dport payload = .ok packet) : isFor dst packet = true ∧ udpPayload packet = payload := by
  obtain ⟨s, hs, h⟩ := bind_eq_ok h
  obtain ⟨d, hd, h⟩ := bind_eq_ok h
  obtain ⟨l, hl, h⟩ := bind_eq_ok h
  obtain ⟨t, ht, h⟩ := bind_eq_ok h
  obtain ⟨si, hsi, h⟩ := bind_eq_ok h
  obtain ⟨di, hdi, h⟩ := bind_eq_ok h
  cases h
  obtain ⟨s0, s1, rfl⟩ := List.length_eq_two.1 (Spike.length_packU16 hs)
  obtain ⟨d0, d1, rfl⟩ := List.length_eq_two.1 (Spike.length_packU16 hd)
  obtain ⟨t0, t1, rfl⟩ := List.length_eq_two.1 (Spike.length_packU16 ht)
  obtain ⟨i0, i1, i2, i3, rfl⟩ := List.length_eq_four.1 (Spike.length_ipToInt hsi)
  obtain ⟨j0, j1, j2, j3, rfl⟩ := List.length_eq_four.1 (Spike.length_ipToInt hdi)
  have hdst : dst = [j0, j1, j2, j3] := by
    unfold Spike.ipToInt at hdi
    split at hdi
    · exact Except.ok.inj hdi
    · cases hdi
  have hlen : (Layout.uintBE 2).read l = 8 + payload.length := by
    unfold Spike.packU16 at hl
    split at hl
    · rename_i hrange
      have hsmall : 8 + payload.length < 65536 := by omega
      rw [← Except.ok.inj hl, read_be16]
      show (UInt16.ofNat (8 + (payload.length : Int)).toNat).toNat = _
      rw [show (8 + (payload.length : Int)).toNat = 8 + payload.length by omega, UInt16.toNat_ofNat_of_lt' hsmall]
    · cases hl
  obtain ⟨l0, l1, rfl⟩ := List.length_eq_two.1 (Spike.length_packU16 hl)
  subst hdst
  refine ⟨decide_eq_true ⟨by simp only [List.length_append, List.length_cons, List.length_nil, length_be16]; omega, rfl⟩, ?_⟩
  generalize hp : [0x45, 0x00] ++ [t0, t1] ++ be16 0 ++ be16 0 ++ [64, 17] ++ be16 0 ++ [i0, i1, i2, i3] ++ [j0, j1, j2, j3] ++
    ([s0, s1] ++ [d0, d1] ++ [l0, l1] ++ be16 0 ++ payload) = packet
  have hfirst : byteAt packet 0 = 0x45 := by rw [← hp]; rfl
  have hihl : (byteAt packet 0 &&& 0x0F).toNat * 4 = 20 := by rw [hfirst]; rfl
  have hulenAt : bytesAt packet (20 + 4) 2 = [l0, l1] := by rw [← hp]; rfl
  have hbody : packet.drop (20 + 8) = payload := by rw [← hp]; rfl
  rw [udpPayload]
  simp only [hihl, hulenAt, hlen]
  rw [bytesAt, hbody, List.take_of_length_le (by omega)]

/-- A frame that is not kept, or whose packet is for somebody else. -/
def Aside (dst f : Bytes) : Prop := ∀ pkt ∈ pump [] [f], isFor dst pkt = false

theorem pump_append (pending a b : List Bytes) : pump pending (a ++ b) = pump (pump pending a) b := by
  rw [pump, pump, pump, List.filter_append, List.map_append, List.append_assoc]

theorem pump_frame (typ : UInt8) (body : Bytes) :
    pump [] [typ :: body] = if typ &&& 0x7F = 0x01 then [body] else [] := by
  by_cases h : typ &&& 0x7F = 0x01
  · have hkeep : decide (typ :: body ≠ [] ∧ byteAt (typ :: body) 0 &&& 0x7F = 0x01) = true :=
      decide_eq_true ⟨List.cons_ne_nil _ _, h⟩
    rw [if_pos h, pump, List.filter_cons, if_pos hkeep]
    rfl
  · have hdrop : ¬ decide (typ :: body ≠ [] ∧ byteAt (typ :: body) 0 &&& 0x7F = 0x01) = true :=
      fun hk => h (of_decide_eq_true hk).2
    rw [if_neg h, pump, List.filter_cons, if_neg hdrop]
    rfl

theorem mem_pump {pending arrived : List Bytes} {pkt : Bytes} (h : pkt ∈ pump pending arrived) :
    pkt ∈ pending ∨ ∃ f ∈ arrived, pkt ∈ pump [] [f] := by
  rcases List.mem_append.1 h with h | h
  · exact .inl h
  · obtain ⟨f, hf, rfl⟩ := List.mem_map.1 h
    obtain ⟨hfa, hkeep⟩ := List.mem_filter.1 hf
    exact .inr ⟨f, hfa, List.mem_append_right _
      (List.mem_map.2 ⟨f, List.mem_filter.2 ⟨List.mem_singleton_self f, hkeep⟩, rfl⟩)⟩

/-- **Of what is sent while nobody else sends to the address, `next_udp` gets the payloads of up to 1372 bytes**: the frames of
a longer packet are fragments, which `pump` does not keep. -/
theorem nextUdp_sendUdp {c c' : RelayPeer} {dst payload : Bytes} {sport dport : Int} {frames before after : List Bytes}
    (hsent : c.sendUdp dst sport dport payload = .ok (c', frames)) (haside : ∀ f ∈ before ++ after, Aside dst f) :
    (nextUdp dst (pump [] (before ++ frames ++ after))).1 = if payload.length ≤ 1372 then some payload else none := by
  obtain ⟨packet, hpacket, -⟩ := bind_eq_ok hsent
  have hlen := Spike.length_buildUdp hpacket
  have hframes := frames_of_sendUdp hpacket hsent
  have hnone : ∀ arrived : List Bytes, (∀ f ∈ arrived, Aside dst f) → ∀ pkt ∈ pump [] arrived, isFor dst pkt = false := by
    intro arrived h pkt hpkt
    rcases mem_pump hpkt with hpkt | ⟨f, hf, hpkt⟩
    · cases hpkt
    · exact h f hf pkt hpkt
  by_cases hmtu : packet.length ≤ slpMtu
  · rw [if_pos hmtu] at hframes
    obtain ⟨hfor, hpayload⟩ := udpPayload_buildUdp hpacket
    have hshort : payload.length ≤ 1372 := by
      have : packet.length ≤ 1400 := hmtu
      omega
    have hkept : pump [] [0x01 :: packet] = [packet] := by rw [pump_frame, if_pos (by decide)]
    have hbefore := hnone before fun f hf => haside f (List.mem_append_left _ hf)
    have hpump : pump [] (before ++ frames ++ after) = pump [] before ++ packet :: pump [] after := by
      rw [hframes, pump_append, pump_append]
      simp only [pump, List.nil_append, List.append_assoc] at hkept ⊢
      rw [hkept, List.singleton_append]
    rw [if_pos hshort, hpump, nextUdp, List.find?_append, List.find?_eq_none.2 fun pkt hpkt => by simp [hbefore pkt hpkt]]
    show Option.map udpPayload (List.find? (isFor dst) (packet :: _)) = _
    rw [List.find?_cons_of_pos hfor]
    exact congrArg some hpayload
  · rw [if_neg hmtu] at hframes
    have hlong : ¬ payload.length ≤ 1372 := by
      have : ¬ packet.length ≤ 1400 := hmtu
      omega
    have hfrags : ∀ f ∈ frames, Aside dst f := by
      intro f hf pkt hpkt
      obtain ⟨body, rfl⟩ := hframes f hf
      rw [pump_frame, if_neg (by decide)] at hpkt
      cases hpkt
    have hall : ∀ f ∈ before ++ frames ++ after, Aside dst f := by
      intro f hf
      rcases List.mem_append.1 hf with hf | hf
      · rcases List.mem_append.1 hf with hf | hf
        · exact haside f (List.mem_append_left _ hf)
        · exact hfrags f hf
      · exact haside f (List.mem_append_right _ hf)
    rw [if_neg hlong, nextUdp, List.find?_eq_none.2 fun pkt hpkt => by simp [hnone _ hall pkt hpkt]]
    rfl

theorem exists_sendUdp {c : RelayPeer} {dst payload : Bytes} {sport dport : Int} (hip : c.ip.length = 4) (hdst : dst.length = 4)
    (hsport : 0 ≤ sport ∧ sport < 65536) (hdport : 0 ≤ dport ∧ dport < 65536) (hlen : payload.length ≤ 1372) :
    ∃ frames, c.sendUdp dst sport dport payload = .ok (c, frames) := by
  obtain ⟨packet, hpacket⟩ := Spike.exists_buildUdp hip hdst hsport hdport (show payload.length + 28 < 65536 by omega)
  have hmtu : packet.length ≤ slpMtu := by
    rw [Spike.length_buildUdp hpacket, slpMtu]
    omega
  refine ⟨[rawFrame 0x01 packet], ?_⟩
  rw [sendUdp, hpacket]
  exact if_pos hmtu

end RelayPeer

/-! ## Bundles over the relay (slp_pia.py) -/

namespace Pia

theorem length_message (pl : Bytes) : (message pl).length = 16 + pl.length + padding 4 pl.length := by
  rw [message, List.length_append, List.length_append, length_messageHead (length_size pl), List.length_replicate]

theorem length_messages_mod (payloads : List Bytes) : (payloads.flatMap message).length % 4 = 0 := by
  induction payloads with
  | nil => rfl
  | cons pl rest ih =>
    rw [List.flatMap_cons, List.length_append, length_message, padding]
    omega

section Built

variable {κ : Type} {A : Aead κ 8} {key : κ} {payloads : List Bytes} {srcIp packet : Bytes}
variable {srcVar dstVar nonceCtr packetId : Nat}

/-- **A packet has 34 bytes around its messages**, which are filled up to sixteen. -/
theorem length_buildPiaPacket (h : buildPiaPacket A key payloads srcIp srcVar dstVar nonceCtr packetId = .ok packet) :
    packet.length = 34 + (payloads.flatMap message).length + padding 16 (payloads.flatMap message).length := by
  obtain ⟨body, hbody, h⟩ := bind_eq_ok h
  obtain ⟨nonce, hnonce, h⟩ := bind_eq_ok h
  obtain ⟨footer, hfooter, h⟩ := bind_eq_ok h
  obtain ⟨dst, hdst, h⟩ := bind_eq_ok h
  obtain ⟨src, hsrc, h⟩ := bind_eq_ok h
  obtain ⟨id, hid, h⟩ := bind_eq_ok h
  obtain ⟨-, hmessages⟩ := buildBody_eq_ok hbody
  rw [List.nil_append] at hmessages
  subst hmessages
  have hfooterLen : footer.length = 2 := (Layout.uintBE 2).length_pack (packed_eq_ok hfooter)
  have hdstLen : dst.length = 4 := (Layout.uintBE 4).length_pack (packed_eq_ok hdst)
  have hsrcLen : src.length = 4 := (Layout.uintBE 4).length_pack (packed_eq_ok hsrc)
  have hidLen : id.length = 2 := (Layout.uintBE 2).length_pack (packed_eq_ok hid)
  rw [← Except.ok.inj h]
  simp only [List.length_append, A.length_text, A.length_tag, length_intToBytes hnonce, hfooterLen, hdstLen, hsrcLen, hidLen,
    List.length_replicate, MAGIC, List.length_cons, List.length_nil]
  omega

end Built

theorem lastRead_prefix (pl : Bytes) : lastRead pl <+: pl := by
  unfold lastRead
  split
  · exact List.rdropWhile_prefix _ _
  · exact List.prefix_rfl

/-- **The payloads that are read are those that were sent exactly if they are `Intact`.** -/
theorem readBack_iff_intact (hne : payloads ≠ []) : readBack payloads = payloads ↔ Intact payloads := by
  rcases List.eq_nil_or_concat payloads with rfl | ⟨front, last, rfl⟩
  · exact absurd rfl hne
  · rw [List.concat_eq_append, readBack_eq_self_iff, lastRead_eq_self_iff, Intact]
    simp

end Pia

namespace Lan

/-- What a peer reads of the frames that arrive: the payloads of the next packet for its address. -/
def readPayloads {κ : Type} (A : Aead κ 8) (key : κ) (srcIp dst : Bytes) (arrived : List Bytes) : Option (List Bytes) :=
  match (RelayPeer.nextUdp dst (RelayPeer.pump [] arrived)).1 with
  | none => none
  | some packet =>
    match Pia.parsePiaPacket A key packet srcIp with
    | .ok (some parsed) => some parsed.payloads
    | _ => none

section Relay

variable {κ : Type} {A : Aead κ 8} {key : κ} {payloads frames before after : List Bytes} {dst packet : Bytes}
variable {c c' : RelayPeer}
variable {sport dport : Int} {srcVar dstVar nonceCtr packetId : Nat}

/-- **The messages of a bundle arrive if they have at most 1328 bytes in all.** -/
theorem readPayloads_sendUdp
    (hbuild : Pia.buildPiaPacket A key payloads c.ip srcVar dstVar nonceCtr packetId = .ok packet)
    (hsent : c.sendUdp dst sport dport packet = .ok (c', frames)) (haside : ∀ f ∈ before ++ after, RelayPeer.Aside dst f) :
    readPayloads A key c.ip dst (before ++ frames ++ after) =
      if (payloads.flatMap Pia.message).length ≤ 1328 ∧ payloads ≠ [] then some (Pia.readBack payloads) else none := by
  have hlen := Pia.length_buildPiaPacket hbuild
  have hmod := Pia.length_messages_mod payloads
  have hshort : packet.length ≤ 1372 ↔ (payloads.flatMap Pia.message).length ≤ 1328 := by
    rw [hlen, Pia.padding]
    omega
  rw [readPayloads, RelayPeer.nextUdp_sendUdp hsent haside]
  by_cases hfit : packet.length ≤ 1372
  · rw [if_pos hfit]
    show (match Pia.parsePiaPacket A key packet c.ip with | .ok (some parsed) => some parsed.payloads | _ => none) = _
    rw [Pia.parse_build hbuild]
    by_cases hne : payloads = []
    · rw [if_pos hne, if_neg (fun h => h.2 hne)]
    · rw [if_neg hne, if_pos ⟨hshort.1 hfit, hne⟩]
  · rw [if_neg hfit, if_neg (fun h => hfit (hshort.2 h.1))]

end Relay

theorem piaPort : (0 : Int) ≤ 49152 ∧ (49152 : Int) < 65536 := by decide

def LAN_HOST_REQUEST : UInt8 := 3

def LAN_HOST_MESSAGE : UInt8 := 4

def LAN_SESSION_REQUEST : UInt8 := 5

def LAN_SESSION_MESSAGE : UInt8 := 6

def LAN_KEEP_ALIVE : UInt8 := 7

/-- The type and eleven bytes of padding. -/
def lanHead (typ : UInt8) : Bytes := [typ] ++ List.replicate 11 0

def lanHostRequest (networkId : Nat) : Except Raised Bytes := do
  return lanHead LAN_HOST_REQUEST ++ (← packed 4 networkId)

def lanHostMessage (networkId : Nat) (stationLocation : Bytes) : Except Raised Bytes := do
  return lanHead LAN_HOST_MESSAGE ++ (← packed 4 networkId) ++ stationLocation

def lanSessionRequest (networkId : Nat) : Except Raised Bytes := do
  return lanHead LAN_SESSION_REQUEST ++ (← packed 4 networkId)

def lanSessionMessage (randomId seqId fragIndex numFrags fragSize : Nat) (fragData : Bytes) : Except Raised Bytes := do
  return lanHead LAN_SESSION_MESSAGE ++ (← packed 4 randomId) ++ (← packed 2 seqId) ++
    [← toByte fragIndex, ← toByte numFrags] ++ (← packed 4 fragSize) ++ fragData

def lanKeepAlive : Bytes := lanHead LAN_KEEP_ALIVE

def parseLanMessage (payload : Bytes) : Option (UInt8 × Bytes) :=
  if payload = [] then none else some (byteAt payload 0, payload.drop 12)

/-- The session info that a client reads of the first payload. -/
def sessionInfoRead (payloads : List Bytes) : Option Bytes := do
  let payload ← payloads.head?
  let (_, body) ← parseLanMessage payload
  return bytesAt body 12 ((Layout.uintBE 4).read (bytesAt body 8 4))

/-- **A session message is 24 bytes longer than its fragment, which reads back.** -/
theorem lanSessionMessage_eq_ok {randomId seqId fragIndex numFrags : Nat} {info msg : Bytes}
    (h : lanSessionMessage randomId seqId fragIndex numFrags info.length info = .ok msg) :
    msg.length = 24 + info.length ∧ sessionInfoRead [msg] = some info := by
  obtain ⟨random, hrandom, h⟩ := bind_eq_ok h
  obtain ⟨seq, hseq, h⟩ := bind_eq_ok h
  obtain ⟨index, -, h⟩ := bind_eq_ok h
  obtain ⟨count, -, h⟩ := bind_eq_ok h
  obtain ⟨size, hsize, h⟩ := bind_eq_ok h
  have hread := read_packed hsize
  obtain ⟨r0, r1, r2, r3, rfl⟩ := List.length_eq_four.1 (length_packed hrandom)
  obtain ⟨q0, q1, rfl⟩ := List.length_eq_two.1 (length_packed hseq)
  obtain ⟨z0, z1, z2, z3, rfl⟩ := List.length_eq_four.1 (length_packed hsize)
  rw [← Except.ok.inj h]
  refine ⟨?_, ?_⟩
  · simp only [lanHead, List.length_append, List.length_cons, List.length_nil, List.length_replicate]
  · show some (bytesAt info 0 ((Layout.uintBE 4).read [z0, z1, z2, z3])) = some info
    rw [hread, bytesAt, List.drop_zero, List.take_length]

section Joining

variable {κ : Type} {A : Aead κ 8} {key : κ} {frames before after : List Bytes} {dst packet info msg myIp : Bytes}
variable {c c' : RelayPeer}
variable {sport dport : Int} {srcVar dstVar nonceCtr packetId randomId seqId fragIndex numFrags : Nat} {layout : InfoLayout}
variable {name : List Char} {a : SessionArgs}

/-- **A host's session info reaches the client in a session message exactly in the layout of 5.3-5.6**: with the later one the
packet is sent in fragments, which the client does not keep. -/
theorem session_info_received (hip : myIp.length = 4) (hconstant : a.hostConstant.length = 8)
    (hvariable : a.hostVariable.length = 4) (hservice : a.hostService.length = 4)
    (hinfo : buildSessionInfo layout name myIp a = .ok info)
    (hmsg : lanSessionMessage randomId seqId fragIndex numFrags info.length info = .ok msg)
    (hbuild : Pia.buildPiaPacket A key [msg] c.ip srcVar dstVar nonceCtr packetId = .ok packet)
    (hsent : c.sendUdp dst sport dport packet = .ok (c', frames)) (haside : ∀ f ∈ before ++ after, RelayPeer.Aside dst f) :
    (readPayloads A key c.ip dst (before ++ frames ++ after)).bind sessionInfoRead =
      if layout = .from53 then some info else none := by
  obtain ⟨hmsgLen, hmsgRead⟩ := lanSessionMessage_eq_ok hmsg
  obtain ⟨hinfoLen, -⟩ := buildSessionInfo_eq_ok hip hconstant hvariable hservice hinfo
  have hlen : ([msg].flatMap Pia.message).length = 40 + SIZES layout + Pia.padding 4 (24 + SIZES layout) := by
    rw [List.flatMap_singleton, Pia.length_message, hmsgLen, hinfoLen]
    omega
  rw [readPayloads_sendUdp hbuild hsent haside, hlen]
  cases layout with
  | from53 =>
    have hkept : Pia.readBack [msg] = [msg] := by
      show [Pia.lastRead msg] = [msg]
      rw [Pia.lastRead, if_neg (by rw [hmsgLen, hinfoLen]; decide)]
    rw [if_pos ⟨by decide, List.cons_ne_nil _ _⟩, if_pos rfl, hkept]
    exact hmsgRead
  | from510 =>
    rw [if_neg (fun h => absurd h.1 (by decide)), if_neg (by decide)]
    rfl
  | _ => cases hinfo

end Joining

/-- A host of the layout of 5.3-5.6. -/
theorem session_info_received_room : ∃ info frames,
    buildSessionInfo .from53 "ROOM".toList roomIp {} = .ok info ∧
    (readPayloads Pia.aesGcm Pia.zeroKey RelayPeer.host.ip RelayPeer.guestIp ([] ++ frames ++ [])).bind sessionInfoRead =
      some info := by
  have hfits : ({} : SessionArgs).Fits := by constructor <;> decide
  obtain ⟨info, hinfo⟩ := exists_buildSessionInfo (.inl rfl) hfits "ROOM".toList roomIp
  obtain ⟨hinfoLen, -⟩ := buildSessionInfo_eq_ok rfl rfl rfl rfl hinfo
  have hsize : info.length = 1266 := hinfoLen
  obtain ⟨msg, hmsg⟩ : ∃ msg, lanSessionMessage 0x77778888 0 0 1 info.length info = .ok msg := by
    rw [hsize]
    exact ⟨_, rfl⟩
  obtain ⟨hmsgLen, -⟩ := lanSessionMessage_eq_ok hmsg
  obtain ⟨packet, hbuild⟩ := Pia.exists_buildPiaPacket Pia.aesGcm Pia.zeroKey [msg] RelayPeer.host.ip 1 2 0x22 1
    (fun pl hpl => by rw [List.mem_singleton.1 hpl, hmsgLen, hsize]; decide) (by decide) (by decide) (by decide) (by decide)
  have hlen : packet.length ≤ 1372 := by
    rw [Pia.length_buildPiaPacket hbuild, List.flatMap_singleton, Pia.length_message, hmsgLen, hsize]
    decide
  obtain ⟨frames, hsent⟩ := RelayPeer.exists_sendUdp (c := RelayPeer.host) rfl (rfl : RelayPeer.guestIp.length = 4) piaPort
    piaPort hlen
  exact ⟨info, frames, hinfo, session_info_received rfl rfl rfl rfl hinfo hmsg hbuild hsent (fun f hf => by cases hf)⟩

/-! ## Messages that fit into one frame -/

/-- The messages without session info.  A station location is an address and a port. -/
inductive LanMessage where
  | hostRequest (networkId : Nat)
  | hostMessage (networkId : Nat) (stationLocation : { b : Bytes // b.length = 6 })
  | sessionRequest (networkId : Nat)
  | keepAlive

namespace LanMessage

def build : LanMessage → Except Raised Bytes
  | hostRequest networkId => lanHostRequest networkId
  | hostMessage networkId stationLocation => lanHostMessage networkId stationLocation
  | sessionRequest networkId => lanSessionRequest networkId
  | keepAlive => .ok lanKeepAlive

def typ : LanMessage → UInt8
  | hostRequest _ => LAN_HOST_REQUEST
  | hostMessage _ _ => LAN_HOST_MESSAGE
  | sessionRequest _ => LAN_SESSION_REQUEST
  | keepAlive => LAN_KEEP_ALIVE

/-- The fields behind the padding. -/
def fields : LanMessage → Bytes
  | hostRequest networkId | sessionRequest networkId => (leBytes 4 networkId).reverse
  | hostMessage networkId stationLocation => (leBytes 4 networkId).reverse ++ stationLocation
  | keepAlive => []

/-- A request whose network id ends in an 0xFF: the message has a length divisible by four and ends in the id. -/
def EndsHigh : LanMessage → Prop
  | hostRequest networkId | sessionRequest networkId => networkId % 256 = 255
  | hostMessage _ _ | keepAlive => False

variable {m : LanMessage} {msg : Bytes}

theorem packed_bytes {n v : Nat} {b : Bytes} (h : packed n v = .ok b) : b = (leBytes n v).reverse := by
  have hpack : (if v < 256 ^ n then some (leBytes n v).reverse else none) = some b := orRaise_eq_ok h
  split at hpack
  · exact (Option.some.inj hpack).symm
  · cases hpack

theorem length_fields (m : LanMessage) : m.fields.length ≤ 10 := by
  cases m with
  | hostRequest n | sessionRequest n => simp [fields, length_leBytes]
  | hostMessage n loc => simp [fields, length_leBytes, loc.2]
  | keepAlive => simp [fields]

theorem length_fields_of_endsHigh (h : m.EndsHigh) : m.fields.length = 4 := by
  cases m with
  | hostRequest n | sessionRequest n => rw [fields, List.length_reverse, length_leBytes]
  | hostMessage n loc | keepAlive => cases h

theorem build_eq_ok (h : m.build = .ok msg) : msg = lanHead m.typ ++ m.fields := by
  cases m with
  | hostRequest n | sessionRequest n =>
    obtain ⟨id, hpack, h⟩ := bind_eq_ok h
    rw [← Except.ok.inj h, packed_bytes hpack]
    rfl
  | hostMessage n loc =>
    obtain ⟨id, hpack, h⟩ := bind_eq_ok h
    rw [← Except.ok.inj h, packed_bytes hpack, List.append_assoc]
    rfl
  | keepAlive => exact (Except.ok.inj h).symm.trans (List.append_nil _).symm

/-- **A message is read as its type and its fields.** -/
theorem parse_build (h : m.build = .ok msg) : parseLanMessage msg = some (m.typ, m.fields) := by
  rw [build_eq_ok h]
  rfl

/-- The last byte of a request is that of its network id. -/
theorem lastRead_request (typ : UInt8) (networkId : Nat) :
    Pia.lastRead (lanHead typ ++ (leBytes 4 networkId).reverse) = lanHead typ ++ (leBytes 4 networkId).reverse ↔
      ¬ networkId % 256 = 255 := by
  have hlen : (lanHead typ ++ (leBytes 4 networkId).reverse).length % 4 = 0 := by
    rw [List.length_append, List.length_reverse, length_leBytes, lanHead, List.length_append, List.length_replicate,
      List.length_singleton]
  have hlast : (lanHead typ ++ (leBytes 4 networkId).reverse).getLast? = some (UInt8.ofNat networkId) := by
    rw [show (leBytes 4 networkId).reverse = (leBytes 3 (networkId / 256)).reverse ++ [UInt8.ofNat networkId] from rfl,
      ← List.append_assoc, List.getLast?_concat]
  rw [Pia.lastRead_eq_self_iff, hlast]
  constructor
  · intro h hhigh
    refine h hlen (congrArg some (UInt8.toNat_inj.1 ?_))
    rw [UInt8.toNat_ofNat']
    exact hhigh
  · intro h _ hhigh
    apply h
    have hval := congrArg UInt8.toNat (Option.some.inj hhigh)
    rw [UInt8.toNat_ofNat'] at hval
    exact hval

theorem lastRead_build (h : m.build = .ok msg) : Pia.lastRead msg = msg ↔ ¬ m.EndsHigh := by
  rw [build_eq_ok h]
  cases m with
  | hostRequest n | sessionRequest n => exact lastRead_request _ n
  | hostMessage n loc =>
    refine iff_of_true ?_ id
    rw [Pia.lastRead, if_neg]
    simp [fields, lanHead, length_leBytes, loc.2]
  | keepAlive => exact iff_of_true rfl id

end LanMessage

section Message

variable {κ : Type} {A : Aead κ 8} {key : κ} {frames before after : List Bytes} {dst packet msg : Bytes}
variable {c c' : RelayPeer} {m : LanMessage}
variable {sport dport : Int} {srcVar dstVar nonceCtr packetId : Nat}

/-- **A message without session info, in a bundle of its own, is read as its type and its fields exactly if it is no request
whose network id ends in an 0xFF.** -/
theorem message_received_iff (hmsg : m.build = .ok msg)
    (hbuild : Pia.buildPiaPacket A key [msg] c.ip srcVar dstVar nonceCtr packetId = .ok packet)
    (hsent : c.sendUdp dst sport dport packet = .ok (c', frames)) (haside : ∀ f ∈ before ++ after, RelayPeer.Aside dst f) :
    ((readPayloads A key c.ip dst (before ++ frames ++ after)).bind fun payloads => payloads.head?.bind parseLanMessage) =
      some (m.typ, m.fields) ↔ ¬ m.EndsHigh := by
  have hlen : msg.length = 12 + m.fields.length := by
    rw [LanMessage.build_eq_ok hmsg, List.length_append]
    rfl
  have hfit : ([msg].flatMap Pia.message).length ≤ 1328 ∧ [msg] ≠ [] := by
    have hfields := m.length_fields
    refine ⟨?_, List.cons_ne_nil _ _⟩
    rw [List.flatMap_singleton, Pia.length_message, Pia.padding]
    omega
  rw [readPayloads_sendUdp hbuild hsent haside, if_pos hfit, ← LanMessage.lastRead_build hmsg]
  show parseLanMessage (Pia.lastRead msg) = _ ↔ _
  constructor
  · intro h
    by_contra hne
    have hhigh : m.EndsHigh := by_contra fun hlow => hne ((LanMessage.lastRead_build hmsg).2 hlow)
    -- as many fields are read as were sent, so that nothing was cut off
    unfold parseLanMessage at h
    split at h
    · cases h
    · have hfields := congrArg List.length (Prod.mk.inj (Option.some.inj h)).2
      have hsome := LanMessage.length_fields_of_endsHigh hhigh
      rw [List.length_drop] at hfields
      exact hne ((Pia.lastRead_prefix msg).eq_of_length (by omega))
  · intro h
    rw [h]
    exact LanMessage.parse_build hmsg

end Message

/-- A session request for the network 0x55556666, by the host's socket. -/
theorem message_received_request : ∃ frames : List Bytes,
    ((readPayloads Pia.aesGcm Pia.zeroKey RelayPeer.host.ip RelayPeer.guestIp ([] ++ frames ++ [])).bind fun payloads =>
      payloads.head?.bind parseLanMessage) = some (LAN_SESSION_REQUEST, [0x55, 0x55, 0x66, 0x66]) := by
  have hmsg : (LanMessage.sessionRequest 0x55556666).build = .ok (lanHead LAN_SESSION_REQUEST ++ [0x55, 0x55, 0x66, 0x66]) := rfl
  obtain ⟨packet, hbuild⟩ := Pia.exists_buildPiaPacket Pia.aesGcm Pia.zeroKey
    [lanHead LAN_SESSION_REQUEST ++ [0x55, 0x55, 0x66, 0x66]] RelayPeer.host.ip 1 2 0x11 1 (by decide) (by decide) (by decide)
    (by decide) (by decide)
  have hlen : packet.length ≤ 1372 := by
    rw [Pia.length_buildPiaPacket hbuild]
    decide
  obtain ⟨frames, hsent⟩ := RelayPeer.exists_sendUdp (c := RelayPeer.host) rfl (rfl : RelayPeer.guestIp.length = 4) piaPort
    piaPort hlen
  exact ⟨frames, (message_received_iff hmsg hbuild hsent (fun f hf => by cases hf)).2 (by decide : ¬ 0x55556666 % 256 = 255)⟩

/-! ## Session keys -/

def deriveSessionKey (gameKey sessionKeyParam : Bytes) : Except Raised Bytes :=
  match sessionKeyParam.getLast? with
  | none => .error .indexError
  | some c => .ok ((hmacSha256 gameKey (sessionKeyParam.dropLast ++ [c + 1])).take 16)

/-- **Every param but the empty one gives a key.** -/
theorem exists_deriveSessionKey {param : Bytes} (h : param ≠ []) (gameKey : Bytes) :
    ∃ skey, deriveSessionKey gameKey param = .ok skey ∧ skey.length = 16 := by
  rw [deriveSessionKey, List.getLast?_eq_some_getLast h]
  exact ⟨_, rfl, length_hmac16 _ _⟩

section Handshake

variable {κ : Type} {gameKey challengeKey counter addr myIp : Bytes} {version : Nat} {env : Environment} {p : Profile}
variable {o : ReplyArgs} {n : Int}

/-- **A console and a host with one game key meet**: the host opens the console's challenge and answers it, the console verifies
the answer, and the session key param that it reads, which is both challenge keys, gives both sides one session key. -/
theorem handshake (C : Aes κ) (hgame : gameKey.length = 16) (hchallenge : challengeKey.length = 16)
    (hcounter : counter.length = 8) (hversion : version < 256) (hip : myIp.length = 4) (hshared : p.key = gameKey)
    (hasks : p.challenge = true) (hlayout : p.layout = .from53 ∨ p.layout = .from510) (hfits : (p.sessionArgs myIp o []).Fits)
    (hkey : o.hostKey.length = 16) (haddr : replyBroadcast myIp o.broadcastAddr = .ok addr) (hon : env.challengeOff = false)
    (hcut : env.challengeLen = some n) (hn : 0x3A ≤ n) (hroom : 5 + SIZES p.layout + n ≤ MAX_BROWSE_REPLY_SIZE)
    (name : List Char) :
    ∃ req request block reply ex skey,
      buildBrowseRequest C true version (some counter) (some challengeKey) (some addr) (some gameKey) = .ok req ∧
      parseBrowseRequest req = some request ∧ request.challenge = some block ∧
      decryptRequestChallenge C gameKey block addr = .ok challengeAsked ∧
      buildBrowseReply C env p request myIp name o = .ok reply ∧ extractSessionInfo reply = some ex ∧
      verifyChallengeReply C gameKey block (filled CHALLENGE_SIZE (reply.drop (5 + SIZES p.layout))) addr =
        .ok ((hmacSha256 gameKey challengeAsked).take 16) ∧
      deriveSessionKey gameKey (o.hostKey ++ challengeKey) = .ok skey ∧
      (p.layout = .from510 → bytesAt ex.info 0x4F1 32 = o.hostKey ++ challengeKey ∧
        deriveSessionKey gameKey (bytesAt ex.info 0x4F1 32) = .ok skey) := by
  obtain ⟨block, tag, data, hblock, hlen, hparse, hopen⟩ := exists_requestBlock C hgame hchallenge hcounter hversion addr
  obtain ⟨req, hreq, hread⟩ := parse_buildBrowseRequest hblock hlen
  generalize hrequest : BrowseRequest.mk 0 SEARCH_CRITERIA_SIZE (List.replicate SEARCH_CRITERIA_SIZE 0) (some block) = request
    at hread
  have hcarried : request.challenge = some block := by rw [← hrequest]
  have hasked : p.asked request = some block := by rw [Profile.asked, if_pos hasks, hcarried]
  subst hshared
  obtain ⟨reply, hreply⟩ := exists_buildBrowseReply hip hasked hopen haddr hcut hlayout hfits name
  obtain ⟨challenge, hopened, hverified⟩ := reply_verifies hip hasked hkey haddr hon hcut hn hroom hreply
  rw [hopen] at hopened
  cases hopened
  obtain ⟨skp, info, size, rest, hskp, -, -, hparam, hsize, hparts, -, hrest⟩ := buildBrowseReply_eq_ok hip hreply
  have hboth : skp = o.hostKey ++ challengeKey := by
    simp only [sessionKeyParam, hasked] at hskp
    rw [hparse] at hskp
    exact (Except.ok.inj hskp).symm
  have hlong : (o.hostKey ++ challengeKey).length = 32 := by rw [List.length_append, hkey, hchallenge]
  have hne : o.hostKey ++ challengeKey ≠ [] := fun hnil => by
    rw [hnil] at hlong
    cases hlong
  obtain ⟨skey, hskey, -⟩ := exists_deriveSessionKey hne p.key
  refine ⟨req, request, block, reply, ⟨1, info.length, info, none⟩, skey, hreq, hread, hcarried, hopen, hreply,
    by rw [hparts, extractSessionInfo_reply hsize hrest], hverified, hskey, ?_⟩
  intro hlater
  have hinfo : bytesAt info 0x4F1 32 = o.hostKey ++ challengeKey := by
    rw [hparam hlater, hboth, Ldn.fit, hlong, Nat.sub_self, List.replicate_zero, List.append_nil,
      List.take_of_length_le (Nat.le_of_eq hlong)]
  exact ⟨hinfo, by rw [hinfo, hskey]⟩

end Handshake

/-- A console meets a host of "swsh". -/
theorem handshake_swsh : ∃ req request block reply,
    buildBrowseRequest AesGcm.aes true 2 (some (List.replicate 8 0)) (some (List.replicate 16 7)) (some roomBcast)
        (some swshKey) = .ok req ∧
      parseBrowseRequest req = some request ∧ request.challenge = some block ∧
      buildBrowseReply AesGcm.aes {} swsh request roomIp "ROOM".toList {} = .ok reply ∧
      verifyChallengeReply AesGcm.aes swshKey block (filled CHALLENGE_SIZE (reply.drop (5 + 0x511))) roomBcast =
        .ok ((hmacSha256 swshKey challengeAsked).take 16) := by
  obtain ⟨req, request, block, reply, ex, skey, hreq, hread, hcarried, -, hreply, -, hverified, -⟩ :=
    handshake (o := {}) AesGcm.aes (rfl : swshKey.length = 16) (rfl : (List.replicate 16 (7 : UInt8)).length = 16)
      (rfl : (List.replicate 8 (0 : UInt8)).length = 8) (by decide : 2 < 256) rfl rfl rfl (.inr rfl) swsh_fits rfl rfl
      (rfl : ({} : Environment).challengeOff = false) (rfl : ({} : Environment).challengeLen = some 0x3A) (by decide) (by decide)
      "ROOM".toList
  exact ⟨req, request, block, reply, hreq, hread, hcarried, hreply, hverified⟩

end Lan
end Slp
