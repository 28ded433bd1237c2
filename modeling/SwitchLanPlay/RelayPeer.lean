import SwitchLanPlay.RelayBridge
import SwitchLanPlay.StructLayout
/-!
# RelayPeer — the end-to-end test's virtual console (tools/test_lan.py, tools/slp_spike.py)

`RelayPeer.send_udp` builds a UDP packet and sends it as one frame or as fragments.  The fragments go out with the type
byte 0x02, which the bridge reads as a ping: it understands the frames exactly of a packet that needs one
(`sendUdp_understood_iff`).
-/
namespace Slp

open Wire

/-- What the packing calls and the part limit raise. -/
inductive SendError where
  | structError
  | valueError
deriving DecidableEq

/-! ## Packets (slp_spike.py) -/

namespace Spike

/-- `ip_to_int`. -/
def ipToInt (ip : Bytes) : Except SendError Bytes := if ip.length = 4 then .ok ip else .error .structError

/-- An unsigned 16-bit field of `struct.pack`. -/
def packU16 (n : Int) : Except SendError Bytes :=
  if 0 ≤ n ∧ n < 65536 then .ok (be16 (UInt16.ofNat n.toNat)) else .error .structError

/-- `build_ipv4`: the checksum is left 0. -/
def buildIpv4 (src dst : Bytes) (proto : UInt8) (payload : Bytes) : Except SendError Bytes := do
  let total ← packU16 (20 + payload.length)
  let src ← ipToInt src
  let dst ← ipToInt dst
  return [0x45, 0x00] ++ total ++ be16 0 ++ be16 0 ++ [64, proto] ++ be16 0 ++ src ++ dst ++ payload

def buildUdp (src : Bytes) (sport : Int) (dst : Bytes) (dport : Int) (payload : Bytes) : Except SendError Bytes := do
  let sport ← packU16 sport
  let dport ← packU16 dport
  let len ← packU16 (8 + payload.length)
  buildIpv4 src dst 17 (sport ++ dport ++ len ++ be16 0 ++ payload)

theorem length_packU16 {n : Int} {b : Bytes} (h : packU16 n = .ok b) : b.length = 2 := by
  unfold packU16 at h
  split at h
  · cases h; rfl
  · cases h

theorem length_ipToInt {ip b : Bytes} (h : ipToInt ip = .ok b) : b.length = 4 := by
  unfold ipToInt at h
  split at h
  · cases h; assumption
  · cases h

theorem ok_bind {α β : Type} (a : α) (f : α → Except SendError β) : (Except.ok a >>= f) = f a := rfl

/-- **A packet is 28 bytes longer than what it carries.** -/
theorem length_buildUdp {src dst payload packet : Bytes} {sport dport : Int}
    (h : buildUdp src sport dst dport payload = .ok packet) : packet.length = 28 + payload.length := by
  obtain ⟨s, hs, h⟩ := bind_eq_ok h
  obtain ⟨d, hd, h⟩ := bind_eq_ok h
  obtain ⟨l, hl, h⟩ := bind_eq_ok h
  obtain ⟨t, ht, h⟩ := bind_eq_ok h
  obtain ⟨si, hsi, h⟩ := bind_eq_ok h
  obtain ⟨di, hdi, h⟩ := bind_eq_ok h
  cases h
  simp [length_packU16 hs, length_packU16 hd, length_packU16 hl, length_packU16 ht, length_ipToInt hsi, length_ipToInt hdi]
  omega

theorem packU16_ok {n : Int} (h0 : 0 ≤ n) (h : n < 65536) : packU16 n = .ok (be16 (UInt16.ofNat n.toNat)) :=
  if_pos ⟨h0, h⟩

theorem ipToInt_ok {ip : Bytes} (h : ip.length = 4) : ipToInt ip = .ok ip := if_pos h

/-- **Addresses of four bytes, 16-bit ports and a payload that fits the length fields are packed.** -/
theorem exists_buildUdp {src dst payload : Bytes} {sport dport : Int} (hsrc : src.length = 4) (hdst : dst.length = 4)
    (hsport : 0 ≤ sport ∧ sport < 65536) (hdport : 0 ≤ dport ∧ dport < 65536) (hlen : payload.length + 28 < 65536) :
    ∃ packet, buildUdp src sport dst dport payload = .ok packet := by
  have hip : ∀ body : Bytes, body.length + 20 < 65536 → ∃ packet, buildIpv4 src dst 17 body = .ok packet := by
    intro body hbody
    rw [buildIpv4, packU16_ok (by omega) (by omega), ipToInt_ok hsrc, ipToInt_ok hdst, ok_bind, ok_bind, ok_bind]
    exact ⟨_, rfl⟩
  rw [buildUdp, packU16_ok hsport.1 hsport.2, packU16_ok hdport.1 hdport.2, packU16_ok (by omega) (by omega), ok_bind,
    ok_bind, ok_bind]
  refine hip _ ?_
  simp only [List.length_append, length_be16]
  omega

end Spike

/-! ## The peer (test_lan.py) -/

/-- `_frag_id` is 0 until the first fragmented packet. -/
structure RelayPeer where
  ip : Bytes
  fragId : UInt16 := 0

namespace RelayPeer

/-- `SLP_MTU`. -/
def slpMtu : Nat := 1400

/-- `MAX_PARTS`. -/
def maxParts : Nat := 4

/-- `send_raw`. -/
def rawFrame (typ : UInt8) (payload : Bytes) : Bytes := typ :: payload

def totalOf (packet : Bytes) : Nat := (packet.length + slpMtu - 1) / slpMtu

/-- One fragment of `send_udp`. -/
def partFrame (ip dst : Bytes) (id : UInt16) (packet : Bytes) (part : Nat) : Bytes :=
  let chunk := bytesAt packet (part * slpMtu) slpMtu
  let hdr : FragHeader := ⟨ip, dst, id, UInt8.ofNat part, UInt8.ofNat (totalOf packet), UInt16.ofNat chunk.length,
    UInt16.ofNat slpMtu⟩
  rawFrame 0x02 (hdr.encode ++ chunk)

/-- The peer after the call and the frames sent. -/
def sendUdp (c : RelayPeer) (dst : Bytes) (sport dport : Int) (payload : Bytes) :
    Except SendError (RelayPeer × List Bytes) := do
  let packet ← Spike.buildUdp c.ip sport dst dport payload
  if packet.length ≤ slpMtu then return (c, [rawFrame 0x01 packet])
  else if maxParts < totalOf packet then throw .valueError
  else
    let id := c.fragId + 1
    return ({ c with fragId := id }, (List.range (totalOf packet)).map (partFrame c.ip dst id packet))

end RelayPeer

namespace RelayBridge

/-- The packets `RecvIpv4` delivers of the datagrams that arrive. -/
def recvAll (outBufSize : Nat) : RelayBridge → List Bytes → List Bytes
  | _, [] => []
  | b, datagram :: rest =>
    match b.recvIpv4 datagram outBufSize with
    | (b', .packet p) => p.bytes :: recvAll outBufSize b' rest
    | (b', _) => recvAll outBufSize b' rest

theorem recvIpv4_ping (b : RelayBridge) (body : Bytes) (outBufSize : Nat) :
    b.recvIpv4 (0x02 :: body) outBufSize = (b, .handled) := rfl

theorem recvAll_pings (outBufSize : Nat) (b : RelayBridge) : ∀ (frames : List Bytes),
    (∀ f ∈ frames, ∃ body, f = 0x02 :: body) → b.recvAll outBufSize frames = []
  | [], _ => rfl
  | f :: rest, h => by
    obtain ⟨body, rfl⟩ := h f (List.mem_cons_self ..)
    rw [recvAll, recvIpv4_ping]
    exact recvAll_pings outBufSize b rest fun g hg => h g (List.mem_cons_of_mem _ hg)

theorem recvAll_ipv4 (b : RelayBridge) {packet : Bytes} (hmtu : packet.length ≤ relayMtu) {outBufSize : Nat}
    (hout : packet.length ≤ outBufSize) : b.recvAll outBufSize [0x01 :: packet] = [packet] := by
  have hraw : (0x01 :: packet).take (1 + relayMtu + fragHeaderSize) = 0x01 :: packet :=
    List.take_of_length_le (by rw [List.length_cons]; omega)
  have hrecv : b.recvIpv4 (0x01 :: packet) outBufSize = (b, .packet ⟨packet, hout⟩) := by
    unfold recvIpv4
    rw [hraw]
    show (if h : packet.length ≤ outBufSize then (b, Received.packet ⟨packet, h⟩) else (b, .noData)) = _
    rw [dif_pos hout]
  rw [recvAll, hrecv]
  rfl

end RelayBridge

namespace RelayPeer

section SendUdp

variable {c c' : RelayPeer} {dst payload packet : Bytes} {sport dport : Int} {frames : List Bytes}

/-- **What a successful call sends**: the packet in one frame, or frames that begin with 0x02. -/
theorem frames_of_sendUdp (hpacket : Spike.buildUdp c.ip sport dst dport payload = .ok packet)
    (hsent : c.sendUdp dst sport dport payload = .ok (c', frames)) :
    if packet.length ≤ slpMtu then frames = [0x01 :: packet] else ∀ f ∈ frames, ∃ body, f = 0x02 :: body := by
  unfold sendUdp at hsent
  obtain ⟨q, hq, hsent⟩ := bind_eq_ok hsent
  rw [hpacket] at hq
  cases hq
  by_cases hmtu : packet.length ≤ slpMtu
  · rw [if_pos hmtu] at hsent ⊢
    cases hsent
    rfl
  · rw [if_neg hmtu] at hsent ⊢
    by_cases hparts : maxParts < totalOf packet
    · rw [if_pos hparts] at hsent
      cases hsent
    · rw [if_neg hparts] at hsent
      cases hsent
      intro f hf
      obtain ⟨part, -, rfl⟩ := List.mem_map.1 hf
      exact ⟨_, rfl⟩

/-- **The bridge understands the frames of a packet, in any order, exactly if the payload has at most 1372 bytes**, so that
the packet needs one frame. -/
theorem sendUdp_understood_iff (hpacket : Spike.buildUdp c.ip sport dst dport payload = .ok packet)
    (hsent : c.sendUdp dst sport dport payload = .ok (c', frames)) {arrivals : List Bytes} (harrive : arrivals.Perm frames)
    (b : RelayBridge) {outBufSize : Nat} (hout : packet.length ≤ outBufSize) :
    b.recvAll outBufSize arrivals = [packet] ↔ payload.length ≤ 1372 := by
  have hframes := frames_of_sendUdp hpacket hsent
  have hlen := Spike.length_buildUdp hpacket
  by_cases hmtu : packet.length ≤ slpMtu
  · rw [if_pos hmtu] at hframes
    rw [hframes, List.perm_singleton] at harrive
    rw [harrive, b.recvAll_ipv4 hmtu hout]
    have : packet.length ≤ 1400 := hmtu
    exact iff_of_true rfl (by omega)
  · rw [if_neg hmtu] at hframes
    rw [b.recvAll_pings outBufSize arrivals fun f hf => hframes f (harrive.mem_iff.1 hf)]
    have : ¬ packet.length ≤ 1400 := hmtu
    exact iff_of_false (by simp) (by omega)

end SendUdp

/-- The test's host. -/
def host : RelayPeer := { ip := [10, 13, 37, 100] }

def guestIp : Bytes := [10, 13, 37, 101]

/-- **The shortest payload that needs fragments is lost**: two frames are sent, and the bridge delivers nothing. -/
theorem sendUdp_1373_lost : ∃ packet c frames,
    Spike.buildUdp host.ip 30000 guestIp 30000 (List.replicate 1373 0) = .ok packet ∧
    host.sendUdp guestIp 30000 30000 (List.replicate 1373 0) = .ok (c, frames) ∧ frames.length = 2 ∧
    packet.length ≤ slotBufferSize ∧ (∀ k, (RelayBridge.init.connect.reassembler.slots k).used = false) ∧
    RelayBridge.init.connect.recvAll slotBufferSize frames ≠ [packet] := by
  obtain ⟨packet, hpacket⟩ : ∃ packet,
      Spike.buildUdp host.ip 30000 guestIp 30000 (List.replicate 1373 0) = .ok packet :=
    Spike.exists_buildUdp rfl rfl (by decide) (by decide) (by rw [List.length_replicate]; decide)
  have hlen := Spike.length_buildUdp hpacket
  rw [List.length_replicate] at hlen
  have hmtu : ¬ packet.length ≤ slpMtu := by rw [hlen]; decide
  have htotal : totalOf packet = 2 := by rw [totalOf, hlen]; rfl
  have hsent : host.sendUdp guestIp 30000 30000 (List.replicate 1373 0) =
      .ok ({ host with fragId := 1 }, (List.range 2).map (partFrame host.ip guestIp 1 packet)) := by
    rw [sendUdp, hpacket]
    show (if packet.length ≤ slpMtu then _ else _) = _
    rw [if_neg hmtu, htotal, if_neg (by decide)]
    rfl
  refine ⟨packet, _, _, hpacket, hsent, by simp, by rw [hlen]; decide, fun _ => rfl, ?_⟩
  have hframes := frames_of_sendUdp hpacket hsent
  rw [if_neg hmtu] at hframes
  rw [RelayBridge.recvAll_pings _ _ _ hframes]
  simp

/-- A packet of one frame, to a bridge as connected. -/
theorem sendUdp_understood_one : ∃ packet c frames,
    host.sendUdp guestIp 30000 30000 [1, 2, 3] = .ok (c, frames) ∧
    RelayBridge.init.connect.recvAll slotBufferSize frames = [packet] := by
  have hpacket : ∃ packet, Spike.buildUdp host.ip 30000 guestIp 30000 [1, 2, 3] = .ok packet := ⟨_, rfl⟩
  have hsent : ∃ c frames, host.sendUdp guestIp 30000 30000 [1, 2, 3] = .ok (c, frames) := ⟨_, _, rfl⟩
  obtain ⟨packet, hpacket⟩ := hpacket
  obtain ⟨c, frames, hsent⟩ := hsent
  have hlen : packet.length ≤ slotBufferSize := by
    rw [Spike.length_buildUdp hpacket]
    decide
  exact ⟨packet, c, frames, hsent,
    (sendUdp_understood_iff hpacket hsent (List.Perm.refl _) RelayBridge.init.connect hlen).2 (by decide)⟩

end RelayPeer
end Slp
