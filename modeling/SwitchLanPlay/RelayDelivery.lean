import Mathlib.Data.List.Perm.Basic
import SwitchLanPlay.Packets
import SwitchLanPlay.RelayReassembly
/-!
# RelayDelivery — from one bridge's `SendIpv4` to the other's `PopIpv4`

The frames of a packet that `sendIpv4` sent, pumped in any order into a bridge with a free slot and room in its queue,
add that packet to the queue once, as long as it fits the pump loop's buffer (`packetCap`, 1428 bytes).  The drain loop
reads up to 2088 bytes and the slots hold 5600, so a packet between 1429 and 2088 bytes is sent, reassembled and then
dropped (`drained_iff_fits_pump_buffer`).
-/
namespace Slp

open Wire

/-- The drain loop's buffer, `sizeof(pkt)` in `DrainRawRelayQueue`. -/
def drainBufSize : Nat := 20 + 20 + maxBridgedPayload

namespace RelayBridge

/-- The packets queued, oldest first. -/
def queued (b : RelayBridge) : List Bytes := b.queue.toList.map (·.bytes)

/-! ## Sending -/

theorem sendParts_ok (b : RelayBridge) (sendto : Nat → Bool) (p : Bytes) (id : UInt16) : ∀ (parts : List Nat),
    0 ≤ (b.sendParts sendto p id parts).2 → (b.sendParts sendto p id parts).1 = parts.map (fragFrame p id)
  | [], _ => rfl
  | part :: rest, h => by
    simp only [sendParts] at h ⊢
    split at h
    · rename_i hrc
      exact absurd h (by simpa using hrc)
    · rename_i hrc
      simp only at h
      rw [if_neg hrc, List.map_cons, sendParts_ok b sendto p id rest h]

/-- **The frames of a packet that was sent**: itself behind a type byte, or all of its fragments in order. -/
theorem frames_of_sendIpv4 (b : RelayBridge) (sendto : Nat → Bool) (p : Bytes)
    (h : 0 ≤ (b.sendIpv4 sendto p).ret) :
    (b.sendIpv4 sendto p).frames =
      if p.length ≤ relayMtu then [RelayFrameType.ipv4.code :: p]
      else (List.range (totalParts p)).map (fragFrame p b.nextFragId) := by
  unfold sendIpv4 at h ⊢
  by_cases hc : b.connected = true
  · simp only [hc, Bool.not_true, Bool.false_eq_true, if_false] at h ⊢
    by_cases hs : p.length ≤ relayMtu
    · simp only [hs, if_true] at h ⊢
      rw [if_neg (by omega)]
    · simp only [hs, if_false] at h ⊢
      unfold sendFragmented at h ⊢
      split at h
      · simp at h
      · rename_i ht
        rw [if_neg ht]
        exact sendParts_ok b sendto p _ _ h
  · simp only [Bool.not_eq_true] at hc
    simp [hc] at h

/-! ## Receiving -/

theorem queue_push (q : RingQueue queueSize (ByteBuf packetCap)) (p : ByteBuf packetCap) (h : q.count < queueSize) :
    (q.push p).toList.map (·.bytes) = q.toList.map (·.bytes) ++ [p.bytes] := by
  rw [RingQueue.toList_push q p h, List.map_append, List.map_singleton]

/-- **An IPV4 frame whose packet fits is queued.** -/
theorem queued_pump_ipv4 (b : RelayBridge) (p : Bytes) (hp : p.length ≤ relayMtu) (hroom : b.queue.count < queueSize) :
    (b.pump (RelayFrameType.ipv4.code :: p)).queued = b.queued ++ [p] := by
  have htake : (RelayFrameType.ipv4.code :: p).take (1 + relayMtu + fragHeaderSize) = RelayFrameType.ipv4.code :: p :=
    List.take_of_length_le (by simp; omega)
  have hcap : p.length ≤ packetCap := by unfold packetCap; omega
  have htag : RelayFrameType.ofByte? (RelayFrameType.ipv4.code &&& 0x7F) = some .ipv4 := by decide
  simp only [pump, recvIpv4, htake, htag, dif_pos hcap]
  exact queue_push b.queue ⟨p, hcap⟩ hroom

/-- **A fragment frame goes to the reassembler; what that delivers is queued.** -/
theorem pump_fragFrame (b : RelayBridge) {p : Bytes} (hp : 20 ≤ p.length) (id : UInt16) (part : Nat) :
    b.pump (fragFrame p id part) =
      { b with
        reassembler := (b.reassembler.reassembleFrag (fragment p id part) packetCap).1
        queue := (b.reassembler.reassembleFrag (fragment p id part) packetCap).2.elim b.queue b.queue.push } := by
  have hlen := length_fragment hp id part
  have hle := length_partBytes_le p part
  rw [fragChunk_eq] at hle
  have htake : (fragFrame p id part).take (1 + relayMtu + fragHeaderSize) = fragFrame p id part :=
    List.take_of_length_le (by simp [fragFrame, hlen, relayMtu, fragHeaderSize]; omega)
  have hmin : ¬ (fragFrame p id part).length < 1 + fragHeaderSize := by simp [fragFrame, hlen]; omega
  have htag : RelayFrameType.ofByte? (RelayFrameType.ipv4Frag.code &&& 0x7F) = some .ipv4Frag := by decide
  rw [fragFrame] at htake hmin ⊢
  simp only [pump, recvIpv4, htake, htag, if_neg hmin]
  cases (b.reassembler.reassembleFrag (fragment p id part) packetCap).2 <;> rfl

/-- **Pumped fragments are fed to the reassembler, and what it delivers is queued in order.** -/
theorem queued_pumpAll_fragFrames {p : Bytes} (hp : 20 ≤ p.length) (id : UInt16) : ∀ (parts : List Nat)
    (b : RelayBridge),
    b.queue.count + (b.reassembler.feed packetCap (parts.map (fragment p id))).2.length ≤ queueSize →
    (b.pumpAll (parts.map (fragFrame p id))).queued =
      b.queued ++ (b.reassembler.feed packetCap (parts.map (fragment p id))).2
  | [], b, _ => by simp [pumpAll, Reassembler.feed]
  | part :: rest, b, h => by
    simp only [List.map_cons, Reassembler.feed_cons] at h ⊢
    rw [pumpAll, List.foldl_cons, pump_fragFrame b hp id part]
    cases hout : (b.reassembler.reassembleFrag (fragment p id part) packetCap).2 with
    | none =>
      rw [hout] at h
      have ih := queued_pumpAll_fragFrames hp id rest
        { b with reassembler := (b.reassembler.reassembleFrag (fragment p id part) packetCap).1 } (by simpa using h)
      simpa [pumpAll, queued] using ih
    | some q =>
      rw [hout] at h
      simp only [Option.map_some, Option.toList_some, List.singleton_append, List.length_cons] at h
      have hcount : (b.queue.push q).count = b.queue.count + 1 := by simp [RingQueue.push, show b.queue.count < queueSize by omega]
      have ih := queued_pumpAll_fragFrames hp id rest
        { b with reassembler := (b.reassembler.reassembleFrag (fragment p id part) packetCap).1
                 queue := b.queue.push q } (by simp only [hcount]; omega)
      have hq := queue_push b.queue q (by omega)
      simp only [pumpAll, queued, Option.elim_some] at ih ⊢
      rw [ih, hq]
      simp

/-! ## Popping -/

theorem popWhile_eq (outBufSize : Nat) (hcap : packetCap ≤ outBufSize) : ∀ (n : Nat) (b : RelayBridge),
    b.queue.count = n → (popWhile outBufSize n b).2 = b.queued
  | 0, b, h => by
    have : b.queue.toList = [] := List.eq_nil_of_length_eq_zero (by simpa using h)
    simp [popWhile, queued, this]
  | n + 1, b, h => by
    cases hf : b.queue.front? with
    | none =>
      have := congrArg List.length (b.queue.toList_of_front_none hf)
      simp [h] at this
    | some q =>
      have hsize : ¬ outBufSize < q.size := by
        have : q.size ≤ packetCap := q.size_le
        omega
      have hpop : b.popIpv4 outBufSize = ({ b with queue := b.queue.pop }, some q.bytes) := by
        simp only [popIpv4, hf, if_neg hsize]
      have hcount : b.queue.pop.count = n := by show b.queue.count - 1 = n; omega
      simp only [popWhile, hpop]
      rw [popWhile_eq outBufSize hcap n { b with queue := b.queue.pop } hcount, queued, queued,
        b.queue.toList_pop q hf, List.map_cons]

/-- **A buffer no smaller than a queue entry pops everything queued, in order.** -/
theorem popAll_eq_queued (b : RelayBridge) {outBufSize : Nat} (hcap : packetCap ≤ outBufSize) :
    (b.popAll outBufSize).2 = b.queued := popWhile_eq outBufSize hcap _ b rfl

theorem popAll_drain (b : RelayBridge) : (b.popAll drainBufSize).2 = b.queued := b.popAll_eq_queued (by decide)

/-! ## From end to end -/

/-- A slot is free and none accumulates the group already: the packet's first fragment claims a free slot. -/
theorem pickSlot_free (r : Reassembler) {id : UInt16} {srcIp : Bytes} (hfresh : r.Fresh id srcIp)
    (hfree : ∃ k, (r.slots k).used = false) : ∃ k, r.pickSlot id srcIp = some (k, false) := by
  obtain ⟨k, hk⟩ := hfree
  obtain ⟨j, hj⟩ := SlotTable.first_ne_none (p := fun s : ReassemblySlot => !s.used) (t := r.slots) (k := k) (by simp [hk])
  refine ⟨j, ?_⟩
  rw [Reassembler.pickSlot, SlotTable.first_eq_none_iff.2 hfresh, hj]

/-- **What the second bridge queues of a packet the first one sent**: the packet once, or nothing when it outgrows the
pump loop's buffer. -/
theorem queued_pumpAll_frames {A B : RelayBridge} {sendto : Nat → Bool} {p : Bytes} {arrivals : List Bytes}
    (h20 : 20 ≤ p.length) (hmax : p.length ≤ drainBufSize) (hsent : 0 ≤ (A.sendIpv4 sendto p).ret)
    (harrive : arrivals.Perm (A.sendIpv4 sendto p).frames) (hfree : ∃ k, (B.reassembler.slots k).used = false)
    (hfresh : B.reassembler.Fresh A.nextFragId (bytesAt p 12 4)) (hroom : B.queue.count < queueSize) :
    (B.pumpAll arrivals).queued = B.queued ++ (if p.length ≤ packetCap then [p] else []) := by
  rw [frames_of_sendIpv4 A sendto p hsent] at harrive
  by_cases hs : p.length ≤ relayMtu
  · rw [if_pos hs] at harrive
    rw [List.perm_singleton.1 harrive, if_pos (by unfold packetCap; omega)]
    exact queued_pump_ipv4 B p hs hroom
  · rw [if_neg hs] at harrive
    obtain ⟨parts, hparts, rfl⟩ : ∃ parts : List Nat,
        parts.Perm (List.range (totalParts p)) ∧ arrivals = parts.map (fragFrame p A.nextFragId) := by
      obtain ⟨parts, heq, hperm⟩ := (congrFun (congrFun (List.eq_map_comp_perm (fragFrame p A.nextFragId)) arrivals)
        (List.range (totalParts p))).mpr harrive
      exact ⟨parts, hperm, heq⟩
    obtain ⟨k, hk⟩ := pickSlot_free B.reassembler hfresh hfree
    have hslot : p.length ≤ slotBufferSize := Nat.le_trans hmax (by decide)
    obtain ⟨-, hout⟩ := B.reassembler.feed_fragments h20 hslot packetCap hfresh hk hparts
    rw [queued_pumpAll_fragFrames h20 _ _ _ (by rw [hout]; split <;> simp <;> omega), hout]

/-- **A packet the relay carried comes out of the drain loop once exactly when it fits the pump loop's buffer.**  A slot is
free and none is half-way through an older packet of the same id and source, as when all four are free. -/
theorem drained_iff_fits_pump_buffer {A B : RelayBridge} {sendto : Nat → Bool} {p : Bytes} {arrivals : List Bytes}
    (h20 : 20 ≤ p.length) (hmax : p.length ≤ drainBufSize) (hsent : 0 ≤ (A.sendIpv4 sendto p).ret)
    (harrive : arrivals.Perm (A.sendIpv4 sendto p).frames) (hfree : ∃ k, (B.reassembler.slots k).used = false)
    (hfresh : B.reassembler.Fresh A.nextFragId (bytesAt p 12 4)) (hroom : B.queue.count < queueSize) :
    ((B.pumpAll arrivals).popAll drainBufSize).2 = (B.popAll drainBufSize).2 ++ [p] ↔ p.length ≤ packetCap := by
  rw [popAll_drain, popAll_drain, queued_pumpAll_frames h20 hmax hsent harrive hfree hfresh hroom]
  by_cases hfit : p.length ≤ packetCap
  · rw [if_pos hfit]
    exact iff_of_true rfl hfit
  · rw [if_neg hfit]
    refine iff_of_false (fun h => ?_) hfit
    exact absurd (List.append_cancel_left h) (by simp)

/-! ## On fresh bridges -/

theorem sendParts_ret (b : RelayBridge) (hc : b.connected = true) (p : Bytes) (id : UInt16) : ∀ (parts : List Nat),
    (b.sendParts (fun _ => true) p id parts).2 = p.length
  | [] => rfl
  | part :: rest => by
    simp only [sendParts, sendRaw, hc]
    rw [if_neg (by simp)]
    exact sendParts_ret b hc p id rest

theorem sendIpv4_ret (b : RelayBridge) (hc : b.connected = true) {p : Bytes} (hp : p.length ≤ drainBufSize) :
    0 ≤ (b.sendIpv4 (fun _ => true) p).ret := by
  unfold sendIpv4
  simp only [hc, Bool.not_true, Bool.false_eq_true, if_false]
  by_cases hs : p.length ≤ relayMtu
  · simp [hs, sendRaw, hc]
    omega
  · have hparts : totalParts p ≤ 5 := totalParts_le (Nat.le_trans hp (by decide))
    simp only [hs, if_false, sendFragmented]
    rw [if_neg (by omega)]
    simp only [sendParts_ret b hc]
    omega

/-- The segment of a `SendTo` of `n` zero bytes on a station connection. -/
def stationSegment (n : Nat) : Segment where
  srcIp := 0x0A0D0001
  dstIp := 0x0A0D0002
  srcPort := ldnControlPort
  dstPort := ldnControlPort
  seq := 1
  ack := 1
  flags := TCP_PSH ||| TCP_ACK
  payload := List.replicate n 0

theorem init_free : ∃ k, (init.connect.reassembler.slots k).used = false := ⟨⟨0, by decide⟩, rfl⟩

theorem init_fresh (id : UInt16) (srcIp : Bytes) : init.connect.reassembler.Fresh id srcIp := fun _ => rfl

theorem packet_stationSegment {n : Nat} (h : n ≤ maxBridgedPayload) :
    ∃ p, (stationSegment n).packet? = some p ∧ p.length = 40 + n := by
  obtain ⟨p, hp⟩ : ∃ p, (stationSegment n).packet? = some p :=
    ⟨_, if_neg (by simp [stationSegment]; omega)⟩
  exact ⟨p, hp, by simpa [stationSegment] using Segment.length_packet hp⟩

/-- A 1388-byte `SendTo` just fits. -/
theorem drained_iff_fits_pump_buffer_1388 : ∃ p, (stationSegment 1388).packet? = some p ∧
    ((init.connect.pumpAll (init.connect.sendIpv4 (fun _ => true) p).frames).popAll drainBufSize).2 =
      (init.connect.popAll drainBufSize).2 ++ [p] := by
  obtain ⟨p, hp, hlen⟩ := packet_stationSegment (n := 1388) (by decide)
  refine ⟨p, hp, (drained_iff_fits_pump_buffer (by omega) (by rw [hlen]; decide) ?_ (List.Perm.refl _) init_free
    (init_fresh _ _) (by decide)).2 (by rw [hlen]; decide)⟩
  exact sendIpv4_ret _ rfl (by rw [hlen]; decide)

/-- **One byte more is lost**: both fragments of a 1389-byte `SendTo` are sent and arrive in order, all slots and the whole
queue are free, and nothing is drained. -/
theorem segment_1389_lost : ∃ p, (stationSegment 1389).packet? = some p ∧ 20 ≤ p.length ∧ p.length ≤ drainBufSize ∧
    0 ≤ (init.connect.sendIpv4 (fun _ => true) p).ret ∧
    ((init.connect.pumpAll (init.connect.sendIpv4 (fun _ => true) p).frames).popAll drainBufSize).2 ≠
      (init.connect.popAll drainBufSize).2 ++ [p] := by
  obtain ⟨p, hp, hlen⟩ := packet_stationSegment (n := 1389) (by decide)
  have hmax : p.length ≤ drainBufSize := by rw [hlen]; decide
  have hsent := sendIpv4_ret init.connect rfl hmax
  refine ⟨p, hp, by omega, hmax, hsent, ?_⟩
  rw [popAll_drain, popAll_drain, queued_pumpAll_frames (by omega) hmax hsent (List.Perm.refl _) init_free
    (init_fresh _ _) (by decide), if_neg (by rw [hlen]; decide)]
  simp

end RelayBridge
end Slp
