import SwitchLanPlay.OnesComplement
import SwitchLanPlay.PacketRoundTrip
/-!
# Checksums — every packet sent passes the receiver's checks

`ipHeaderSum` and `tcpSegmentSum` are what a receiver computes from the bytes of a packet: the one's-complement sums of the
header, and of the segment with its pseudo header.  The packets of `SendTcpSegment` and of the bridged `SendTo` have 0xFFFF
there, whatever their fields and their payload, and their accumulators never outgrow 32 bits (`emitted_checks`).
-/
namespace Slp

open Wire OnesComplement

/-! ## Words -/

/-- The 16-bit words of a byte string; an odd last byte is the high half of one. -/
def words : Bytes → List Nat
  | [] => []
  | [a] => [a.toNat * 256]
  | a :: b :: rest => (a.toNat * 256 + b.toNat) :: words rest

theorem words_le : ∀ (b : Bytes), ∀ w ∈ words b, w ≤ 0xFFFF
  | [], _, hw => by cases hw
  | [a], w, hw => by
    have ha := a.toNat_lt
    have hw' : w = a.toNat * 256 := List.mem_singleton.1 hw
    omega
  | a :: b :: rest, w, hw => by
    have ha := a.toNat_lt
    have hb := b.toNat_lt
    rcases List.mem_cons.1 hw with rfl | hw
    · omega
    · exact words_le rest w hw

theorem sum_words_le : ∀ (b : Bytes), (words b).sum ≤ 0xFFFF * b.length
  | [] => Nat.le_refl 0
  | [a] => by
    have ha := a.toNat_lt
    simp only [words, List.sum_cons, List.sum_nil, List.length_singleton]
    omega
  | a :: b :: rest => by
    have ha := a.toNat_lt
    have hb := b.toNat_lt
    have ih := sum_words_le rest
    simp only [words, List.sum_cons, List.length_cons]
    omega

theorem words_append : ∀ {a : Bytes} (b : Bytes), a.length % 2 = 0 → words (a ++ b) = words a ++ words b
  | [], _, _ => rfl
  | [_], _, h => by simp at h
  | x :: y :: rest, b, h => by
    have hrest : rest.length % 2 = 0 := by
      simp only [List.length_cons] at h
      omega
    simp only [List.cons_append, words, words_append b hrest]

theorem words_be16 (x : UInt16) : words (be16 x) = [x.toNat] := by
  have hx := x.toNat_lt
  simp only [be16, words, UInt16.toNat_toUInt8, UInt16.toNat_shiftRight]
  congr 1
  simp [Nat.shiftRight_eq_div_pow]
  omega

/-- **The accumulator of the code counts the words**, modulo its width. -/
theorem toNat_wordSum : ∀ (b : Bytes), (wordSum b).toNat = (words b).sum % 2 ^ 32
  | [] => rfl
  | [a] => by
    have ha := a.toNat_lt
    simp [wordSum, words, Nat.shiftLeft_eq]
  | a :: b :: rest => by
    have ha := a.toNat_lt
    have hb := b.toNat_lt
    have ih := toNat_wordSum rest
    have hor := Nat.shiftLeft_add_eq_or_of_lt (i := 8) hb a.toNat
    simp only [Nat.shiftLeft_eq, Nat.reducePow] at hor
    have hmod : a.toNat * 256 % 4294967296 = a.toNat * 256 := Nat.mod_eq_of_lt (by omega)
    simp only [wordSum, words, List.sum_cons, UInt32.toNat_add, ih, UInt32.toNat_or, UInt32.toNat_shiftLeft,
      UInt8.toNat_toUInt32, Nat.shiftLeft_eq]
    simp [hmod, ← hor]

theorem toNat_add_of_lt {a b : UInt32} {m n : Nat} (ha : a.toNat = m) (hb : b.toNat = n) (h : m + n < 2 ^ 32) :
    (a + b).toNat = m + n := by
  rw [UInt32.toNat_add, ha, hb, Nat.mod_eq_of_lt h]

/-! ## The carry loop -/

theorem toNat_foldStep (s : UInt32) : ((s &&& (0xFFFF : UInt32)) + (s >>> 16)).toNat = carry 0xFFFF s.toNat := by
  have hs := s.toNat_lt
  have hand : s.toNat &&& 65535 = s.toNat % 65536 := Nat.and_two_pow_sub_one_eq_mod s.toNat 16
  simp only [UInt32.toNat_add, UInt32.toNat_and, UInt32.toNat_shiftRight, carry]
  simp [Nat.shiftRight_eq_div_pow, hand]
  omega

theorem reduce_foldCarry : ∀ (n : Nat) (s : UInt32), reduce 0xFFFF (foldCarry n s).toNat = reduce 0xFFFF s.toNat
  | 0, _ => rfl
  | n + 1, s => by
    rw [foldCarry]
    split
    · rfl
    · rw [reduce_foldCarry n, toNat_foldStep, reduce_carry]

theorem shiftRight_eq_zero_iff (s : UInt32) : s >>> 16 = 0 ↔ s.toNat ≤ 0xFFFF := by
  have hs := s.toNat_lt
  rw [← UInt32.toNat_inj, UInt32.toNat_shiftRight]
  simp [Nat.shiftRight_eq_div_pow]
  omega

theorem foldCarry_of_le {s : UInt32} (h : s.toNat ≤ 0xFFFF) : ∀ n, foldCarry n s = s
  | 0 => rfl
  | n + 1 => by rw [foldCarry, if_pos ((shiftRight_eq_zero_iff s).2 h)]

theorem foldCarry_succ {s : UInt32} (h : ¬ s.toNat ≤ 0xFFFF) (n : Nat) :
    foldCarry (n + 1) s = foldCarry n ((s &&& (0xFFFF : UInt32)) + (s >>> 16)) := by
  rw [foldCarry, if_neg (fun hz => h ((shiftRight_eq_zero_iff s).1 hz))]

/-- **Three turns end the loop**: nothing is left above the low word. -/
theorem foldCarry_le (s : UInt32) : (foldCarry 3 s).toNat ≤ 0xFFFF := by
  have hs := s.toNat_lt
  by_cases h0 : s.toNat ≤ 0xFFFF
  · rwa [foldCarry_of_le h0]
  rw [foldCarry_succ h0]
  have h1 := toNat_foldStep s
  generalize (s &&& (0xFFFF : UInt32)) + (s >>> 16) = s1 at h1 ⊢
  unfold carry at h1
  by_cases h1' : s1.toNat ≤ 0xFFFF
  · rwa [foldCarry_of_le h1']
  rw [foldCarry_succ h1']
  have h2 := toNat_foldStep s1
  generalize (s1 &&& (0xFFFF : UInt32)) + (s1 >>> 16) = s2 at h2 ⊢
  unfold carry at h2
  have h2' : s2.toNat ≤ 0xFFFF := by omega
  rwa [foldCarry_of_le h2']

/-- **The complement a checksum stores.** -/
theorem toNat_checksum (s : UInt32) : (~~~ (foldCarry 3 s).toUInt16).toNat = 0xFFFF - reduce 0xFFFF s.toNat := by
  have hle := foldCarry_le s
  have hred := reduce_foldCarry 3 s
  rw [reduce_of_le hle] at hred
  rw [UInt16.toNat_not, UInt32.toNat_toUInt16, Nat.mod_eq_of_lt (by omega), hred]
  rfl

/-! ## The receiver's sums -/

/-- The sum of the IPv4 header's words. -/
def ipHeaderSum (pkt : Bytes) : Nat := OnesComplement.sum 0xFFFF (words (bytesAt pkt 0 (ihlOf pkt)))

/-- The sum of the segment's words and of the pseudo header's: the addresses, the protocol and the segment's length. -/
def tcpSegmentSum (pkt : Bytes) : Nat :=
  OnesComplement.sum 0xFFFF
    (words (bytesAt pkt 12 8) ++ [(byteAt pkt 9).toNat, pkt.length - ihlOf pkt] ++ words (pkt.drop (ihlOf pkt)))

/-- What `IpChecksum` accumulates over the header of a packet. -/
def ipTotal (pkt : Bytes) : Nat := (words (bytesAt pkt 0 10)).sum + (words (bytesAt pkt 12 8)).sum

/-- What `TcpChecksum` accumulates over the packet's segment, its checksum field read as zero. -/
def tcpTotal (pkt : Bytes) : Nat :=
  (words (bytesAt pkt 12 8)).sum + (byteAt pkt 9).toNat + (pkt.length - ihlOf pkt) +
    (words (bytesAt pkt (ihlOf pkt) 16)).sum + (words (pkt.drop (ihlOf pkt + 18))).sum

/-! ## The IPv4 header -/

section IpHeader

variable (proto : UInt8) (total : Nat) (srcIp dstIp : UInt32)

/-- The words of the header but for its checksum. -/
def ipWords : List Nat := words (bytesAt (ipHeader proto total srcIp dstIp 0) 0 10) ++ words (be32 srcIp ++ be32 dstIp)

theorem words_ipHeader (checksum : UInt16) : words (ipHeader proto total srcIp dstIp checksum) =
    words (bytesAt (ipHeader proto total srcIp dstIp 0) 0 10) ++ [checksum.toNat] ++ words (be32 srcIp ++ be32 dstIp) := by
  have hsplit : ipHeader proto total srcIp dstIp checksum =
      bytesAt (ipHeader proto total srcIp dstIp 0) 0 10 ++ be16 checksum ++ (be32 srcIp ++ be32 dstIp) := rfl
  have hfront : (bytesAt (ipHeader proto total srcIp dstIp 0) 0 10).length = 10 := rfl
  have hl : (bytesAt (ipHeader proto total srcIp dstIp 0) 0 10 ++ be16 checksum).length % 2 = 0 := by
    rw [List.length_append, hfront, length_be16]
  have hl' : (bytesAt (ipHeader proto total srcIp dstIp 0) 0 10).length % 2 = 0 := by rw [hfront]
  rw [hsplit, words_append _ hl, words_append _ hl', words_be16]

theorem toNat_ipChecksum : (ipChecksum (ipHeader proto total srcIp dstIp 0)).toNat =
    0xFFFF - reduce 0xFFFF (ipWords proto total srcIp dstIp).sum := by
  have h1 := sum_words_le (bytesAt (ipHeader proto total srcIp dstIp 0) 0 10)
  have h2 := sum_words_le (be32 srcIp ++ be32 dstIp)
  have hl1 : (bytesAt (ipHeader proto total srcIp dstIp 0) 0 10).length = 10 := rfl
  have hl2 : (be32 srcIp ++ be32 dstIp).length = 8 := rfl
  have hsecond : bytesAt (ipHeader proto total srcIp dstIp 0) 12 8 = be32 srcIp ++ be32 dstIp := rfl
  rw [ipChecksum, toNat_checksum, UInt32.toNat_add, toNat_wordSum, toNat_wordSum, hsecond, ipWords, List.sum_append]
  rw [Nat.mod_eq_of_lt (by omega), Nat.mod_eq_of_lt (by omega), Nat.mod_eq_of_lt (by omega)]

/-- **The header's words sum to 0xFFFF.** -/
theorem sum_ipHeaderSummed : OnesComplement.sum 0xFFFF (words (ipHeaderSummed proto total srcIp dstIp)) = 0xFFFF := by
  have hsum := reduce_add_complement (m := 0xFFFF) (by decide) (ipWords proto total srcIp dstIp).sum
  rw [← toNat_ipChecksum] at hsum
  refine (sum_eq_reduce (by decide) (words_le _)).trans (Eq.trans (congrArg (reduce 0xFFFF) ?_) hsum)
  rw [ipHeaderSummed, words_ipHeader, ipWords]
  simp only [List.sum_append, List.sum_cons, List.sum_nil]
  omega

end IpHeader

/-! ## The TCP segment -/

namespace Segment

variable (s : Segment)

/-- The segment's bytes before its checksum. -/
def tcpHead : Bytes :=
  be16 s.srcPort ++ be16 s.dstPort ++ be32 s.seq ++ be32 s.ack ++ [(5 : UInt8) <<< 4, s.flags, 0x20, 0x00]

theorem length_tcpHead : s.tcpHead.length = 16 := rfl

theorem length_tcpBytes (checksum : UInt16) : (s.tcpBytes checksum).length = 20 + s.payload.length := by
  simp [tcpBytes]
  omega

theorem words_tcpBytes (checksum : UInt16) :
    words (s.tcpBytes checksum) = words s.tcpHead ++ [checksum.toNat] ++ words ([0, 0] ++ s.payload) := by
  have hsplit : s.tcpBytes checksum = s.tcpHead ++ be16 checksum ++ ([0, 0] ++ s.payload) := by
    simp [tcpBytes, tcpHead]
  have hl : (s.tcpHead ++ be16 checksum).length % 2 = 0 := by
    rw [List.length_append, length_tcpHead, length_be16]
  have hl' : s.tcpHead.length % 2 = 0 := by rw [length_tcpHead]
  rw [hsplit, words_append _ hl, words_append _ hl', words_be16]

/-- The words the TCP checksum covers, but for itself. -/
def tcpWords : List Nat :=
  words (be32 s.srcIp ++ be32 s.dstIp) ++ [6, 20 + s.payload.length] ++ words s.tcpHead ++ words ([0, 0] ++ s.payload)

theorem sum_tcpWords_lt (h : s.payload.length ≤ maxBridgedPayload) : s.tcpWords.sum < 2 ^ 31 := by
  have h1 := sum_words_le (be32 s.srcIp ++ be32 s.dstIp)
  have h2 := sum_words_le s.tcpHead
  have h3 := sum_words_le ([0, 0] ++ s.payload)
  rw [length_tcpHead] at h2
  rw [show (be32 s.srcIp ++ be32 s.dstIp).length = 8 from rfl] at h1
  rw [List.length_append, show ([0, 0] : Bytes).length = 2 from rfl] at h3
  unfold maxBridgedPayload vtcpInboxCap at h
  simp only [tcpWords, List.sum_append, List.sum_cons, List.sum_nil]
  omega

/-- The two halves of an address. -/
theorem sum_words_be32 (x : UInt32) :
    (words (be32 x)).sum = ((x >>> 16) &&& (0xFFFF : UInt32)).toNat + (x &&& (0xFFFF : UInt32)).toNat := by
  have hx := x.toNat_lt
  have hand : ∀ n, n &&& 65535 = n % 65536 := fun n => Nat.and_two_pow_sub_one_eq_mod n 16
  simp only [be32, words, List.sum_cons, List.sum_nil, UInt32.toNat_and, UInt32.toNat_shiftRight, UInt32.toNat_toUInt8]
  simp [Nat.shiftRight_eq_div_pow, hand]
  omega

/-- The address added to an accumulator, a half at a time. -/
theorem toNat_addAddress {sum : UInt32} {n : Nat} (hs : sum.toNat = n) (x : UInt32)
    (h : n + (words (be32 x)).sum < 2 ^ 32) :
    (sum + ((x >>> 16) &&& (0xFFFF : UInt32)) + (x &&& (0xFFFF : UInt32))).toNat = n + (words (be32 x)).sum := by
  rw [sum_words_be32] at h ⊢
  have hhigh := toNat_add_of_lt hs (show ((x >>> 16) &&& (0xFFFF : UInt32)).toNat = _ from rfl) (by omega)
  rw [toNat_add_of_lt hhigh rfl (by omega)]
  omega

theorem toNat_tcpChecksum (h : s.payload.length ≤ maxBridgedPayload) :
    (tcpChecksum s.srcIp s.dstIp (s.tcpBytes 0)).toNat = 0xFFFF - reduce 0xFFFF s.tcpWords.sum := by
  have hlt := s.sum_tcpWords_lt h
  have haddr : words (be32 s.srcIp ++ be32 s.dstIp) = words (be32 s.srcIp) ++ words (be32 s.dstIp) :=
    words_append _ (by rw [length_be32])
  simp only [tcpWords, haddr, List.sum_append, List.sum_cons, List.sum_nil] at hlt ⊢
  have hwords : (words (s.tcpBytes 0)).sum = (words s.tcpHead).sum + (words ([0, 0] ++ s.payload)).sum := by
    rw [words_tcpBytes, List.sum_append, List.sum_append, List.sum_singleton, UInt16.toNat_zero, Nat.add_zero]
  have hseg : (wordSum (s.tcpBytes 0)).toNat = (words s.tcpHead).sum + (words ([0, 0] ++ s.payload)).sum := by
    rw [toNat_wordSum, hwords, Nat.mod_eq_of_lt (by omega)]
  have hlength : (UInt32.ofNat (s.tcpBytes 0).length).toNat = 20 + s.payload.length := by
    rw [length_tcpBytes, UInt32.toNat_ofNat', Nat.mod_eq_of_lt]
    unfold maxBridgedPayload vtcpInboxCap at h
    omega
  have hsrc : (((s.srcIp >>> 16) &&& (0xFFFF : UInt32)) + (s.srcIp &&& (0xFFFF : UInt32))).toNat =
      (words (be32 s.srcIp)).sum := by
    have hhalves := sum_words_be32 s.srcIp
    rw [toNat_add_of_lt rfl rfl (by omega), hhalves]
  have hdst := toNat_addAddress hsrc s.dstIp (by omega)
  have hproto := toNat_add_of_lt hdst (show (6 : UInt32).toNat = 6 from rfl) (by omega)
  have hpseudo := toNat_add_of_lt hproto hlength (by omega)
  rw [tcpChecksum, toNat_checksum, toNat_add_of_lt hpseudo hseg (by omega)]
  have htotal : (words (be32 s.srcIp)).sum + (words (be32 s.dstIp)).sum + 6 + (20 + s.payload.length) +
      ((words s.tcpHead).sum + (words ([0, 0] ++ s.payload)).sum) =
      (words (be32 s.srcIp)).sum + (words (be32 s.dstIp)).sum + (6 + (20 + s.payload.length + 0)) +
        (words s.tcpHead).sum + (words ([0, 0] ++ s.payload)).sum := by omega
  rw [htotal]

end Segment

/-! ## Every packet sent -/

/-- What a receiver asks of the IPv4 header; the accumulation that made its checksum stayed within 32 bits. -/
structure PassesIp (pkt : Bytes) : Prop where
  total : totalLengthOf pkt = pkt.length
  header : ipHeaderSum pkt = 0xFFFF
  no_overflow : ipTotal pkt < 2 ^ 32

/-- What it asks of the TCP segment. -/
structure PassesTcp (pkt : Bytes) : Prop where
  segment : tcpSegmentSum pkt = 0xFFFF
  no_overflow : tcpTotal pkt < 2 ^ 32

section Summed

variable {proto : UInt8} {total : Nat} {srcIp dstIp : UInt32} {rest pkt : Bytes}
  (hpkt : pkt = ipHeaderSummed proto total srcIp dstIp ++ rest)

include hpkt

theorem ihlOf_summed : ihlOf pkt = 20 := by
  subst hpkt
  simp [ihlOf, byteAt, ipHeaderSummed, ipHeader]

theorem addresses_summed : bytesAt pkt 12 8 = be32 srcIp ++ be32 dstIp := by
  subst hpkt
  rfl

theorem passesIp_summed (hlen : pkt.length = total) (htotal : total < 65536) : PassesIp pkt where
  total := by
    have hread : totalLengthOf pkt = (UInt16.ofNat total).toNat := by
      subst hpkt
      exact congrArg UInt16.toNat (read16_be16 _)
    rw [hread, UInt16.toNat_ofNat', Nat.mod_eq_of_lt htotal, hlen]
  header := by
    have hfront : bytesAt pkt 0 (ihlOf pkt) = ipHeaderSummed proto total srcIp dstIp := by
      rw [ihlOf_summed hpkt, hpkt]
      rfl
    rw [ipHeaderSum, hfront, sum_ipHeaderSummed]
  no_overflow := by
    have h1 := sum_words_le (bytesAt pkt 0 10)
    have h2 := sum_words_le (bytesAt pkt 12 8)
    have hl1 : (bytesAt pkt 0 10).length ≤ 10 := List.length_take_le _ _
    have hl2 : (bytesAt pkt 12 8).length ≤ 8 := List.length_take_le _ _
    unfold ipTotal
    omega

end Summed

theorem Segment.passes {s : Segment} {pkt : Bytes} (h : s.packet? = some pkt)
    (hle : s.payload.length ≤ maxBridgedPayload) : PassesIp pkt ∧ PassesTcp pkt := by
  have hlen := Segment.length_packet h
  have hpkt : pkt = ipHeaderSummed 6 (20 + (20 + s.payload.length)) s.srcIp s.dstIp ++
      s.tcpBytes (tcpChecksum s.srcIp s.dstIp (s.tcpBytes 0)) := by
    simp only [packet?] at h
    split at h
    · cases h
    · exact (Option.some.inj h).symm
  have hseg : pkt.drop 20 = s.tcpBytes (tcpChecksum s.srcIp s.dstIp (s.tcpBytes 0)) := by
    rw [hpkt]
    rfl
  have hihl := ihlOf_summed hpkt
  have haddr := addresses_summed hpkt
  have hproto : (byteAt pkt 9).toNat = 6 := by
    rw [hpkt]
    rfl
  have hsize : pkt.length - 20 = 20 + s.payload.length := by omega
  unfold maxBridgedPayload vtcpInboxCap at hle
  refine ⟨passesIp_summed hpkt (by omega) (by omega), ⟨?_, ?_⟩⟩
  · -- the stored checksum complements the sum of the other words
    have hsum := reduce_add_complement (m := 0xFFFF) (by decide) s.tcpWords.sum
    rw [← s.toNat_tcpChecksum hle] at hsum
    rw [tcpSegmentSum, hihl, haddr, hproto, hseg, hsize]
    refine (sum_eq_reduce (by decide) fun w hw => ?_).trans (Eq.trans (congrArg (reduce 0xFFFF) ?_) hsum)
    · rcases List.mem_append.1 hw with hw | hw
      · rcases List.mem_append.1 hw with hw | hw
        · exact words_le _ w hw
        · rcases List.mem_cons.1 hw with rfl | hw
          · omega
          · rw [List.mem_singleton.1 hw]
            omega
      · exact words_le _ w hw
    · rw [words_tcpBytes, tcpWords]
      simp only [List.sum_append, List.sum_cons, List.sum_nil]
      omega
  · have h1 := sum_words_le (bytesAt pkt 12 8)
    have h2 := sum_words_le (bytesAt pkt (ihlOf pkt) 16)
    have h3 := sum_words_le (pkt.drop (ihlOf pkt + 18))
    have hl1 : (bytesAt pkt 12 8).length ≤ 8 := List.length_take_le _ _
    have hl2 : (bytesAt pkt (ihlOf pkt) 16).length ≤ 16 := List.length_take_le _ _
    have hl3 : (pkt.drop (ihlOf pkt + 18)).length ≤ pkt.length := List.length_drop ▸ Nat.sub_le _ _
    unfold tcpTotal
    omega

theorem UdpSend.passes {d : UdpSend} {pkt : Bytes} (h : d.packet? = some pkt) (hle : d.payload.length ≤ maxBridgedPayload) :
    PassesIp pkt := by
  have hlen := length_udpPacket h
  unfold maxBridgedPayload vtcpInboxCap at hle
  simp only [packet?, udpPacket?] at h
  split at h
  · cases h
  · have hpkt : pkt = ipHeaderSummed 17 (20 + 8 + d.payload.length) d.srcIp d.dstIp ++ (be16 d.srcPort ++ (be16 d.dstPort ++
        (be16 (UInt16.ofNat (8 + d.payload.length)) ++ ([0, 0] ++ d.payload)))) := by
      rw [← Option.some.inj h]
      simp only [List.append_assoc]
    exact passesIp_summed hpkt (by omega) (by omega)

/-- **Every packet sent passes a receiver's checks.**  What `SendTcpSegment` builds of any fields and any payload up to
`maxBridgedPayload` carries its own size, and its header and its segment sum to 0xFFFF; so does the header of every datagram
that a `SendTo` on a bridged socket sends.  No accumulation outgrows 32 bits. -/
theorem emitted_checks :
    (∀ m : Segment, m.payload.length ≤ maxBridgedPayload → ∃ pkt, m.packet? = some pkt ∧ PassesIp pkt ∧ PassesTcp pkt) ∧
    (∀ (C : Console) (i : Nat) (s : Instance) (fd flags : Int) (env : Env) (buffer addr : Bytes), C.BridgedAt i s fd →
      (C.service.ensureRelayConnected env.relayUp).2 = true → buffer.length ≤ maxBridgedPayload →
      ∃ d pkt, (C.command i env (.sendTo fd flags buffer addr)).udp = [d] ∧ d.packet? = some pkt ∧ PassesIp pkt) := by
  constructor
  · intro m hle
    obtain ⟨pkt, hpkt⟩ := Segment.packet_of_le hle
    exact ⟨pkt, hpkt, Segment.passes hpkt hle⟩
  · intro C i s fd flags env buffer addr h hup hle
    obtain ⟨pkt, hpkt⟩ := udpPacket_of_le s.bridgedLocalIp (destinationOf addr).1 s.bridgedLocalPort (destinationOf addr).2 hle
    refine ⟨_, pkt, Console.udp_sendTo h hup hle flags addr, hpkt, ?_⟩
    exact UdpSend.passes (d := ⟨s.bridgedLocalIp, (destinationOf addr).1, s.bridgedLocalPort, (destinationOf addr).2, buffer⟩)
      hpkt hle

theorem emitted_checks_hostConsole : (∃ pkt, oneByte.packet? = some pkt ∧ PassesIp pkt ∧ PassesTcp pkt) ∧
    ∃ d pkt, (Console.hostConsole.command 0 Console.quietEnv
        (.sendTo 3 0 [7] (sockaddrBytes 0x0A0D0002 ldnControlPort))).udp = [d] ∧
      d.packet? = some pkt ∧ PassesIp pkt := by
  obtain ⟨s, hs⟩ := Console.bridgedAt_hostConsole
  exact ⟨emitted_checks.1 oneByte (by decide), emitted_checks.2 _ 0 s 3 0 _ [7] _ hs (by decide +kernel) (by decide)⟩

end Slp
