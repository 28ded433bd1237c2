import SwitchLanPlay.RelayBridge
/-!
# RelayReassembly — a packet's fragments, in any order, through one slot

`Holds s p id got` says that a slot holds exactly the parts `got` of the packet `p`.  `fill` keeps it part by part
(`fill_missing`) and delivers the packet at the last missing part (`fill_last`), so the fragments of one packet, in any
order and without interleaving, come out as that packet once, or are dropped when it outgrows the caller's buffer
(`feed_fragments`).
-/
namespace Slp

open Wire

namespace RelayBridge

/-! ## The parts of a packet -/

theorem fragChunk_eq : fragChunk = 1384 := rfl

theorem totalParts_pos {p : Bytes} (hp : 0 < p.length) : 0 < totalParts p := by
  unfold totalParts
  exact Nat.div_pos (by rw [fragChunk_eq]; omega) (by decide)

/-- **A part's offset lies in the packet exactly for the packet's parts.** -/
theorem lt_totalParts_iff (p : Bytes) (i : Nat) : i < totalParts p ↔ i * fragChunk < p.length := by
  unfold totalParts
  rw [Nat.lt_div_iff_mul_lt (by decide), fragChunk_eq]
  omega

theorem totalParts_le {p : Bytes} (hp : p.length ≤ slotBufferSize) : totalParts p ≤ 5 := by
  have h : ¬ 5 < totalParts p := by
    rw [lt_totalParts_iff]
    unfold slotBufferSize relayMtu at hp
    rw [fragChunk_eq]
    omega
  omega

theorem length_partBytes (p : Bytes) (i : Nat) : (partBytes p i).length = min fragChunk (p.length - i * fragChunk) := by
  simp only [partBytes, bytesAt, List.length_take, List.length_drop]
  split <;> omega

theorem length_partBytes_le (p : Bytes) (i : Nat) : (partBytes p i).length ≤ fragChunk := by
  rw [length_partBytes]
  exact Nat.min_le_left _ _

theorem byteAt_partBytes (p : Bytes) (i j : Nat) (hj : j < (partBytes p i).length) :
    byteAt (partBytes p i) j = byteAt p (i * fragChunk + j) := by
  have hlen := length_partBytes p i
  rw [hlen] at hj
  simp only [partBytes, bytesAt, byteAt, List.getD_eq_getElem?_getD]
  rw [List.getElem?_take_of_lt (by split <;> omega), List.getElem?_drop]

theorem toNat_part (p : Bytes) (id : UInt16) (i : Nat) (hi : i < 256) : (fragHeader p id i).part.toNat = i := by
  simp [fragHeader]
  omega

theorem toNat_totalPart (p : Bytes) (id : UInt16) (i : Nat) (h : totalParts p < 256) :
    (fragHeader p id i).totalPart.toNat = totalParts p := by
  simp [fragHeader]
  omega

theorem toNat_len (p : Bytes) (id : UInt16) (i : Nat) : (fragHeader p id i).len.toNat = (partBytes p i).length := by
  have h := length_partBytes_le p i
  rw [fragChunk_eq] at h
  simp [fragHeader]
  omega

theorem toNat_pmtu (p : Bytes) (id : UInt16) (i : Nat) : (fragHeader p id i).pmtu.toNat = fragChunk := rfl

theorem length_srcIp {p : Bytes} (hp : 20 ≤ p.length) (id : UInt16) (i : Nat) : (fragHeader p id i).srcIp.length = 4 :=
  length_bytesAt _ _ _ (by omega)

theorem length_dstIp {p : Bytes} (hp : 20 ≤ p.length) (id : UInt16) (i : Nat) : (fragHeader p id i).dstIp.length = 4 :=
  length_bytesAt _ _ _ (by omega)

theorem length_header {p : Bytes} (hp : 20 ≤ p.length) (id : UInt16) (i : Nat) :
    (fragHeader p id i).encode.length = fragHeaderSize :=
  FragHeader.length_encode _ (length_srcIp hp id i) (length_dstIp hp id i)

theorem length_fragment {p : Bytes} (hp : 20 ≤ p.length) (id : UInt16) (i : Nat) :
    (fragment p id i).length = fragHeaderSize + (partBytes p i).length := by
  rw [fragment, List.length_append, length_header hp]

theorem decode_fragment {p : Bytes} (hp : 20 ≤ p.length) (id : UInt16) (i : Nat) :
    FragHeader.decode (fragment p id i) = fragHeader p id i :=
  FragHeader.decode_encode _ _ (length_srcIp hp id i) (length_dstIp hp id i)

theorem drop_fragment {p : Bytes} (hp : 20 ≤ p.length) (id : UInt16) (i : Nat) :
    (fragment p id i).drop fragHeaderSize = partBytes p i := by
  rw [fragment, ← length_header hp id i, List.drop_left]

end RelayBridge

open RelayBridge

/-! ## One slot -/

/-- **The slot holds exactly the parts `got` of the packet `p`.** -/
structure Holds (s : ReassemblySlot) (p : Bytes) (id : UInt16) (got : List Nat) : Prop where
  used : s.used = true
  id_eq : s.id = id
  srcIp_eq : s.srcIp = bytesAt p 12 4
  mask : ∀ i, s.partMask.testBit i = decide (i ∈ got)
  total : s.totalLen = if totalParts p - 1 ∈ got then p.length else 0
  bytes : ∀ i : Fin slotBufferSize, i.val < p.length → i.val / fragChunk ∈ got → s.buffer i = byteAt p i.val

theorem holds_claim (s : ReassemblySlot) (p : Bytes) (id : UInt16) : Holds (s.claim id (bytesAt p 12 4)) p id [] where
  used := rfl
  id_eq := rfl
  srcIp_eq := rfl
  mask := fun i => by simp [ReassemblySlot.claim]
  total := by simp [ReassemblySlot.claim]
  bytes := fun i _ h => by cases h

/-- **Accepting a part adds it to what the slot holds.** -/
theorem holds_accept {s : ReassemblySlot} {p : Bytes} {id : UInt16} {got : List Nat} (h : Holds s p id got)
    (h256 : totalParts p < 256) {part : Nat} (hpart : part < totalParts p) :
    Holds (s.accept (fragHeader p id part) (partBytes p part)) p id (part :: got) := by
  have hn := toNat_part p id part (by omega)
  have ht := toNat_totalPart p id part (by omega)
  have hl := toNat_len p id part
  have hoff := (lt_totalParts_iff p part).1 hpart
  have hlen := length_partBytes p part
  constructor
  · exact h.used
  · exact h.id_eq
  · exact h.srcIp_eq
  · intro i
    simp only [ReassemblySlot.accept, hn, Nat.testBit_or, Nat.testBit_two_pow, h.mask i, List.mem_cons]
    by_cases hi : part = i
    · simp [hi]
    · simp [hi, Ne.symm hi]
  · simp only [ReassemblySlot.accept, hn, ht, hl, toNat_pmtu, List.mem_cons]
    by_cases hlast : part + 1 = totalParts p
    · have hlt : ¬ (part + 1) * fragChunk < p.length := by rw [← lt_totalParts_iff]; omega
      have hlt' : ¬ part * fragChunk + fragChunk < p.length := by rwa [Nat.add_mul, Nat.one_mul] at hlt
      have hpred : totalParts p - 1 = part := by omega
      rw [if_pos hlast, if_pos (Or.inl hpred), hpred, hlen]
      omega
    · rw [if_neg hlast, h.total]
      have hne : totalParts p - 1 ≠ part := by omega
      simp [hne]
  · intro i hi hmem
    have hpos : 0 < fragChunk := by decide
    simp only [ReassemblySlot.accept, hn, hl, toNat_pmtu, List.take_length]
    by_cases hin : i.val / fragChunk = part
    · -- the byte lies in the part just copied
      have hdiv := Nat.div_add_mod i.val fragChunk
      rw [hin, Nat.mul_comm] at hdiv
      have hmod := Nat.mod_lt i.val hpos
      rw [ByteArr.write_of_mem _ _ _ _ (by omega) (by omega), byteAt_partBytes _ _ _ (by omega)]
      congr 1
      omega
    · rw [ByteArr.write_of_not_mem, h.bytes i hi (by simpa [hin] using hmem)]
      have hle := length_partBytes_le p part
      rcases Nat.lt_or_gt_of_ne hin with hlt | hgt
      · left
        exact (Nat.div_lt_iff_lt_mul hpos).1 hlt
      · right
        have := (Nat.le_div_iff_mul_le hpos).1 hgt
        rw [Nat.succ_mul] at this
        omega

/-- **The group is complete exactly when no part is missing.** -/
theorem isComplete_iff {s : ReassemblySlot} {p : Bytes} {id : UInt16} {got : List Nat} (h : Holds s p id got)
    (hp0 : 0 < p.length) (hp : p.length ≤ slotBufferSize) (hgot : ∀ i ∈ got, i < totalParts p) :
    s.isComplete (totalParts p) = true ↔ ∀ i, i < totalParts p → i ∈ got := by
  have h5 := totalParts_le hp
  have hpos := totalParts_pos hp0
  simp only [ReassemblySlot.isComplete, ReassemblySlot.expectedMask, if_neg (show ¬ 32 ≤ totalParts p by omega),
    Bool.and_eq_true, beq_iff_eq, decide_eq_true_eq]
  constructor
  · rintro ⟨hm, -⟩ i hi
    have hbit := h.mask i
    rw [hm, Nat.testBit_two_pow_sub_one] at hbit
    simpa [hi] using hbit
  · intro hall
    refine ⟨Nat.eq_of_testBit_eq (fun i => ?_), ?_⟩
    · rw [h.mask i, Nat.testBit_two_pow_sub_one]
      by_cases hi : i < totalParts p
      · simp [hi, hall i hi]
      · simp [hi, mt (hgot i) hi]
    · rw [h.total, if_pos (hall _ (by omega))]
      exact hp0

/-- The part has a bit of the mask and its bytes lie in the slot's buffer. -/
def Fits (p : Bytes) (part : Nat) : Prop :=
  part < 32 ∧ part * fragChunk + (partBytes p part).length ≤ slotBufferSize

theorem fits_of_le {p : Bytes} (hp : p.length ≤ slotBufferSize) {part : Nat} (hpart : part < totalParts p) :
    Fits p part := by
  have h5 := totalParts_le hp
  have hoff := (lt_totalParts_iff p part).1 hpart
  have hlen := length_partBytes p part
  exact ⟨by omega, by omega⟩

theorem fill_of_fits (s : ReassemblySlot) {p : Bytes} (id : UInt16) {part : Nat} (h256 : totalParts p < 256)
    (hfits : Fits p part) (outBufSize : Nat) :
    s.fill (fragHeader p id part) (partBytes p part) outBufSize =
    (let s' := s.accept (fragHeader p id part) (partBytes p part)
     if s'.isComplete (totalParts p) then
       if h : s'.totalLen ≤ outBufSize then (s'.release, some (s'.packet outBufSize h)) else (s'.release, none)
     else (s', none)) := by
  have hb : ¬ (32 ≤ (fragHeader p id part).part.toNat ∨ slotBufferSize <
      (fragHeader p id part).part.toNat * (fragHeader p id part).pmtu.toNat + (fragHeader p id part).len.toNat) := by
    rw [toNat_part p id part (by have := hfits.1; omega), toNat_pmtu, toNat_len]
    have := hfits.1
    have := hfits.2
    omega
  rw [ReassemblySlot.fill, if_neg hb, toNat_totalPart p id part h256]

section Fill

variable {s : ReassemblySlot} {p : Bytes} {id : UInt16} {got : List Nat} {part : Nat}
variable (h : Holds s p id got) (hp0 : 0 < p.length) (hp : p.length ≤ slotBufferSize)
variable (hgot : ∀ i ∈ got, i < totalParts p) (hpart : part < totalParts p)
include h hp0 hp hgot hpart

/-- **A part that leaves another missing is only kept.** -/
theorem fill_missing (outBufSize : Nat) (hmiss : ∃ i, i < totalParts p ∧ i ∉ part :: got) :
    s.fill (fragHeader p id part) (partBytes p part) outBufSize =
      (s.accept (fragHeader p id part) (partBytes p part), none) := by
  have h5 := totalParts_le hp
  have hs' := holds_accept h (by omega) hpart
  have hg' : ∀ i ∈ part :: got, i < totalParts p := by
    intro i hi
    rcases List.mem_cons.1 hi with rfl | hi
    · exact hpart
    · exact hgot i hi
  have hc : ¬ (s.accept (fragHeader p id part) (partBytes p part)).isComplete (totalParts p) = true := by
    rw [isComplete_iff hs' hp0 hp hg']
    obtain ⟨i, hi, hni⟩ := hmiss
    exact fun hall => hni (hall i hi)
  rw [fill_of_fits s id (by omega) (fits_of_le hp hpart)]
  exact if_neg hc

/-- **The last missing part delivers the packet**, or drops it when it outgrows the caller's buffer. -/
theorem fill_last (outBufSize : Nat) (hall : ∀ i, i < totalParts p → i ∈ part :: got) :
    (s.fill (fragHeader p id part) (partBytes p part) outBufSize).1.used = false ∧
    (s.fill (fragHeader p id part) (partBytes p part) outBufSize).2.map (·.bytes) =
      if p.length ≤ outBufSize then some p else none := by
  have h5 := totalParts_le hp
  have hs' := holds_accept h (by omega) hpart
  have hg' : ∀ i ∈ part :: got, i < totalParts p := by
    intro i hi
    rcases List.mem_cons.1 hi with rfl | hi
    · exact hpart
    · exact hgot i hi
  have hpos := totalParts_pos hp0
  have htotal : (s.accept (fragHeader p id part) (partBytes p part)).totalLen = p.length := by
    rw [hs'.total, if_pos (hall _ (by omega))]
  have hbytes : (s.accept (fragHeader p id part) (partBytes p part)).buffer.read p.length = p :=
    ByteArr.read_eq_of_agree _ _ hp (fun i hi => hs'.bytes i hi
      (hall _ ((lt_totalParts_iff p _).2 (Nat.lt_of_le_of_lt (Nat.div_mul_le_self _ _) hi))))
  rw [fill_of_fits s id (by omega) (fits_of_le hp hpart)]
  simp only [if_pos ((isComplete_iff hs' hp0 hp hg').2 hall)]
  by_cases hfit : p.length ≤ outBufSize
  · rw [dif_pos (by rw [htotal]; exact hfit), if_pos hfit]
    refine ⟨rfl, ?_⟩
    simp only [Option.map_some, ReassemblySlot.packet, htotal, hbytes]
  · rw [dif_neg (by rw [htotal]; exact hfit), if_neg hfit]
    exact ⟨rfl, rfl⟩

end Fill

/-! ## One group -/

namespace Reassembler

/-- Feed fragments to the reassembler, keeping the packets it delivers. -/
def feed (outBufSize : Nat) : Reassembler → List Bytes → Reassembler × List Bytes
  | r, [] => (r, [])
  | r, data :: rest =>
    let (r', out) := r.reassembleFrag data outBufSize
    let (r'', outs) := feed outBufSize r' rest
    (r'', (out.map (·.bytes)).toList ++ outs)

theorem feed_cons (outBufSize : Nat) (r : Reassembler) (data : Bytes) (rest : List Bytes) :
    feed outBufSize r (data :: rest) =
      ((feed outBufSize (r.reassembleFrag data outBufSize).1 rest).1,
        ((r.reassembleFrag data outBufSize).2.map (·.bytes)).toList ++
          (feed outBufSize (r.reassembleFrag data outBufSize).1 rest).2) := rfl

/-- No slot accumulates this group yet. -/
def Fresh (r : Reassembler) (id : UInt16) (srcIp : Bytes) : Prop := ∀ k, isGroup id srcIp (r.slots k) = false

instance (r : Reassembler) (id : UInt16) (srcIp : Bytes) : Decidable (r.Fresh id srcIp) := by
  unfold Fresh
  infer_instance

/-- The datagram holds a header and the bytes it declares. -/
def IsFragment (data : Bytes) : Prop :=
  fragHeaderSize ≤ data.length ∧ (FragHeader.decode data).len.toNat ≤ (data.drop fragHeaderSize).length

instance (data : Bytes) : Decidable (IsFragment data) := by
  unfold IsFragment
  infer_instance

section Pick

variable (r : Reassembler) {data : Bytes} (outBufSize : Nat)

theorem reassembleFrag_of_short (h : ¬ IsFragment data) : r.reassembleFrag data outBufSize = (r, none) := by
  by_cases hlen : data.length < fragHeaderSize
  · rw [reassembleFrag, if_pos hlen]
  · have hchunk : (data.drop fragHeaderSize).length < (FragHeader.decode data).len.toNat := by
      unfold IsFragment at h
      omega
    rw [reassembleFrag, if_neg hlen]
    exact if_pos hchunk

/-- **A fragment goes through the slot picked for its id and source.** -/
theorem reassembleFrag_of_pick (h : IsFragment data) {k : Fin numSlots} {ex : Bool}
    (hk : r.pickSlot (FragHeader.decode data).id (FragHeader.decode data).srcIp = some (k, ex)) :
    r.reassembleFrag data outBufSize =
      (let hdr := FragHeader.decode data
       let slot := if ex then r.slots k else (r.slots k).claim hdr.id hdr.srcIp
       let (slot', out) := slot.fill hdr (data.drop fragHeaderSize) outBufSize
       ({ slots := Function.update r.slots k slot'
          mostSuccessFragId := if out.isSome then hdr.id else r.mostSuccessFragId }, out)) := by
  rw [reassembleFrag, if_neg (Nat.not_lt.2 h.1)]
  simp only [if_neg (Nat.not_lt.2 h.2), hk]

/-- **A fragment no slot can be picked for is dropped.** -/
theorem reassembleFrag_of_no_pick (h : IsFragment data)
    (hk : r.pickSlot (FragHeader.decode data).id (FragHeader.decode data).srcIp = none) :
    r.reassembleFrag data outBufSize = (r, none) := by
  rw [reassembleFrag, if_neg (Nat.not_lt.2 h.1)]
  simp only [if_neg (Nat.not_lt.2 h.2), hk]

end Pick

theorem isFragment_fragment {p : Bytes} (hp : 20 ≤ p.length) (id : UInt16) (part : Nat) :
    IsFragment (fragment p id part) := by
  refine ⟨by rw [length_fragment hp]; omega, ?_⟩
  rw [decode_fragment hp, drop_fragment hp, toNat_len]

theorem reassembleFrag_fragment (r : Reassembler) {p : Bytes} (hp : 20 ≤ p.length) (id : UInt16) (part outBufSize : Nat)
    {k : Fin numSlots} {ex : Bool} (hk : r.pickSlot id (bytesAt p 12 4) = some (k, ex)) :
    r.reassembleFrag (fragment p id part) outBufSize =
      (let slot := if ex then r.slots k else (r.slots k).claim id (bytesAt p 12 4)
       let (slot', out) := slot.fill (fragHeader p id part) (partBytes p part) outBufSize
       ({ slots := Function.update r.slots k slot'
          mostSuccessFragId := if out.isSome then id else r.mostSuccessFragId }, out)) := by
  rw [reassembleFrag_of_pick r outBufSize (isFragment_fragment hp id part) (by rw [decode_fragment hp]; exact hk),
    decode_fragment hp, drop_fragment hp]
  rfl

theorem reassembleFrag_dropped (r : Reassembler) {p : Bytes} (hp : 20 ≤ p.length) (id : UInt16) (part outBufSize : Nat)
    (hk : r.pickSlot id (bytesAt p 12 4) = none) : r.reassembleFrag (fragment p id part) outBufSize = (r, none) :=
  reassembleFrag_of_no_pick r outBufSize (isFragment_fragment hp id part) (by rw [decode_fragment hp]; exact hk)

/-- **The slot that accumulates a group alone is the one its fragments go to.** -/
theorem pickSlot_existing (r : Reassembler) {id : UInt16} {srcIp : Bytes} {k : Fin numSlots}
    (hk : isGroup id srcIp (r.slots k) = true) (hu : ∀ j, j ≠ k → isGroup id srcIp (r.slots j) = false) :
    r.pickSlot id srcIp = some (k, true) := by
  have hfirst : SlotTable.first (isGroup id srcIp) r.slots = some k :=
    SlotTable.first_of_unique hk (fun j hj => Classical.byContradiction (fun hne => by rw [hu j hne] at hj; cases hj))
  rw [pickSlot, hfirst]

theorem isGroup_of_pickSlot {r : Reassembler} {id : UInt16} {srcIp : Bytes} {k : Fin numSlots}
    (h : r.pickSlot id srcIp = some (k, true)) : isGroup id srcIp (r.slots k) = true := by
  unfold pickSlot at h
  cases hfirst : SlotTable.first (isGroup id srcIp) r.slots with
  | some j =>
    simp only [hfirst, Option.some.injEq, Prod.mk.injEq, and_true] at h
    rw [← h]
    exact SlotTable.apply_of_first hfirst
  | none =>
    exfalso
    simp only [hfirst] at h
    cases hfree : SlotTable.first (fun s : ReassemblySlot => !s.used) r.slots with
    | some j => simp [hfree] at h
    | none =>
      simp only [hfree] at h
      split at h
      · split at h
        · simp at h
        · cases h
      · cases h

theorem isGroup_of_holds {s : ReassemblySlot} {p : Bytes} {id : UInt16} {got : List Nat} (h : Holds s p id got) :
    isGroup id (bytesAt p 12 4) s = true := by
  simp [isGroup, h.used, h.id_eq, h.srcIp_eq]

section Group

variable {p : Bytes} {id : UInt16} (hp20 : 20 ≤ p.length) (hp : p.length ≤ slotBufferSize) (outBufSize : Nat)
include hp20 hp

/-- **The rest of a group, in any order, into the slot that holds what came before.** -/
theorem feed_rest (k : Fin numSlots) : ∀ (todo : List Nat) (r : Reassembler) (got : List Nat), todo ≠ [] →
    Holds (r.slots k) p id got → (∀ j, j ≠ k → isGroup id (bytesAt p 12 4) (r.slots j) = false) →
    (got ++ todo).Perm (List.range (totalParts p)) →
    (∃ s, s.used = false ∧ (feed outBufSize r (todo.map (fragment p id))).1.slots = Function.update r.slots k s) ∧
    (feed outBufSize r (todo.map (fragment p id))).2 = if p.length ≤ outBufSize then [p] else []
  | [], _, _, h, _, _, _ => absurd rfl h
  | part :: rest, r, got, _, hold, hother, hperm => by
    have hgot : ∀ i ∈ got, i < totalParts p := fun i hi =>
      List.mem_range.1 (hperm.mem_iff.1 (List.mem_append_left _ hi))
    have hpart : part < totalParts p := List.mem_range.1 (hperm.mem_iff.1 (by simp))
    have hpick := pickSlot_existing r (isGroup_of_holds hold) hother
    rw [List.map_cons, feed_cons, reassembleFrag_fragment r hp20 id part outBufSize hpick]
    simp only [if_true]
    cases rest with
    | nil =>
      -- the last missing part
      have hall : ∀ i, i < totalParts p → i ∈ part :: got := fun i hi => by
        have := hperm.mem_iff.2 (List.mem_range.2 hi)
        simpa [or_comm] using this
      obtain ⟨hfree, hout⟩ := fill_last hold (by omega) hp hgot hpart outBufSize hall
      refine ⟨⟨_, hfree, rfl⟩, ?_⟩
      simp only [List.map_nil, feed, List.append_nil, hout]
      split <;> rfl
    | cons next rest' =>
      -- the next part is still missing
      have hnd : (got ++ part :: next :: rest').Nodup := hperm.nodup_iff.2 List.nodup_range
      have hmiss : ∃ i, i < totalParts p ∧ i ∉ part :: got := by
        refine ⟨next, List.mem_range.1 (hperm.mem_iff.1 (by simp)), ?_⟩
        simp only [List.nodup_append, List.nodup_cons, List.mem_cons] at hnd
        intro hm
        rcases List.mem_cons.1 hm with h | h
        · exact hnd.2.1.1 (Or.inl h.symm)
        · exact hnd.2.2 next h next (by simp) rfl
      rw [fill_missing hold (by omega) hp hgot hpart outBufSize hmiss]
      have h5 := totalParts_le hp
      have hstep := holds_accept hold (by omega) hpart
      have ih := feed_rest k (next :: rest')
        { slots := Function.update r.slots k ((r.slots k).accept (fragHeader p id part) (partBytes p part))
          mostSuccessFragId := r.mostSuccessFragId } (part :: got) (by simp) (by simpa using hstep)
        (fun j hj => by simpa [hj] using hother j hj) (by
          refine List.Perm.trans ?_ hperm
          have hmid : (got ++ part :: next :: rest').Perm (part :: (got ++ next :: rest')) := List.perm_middle
          simpa using hmid.symm)
      obtain ⟨⟨s, hs, hslots⟩, hout⟩ := ih
      refine ⟨⟨s, hs, ?_⟩, by simpa using hout⟩
      rw [Option.isSome_none, if_neg (by simp), hslots]
      simp
  termination_by todo => todo.length

/-- **The fragments of one packet, in any order and uninterrupted, deliver the packet once** when a slot is picked for
its first fragment, and drop it when it outgrows the caller's buffer; the other slots are untouched. -/
theorem feed_fragments (r : Reassembler) (hfresh : r.Fresh id (bytesAt p 12 4)) {k : Fin numSlots}
    (hpick : r.pickSlot id (bytesAt p 12 4) = some (k, false)) {order : List Nat}
    (horder : order.Perm (List.range (totalParts p))) :
    (∃ s, s.used = false ∧ (feed outBufSize r (order.map (fragment p id))).1.slots = Function.update r.slots k s) ∧
    (feed outBufSize r (order.map (fragment p id))).2 = if p.length ≤ outBufSize then [p] else [] := by
  -- claiming the slot first and feeding then is the same
  have hne : order ≠ [] := by
    rintro rfl
    have h0 := horder.length_eq
    have := totalParts_pos (p := p) (by omega)
    simp at h0
    omega
  have hclaim := holds_claim (r.slots k) p id
  have hrest := feed_rest hp20 hp outBufSize k order
    { r with slots := Function.update r.slots k ((r.slots k).claim id (bytesAt p 12 4)) } [] hne (by simpa using hclaim)
    (fun j hj => by simpa [hj] using hfresh j) (by simpa using horder)
  obtain ⟨part, rest, rfl⟩ := List.exists_cons_of_ne_nil hne
  have hfeed : feed outBufSize r ((part :: rest).map (fragment p id)) = feed outBufSize
      { r with slots := Function.update r.slots k ((r.slots k).claim id (bytesAt p 12 4)) }
      ((part :: rest).map (fragment p id)) := by
    have hpick' : ({ r with slots := Function.update r.slots k ((r.slots k).claim id (bytesAt p 12 4)) } :
        Reassembler).pickSlot id (bytesAt p 12 4) = some (k, true) :=
      pickSlot_existing _ (by simpa using isGroup_of_holds hclaim) (fun j hj => by simpa [hj] using hfresh j)
    rw [List.map_cons, feed_cons, feed_cons, reassembleFrag_fragment r hp20 id part outBufSize hpick,
      reassembleFrag_fragment _ hp20 id part outBufSize hpick']
    simp
  rw [hfeed]
  simpa using hrest

end Group

end Reassembler
end Slp
