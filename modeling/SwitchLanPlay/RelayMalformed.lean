import SwitchLanPlay.RelayEviction
/-!
# RelayMalformed — what a malformed fragment does to the groups in progress

A datagram that ends before the bytes it declares is refused before a slot is looked at.  A part that fits no slot is refused
once its slot is picked, and frees it: the fragment's own group loses the parts it had, and where a slot was evicted for the
fragment, that group is lost (`malformed_keeps_iff`).
-/
namespace Slp

open Wire RelayBridge

/-- The part has no bit of the mask, or its bytes end beyond the slot's buffer. -/
def FragHeader.OutOfSlot (hdr : FragHeader) : Prop :=
  32 ≤ hdr.part.toNat ∨ slotBufferSize < hdr.part.toNat * hdr.pmtu.toNat + hdr.len.toNat

instance (hdr : FragHeader) : Decidable hdr.OutOfSlot := by
  unfold FragHeader.OutOfSlot
  infer_instance

theorem ReassemblySlot.fill_outOfSlot (s : ReassemblySlot) {hdr : FragHeader} (h : hdr.OutOfSlot) (chunk : Bytes)
    (outBufSize : Nat) : s.fill hdr chunk outBufSize = (s.release, none) := if_pos h

namespace Reassembler

def Malformed (data : Bytes) : Prop := ¬ IsFragment data ∨ (FragHeader.decode data).OutOfSlot

instance (data : Bytes) : Decidable (Malformed data) := by
  unfold Malformed
  infer_instance

/-- The groups in progress are the same, and so is what they have. -/
def SameGroups (r r' : Reassembler) : Prop :=
  ∀ k, (r'.slots k).used = (r.slots k).used ∧ ((r.slots k).used = true → r'.slots k = r.slots k)

/-- A claim for the group would leave the slot as it is, but for `used`. -/
def Blank (s : ReassemblySlot) (id : UInt16) (srcIp : Bytes) : Prop :=
  s.id = id ∧ s.srcIp = srcIp ∧ s.partMask = 0 ∧ s.totalLen = 0

theorem release_claim_eq_iff {s : ReassemblySlot} (hs : s.used = false) (id : UInt16) (srcIp : Bytes) :
    (s.claim id srcIp).release = s ↔ Blank s id srcIp := by
  obtain ⟨used, sid, ssrc, mask, total, buffer⟩ := s
  cases hs
  simp only [ReassemblySlot.claim, ReassemblySlot.release, ReassemblySlot.mk.injEq, Blank, true_and, and_true,
    eq_comm (a := id), eq_comm (a := srcIp), eq_comm (a := 0)]

section Malformed

variable {r : Reassembler} {data : Bytes} {k : Fin numSlots}

/-- **A part that fits no slot frees the slot that was picked for it, claimed or not.** -/
theorem reassembleFrag_outOfSlot (hfrag : IsFragment data) (hout : (FragHeader.decode data).OutOfSlot) {ex : Bool}
    (hk : r.pickSlot (FragHeader.decode data).id (FragHeader.decode data).srcIp = some (k, ex)) (outBufSize : Nat) :
    r.reassembleFrag data outBufSize =
      ({ r with
         slots := Function.update r.slots k
           (if ex then r.slots k else (r.slots k).claim (FragHeader.decode data).id (FragHeader.decode data).srcIp).release },
        none) := by
  rw [reassembleFrag_of_pick r outBufSize hfrag hk]
  simp only [ReassemblySlot.fill_outOfSlot _ hout]
  rfl

theorem malformed_rejected (h : Malformed data) (outBufSize : Nat) : (r.reassembleFrag data outBufSize).2 = none := by
  by_cases hfrag : IsFragment data
  · have hout : (FragHeader.decode data).OutOfSlot := h.resolve_left (not_not_intro hfrag)
    cases hk : r.pickSlot (FragHeader.decode data).id (FragHeader.decode data).srcIp with
    | none => rw [reassembleFrag_of_no_pick r outBufSize hfrag hk]
    | some pick => rw [reassembleFrag_outOfSlot hfrag hout hk]
  · rw [reassembleFrag_of_short r outBufSize hfrag]

theorem sameGroups_refl (r : Reassembler) : SameGroups r r := fun _ => ⟨rfl, fun _ => rfl⟩

/-- **A used slot that is freed is neither the same slot nor the same group.** -/
theorem changed_of_freed (hu : (r.slots k).used = true) {r' : Reassembler} (hfree : (r'.slots k).used = false) :
    r'.slots ≠ r.slots ∧ ¬ SameGroups r r' := by
  refine ⟨fun h => ?_, fun h => ?_⟩
  · rw [h, hu] at hfree
    cases hfree
  · rw [(h k).1, hu] at hfree
    cases hfree

/-- **Picked for a part that fits no slot, a group in progress is lost.** -/
theorem changed_of_pick (hfrag : IsFragment data) (hout : (FragHeader.decode data).OutOfSlot) {ex : Bool}
    (hk : r.pickSlot (FragHeader.decode data).id (FragHeader.decode data).srcIp = some (k, ex)) (hu : (r.slots k).used = true)
    (outBufSize : Nat) :
    (r.reassembleFrag data outBufSize).1.slots ≠ r.slots ∧ ¬ SameGroups r (r.reassembleFrag data outBufSize).1 := by
  refine changed_of_freed hu ?_
  rw [reassembleFrag_outOfSlot hfrag hout hk]
  simp [ReassemblySlot.release]

/-- **A malformed fragment changes no slot exactly if** it is refused before a slot is picked, none can be picked, or the free
slot that is picked was last claimed for the same group and no part came.  **It leaves the groups in progress as they are
exactly if** it is refused first, or begins a group without evicting one. -/
theorem malformed_keeps_iff (h : Malformed data) (outBufSize : Nat) :
    ((r.reassembleFrag data outBufSize).1.slots = r.slots ↔ ¬ IsFragment data ∨
      r.Fresh (FragHeader.decode data).id (FragHeader.decode data).srcIp ∧
        (r.Wedged ∨ ∃ k, SlotTable.first (fun s : ReassemblySlot => !s.used) r.slots = some k ∧
          Blank (r.slots k) (FragHeader.decode data).id (FragHeader.decode data).srcIp)) ∧
    (SameGroups r (r.reassembleFrag data outBufSize).1 ↔ ¬ IsFragment data ∨
      r.Fresh (FragHeader.decode data).id (FragHeader.decode data).srcIp ∧
        ((∃ k, (r.slots k).used = false) ∨ ∀ k, r.dist (r.slots k) ≤ 10)) := by
  by_cases hfrag : IsFragment data
  swap
  · rw [reassembleFrag_of_short r outBufSize hfrag]
    exact ⟨iff_of_true rfl (Or.inl hfrag), iff_of_true (sameGroups_refl r) (Or.inl hfrag)⟩
  have hout : (FragHeader.decode data).OutOfSlot := h.resolve_left (not_not_intro hfrag)
  simp only [not_true_eq_false, hfrag, false_or]
  by_cases hfresh : r.Fresh (FragHeader.decode data).id (FragHeader.decode data).srcIp
  swap
  · -- the fragment's own group is freed
    obtain ⟨j, hj⟩ := not_forall.1 hfresh
    obtain ⟨k, hk⟩ := SlotTable.first_ne_none (p := isGroup (FragHeader.decode data).id (FragHeader.decode data).srcIp)
      (t := r.slots) (k := j) (by simpa using hj)
    have hpick : r.pickSlot (FragHeader.decode data).id (FragHeader.decode data).srcIp = some (k, true) := by
      rw [pickSlot, hk]
    have hu : (r.slots k).used = true := by
      have := SlotTable.apply_of_first hk
      simp only [isGroup, Bool.and_eq_true] at this
      exact this.1.1
    obtain ⟨hne, hng⟩ := changed_of_pick hfrag hout hpick hu outBufSize
    exact ⟨iff_of_false hne (fun hc => hfresh hc.1), iff_of_false hng (fun hc => hfresh hc.1)⟩
  simp only [hfresh, true_and]
  cases hf : SlotTable.first (fun s : ReassemblySlot => !s.used) r.slots with
  | some k =>
    -- a free slot is claimed and freed again
    have hu : (r.slots k).used = false := by simpa using SlotTable.apply_of_first hf
    have hw : ¬ r.Wedged := fun hw => by rw [(hw k).1] at hu; cases hu
    rw [reassembleFrag_outOfSlot hfrag hout (pickSlot_of_free hfresh hf)]
    simp only [Bool.false_eq_true, if_false, hw, false_or, Option.some.injEq, exists_eq_left',
      Function.update_eq_self_iff, release_claim_eq_iff hu]
    refine ⟨trivial, iff_of_true (fun j => ?_) (Or.inl ⟨k, hu⟩)⟩
    by_cases hj : j = k
    · subst hj
      simp [ReassemblySlot.release, hu]
    · simp [hj]
  | none =>
    have hused : ∀ k, (r.slots k).used = true := fun k => by simpa using SlotTable.first_eq_none_iff.1 hf k
    have hnofree : ¬ ∃ k, (r.slots k).used = false := by
      rintro ⟨k, hk⟩
      rw [hused k] at hk
      cases hk
    rcases pickSlot_full hfresh hused with ⟨hnear, hpick⟩ | ⟨k, hfar, -, hpick⟩
    · rw [reassembleFrag_of_no_pick r outBufSize hfrag hpick]
      exact ⟨iff_of_true rfl (Or.inl (fun k => ⟨hused k, hnear k⟩)),
        iff_of_true (sameGroups_refl r) (Or.inr hnear)⟩
    · -- the farthest group is evicted and its slot freed
      have hnw : ¬ ∀ k, r.dist (r.slots k) ≤ 10 := fun hall => absurd (hall k) (Nat.not_le.2 hfar)
      obtain ⟨hne, hng⟩ := changed_of_pick hfrag hout hpick (hused k) outBufSize
      refine ⟨iff_of_false hne ?_, iff_of_false hng (not_or_intro hnofree hnw)⟩
      rintro (hw | ⟨j, hj, -⟩)
      · exact hnw (fun k => (hw k).2)
      · cases hj

end Malformed

/-! ## A group lost to one bad datagram -/

/-- The first of the two fragments of a packet, with a byte of it, and a fragment of the same group with part number 32. -/
def firstPart : Bytes := FragHeader.encode ⟨[10, 13, 0, 1], [10, 13, 255, 255], 7, 0, 2, 1, UInt16.ofNat fragChunk⟩ ++ [69]

def badPart : Bytes := FragHeader.encode ⟨[10, 13, 0, 1], [10, 13, 255, 255], 7, 32, 2, 1, UInt16.ofNat fragChunk⟩ ++ [69]

theorem malformed_keeps_iff_badPart :
    ((({} : Reassembler).reassembleFrag badPart packetCap).1.slots = ({} : Reassembler).slots ↔ ¬ IsFragment badPart ∨
      ({} : Reassembler).Fresh (FragHeader.decode badPart).id (FragHeader.decode badPart).srcIp ∧
        (({} : Reassembler).Wedged ∨ ∃ k, SlotTable.first (fun s : ReassemblySlot => !s.used) ({} : Reassembler).slots = some k ∧
          Blank (({} : Reassembler).slots k) (FragHeader.decode badPart).id (FragHeader.decode badPart).srcIp)) ∧
    (SameGroups {} (({} : Reassembler).reassembleFrag badPart packetCap).1 ↔ ¬ IsFragment badPart ∨
      ({} : Reassembler).Fresh (FragHeader.decode badPart).id (FragHeader.decode badPart).srcIp ∧
        ((∃ k, (({} : Reassembler).slots k).used = false) ∨
          ∀ k, ({} : Reassembler).dist (({} : Reassembler).slots k) ≤ 10)) :=
  malformed_keeps_iff (by decide) packetCap

/-- **One bad datagram and the fragment's own group has lost the part it had.** -/
theorem group_lost : Malformed badPart ∧
    ((({} : Reassembler).reassembleFrag firstPart packetCap).1.reassembleFrag badPart packetCap).1.slots ≠
      (({} : Reassembler).reassembleFrag firstPart packetCap).1.slots ∧
    ¬ SameGroups (({} : Reassembler).reassembleFrag firstPart packetCap).1
      ((({} : Reassembler).reassembleFrag firstPart packetCap).1.reassembleFrag badPart packetCap).1 :=
  ⟨by decide, changed_of_freed (k := ⟨0, by decide⟩) (by decide) (by decide)⟩

end Reassembler
end Slp
