import SwitchLanPlay.RelayEviction
/-!
# RelayCircle — eviction where the ids wrap

A sender's ids go round a circle of 65536, and the eviction scan measures on the line from 0 to 65535.  The group it evicts is
one that is farthest from the last completed id on the circle exactly if no slot's id lies more than half the circle away on
the line, or the far ones are at one distance and farther on the circle than the others (`evictsFarthest_iff`).  Ids on the two
sides of the wrap are neighbours, and the scan takes them for the most stale ones (`wrapped_id_evicted`).
-/
namespace Slp

open Wire RelayBridge

/-- The distance of two ids on the circle: the steps from one to the other, the shorter way round. -/
def circleDist (a b : UInt16) : Nat := if (a - b).toNat ≤ (b - a).toNat then (a - b).toNat else (b - a).toNat

theorem ReassemblySlot.fill_group (s : ReassemblySlot) (hdr : FragHeader) (chunk : Bytes) (outBufSize : Nat) :
    (s.fill hdr chunk outBufSize).1.id = s.id ∧ (s.fill hdr chunk outBufSize).1.srcIp = s.srcIp := by
  unfold fill
  dsimp only
  split
  · exact ⟨rfl, rfl⟩
  · split
    · split
      · exact ⟨rfl, rfl⟩
      · exact ⟨rfl, rfl⟩
    · exact ⟨rfl, rfl⟩

namespace Reassembler

/-- How far a slot's group is from the last completed one. -/
def drift (r : Reassembler) (k : Fin numSlots) : Nat := circleDist (r.slots k).id r.mostSuccessFragId

theorem drift_eq (r : Reassembler) (k : Fin numSlots) :
    r.drift k = if r.dist (r.slots k) ≤ 32768 then r.dist (r.slots k) else 65536 - r.dist (r.slots k) := by
  have ha := (r.slots k).id.toNat_lt
  have hb := r.mostSuccessFragId.toNat_lt
  obtain ⟨d, hd⟩ : ∃ d, r.dist (r.slots k) = d := ⟨_, rfl⟩
  have hline : (((r.slots k).id.toNat : Int) - (r.mostSuccessFragId.toNat : Int)).natAbs = d := hd
  rw [hd]
  simp only [drift, circleDist, UInt16.toNat_sub]
  by_cases hhalf : d ≤ 32768
  · rw [if_pos hhalf]
    split <;> omega
  · rw [if_neg hhalf]
    split <;> omega

/-- A fragment of a new group takes over one of the slots at the greatest distance, if that is more than 10, and is dropped
otherwise. -/
def EvictsFarthest (r : Reassembler) (data : Bytes) (outBufSize : Nat) : Prop :=
  ((∃ k, 10 < r.drift k) →
    ∃ k, (∀ j, r.drift j ≤ r.drift k) ∧
      ((r.reassembleFrag data outBufSize).1.slots k).id = (FragHeader.decode data).id ∧
      ((r.reassembleFrag data outBufSize).1.slots k).srcIp = (FragHeader.decode data).srcIp ∧
      ∀ j, j ≠ k → (r.reassembleFrag data outBufSize).1.slots j = r.slots j) ∧
  ((∀ k, r.drift k ≤ 10) → r.reassembleFrag data outBufSize = (r, none))

/-- On the line no slot is farther than half the circle, or those that are lie at one distance, which is more than 10 on the
circle too and not less than that of the others. -/
def LineAgrees (r : Reassembler) : Prop :=
  (∀ k, r.dist (r.slots k) ≤ 32768) ∨
    ∃ k, 32768 < r.dist (r.slots k) ∧ r.dist (r.slots k) < 65526 ∧
      ∀ j, r.dist (r.slots j) = r.dist (r.slots k) ∨ r.dist (r.slots j) + r.dist (r.slots k) ≤ 65536

section Farthest

variable {r : Reassembler} {k : Fin numSlots}

/-- **The slot that is farthest on the line is farthest on the circle, and stale there, exactly if the two agree.** -/
theorem farthest_iff (hfar : 10 < r.dist (r.slots k)) (hmax : ∀ j, r.dist (r.slots j) ≤ r.dist (r.slots k)) :
    (10 < r.drift k ∧ ∀ j, r.drift j ≤ r.drift k) ↔ r.LineAgrees := by
  have hk := r.drift_eq k
  constructor
  · rintro ⟨hdrift, hdmax⟩
    by_cases hhalf : r.dist (r.slots k) ≤ 32768
    · exact Or.inl (fun j => Nat.le_trans (hmax j) hhalf)
    · refine Or.inr ⟨k, by omega, ?_, fun j => ?_⟩
      · rw [if_neg hhalf] at hk
        omega
      · have hj := r.drift_eq j
        have hle := hdmax j
        have hm := hmax j
        rw [if_neg hhalf] at hk
        split at hj <;> omega
  · rintro (hall | ⟨i, hi, hi', hothers⟩)
    · have hline : ∀ j, r.drift j = r.dist (r.slots j) := fun j => by rw [drift_eq, if_pos (hall j)]
      refine ⟨by rw [hline]; exact hfar, fun j => ?_⟩
      rw [hline, hline]
      exact hmax j
    · have hki : r.dist (r.slots k) = r.dist (r.slots i) := by
        have := hothers k
        have := hmax i
        omega
      rw [if_neg (by omega)] at hk
      refine ⟨by omega, fun j => ?_⟩
      have hj := r.drift_eq j
      have hjo := hothers j
      split at hj <;> omega

/-- **What is evicted is farthest on the circle exactly if the line agrees with it.**  Every slot is in use and the fragment is
of a new group. -/
theorem evictsFarthest_iff {data : Bytes} (hused : ∀ k, (r.slots k).used = true) (hfrag : IsFragment data)
    (hfresh : r.Fresh (FragHeader.decode data).id (FragHeader.decode data).srcIp) (outBufSize : Nat) :
    r.EvictsFarthest data outBufSize ↔ r.LineAgrees := by
  rcases pickSlot_full hfresh hused with ⟨hnear, hpick⟩ | ⟨k, hfar, hmax, hpick⟩
  · have hline : ∀ k, r.drift k = r.dist (r.slots k) := fun k => by
      rw [drift_eq, if_pos (Nat.le_trans (hnear k) (by decide))]
    refine iff_of_true ⟨fun ⟨k, hk⟩ => ?_, fun _ => reassembleFrag_of_no_pick r outBufSize hfrag hpick⟩
      (Or.inl (fun k => Nat.le_trans (hnear k) (by decide)))
    have := hnear k
    rw [hline] at hk
    omega
  · have hres := reassembleFrag_of_pick r outBufSize hfrag hpick
    have hgroup := ReassemblySlot.fill_group ((r.slots k).claim (FragHeader.decode data).id (FragHeader.decode data).srcIp)
      (FragHeader.decode data) (data.drop fragHeaderSize) outBufSize
    -- slot `k`, and no other, is taken over
    have hown : ((r.reassembleFrag data outBufSize).1.slots k).id = (FragHeader.decode data).id ∧
        ((r.reassembleFrag data outBufSize).1.slots k).srcIp = (FragHeader.decode data).srcIp := by
      rw [hres]
      simp only [Bool.false_eq_true, if_false, Function.update_self]
      exact hgroup
    have hother : ∀ j, j ≠ k → (r.reassembleFrag data outBufSize).1.slots j = r.slots j := fun j hj => by
      rw [hres]
      simp [hj]
    have hnot : ∀ j, (r.slots j).id = (FragHeader.decode data).id → (r.slots j).srcIp = (FragHeader.decode data).srcIp →
        False := fun j hid hsrc => by
      have := hfresh j
      simp [isGroup, hused j, hid, hsrc] at this
    rw [← farthest_iff hfar hmax]
    constructor
    · rintro ⟨hevict, hdrop⟩
      have hstale : ∃ j, 10 < r.drift j := by
        by_contra hnone
        have hsame := hdrop (fun j => Nat.not_lt.1 (fun hj => hnone ⟨j, hj⟩))
        rw [hsame] at hown
        exact hnot k hown.1 hown.2
      obtain ⟨i, himax, hid, hsrc, -⟩ := hevict hstale
      have hik : i = k := by
        by_contra hne
        rw [hother i hne] at hid hsrc
        exact hnot i hid hsrc
      subst hik
      obtain ⟨j, hj⟩ := hstale
      exact ⟨Nat.lt_of_lt_of_le hj (himax j), himax⟩
    · rintro ⟨hdrift, hdmax⟩
      exact ⟨fun _ => ⟨k, hdmax, hown.1, hown.2, hother⟩, fun hall => absurd (hall k) (Nat.not_le.2 hdrift)⟩

end Farthest

/-! ## Either side of the wrap -/

/-- The first of two fragments, with one byte of a packet from 10.13.0.1. -/
def firstOfTwo (id : UInt16) : Bytes :=
  FragHeader.encode ⟨[10, 13, 0, 1], [10, 13, 255, 255], id, 0, 2, 1, UInt16.ofNat fragChunk⟩ ++ [69]

/-- The fragments of the last ids before the wrap, the rest of whose packets is late. -/
def beforeWrap : Reassembler := (({} : Reassembler).feed packetCap ([65532, 65533, 65534, 65535].map firstOfTwo)).1

theorem evictsFarthest_iff_beforeWrap :
    beforeWrap.EvictsFarthest (firstOfTwo 0) packetCap ↔ beforeWrap.LineAgrees :=
  evictsFarthest_iff (by decide) (by decide) (by decide) packetCap

/-- **A group four ids old is evicted by the next packet after the wrap.**  No group has completed yet. -/
theorem wrapped_id_evicted : (∀ k, (beforeWrap.slots k).used = true ∧ beforeWrap.drift k ≤ 10) ∧
    beforeWrap.Fresh (FragHeader.decode (firstOfTwo 0)).id (FragHeader.decode (firstOfTwo 0)).srcIp ∧
    IsFragment (firstOfTwo 0) ∧ ¬ beforeWrap.EvictsFarthest (firstOfTwo 0) packetCap := by
  refine ⟨by decide, by decide, by decide, fun h => ?_⟩
  have hsame := h.2 (by decide)
  have hid : ((beforeWrap.reassembleFrag (firstOfTwo 0) packetCap).1.slots ⟨3, by decide⟩).id =
      (beforeWrap.slots ⟨3, by decide⟩).id := by rw [hsame]
  exact absurd hid (by decide)

end Reassembler
end Slp
