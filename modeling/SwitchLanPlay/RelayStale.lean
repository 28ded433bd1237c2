import SwitchLanPlay.RelayMalformed
import SwitchLanPlay.Runs
/-!
# RelayStale — where the bytes of a reassembled packet were written

A claim resets a slot's mask and length and leaves its bytes, and a group counts as complete by its mask alone.  Beside each
slot are kept the fragments that were accepted since it was claimed; a byte of the buffer that one of them covers is a byte of
the last such (`Traces`).  In any run the bytes of a packet all come from these fragments exactly if one of them covers offset 0
and, wherever one ends before the packet does, another goes on (`clean_iff_endsMeet`).  Fragments of one group that disagree
about the distance of the parts need not (`gap_delivered`).
-/
namespace Slp

open Wire RelayBridge

/-- **Half-open intervals cover a range from 0 exactly if** one of them covers 0 and, wherever one ends within the range,
another covers the end. -/
theorem cover_iff_ends {α : Type} (first stop : α → Nat) (l : List α) {n : Nat} (hn : 0 < n) :
    (∀ x, x < n → ∃ I ∈ l, first I ≤ x ∧ x < stop I) ↔
      (∃ I ∈ l, first I ≤ 0 ∧ 0 < stop I) ∧ ∀ I ∈ l, stop I < n → ∃ J ∈ l, first J ≤ stop I ∧ stop I < stop J := by
  constructor
  · exact fun h => ⟨h 0 hn, fun I _ hI => h (stop I) hI⟩
  · rintro ⟨hzero, hends⟩ x
    induction x with
    | zero => exact fun _ => hzero
    | succ x ih =>
      intro hx
      obtain ⟨I, hI, hfirst, hstop⟩ := ih (by omega)
      by_cases hin : x + 1 < stop I
      · exact ⟨I, hI, by omega, hin⟩
      · have hend : stop I = x + 1 := by omega
        rw [← hend] at hx ⊢
        exact hends I hI hx

/-! ## Fragments as writes -/

namespace FragHeader

/-- Where the fragment's bytes go, and where they end. -/
def offset (hdr : FragHeader) : Nat := hdr.part.toNat * hdr.pmtu.toNat

def stop (hdr : FragHeader) : Nat := hdr.offset + hdr.len.toNat

end FragHeader

/-- The fragment's bytes go to this offset among others. -/
def covers (i : Nat) (data : Bytes) : Bool :=
  decide ((FragHeader.decode data).offset ≤ i ∧ i < (FragHeader.decode data).stop)

theorem covers_iff {i : Nat} {data : Bytes} : covers i data = true ↔
    (FragHeader.decode data).offset ≤ i ∧ i < (FragHeader.decode data).offset + (FragHeader.decode data).len.toNat := by
  rw [covers, decide_eq_true_eq, FragHeader.stop]

/-- The byte that the fragment has for an offset. -/
def byteFor (data : Bytes) (i : Nat) : UInt8 := byteAt (data.drop fragHeaderSize) (i - (FragHeader.decode data).offset)

/-- The mask of the parts, the last accepted first. -/
def maskOf : List Bytes → Nat
  | [] => 0
  | data :: rest => maskOf rest ||| 2 ^ (FragHeader.decode data).part.toNat

/-- Where the last accepted of the fragments that call themselves last ends. -/
def totalOf : List Bytes → Nat
  | [] => 0
  | data :: rest =>
    if (FragHeader.decode data).part.toNat + 1 = (FragHeader.decode data).totalPart.toNat then (FragHeader.decode data).stop
    else totalOf rest

/-- The group is complete with these fragments, and fits the caller's buffer. -/
def Completes (accepted : List Bytes) (totalPart outBufSize : Nat) : Prop :=
  maskOf accepted = ReassemblySlot.expectedMask totalPart ∧ 0 < totalOf accepted ∧ totalOf accepted ≤ outBufSize

instance (accepted : List Bytes) (totalPart outBufSize : Nat) : Decidable (Completes accepted totalPart outBufSize) := by
  unfold Completes
  infer_instance

/-- **The slot has what the fragments wrote**, the last accepted first: each byte that one of them covers is of the first in
the list to do so. -/
structure Traces (s : ReassemblySlot) (accepted : List Bytes) : Prop where
  mask : s.partMask = maskOf accepted
  total : s.totalLen = totalOf accepted
  fits : ∀ data ∈ accepted, (FragHeader.decode data).stop ≤ slotBufferSize
  group : ∀ data ∈ accepted, (FragHeader.decode data).id = s.id ∧ (FragHeader.decode data).srcIp = s.srcIp
  bytes : ∀ (i : Fin slotBufferSize) (data : Bytes), accepted.find? (covers i.val) = some data → s.buffer i = byteFor data i.val

section Traces

variable {s : ReassemblySlot} {accepted : List Bytes} {data : Bytes}

theorem traces_claim (s : ReassemblySlot) (id : UInt16) (srcIp : Bytes) : Traces (s.claim id srcIp) [] where
  mask := rfl
  total := rfl
  fits _ h := by cases h
  group _ h := by cases h
  bytes _ _ h := by cases h

theorem Traces.release (h : Traces s accepted) : Traces s.release accepted := ⟨h.mask, h.total, h.fits, h.group, h.bytes⟩

/-- **An accepted fragment writes what it covers.** -/
theorem Traces.accept (h : Traces s accepted) (hfrag : Reassembler.IsFragment data)
    (hin : ¬ (FragHeader.decode data).OutOfSlot) (hid : (FragHeader.decode data).id = s.id)
    (hsrc : (FragHeader.decode data).srcIp = s.srcIp) :
    Traces (s.accept (FragHeader.decode data) (data.drop fragHeaderSize)) (data :: accepted) := by
  have hlen : ((data.drop fragHeaderSize).take (FragHeader.decode data).len.toNat).length = (FragHeader.decode data).len.toNat :=
    List.length_take_of_le hfrag.2
  have hbuffer : (s.accept (FragHeader.decode data) (data.drop fragHeaderSize)).buffer =
      s.buffer.write (FragHeader.decode data).offset ((data.drop fragHeaderSize).take (FragHeader.decode data).len.toNat) := rfl
  refine ⟨by simp [ReassemblySlot.accept, maskOf, h.mask], ?_, fun f hf => ?_, fun f hf => ?_, fun i f hf => ?_⟩
  · simp only [ReassemblySlot.accept, totalOf, h.total]
    by_cases hlast : (FragHeader.decode data).part.toNat + 1 = (FragHeader.decode data).totalPart.toNat
    · rw [if_pos hlast, if_pos hlast, ← hlast]
      rfl
    · rw [if_neg hlast, if_neg hlast]
  · rcases List.mem_cons.1 hf with rfl | hf
    · simp only [FragHeader.OutOfSlot, not_or, Nat.not_lt] at hin
      exact hin.2
    · exact h.fits f hf
  · rcases List.mem_cons.1 hf with rfl | hf
    · exact ⟨hid, hsrc⟩
    · exact h.group f hf
  · by_cases hc : covers i.val data = true
    · rw [List.find?_cons_of_pos hc, Option.some.injEq] at hf
      subst hf
      rw [covers_iff] at hc
      rw [hbuffer, ByteArr.write_of_mem _ _ _ _ hc.1 (by rw [hlen]; exact hc.2)]
      have hlt : i.val - (FragHeader.decode data).offset < (FragHeader.decode data).len.toNat := by omega
      simp only [byteFor, byteAt, List.getD_eq_getElem?_getD, List.getElem?_take_of_lt hlt]
    · rw [List.find?_cons_of_neg hc] at hf
      rw [covers_iff] at hc
      rw [hbuffer, ByteArr.write_of_not_mem]
      · exact h.bytes i f hf
      · rw [hlen]
        omega

/-- **The group comes out with these fragments exactly if they complete it.** -/
theorem Traces.fill {hdr : FragHeader} {chunk : Bytes} (h : Traces (s.accept hdr chunk) accepted) (hin : ¬ hdr.OutOfSlot)
    (outBufSize : Nat) :
    Traces (s.fill hdr chunk outBufSize).1 accepted ∧
      (s.fill hdr chunk outBufSize).2.map (·.bytes) =
        if Completes accepted hdr.totalPart.toNat outBufSize then some ((s.accept hdr chunk).buffer.read (totalOf accepted))
        else none := by
  have hfill : s.fill hdr chunk outBufSize =
      (if (s.accept hdr chunk).isComplete hdr.totalPart.toNat then
        if hfit : (s.accept hdr chunk).totalLen ≤ outBufSize then
          ((s.accept hdr chunk).release, some ((s.accept hdr chunk).packet outBufSize hfit))
        else ((s.accept hdr chunk).release, none)
      else (s.accept hdr chunk, none)) := if_neg hin
  have hcomplete : (s.accept hdr chunk).isComplete hdr.totalPart.toNat = true ↔
      maskOf accepted = ReassemblySlot.expectedMask hdr.totalPart.toNat ∧ 0 < totalOf accepted := by
    rw [ReassemblySlot.isComplete, h.mask, h.total, Bool.and_eq_true, beq_iff_eq, decide_eq_true_eq]
  rw [hfill]
  by_cases hc : (s.accept hdr chunk).isComplete hdr.totalPart.toNat = true
  · obtain ⟨hmask, hpos⟩ := hcomplete.1 hc
    rw [if_pos hc]
    by_cases hfit : (s.accept hdr chunk).totalLen ≤ outBufSize
    · have hcs : Completes accepted hdr.totalPart.toNat outBufSize := ⟨hmask, hpos, by rw [← h.total]; exact hfit⟩
      rw [dif_pos hfit, if_pos hcs, ← h.total]
      exact ⟨h.release, rfl⟩
    · have hcs : ¬ Completes accepted hdr.totalPart.toNat outBufSize := fun hcs => hfit (by rw [h.total]; exact hcs.2.2)
      rw [dif_neg hfit, if_neg hcs]
      exact ⟨h.release, rfl⟩
  · have hcs : ¬ Completes accepted hdr.totalPart.toNat outBufSize := fun hcs => hc (hcomplete.2 ⟨hcs.1, hcs.2.1⟩)
    rw [if_neg hc, if_neg hcs]
    exact ⟨h, rfl⟩

theorem totalOf_le : ∀ (l : List Bytes), (∀ data ∈ l, (FragHeader.decode data).stop ≤ slotBufferSize) →
    totalOf l ≤ slotBufferSize
  | [], _ => Nat.zero_le _
  | data :: rest, h => by
    rw [totalOf]
    split
    · exact h data (List.mem_cons_self ..)
    · exact totalOf_le rest (fun d hd => h d (List.mem_cons_of_mem _ hd))

end Traces

/-! ## The fragments accepted since the claim -/

/-- One of the fragments covers offset 0 and, where one ends before the last of those that call themselves last does, another
covers the end. -/
def EndsMeet (accepted : List Bytes) : Prop :=
  (∃ data ∈ accepted, covers 0 data = true) ∧
    ∀ data ∈ accepted, (FragHeader.decode data).stop < totalOf accepted →
      ∃ data' ∈ accepted, covers (FragHeader.decode data).stop data' = true

instance (accepted : List Bytes) : Decidable (EndsMeet accepted) := by
  unfold EndsMeet
  infer_instance

theorem endsMeet_iff {accepted : List Bytes} (h : 0 < totalOf accepted) :
    EndsMeet accepted ↔ ∀ i, i < totalOf accepted → ∃ data, accepted.find? (covers i) = some data := by
  have hfind : ∀ i, (∃ data, accepted.find? (covers i) = some data) ↔ ∃ data ∈ accepted, covers i data = true := fun i => by
    rw [← Option.isSome_iff_exists, List.find?_isSome]
  have hcover := cover_iff_ends (fun data => (FragHeader.decode data).offset) (fun data => (FragHeader.decode data).stop)
    accepted h
  simp only [EndsMeet, hfind]
  simp only [covers, decide_eq_true_eq]
  exact hcover.symm

/-- The reassembler, and for each slot the fragments accepted since it was last claimed, the last one first. -/
structure Traced where
  reassembler : Reassembler := {}
  accepted : Fin numSlots → List Bytes := fun _ => []

namespace Traced

/-- The fragments that have been accepted for the group of `data` once it is, or none where `data` is refused. -/
def since (t : Traced) (data : Bytes) : List Bytes :=
  if Reassembler.IsFragment data ∧ ¬ (FragHeader.decode data).OutOfSlot then
    match t.reassembler.pickSlot (FragHeader.decode data).id (FragHeader.decode data).srcIp with
    | some (k, true) => data :: t.accepted k
    | some (_, false) => [data]
    | none => []
  else []

/-- `ReassembleFrag` on any byte string. -/
def step (t : Traced) (arrival : Bytes × Nat) : Traced where
  reassembler := (t.reassembler.reassembleFrag arrival.1 arrival.2).1
  accepted :=
    match t.reassembler.pickSlot (FragHeader.decode arrival.1).id (FragHeader.decode arrival.1).srcIp with
    | some (k, _) => if t.since arrival.1 = [] then t.accepted else Function.update t.accepted k (t.since arrival.1)
    | none => t.accepted

/-- **Every byte of the packet that comes out was copied from a fragment of the same group, accepted since the slot was
claimed**, and from the last of those that have one for its place. -/
def Clean (t : Traced) (data : Bytes) (outBufSize : Nat) : Prop :=
  ∀ q ∈ (t.reassembler.reassembleFrag data outBufSize).2, ∀ i, i < q.bytes.length →
    ∃ f, (t.since data).find? (covers i) = some f ∧
      (FragHeader.decode f).id = (FragHeader.decode data).id ∧
      (FragHeader.decode f).srcIp = (FragHeader.decode data).srcIp ∧ byteAt q.bytes i = byteFor f i

/-- The slots in use have what the fragments accepted since wrote. -/
def Inv (t : Traced) : Prop := ∀ k, (t.reassembler.slots k).used = true → Traces (t.reassembler.slots k) (t.accepted k)

section Step

variable {t : Traced} {data : Bytes} {k : Fin numSlots} {ex : Bool}

/-- **The slot picked for a fragment has what the earlier ones of its group wrote.** -/
theorem Inv.picked (h : Inv t)
    (hk : t.reassembler.pickSlot (FragHeader.decode data).id (FragHeader.decode data).srcIp = some (k, ex)) :
    Traces (if ex then t.reassembler.slots k
        else (t.reassembler.slots k).claim (FragHeader.decode data).id (FragHeader.decode data).srcIp)
      (if ex then t.accepted k else []) ∧
    (FragHeader.decode data).id = (if ex then t.reassembler.slots k
        else (t.reassembler.slots k).claim (FragHeader.decode data).id (FragHeader.decode data).srcIp).id ∧
    (FragHeader.decode data).srcIp = (if ex then t.reassembler.slots k
        else (t.reassembler.slots k).claim (FragHeader.decode data).id (FragHeader.decode data).srcIp).srcIp := by
  cases ex with
  | true =>
    have hg := Reassembler.isGroup_of_pickSlot hk
    simp only [Reassembler.isGroup, Bool.and_eq_true, beq_iff_eq] at hg
    exact ⟨h k hg.1.1, hg.1.2.symm, hg.2.symm⟩
  | false => exact ⟨traces_claim _ _ _, rfl, rfl⟩

theorem since_of_pick (hfrag : Reassembler.IsFragment data) (hin : ¬ (FragHeader.decode data).OutOfSlot)
    (hk : t.reassembler.pickSlot (FragHeader.decode data).id (FragHeader.decode data).srcIp = some (k, ex)) :
    t.since data = data :: if ex then t.accepted k else [] := by
  rw [since, if_pos ⟨hfrag, hin⟩, hk]
  cases ex <;> rfl

theorem since_of_refused (h : ¬ (Reassembler.IsFragment data ∧ ¬ (FragHeader.decode data).OutOfSlot)) : t.since data = [] :=
  if_neg h

theorem Inv.of_same (h : Inv t) {t' : Traced} (hre : t'.reassembler = t.reassembler) (hacc : t'.accepted = t.accepted) :
    Inv t' := by
  unfold Inv
  rw [hre, hacc]
  exact h

theorem Inv.step (h : Inv t) (arrival : Bytes × Nat) : Inv (t.step arrival) := by
  obtain ⟨data, outBufSize⟩ := arrival
  by_cases hfrag : Reassembler.IsFragment data
  swap
  · have hsince : t.since data = [] := since_of_refused (fun hc => hfrag hc.1)
    refine h.of_same ?_ ?_
    · simp only [Traced.step, Reassembler.reassembleFrag_of_short t.reassembler outBufSize hfrag]
    · simp only [Traced.step, hsince, if_true]
      split <;> rfl
  cases hk : t.reassembler.pickSlot (FragHeader.decode data).id (FragHeader.decode data).srcIp with
  | none =>
    refine h.of_same ?_ ?_
    · simp only [Traced.step, Reassembler.reassembleFrag_of_no_pick t.reassembler outBufSize hfrag hk]
    · simp only [Traced.step, hk]
  | some pick =>
    intro j hj
    obtain ⟨k, ex⟩ := pick
    obtain ⟨htr, hid, hsrc⟩ := h.picked hk
    by_cases hin : (FragHeader.decode data).OutOfSlot
    · -- the slot is freed
      have hsince : t.since data = [] := since_of_refused (fun hc => hc.2 hin)
      have hacc : (t.step (data, outBufSize)).accepted = t.accepted := by simp only [Traced.step, hk, hsince, if_true]
      rw [hacc]
      simp only [Traced.step, Reassembler.reassembleFrag_outOfSlot hfrag hin hk] at hj ⊢
      by_cases hjk : j = k
      · subst hjk
        simp [ReassemblySlot.release] at hj
      · rw [Function.update_of_ne hjk] at hj ⊢
        exact h j hj
    · have hsince := since_of_pick (t := t) hfrag hin hk
      have hacc : (t.step (data, outBufSize)).accepted = Function.update t.accepted k (t.since data) := by
        simp only [Traced.step, hk]
        rw [if_neg (by rw [hsince]; exact List.cons_ne_nil _ _)]
      rw [hacc]
      simp only [Traced.step, Reassembler.reassembleFrag_of_pick t.reassembler outBufSize hfrag hk] at hj ⊢
      by_cases hjk : j = k
      · subst hjk
        rw [Function.update_self, Function.update_self, hsince]
        exact ((htr.accept hfrag hin hid hsrc).fill hin outBufSize).1
      · rw [Function.update_of_ne hjk] at hj ⊢
        rw [Function.update_of_ne hjk]
        exact h j hj

/-- **What comes out of a call**: what the fragments wrote, if they complete the group. -/
theorem Inv.returned (h : Inv t) (data : Bytes) (outBufSize : Nat) :
    ∃ s, (Completes (t.since data) (FragHeader.decode data).totalPart.toNat outBufSize → Traces s (t.since data) ∧
        s.id = (FragHeader.decode data).id ∧ s.srcIp = (FragHeader.decode data).srcIp) ∧
      (t.reassembler.reassembleFrag data outBufSize).2.map (·.bytes) =
        if Completes (t.since data) (FragHeader.decode data).totalPart.toNat outBufSize then
          some (s.buffer.read (totalOf (t.since data)))
        else none := by
  have hnone : t.since data = [] → (t.reassembler.reassembleFrag data outBufSize).2 = none →
      ∃ s, (Completes (t.since data) (FragHeader.decode data).totalPart.toNat outBufSize → Traces s (t.since data) ∧
        s.id = (FragHeader.decode data).id ∧ s.srcIp = (FragHeader.decode data).srcIp) ∧
      (t.reassembler.reassembleFrag data outBufSize).2.map (·.bytes) =
        if Completes (t.since data) (FragHeader.decode data).totalPart.toNat outBufSize then
          some (s.buffer.read (totalOf (t.since data)))
        else none := by
    intro hsince hout
    have hcs : ¬ Completes (t.since data) (FragHeader.decode data).totalPart.toNat outBufSize := fun hcs => by
      have := hcs.2.1
      rw [hsince] at this
      exact absurd this (Nat.lt_irrefl 0)
    exact ⟨{}, fun hc => absurd hc hcs, by rw [if_neg hcs, hout]; rfl⟩
  by_cases hfrag : Reassembler.IsFragment data
  swap
  · exact hnone (since_of_refused (fun hc => hfrag hc.1)) (by rw [Reassembler.reassembleFrag_of_short _ _ hfrag])
  by_cases hin : (FragHeader.decode data).OutOfSlot
  · exact hnone (since_of_refused (fun hc => hc.2 hin)) (Reassembler.malformed_rejected (Or.inr hin) outBufSize)
  cases hk : t.reassembler.pickSlot (FragHeader.decode data).id (FragHeader.decode data).srcIp with
  | none =>
    refine hnone ?_ (by rw [Reassembler.reassembleFrag_of_no_pick _ _ hfrag hk])
    rw [since, if_pos ⟨hfrag, hin⟩, hk]
  | some pick =>
    obtain ⟨k, ex⟩ := pick
    obtain ⟨htr, hid, hsrc⟩ := h.picked hk
    have hacc := htr.accept hfrag hin hid hsrc
    rw [since_of_pick hfrag hin hk, Reassembler.reassembleFrag_of_pick _ _ hfrag hk]
    exact ⟨_, fun _ => ⟨hacc, hid.symm, hsrc.symm⟩, (hacc.fill hin outBufSize).2⟩

/-- **The packet is made of the fragments' bytes exactly if their ends meet.** -/
theorem Inv.clean_iff (h : Inv t) (data : Bytes) (outBufSize : Nat) :
    t.Clean data outBufSize ↔
      (Completes (t.since data) (FragHeader.decode data).totalPart.toNat outBufSize → EndsMeet (t.since data)) := by
  obtain ⟨s, htr, hout⟩ := h.returned data outBufSize
  by_cases hc : Completes (t.since data) (FragHeader.decode data).totalPart.toNat outBufSize
  swap
  · rw [if_neg hc, Option.map_eq_none_iff] at hout
    refine iff_of_true (fun q hq => ?_) (fun hc' => absurd hc' hc)
    rw [hout] at hq
    cases hq
  · obtain ⟨htr, hid, hsrc⟩ := htr hc
    rw [if_pos hc] at hout
    obtain ⟨q, hq, hbytes⟩ := Option.map_eq_some_iff.1 hout
    have hle : totalOf (t.since data) ≤ slotBufferSize := totalOf_le _ htr.fits
    have hlen : q.bytes.length = totalOf (t.since data) := by rw [hbytes, ByteArr.length_read _ hle]
    simp only [hc, true_implies]
    rw [endsMeet_iff hc.2.1]
    constructor
    · intro hclean i hi
      obtain ⟨f, hf, -⟩ := hclean q hq i (by rw [hlen]; exact hi)
      exact ⟨f, hf⟩
    · intro hall q' hq' i hi
      rw [hq, Option.mem_def, Option.some.injEq] at hq'
      subst hq'
      rw [hlen] at hi
      obtain ⟨f, hf⟩ := hall i hi
      obtain ⟨hfid, hfsrc⟩ := htr.group f (List.mem_of_find?_eq_some hf)
      refine ⟨f, hf, hfid.trans hid, hfsrc.trans hsrc, ?_⟩
      rw [hbytes, ByteArr.byteAt_read _ hle hi]
      exact htr.bytes ⟨i, by omega⟩ f hf

end Step

/-- **In any run, no stale byte leaves the reassembler with a fragment exactly if** the ends of the fragments accepted for its
group meet, where they complete it. -/
theorem clean_iff_endsMeet {t : Traced} (h : Runs.Reachable step (fun _ _ => True) {} t) (data : Bytes) (outBufSize : Nat) :
    t.Clean data outBufSize ↔
      (Completes (t.since data) (FragHeader.decode data).totalPart.toNat outBufSize → EndsMeet (t.since data)) :=
  (h.keeps (P := Inv) (fun k hk => by cases hk) (fun _ arrival hinv _ => hinv.step arrival)).clean_iff data outBufSize

/-! ## A gap between the parts -/

/-- One of two parts of ten bytes, from 10.13.0.1. -/
def tenBytes (part : UInt8) (pmtu : UInt16) : Bytes :=
  FragHeader.encode ⟨[10, 13, 0, 1], [10, 13, 255, 255], 7, part, 2, 10, pmtu⟩ ++ List.replicate 10 69

theorem clean_iff_endsMeet_tenBytes :
    (Runs.run step {} [(tenBytes 0 10, packetCap)]).Clean (tenBytes 1 10) packetCap ↔
      (Completes ((Runs.run step {} [(tenBytes 0 10, packetCap)]).since (tenBytes 1 10))
          (FragHeader.decode (tenBytes 1 10)).totalPart.toNat packetCap →
        EndsMeet ((Runs.run step {} [(tenBytes 0 10, packetCap)]).since (tenBytes 1 10))) :=
  clean_iff_endsMeet (Runs.reachable_run [(tenBytes 0 10, packetCap)] .init ⟨trivial, trivial⟩) (tenBytes 1 10) packetCap

/-- **A packet with 90 bytes that no fragment had**: the second part's `pmtu` is ten times the first's. -/
theorem gap_delivered :
    ((Runs.run step {} [(tenBytes 0 10, packetCap)]).reassembler.reassembleFrag (tenBytes 1 100) packetCap).2.isSome = true ∧
      ¬ (Runs.run step {} [(tenBytes 0 10, packetCap)]).Clean (tenBytes 1 100) packetCap := by
  have hinv : Inv (Runs.run step {} [(tenBytes 0 10, packetCap)]) :=
    Inv.step (fun k hk => by cases hk) (tenBytes 0 10, packetCap)
  have hc : Completes ((Runs.run step {} [(tenBytes 0 10, packetCap)]).since (tenBytes 1 100))
      (FragHeader.decode (tenBytes 1 100)).totalPart.toNat packetCap := by decide
  constructor
  · obtain ⟨s, -, hout⟩ := hinv.returned (tenBytes 1 100) packetCap
    rw [if_pos hc] at hout
    obtain ⟨q, hq, -⟩ := Option.map_eq_some_iff.1 hout
    rw [hq]
    rfl
  · rw [hinv.clean_iff]
    exact fun h => absurd (h hc) (by decide)

end Traced
end Slp
