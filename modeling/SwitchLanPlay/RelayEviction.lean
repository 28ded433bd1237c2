import Mathlib.Data.Fintype.Card
import SwitchLanPlay.RelayReassembly
/-!
# RelayEviction — which reassembler states still let new packets through

A fragment of a new group needs a free slot or a used one farther than 10 ids from the last completed group
(`pickSlot_of_fresh`).  The reference id moves only when a group completes, so four used slots within 10 ids of it
(`Wedged`) block every later group from a new source for good (`deliver_wedged`), and otherwise the very next packet
comes through (`canProgress_iff`).
-/
namespace Slp

open Wire RelayBridge

namespace Reassembler

/-! ## The eviction scan -/

/-- What the scan knows after the slots `seen`: its candidate is used and none seen is farther. -/
structure Scanned (r : Reassembler) (seen : List (Fin numSlots)) (best : Option (Fin numSlots) × Nat) : Prop where
  none_zero : best.1 = none → best.2 = 0
  some_dist : ∀ k, best.1 = some k → best.2 = r.dist (r.slots k)
  farthest : ∀ k ∈ seen, (r.slots k).used = true → r.dist (r.slots k) ≤ best.2

theorem scanned_evictStep {r : Reassembler} {seen : List (Fin numSlots)} {best : Option (Fin numSlots) × Nat}
    (h : r.Scanned seen best) (k : Fin numSlots) : r.Scanned (seen ++ [k]) (r.evictStep best k) := by
  have hseen : ∀ j ∈ seen ++ [k], j ∈ seen ∨ j = k := fun j hj => by simpa using hj
  unfold evictStep
  by_cases hu : (r.slots k).used = true
  · by_cases hd : best.2 < r.dist (r.slots k)
    · rw [if_pos (by simp [hu, hd])]
      refine ⟨fun h0 => (by cases h0), fun j hj => by cases hj; rfl, fun j hj hju => ?_⟩
      rcases hseen j hj with hj | rfl
      · exact Nat.le_of_lt (Nat.lt_of_le_of_lt (h.farthest j hj hju) hd)
      · exact Nat.le_refl _
    · rw [if_neg (by simp [hd])]
      refine ⟨h.none_zero, h.some_dist, fun j hj hju => ?_⟩
      rcases hseen j hj with hj | rfl
      · exact h.farthest j hj hju
      · exact Nat.not_lt.1 hd
  · rw [if_neg (by simp [hu])]
    refine ⟨h.none_zero, h.some_dist, fun j hj hju => ?_⟩
    rcases hseen j hj with hj | rfl
    · exact h.farthest j hj hju
    · exact absurd hju hu

theorem scanned_foldl (r : Reassembler) : ∀ (todo seen : List (Fin numSlots)) (best : Option (Fin numSlots) × Nat),
    r.Scanned seen best → r.Scanned (seen ++ todo) (todo.foldl r.evictStep best)
  | [], seen, best, h => by simpa using h
  | k :: todo, seen, best, h => by
    have ih := scanned_foldl r todo (seen ++ [k]) (r.evictStep best k) (scanned_evictStep h k)
    simpa using ih

theorem scanned_toEvict (r : Reassembler) : r.Scanned (List.finRange numSlots) r.toEvict := by
  have := scanned_foldl r (List.finRange numSlots) [] (none, 0)
    { none_zero := fun _ => rfl
      some_dist := fun k hk => by cases hk
      farthest := fun k hk => by cases hk }
  simpa [toEvict] using this

/-! ## Picking a slot for a new group -/

/-- Every slot is taken by a group within 10 ids of the last completed one. -/
def Wedged (r : Reassembler) : Prop := ∀ k, (r.slots k).used = true ∧ r.dist (r.slots k) ≤ 10

theorem pickSlot_of_free {r : Reassembler} {id : UInt16} {srcIp : Bytes} (hfresh : r.Fresh id srcIp) {k : Fin numSlots}
    (hk : SlotTable.first (fun s : ReassemblySlot => !s.used) r.slots = some k) :
    r.pickSlot id srcIp = some (k, false) := by
  rw [pickSlot, SlotTable.first_eq_none_iff.2 hfresh, hk]

/-- **With every slot in use the farthest one is evicted, if it is farther than 10.** -/
theorem pickSlot_full {r : Reassembler} {id : UInt16} {srcIp : Bytes} (hfresh : r.Fresh id srcIp)
    (hused : ∀ k, (r.slots k).used = true) :
    ((∀ k, r.dist (r.slots k) ≤ 10) ∧ r.pickSlot id srcIp = none) ∨
      ∃ k, 10 < r.dist (r.slots k) ∧ (∀ j, r.dist (r.slots j) ≤ r.dist (r.slots k)) ∧
        r.pickSlot id srcIp = some (k, false) := by
  have hs := r.scanned_toEvict
  have hfull : SlotTable.first (fun s : ReassemblySlot => !s.used) r.slots = none :=
    SlotTable.first_eq_none_iff.2 (fun k => by simp [hused k])
  rw [pickSlot, SlotTable.first_eq_none_iff.2 hfresh, hfull]
  obtain ⟨cand, maxDist, he⟩ : ∃ cand maxDist, r.toEvict = (cand, maxDist) := ⟨_, _, rfl⟩
  rw [he] at hs ⊢
  have hfar : ∀ j, r.dist (r.slots j) ≤ maxDist := fun j => hs.farthest j (List.mem_finRange j) (hused j)
  cases cand with
  | none =>
    have h0 : maxDist = 0 := hs.none_zero rfl
    exact Or.inl ⟨fun k => Nat.le_trans (hfar k) (by omega), rfl⟩
  | some k =>
    have hk : maxDist = r.dist (r.slots k) := hs.some_dist k rfl
    by_cases hd : 10 < maxDist
    · refine Or.inr ⟨k, by omega, fun j => ?_, if_pos hd⟩
      rw [← hk]
      exact hfar j
    · exact Or.inl ⟨fun j => Nat.le_trans (hfar j) (Nat.not_lt.1 hd), if_neg hd⟩

/-- **A new group gets a slot unless the reassembler is wedged.** -/
theorem pickSlot_of_fresh {r : Reassembler} {id : UInt16} {srcIp : Bytes} (hfresh : r.Fresh id srcIp) :
    (r.Wedged ∧ r.pickSlot id srcIp = none) ∨ (¬ r.Wedged ∧ ∃ k, r.pickSlot id srcIp = some (k, false)) := by
  cases hf : SlotTable.first (fun s : ReassemblySlot => !s.used) r.slots with
  | some k =>
    -- a free slot
    have hk := SlotTable.apply_of_first hf
    refine Or.inr ⟨fun hw => ?_, k, pickSlot_of_free hfresh hf⟩
    rw [(hw k).1] at hk
    cases hk
  | none =>
    have hused : ∀ k, (r.slots k).used = true := fun k => by simpa using SlotTable.first_eq_none_iff.1 hf k
    rcases pickSlot_full hfresh hused with ⟨hnear, hpick⟩ | ⟨k, hfar, -, hpick⟩
    · exact Or.inl ⟨fun k => ⟨hused k, hnear k⟩, hpick⟩
    · refine Or.inr ⟨fun hw => ?_, k, hpick⟩
      have := (hw k).2
      omega

theorem not_wedged_iff (r : Reassembler) :
    ¬ r.Wedged ↔ (∃ k, (r.slots k).used = false) ∨ ∃ k, 10 < r.dist (r.slots k) := by
  constructor
  · intro h
    obtain ⟨k, hk⟩ := not_forall.1 h
    by_cases hu : (r.slots k).used = true
    · exact Or.inr ⟨k, Nat.not_le.1 (fun hd => hk ⟨hu, hd⟩)⟩
    · exact Or.inl ⟨k, by simpa using hu⟩
  · rintro (⟨k, hk⟩ | ⟨k, hk⟩) hw
    · rw [(hw k).1] at hk
      cases hk
    · have := (hw k).2
      omega

/-! ## Delivering packets -/

/-- The fragments of one packet, in order. -/
def fragments (p : Bytes) (id : UInt16) : List Bytes := (List.range (totalParts p)).map (fragment p id)

/-- Packets with consecutive ids, each fed completely and in order; what is delivered. -/
def deliver (outBufSize : Nat) : Reassembler → UInt16 → List Bytes → Reassembler × List Bytes
  | r, _, [] => (r, [])
  | r, id, p :: ps =>
    let (r', outs) := r.feed outBufSize (fragments p id)
    let (r'', outs') := deliver outBufSize r' (id + 1) ps
    (r'', outs ++ outs')

/-- Packets the bridge fragments, of one source. -/
def FragmentedFrom (src : Bytes) (ps : List Bytes) : Prop :=
  ∀ p ∈ ps, relayMtu < p.length ∧ p.length ≤ slotBufferSize ∧ bytesAt p 12 4 = src

/-- Some number of complete packets with consecutive new ids of one source is enough to get one of them. -/
def CanProgress (r : Reassembler) : Prop :=
  ∃ K, ∀ (src : Bytes) (id : UInt16) (ps : List Bytes), ps.length = K → FragmentedFrom src ps →
    (∀ i, i < K → r.Fresh (id + UInt16.ofNat i) src) → ∃ p ∈ ps, p ∈ (r.deliver slotBufferSize id ps).2

theorem feed_dropped {r : Reassembler} {p : Bytes} {id : UInt16} (hp : 20 ≤ p.length) (outBufSize : Nat)
    (hk : r.pickSlot id (bytesAt p 12 4) = none) : ∀ (parts : List Nat),
    r.feed outBufSize (parts.map (fragment p id)) = (r, [])
  | [] => rfl
  | part :: rest => by
    rw [List.map_cons, feed_cons, reassembleFrag_dropped r hp id part outBufSize hk, feed_dropped hp outBufSize hk rest]
    rfl

/-- **A wedged reassembler drops every packet of a source it has no group of, and stays as it is.** -/
theorem deliver_wedged {r : Reassembler} (hw : r.Wedged) {src : Bytes} (hnew : ∀ id, r.Fresh id src) (outBufSize : Nat) :
    ∀ (ps : List Bytes) (id : UInt16), FragmentedFrom src ps → r.deliver outBufSize id ps = (r, [])
  | [], _, _ => rfl
  | p :: ps, id, h => by
    obtain ⟨hlen, -, hsrc⟩ := h p (List.mem_cons_self ..)
    have hpick : r.pickSlot id (bytesAt p 12 4) = none := by
      rcases pickSlot_of_fresh (hnew id) with ⟨-, hk⟩ | ⟨hn, -⟩
      · rw [hsrc]; exact hk
      · exact absurd hw hn
    have h20 : 20 ≤ p.length := by unfold relayMtu at hlen; omega
    rw [deliver, fragments, feed_dropped h20 outBufSize hpick]
    simp only
    rw [deliver_wedged hw hnew outBufSize ps (id + 1) (fun q hq => h q (List.mem_cons_of_mem _ hq))]
    rfl

/-- Four slots leave a source without a group. -/
theorem exists_new_source (r : Reassembler) : ∃ src : Bytes, src.length = 4 ∧ ∀ id, r.Fresh id src := by
  by_contra hall
  have hbusy : ∀ i : Fin 5, ∃ k, (r.slots k).srcIp = [UInt8.ofNat i.val, 0, 0, 0] := fun i => by
    by_contra hno
    refine hall ⟨[UInt8.ofNat i.val, 0, 0, 0], rfl, fun id k => ?_⟩
    have : (r.slots k).srcIp ≠ [UInt8.ofNat i.val, 0, 0, 0] := fun h => hno ⟨k, h⟩
    simp [isGroup, this]
  choose f hf using hbusy
  have hinj : Function.Injective f := fun i j hij => by
    have h : ([UInt8.ofNat i.val, 0, 0, 0] : Bytes) = [UInt8.ofNat j.val, 0, 0, 0] := by rw [← hf i, ← hf j, hij]
    have h8 : (UInt8.ofNat i.val).toNat = (UInt8.ofNat j.val).toNat := congrArg UInt8.toNat (List.cons.inj h).1
    simp only [UInt8.toNat_ofNat'] at h8
    omega
  have hcard : Fintype.card (Fin 5) ≤ Fintype.card (Fin 4) := Fintype.card_le_of_injective f hinj
  rw [Fintype.card_fin, Fintype.card_fin] at hcard
  omega

/-- A packet of `16 + n` bytes from a source. -/
def packetFrom (src : Bytes) (n : Nat) : Bytes := List.replicate 12 0 ++ (src ++ List.replicate n 0)

theorem length_packetFrom {src : Bytes} (h : src.length = 4) (n : Nat) : (packetFrom src n).length = 16 + n := by
  rw [packetFrom, List.length_append, List.length_append, List.length_replicate, List.length_replicate, h]
  omega

theorem srcIp_packetFrom {src : Bytes} (h : src.length = 4) (n : Nat) : bytesAt (packetFrom src n) 12 4 = src := by
  rw [bytesAt, packetFrom, List.drop_left' List.length_replicate, List.take_left' h]

theorem fragmentedFrom_packetFrom {src : Bytes} (h : src.length = 4) (K : Nat) :
    FragmentedFrom src (List.replicate K (packetFrom src 1385)) := by
  intro p hp
  rw [List.eq_of_mem_replicate hp, length_packetFrom h]
  exact ⟨by decide, by decide, srcIp_packetFrom h _⟩

theorem not_canProgress_of_wedged {r : Reassembler} (hw : r.Wedged) : ¬ r.CanProgress := by
  rintro ⟨K, hK⟩
  obtain ⟨src, hlen, hnew⟩ := r.exists_new_source
  have hfrom := fragmentedFrom_packetFrom hlen K
  obtain ⟨p, -, hp⟩ := hK src 0 _ List.length_replicate hfrom (fun i _ => hnew _)
  rw [deliver_wedged hw hnew slotBufferSize _ 0 hfrom] at hp
  cases hp

theorem canProgress_of_not_wedged {r : Reassembler} (hn : ¬ r.Wedged) : r.CanProgress := by
  refine ⟨1, fun src id ps hlen hfrom hfresh => ?_⟩
  obtain ⟨p, rfl⟩ := List.length_eq_one_iff.1 hlen
  obtain ⟨hmtu, hmax, hsrc⟩ := hfrom p (by simp)
  have h0 : r.Fresh id (bytesAt p 12 4) := by simpa [hsrc] using hfresh 0 (by omega)
  refine ⟨p, by simp, ?_⟩
  rcases pickSlot_of_fresh h0 with ⟨hw, -⟩ | ⟨-, k, hk⟩
  · exact absurd hw hn
  · have h20 : 20 ≤ p.length := by unfold relayMtu at hmtu; omega
    obtain ⟨-, hout⟩ := feed_fragments h20 hmax slotBufferSize r h0 hk (List.Perm.refl _)
    simp only [deliver, fragments, hout, if_pos hmax]
    simp

/-- **Later packets come through exactly when a slot is free or holds a group more than 10 ids from the last completed
one.** -/
theorem canProgress_iff (r : Reassembler) :
    r.CanProgress ↔ (∃ k, (r.slots k).used = false) ∨ ∃ k, 10 < r.dist (r.slots k) := by
  rw [← not_wedged_iff]
  exact ⟨fun h hw => not_canProgress_of_wedged hw h, canProgress_of_not_wedged⟩

/-! ## A wedge from four lost datagrams -/

/-- The first fragment of a packet of several parts only claims a slot. -/
theorem reassembleFrag_first {r : Reassembler} {p : Bytes} {id : UInt16} {k : Fin numSlots} (h20 : 20 ≤ p.length)
    (hmax : p.length ≤ slotBufferSize) (htwo : 2 ≤ totalParts p)
    (hk : r.pickSlot id (bytesAt p 12 4) = some (k, false)) (outBufSize : Nat) :
    ∃ s, s.used = true ∧ s.id = id ∧
      r.reassembleFrag (fragment p id 0) outBufSize = ({ r with slots := Function.update r.slots k s }, none) := by
  have hclaim := holds_claim (r.slots k) p id
  have hpart : 0 < totalParts p := by omega
  have hheld := holds_accept hclaim (by have := totalParts_le hmax; omega) hpart
  refine ⟨_, hheld.used, hheld.id_eq, ?_⟩
  rw [reassembleFrag_fragment r h20 id 0 outBufSize hk]
  simp only [Bool.false_eq_true, if_false]
  rw [fill_missing hclaim (by omega) hmax (fun i hi => by cases hi) (by omega) outBufSize ⟨1, by omega, by simp⟩]
  rfl

/-- The first fragments of packets `0 .. n-1` of a sender, the rest of each lost. -/
def firstFragments (p : Bytes) (n : Nat) : List Bytes := (List.range n).map (fun i => fragment p (UInt16.ofNat i) 0)

theorem feed_append (outBufSize : Nat) : ∀ (xs ys : List Bytes) (r : Reassembler),
    (r.feed outBufSize (xs ++ ys)).1 = ((r.feed outBufSize xs).1.feed outBufSize ys).1
  | [], _, _ => rfl
  | x :: xs, ys, r => by
    rw [List.cons_append, feed_cons, feed_cons]
    exact feed_append outBufSize xs ys _

/-- **Each lost packet keeps a slot of its own.** -/
theorem feed_firstFragments {p : Bytes} (h20 : 20 ≤ p.length) (hmax : p.length ≤ slotBufferSize) (htwo : 2 ≤ totalParts p)
    (outBufSize : Nat) : ∀ n, n ≤ numSlots → ∀ k : Fin numSlots,
    ((({} : Reassembler).feed outBufSize (firstFragments p n)).1.mostSuccessFragId = 0 ∧
    if k.val < n then
      ((({} : Reassembler).feed outBufSize (firstFragments p n)).1.slots k).used = true ∧
      ((({} : Reassembler).feed outBufSize (firstFragments p n)).1.slots k).id = UInt16.ofNat k.val
    else ((({} : Reassembler).feed outBufSize (firstFragments p n)).1.slots k).used = false)
  | 0, _, k => by simp [firstFragments, feed]
  | n + 1, hn, k => by
    have ih := feed_firstFragments h20 hmax htwo outBufSize n (by omega)
    have hsplit : firstFragments p (n + 1) = firstFragments p n ++ [fragment p (UInt16.ofNat n) 0] := by
      simp [firstFragments, List.range_succ]
    rw [hsplit, feed_append]
    obtain ⟨r, hr⟩ : ∃ r, (({} : Reassembler).feed outBufSize (firstFragments p n)).1 = r := ⟨_, rfl⟩
    rw [hr] at ih ⊢
    have hfresh : r.Fresh (UInt16.ofNat n) (bytesAt p 12 4) := fun j => by
      have hj := (ih j).2
      split at hj
      · rename_i hlt
        have hne : UInt16.ofNat j.val ≠ UInt16.ofNat n := fun h => by
          have h' := congrArg UInt16.toNat h
          simp only [UInt16.toNat_ofNat'] at h'
          unfold numSlots at hn
          omega
        simp [isGroup, hj.2, hne]
      · simp [isGroup, hj]
    have hfirst : SlotTable.first (fun s : ReassemblySlot => !s.used) r.slots = some ⟨n, hn⟩ := by
      refine SlotTable.first_eq_some_iff.2 ⟨?_, fun j hj => ?_⟩
      · have := (ih ⟨n, hn⟩).2
        simpa using this
      · have := (ih j).2
        rw [if_pos (show j.val < n from hj)] at this
        simp [this.1]
    have hpick : r.pickSlot (UInt16.ofNat n) (bytesAt p 12 4) = some (⟨n, hn⟩, false) := by
      rw [pickSlot, SlotTable.first_eq_none_iff.2 hfresh, hfirst]
    obtain ⟨s, hused, hid, hstep⟩ := reassembleFrag_first h20 hmax htwo hpick outBufSize
    rw [feed_cons, hstep]
    refine ⟨(ih k).1, ?_⟩
    simp only [feed]
    by_cases hk : k = ⟨n, hn⟩
    · subst hk
      simp [hused, hid]
    · have hne : k.val ≠ n := fun h => hk (Fin.ext h)
      have := (ih k).2
      rw [Function.update_of_ne hk]
      by_cases hlt : k.val < n
      · rw [if_pos hlt] at this
        rw [if_pos (by omega)]
        exact this
      · rw [if_neg hlt] at this
        rw [if_neg (by omega)]
        exact this

/-- **Four lost datagrams wedge the reassembler for good**: the first fragments of a sender's packets 0 to 3 arrive, their
second ones are lost. -/
theorem four_lost_fragments_wedge : ¬ (({} : Reassembler).feed packetCap
    (firstFragments (packetFrom [10, 13, 0, 1] 1385) 4)).1.CanProgress := by
  refine not_canProgress_of_wedged (fun k => ?_)
  have hlen : (packetFrom [10, 13, 0, 1] 1385).length = 16 + 1385 := length_packetFrom rfl 1385
  obtain ⟨hmost, hslot⟩ := feed_firstFragments (by rw [hlen]; decide) (by rw [hlen]; decide)
    (by rw [totalParts, hlen]; decide) packetCap 4 (by decide) k
  have hk : k.val < 4 := k.isLt
  rw [if_pos hk] at hslot
  refine ⟨hslot.1, ?_⟩
  rw [dist, hslot.2, hmost, UInt16.toNat_ofNat']
  show ((k.val % 2 ^ 16 : Nat) - (0 : Nat) : Int).natAbs ≤ 10
  omega

end Reassembler
end Slp
