import Mathlib.Data.Fintype.Card
import Mathlib.Data.List.Dedup
import Mathlib.Data.List.FinRange
import SwitchLanPlay.RelayDelivery
import SwitchLanPlay.RelayEviction
/-!
# RelayOrder — the fragments of up to four packets, in any order

At most four packets are cut into fragments under different ids or sources, and every fragment arrives once.  Between two
arrivals each packet that has come in part has a slot of its own, which holds the parts that came (`Underway`), and no other
slot is in use; so a packet that begins finds a free one.  Each packet comes out at the arrival of its last missing fragment
(`reassembled_any_order`).
-/
namespace Slp

open Wire RelayBridge

/-- A call of `SendFragmented`. -/
structure Sending where
  bridge : RelayBridge
  sendto : Nat → Bool
  packet : Bytes

namespace Sending

def id (s : Sending) : UInt16 := s.bridge.nextFragId

def srcIp (s : Sending) : Bytes := bytesAt s.packet 12 4

def frames (s : Sending) : List Bytes := (s.bridge.sendFragmented s.sendto s.packet).frames

/-- What `RecvIpv4` hands to `ReassembleFrag` of a frame. -/
def body (s : Sending) (part : Nat) : Bytes := (s.frames.getD part []).drop 1

/-- The packet needs more than one frame, fits a slot, and every fragment was sent. -/
structure Whole (s : Sending) : Prop where
  mtu_lt : relayMtu < s.packet.length
  le_slot : s.packet.length ≤ slotBufferSize
  sent : 0 ≤ (s.bridge.sendFragmented s.sendto s.packet).ret

variable {s : Sending}

theorem Whole.twenty_le (h : s.Whole) : 20 ≤ s.packet.length := by
  have := h.mtu_lt
  unfold relayMtu at this
  omega

theorem Whole.frames_eq (h : s.Whole) : s.frames = (List.range (totalParts s.packet)).map (fragFrame s.packet s.id) := by
  have hsent := h.sent
  unfold frames
  unfold sendFragmented at hsent ⊢
  split at hsent
  · simp at hsent
  · rename_i ht
    rw [if_neg ht]
    exact sendParts_ok s.bridge s.sendto s.packet _ _ hsent

theorem Whole.length_frames (h : s.Whole) : s.frames.length = totalParts s.packet := by
  rw [h.frames_eq, List.length_map, List.length_range]

theorem Whole.body_eq (h : s.Whole) {part : Nat} (hpart : part < totalParts s.packet) :
    s.body part = fragment s.packet s.id part := by
  rw [body, h.frames_eq, List.getD_eq_getElem?_getD, List.getElem?_map, List.getElem?_range hpart]
  rfl

end Sending

/-! ## Arrivals -/

section Arrivals

variable {n : Nat} (sends : Fin n → Sending)

/-- Every fragment of every packet, by packet and part. -/
def allParts : List (Fin n × Nat) := (List.finRange n).flatMap (fun i => (List.range (sends i).frames.length).map (Prod.mk i))

/-- The fragments that arrive, each with the caller's buffer, and what `ReassembleFrag` returns for each. -/
def arrive (bufSize : Fin n × Nat → Nat) : Reassembler → List (Fin n × Nat) → Reassembler × List (Option Bytes)
  | r, [] => (r, [])
  | r, a :: rest =>
    let result := r.reassembleFrag ((sends a.1).body a.2) (bufSize a)
    let later := arrive bufSize result.1 rest
    (later.1, result.2.map (·.bytes) :: later.2)

/-- Each packet where no fragment of it is left to come, and nothing anywhere else. -/
def atLastParts : List (Fin n × Nat) → List (Option Bytes)
  | [] => []
  | a :: rest => (if a.1 ∈ rest.map Prod.fst then none else some (sends a.1).packet) :: atLastParts rest

/-- **One arrival of each packet is its last.** -/
theorem filterMap_atLastParts : ∀ (arrivals : List (Fin n × Nat)),
    (atLastParts sends arrivals).filterMap id = (arrivals.map Prod.fst).dedup.map (fun i => (sends i).packet)
  | [] => rfl
  | a :: rest => by
    have ih := filterMap_atLastParts rest
    rw [List.map_cons, atLastParts]
    by_cases ha : a.1 ∈ rest.map Prod.fst
    · rw [if_pos ha, List.dedup_cons_of_mem ha]
      simpa using ih
    · rw [if_neg ha, List.dedup_cons_of_notMem ha]
      simpa using ih

/-- The parts of a packet among the fragments. -/
def partsOf (seen : List (Fin n × Nat)) (i : Fin n) : List Nat := (seen.filter (fun a => a.1 = i)).map Prod.snd

theorem mem_partsOf {seen : List (Fin n × Nat)} {i : Fin n} {part : Nat} : part ∈ partsOf seen i ↔ (i, part) ∈ seen := by
  simp only [partsOf, List.mem_map, List.mem_filter, decide_eq_true_eq]
  constructor
  · rintro ⟨⟨j, q⟩, ⟨hmem, hj⟩, hq⟩
    cases hj
    cases hq
    exact hmem
  · exact fun h => ⟨(i, part), ⟨h, rfl⟩, rfl⟩

theorem partsOf_cons_self (seen : List (Fin n × Nat)) (i : Fin n) (part : Nat) :
    partsOf ((i, part) :: seen) i = part :: partsOf seen i := by
  simp [partsOf]

theorem partsOf_cons_other (seen : List (Fin n × Nat)) {i j : Fin n} (h : j ≠ i) (part : Nat) :
    partsOf ((i, part) :: seen) j = partsOf seen j := by
  simp [partsOf, h.symm]

/-- Some of the packet's fragments have come and some have not. -/
def Underway (seen : List (Fin n × Nat)) (i : Fin n) : Prop :=
  partsOf seen i ≠ [] ∧ ∃ part, part < totalParts (sends i).packet ∧ part ∉ partsOf seen i

/-- The slots in use are those of the packets underway, one for each, and hold the parts that have come. -/
structure SlotsHold (r : Reassembler) (seen : List (Fin n × Nat)) : Prop where
  holds : ∀ i, Underway sends seen i → ∃ k, Holds (r.slots k) (sends i).packet (sends i).id (partsOf seen i)
  underway : ∀ k, (r.slots k).used = true →
    ∃ i, Underway sends seen i ∧ Reassembler.isGroup (sends i).id (sends i).srcIp (r.slots k) = true
  solo : ∀ i, SlotTable.Solo (Reassembler.isGroup (sends i).id (sends i).srcIp) r.slots

/-! ## One arrival -/

variable {sends}

section Step

variable {r : Reassembler} {seen : List (Fin n × Nat)} {i : Fin n} {part : Nat}
variable (hn : n ≤ numSlots) (hwhole : ∀ i, (sends i).Whole)
variable (hkey : ∀ i j, (sends i).srcIp = (sends j).srcIp → (sends i).id = (sends j).id → i = j)

include hkey in
theorem eq_of_isGroup {i j : Fin n} {s : ReassemblySlot} (hi : Reassembler.isGroup (sends i).id (sends i).srcIp s = true)
    (hj : Reassembler.isGroup (sends j).id (sends j).srcIp s = true) : i = j := by
  simp only [Reassembler.isGroup, Bool.and_eq_true, beq_iff_eq] at hi hj
  exact hkey i j (hi.2.symm.trans hj.2) (hi.1.2.symm.trans hj.1.2)

include hkey in
theorem fresh_of_not_underway (h : SlotsHold sends r seen) (hi : ¬ Underway sends seen i) :
    r.Fresh (sends i).id (sends i).srcIp := by
  intro k
  by_contra hk
  rw [Bool.not_eq_false] at hk
  have hu : (r.slots k).used = true := by
    simp only [Reassembler.isGroup, Bool.and_eq_true] at hk
    exact hk.1.1
  obtain ⟨j, hj, hjk⟩ := h.underway k hu
  rw [eq_of_isGroup hkey hk hjk] at hi
  exact hi hj

include hn in
/-- **With a packet not underway a slot is free**: the packets underway are fewer than the slots. -/
theorem exists_free (h : SlotsHold sends r seen) (hi : ¬ Underway sends seen i) : ∃ k, (r.slots k).used = false := by
  by_contra hnone
  have hused : ∀ k, (r.slots k).used = true := fun k => by
    by_contra hk
    exact hnone ⟨k, by simpa using hk⟩
  choose f hf hgroup using fun k => h.underway k (hused k)
  have hinj : Function.Injective f := fun j k hjk => by
    have hk := hgroup k
    rw [← hjk] at hk
    exact h.solo (f j) j k (hgroup j) hk
  have hnot : i ∉ Finset.univ.image f := by
    intro hm
    obtain ⟨k, -, hk⟩ := Finset.mem_image.1 hm
    exact hi (hk ▸ hf k)
  have hlt : (Finset.univ.image f).card < Fintype.card (Fin n) := Finset.card_lt_univ_of_notMem hnot
  rw [Finset.card_image_of_injective _ hinj, Finset.card_univ, Fintype.card_fin, Fintype.card_fin] at hlt
  omega

include hn hwhole hkey in
/-- **A fragment goes to a slot that holds what came of its packet**, a free one if nothing did. -/
theorem slot_of_arrival (h : SlotsHold sends r seen) (hpart : part < totalParts (sends i).packet)
    (hnew : part ∉ partsOf seen i) (outBufSize : Nat) :
    ∃ k s, Holds s (sends i).packet (sends i).id (partsOf seen i) ∧
      ((r.slots k).used = true → Reassembler.isGroup (sends i).id (sends i).srcIp (r.slots k) = true) ∧
      (∀ j, j ≠ k → Reassembler.isGroup (sends i).id (sends i).srcIp (r.slots j) = false) ∧
      (r.reassembleFrag ((sends i).body part) outBufSize).1.slots = Function.update r.slots k
        (s.fill (fragHeader (sends i).packet (sends i).id part) (partBytes (sends i).packet part) outBufSize).1 ∧
      (r.reassembleFrag ((sends i).body part) outBufSize).2 =
        (s.fill (fragHeader (sends i).packet (sends i).id part) (partBytes (sends i).packet part) outBufSize).2 := by
  rw [(hwhole i).body_eq hpart]
  by_cases hu : Underway sends seen i
  · obtain ⟨k, hk⟩ := h.holds i hu
    have hgroup := Reassembler.isGroup_of_holds hk
    have hothers : ∀ j, j ≠ k → Reassembler.isGroup (sends i).id (sends i).srcIp (r.slots j) = false := fun j hj => by
      by_contra hjg
      exact hj (h.solo i j k (by simpa using hjg) hgroup)
    have hpick := Reassembler.pickSlot_existing r hgroup hothers
    rw [Reassembler.reassembleFrag_fragment r (hwhole i).twenty_le _ part outBufSize hpick]
    exact ⟨k, r.slots k, hk, fun _ => hgroup, hothers, rfl, rfl⟩
  · have hnil : partsOf seen i = [] := by
      by_contra hne
      exact hu ⟨hne, part, hpart, hnew⟩
    have hfresh := fresh_of_not_underway hkey h hu
    obtain ⟨k₀, hk₀⟩ := exists_free hn h hu
    obtain ⟨k, hk⟩ := SlotTable.first_ne_none (p := fun s : ReassemblySlot => !s.used) (t := r.slots) (k := k₀)
      (by simp [hk₀])
    have hfree : (r.slots k).used = false := by simpa using SlotTable.apply_of_first hk
    have hpick := Reassembler.pickSlot_of_free hfresh hk
    rw [Reassembler.reassembleFrag_fragment r (hwhole i).twenty_le _ part outBufSize hpick, hnil]
    refine ⟨k, _, holds_claim (r.slots k) (sends i).packet (sends i).id, fun hused => ?_, fun j _ => hfresh j, rfl, rfl⟩
    rw [hfree] at hused
    cases hused

theorem underway_cons_other {j : Fin n} (hj : j ≠ i) :
    Underway sends ((i, part) :: seen) j ↔ Underway sends seen j := by
  simp only [Underway, partsOf_cons_other seen hj]

include hkey in
/-- **A write to the packet's slot keeps the picture**, if it frees the slot of a packet that is complete and goes on holding
the parts of one that is not. -/
theorem slotsHold_write (h : SlotsHold sends r seen) {k : Fin numSlots} {s : ReassemblySlot} {r' : Reassembler}
    (hown : (r.slots k).used = true → Reassembler.isGroup (sends i).id (sends i).srcIp (r.slots k) = true)
    (hothers : ∀ j, j ≠ k → Reassembler.isGroup (sends i).id (sends i).srcIp (r.slots j) = false)
    (hslots : r'.slots = Function.update r.slots k s)
    (hs : (s.used = false ∧ ¬ Underway sends ((i, part) :: seen) i) ∨
      (Holds s (sends i).packet (sends i).id (partsOf ((i, part) :: seen) i) ∧ Underway sends ((i, part) :: seen) i)) :
    SlotsHold sends r' ((i, part) :: seen) := by
  have hmiss : ∀ j, j ≠ i → Reassembler.isGroup (sends j).id (sends j).srcIp s = false := by
    intro j hj
    rcases hs with ⟨hfree, -⟩ | ⟨hold, -⟩
    · simp [Reassembler.isGroup, hfree]
    · by_contra hg
      exact hj (eq_of_isGroup hkey (by simpa using hg) (Reassembler.isGroup_of_holds hold))
  refine ⟨fun j hj => ?_, fun m hm => ?_, fun j => ?_⟩
  · by_cases hji : j = i
    · subst hji
      rcases hs with ⟨-, hnot⟩ | ⟨hold, -⟩
      · exact absurd hj hnot
      · exact ⟨k, by rw [hslots, Function.update_self]; exact hold⟩
    · obtain ⟨m, hm⟩ := h.holds j ((underway_cons_other hji).1 hj)
      have hmk : m ≠ k := by
        rintro rfl
        exact hji (eq_of_isGroup hkey (Reassembler.isGroup_of_holds hm) (hown hm.used))
      refine ⟨m, ?_⟩
      rw [hslots, Function.update_of_ne hmk, partsOf_cons_other seen hji]
      exact hm
  · rw [hslots] at hm ⊢
    by_cases hmk : m = k
    · subst hmk
      rw [Function.update_self] at hm ⊢
      rcases hs with ⟨hfree, -⟩ | ⟨hold, hu⟩
      · rw [hfree] at hm
        cases hm
      · exact ⟨i, hu, Reassembler.isGroup_of_holds hold⟩
    · rw [Function.update_of_ne hmk] at hm ⊢
      obtain ⟨j, hj, hjm⟩ := h.underway m hm
      have hji : j ≠ i := by
        rintro rfl
        rw [hothers m hmk] at hjm
        cases hjm
      exact ⟨j, (underway_cons_other hji).2 hj, hjm⟩
  · rw [hslots]
    by_cases hji : j = i
    · subst hji
      have honly : ∀ m, Reassembler.isGroup (sends j).id (sends j).srcIp (Function.update r.slots k s m) = true → m = k := by
        intro m hm
        by_contra hmk
        rw [Function.update_of_ne hmk, hothers m hmk] at hm
        cases hm
      exact fun m m' hm hm' => (honly m hm).trans (honly m' hm').symm
    · exact SlotTable.solo_update_miss (h.solo j) (hmiss j hji)

include hn hwhole hkey in
/-- **One arrival**: the packet comes out if this was its last missing fragment, and is underway otherwise. -/
theorem slotsHold_arrival (h : SlotsHold sends r seen) (hpart : part < totalParts (sends i).packet)
    (hnew : part ∉ partsOf seen i) (hgot : ∀ q ∈ partsOf seen i, q < totalParts (sends i).packet) {outBufSize : Nat}
    (hbuf : (sends i).packet.length ≤ outBufSize) :
    SlotsHold sends (r.reassembleFrag ((sends i).body part) outBufSize).1 ((i, part) :: seen) ∧
      ((∀ q, q < totalParts (sends i).packet → q ∈ part :: partsOf seen i) →
        (r.reassembleFrag ((sends i).body part) outBufSize).2.map (·.bytes) = some (sends i).packet) ∧
      ((∃ q, q < totalParts (sends i).packet ∧ q ∉ part :: partsOf seen i) →
        (r.reassembleFrag ((sends i).body part) outBufSize).2 = none) := by
  have h20 := (hwhole i).twenty_le
  have hmax := (hwhole i).le_slot
  have h5 := totalParts_le hmax
  obtain ⟨k, s, hold, hown, hothers, hslots, hout⟩ := slot_of_arrival hn hwhole hkey h hpart hnew outBufSize
  rw [hout]
  by_cases hall : ∀ q, q < totalParts (sends i).packet → q ∈ part :: partsOf seen i
  · obtain ⟨hfree, hpacket⟩ := fill_last hold (by omega) hmax hgot hpart outBufSize hall
    refine ⟨slotsHold_write hkey h hown hothers hslots (Or.inl ⟨hfree, ?_⟩), fun _ => ?_, fun ⟨q, hq, hqn⟩ => ?_⟩
    · rintro ⟨-, q, hq, hqn⟩
      rw [partsOf_cons_self] at hqn
      exact hqn (hall q hq)
    · rw [hpacket, if_pos hbuf]
    · exact absurd (hall q hq) hqn
  · have hmiss : ∃ q, q < totalParts (sends i).packet ∧ q ∉ part :: partsOf seen i := by
      by_contra hnone
      exact hall (fun q hq => by_contra (fun hqn => hnone ⟨q, hq, hqn⟩))
    have hfill := fill_missing hold (by omega) hmax hgot hpart outBufSize hmiss
    rw [hfill] at hslots ⊢
    have hheld := holds_accept hold (by omega) hpart
    refine ⟨slotsHold_write hkey h hown hothers hslots (Or.inr ⟨?_, ?_⟩), fun hc => absurd hc hall, fun _ => rfl⟩
    · rw [partsOf_cons_self]
      exact hheld
    · rw [Underway, partsOf_cons_self]
      exact ⟨List.cons_ne_nil _ _, hmiss⟩

end Step

/-! ## All arrivals -/

theorem mem_allParts (hwhole : ∀ i, (sends i).Whole) {i : Fin n} {part : Nat} :
    (i, part) ∈ allParts sends ↔ part < totalParts (sends i).packet := by
  simp only [allParts, List.mem_flatMap, List.mem_map, List.mem_range, (hwhole _).length_frames]
  constructor
  · rintro ⟨j, -, q, hq, hj⟩
    cases hj
    exact hq
  · exact fun h => ⟨i, List.mem_finRange i, part, h, rfl⟩

theorem nodup_allParts : (allParts sends).Nodup := by
  unfold allParts
  rw [List.nodup_flatMap]
  refine ⟨fun i _ => List.nodup_range.map (fun p q h => (Prod.mk.inj h).2), ?_⟩
  refine (List.nodup_finRange n).pairwise_of_forall_ne (fun i _ j _ hij => ?_)
  intro a ha hb
  obtain ⟨p, -, rfl⟩ := List.mem_map.1 ha
  obtain ⟨q, -, hq⟩ := List.mem_map.1 hb
  exact hij (Prod.mk.inj hq).1.symm

section Run

variable (hn : n ≤ numSlots) (hwhole : ∀ i, (sends i).Whole)
variable (hkey : ∀ i j, (sends i).srcIp = (sends j).srcIp → (sends i).id = (sends j).id → i = j)
variable {bufSize : Fin n × Nat → Nat} (hbuf : ∀ a i, (sends i).packet.length ≤ bufSize a)
include hn hwhole hkey hbuf

/-- **The rest of the arrivals**, after those that have been seen. -/
theorem arrive_rest : ∀ (todo seen : List (Fin n × Nat)) (r : Reassembler), SlotsHold sends r seen →
    (seen.reverse ++ todo).Perm (allParts sends) →
    (arrive sends bufSize r todo).2 = atLastParts sends todo ∧
      SlotsHold sends (arrive sends bufSize r todo).1 (todo.reverse ++ seen)
  | [], seen, r, h, _ => ⟨rfl, h⟩
  | (i, part) :: rest, seen, r, h, hperm => by
    have hmem : ∀ a, a ∈ allParts sends ↔ a ∈ seen ∨ a = (i, part) ∨ a ∈ rest := fun a => by
      rw [← hperm.mem_iff]
      simp
    have hnd : (seen.reverse ++ (i, part) :: rest).Nodup := hperm.nodup_iff.2 nodup_allParts
    have hpart : part < totalParts (sends i).packet := (mem_allParts hwhole).1 ((hmem _).2 (Or.inr (Or.inl rfl)))
    have hnew : part ∉ partsOf seen i := by
      rw [mem_partsOf]
      intro hin
      exact (List.nodup_append.1 hnd).2.2 _ (List.mem_reverse.2 hin) _ (List.mem_cons_self ..) rfl
    have hgot : ∀ q ∈ partsOf seen i, q < totalParts (sends i).packet := fun q hq =>
      (mem_allParts hwhole).1 ((hmem _).2 (Or.inl (mem_partsOf.1 hq)))
    obtain ⟨hnext, hlast, hmiss⟩ := slotsHold_arrival hn hwhole hkey h hpart hnew hgot (hbuf (i, part) i)
    have hperm' : (((i, part) :: seen).reverse ++ rest).Perm (allParts sends) := by simpa using hperm
    obtain ⟨hout, hend⟩ := arrive_rest rest ((i, part) :: seen) _ hnext hperm'
    refine ⟨?_, by simpa [arrive] using hend⟩
    simp only [arrive, atLastParts, hout, List.cons.injEq, and_true]
    by_cases hlater : i ∈ rest.map Prod.fst
    · rw [if_pos hlater, hmiss]
      · rfl
      · obtain ⟨⟨j, q⟩, hq, hj⟩ := List.mem_map.1 hlater
        cases hj
        refine ⟨q, (mem_allParts hwhole).1 ((hmem _).2 (Or.inr (Or.inr hq))), fun hin => ?_⟩
        have hdisj := (List.nodup_append.1 hnd).2
        rcases List.mem_cons.1 hin with rfl | hin
        · exact (List.nodup_cons.1 hdisj.1).1 hq
        · exact hdisj.2 _ (List.mem_reverse.2 (mem_partsOf.1 hin)) _ (List.mem_cons_of_mem _ hq) rfl
    · rw [if_neg hlater]
      refine hlast (fun q hq => ?_)
      rcases (hmem (i, q)).1 ((mem_allParts hwhole).2 hq) with hin | hin | hin
      · exact List.mem_cons_of_mem _ (mem_partsOf.2 hin)
      · rw [(Prod.mk.inj hin).2]
        exact List.mem_cons_self ..
      · exact absurd (List.mem_map.2 ⟨_, hin, rfl⟩) hlater

/-- **Every packet comes out once, at the arrival of its last missing fragment**, nothing else comes out, and all slots are
free in the end. -/
theorem reassembled_any_order {r : Reassembler} (hfree : ∀ k, (r.slots k).used = false) {arrivals : List (Fin n × Nat)}
    (harrive : arrivals.Perm (allParts sends)) :
    (arrive sends bufSize r arrivals).2 = atLastParts sends arrivals ∧
      ((arrive sends bufSize r arrivals).2.filterMap id).Perm (List.ofFn (fun i => (sends i).packet)) ∧
      ∀ k, ((arrive sends bufSize r arrivals).1.slots k).used = false := by
  have hstart : SlotsHold sends r [] := by
    refine ⟨fun i hi => absurd rfl hi.1, fun k hk => ?_, fun i j k hj => ?_⟩
    · rw [hfree k] at hk
      cases hk
    · simp [Reassembler.isGroup, hfree j] at hj
  obtain ⟨hout, hend⟩ := arrive_rest hn hwhole hkey hbuf arrivals [] r hstart (by simpa using harrive)
  refine ⟨hout, ?_, fun k => ?_⟩
  · rw [hout, filterMap_atLastParts, List.ofFn_eq_map]
    refine List.Perm.map _ ((List.perm_ext_iff_of_nodup (List.nodup_dedup _) (List.nodup_finRange n)).2 (fun i => ?_))
    refine iff_of_true (List.mem_dedup.2 (List.mem_map.2 ⟨(i, 0), harrive.mem_iff.2 ?_, rfl⟩)) (List.mem_finRange i)
    exact (mem_allParts hwhole).2 (totalParts_pos (by have := (hwhole i).twenty_le; omega))
  · by_contra hused
    obtain ⟨i, ⟨-, q, hq, hqn⟩, -⟩ := hend.underway k (by simpa using hused)
    refine hqn (mem_partsOf.2 ?_)
    simpa using harrive.mem_iff.2 ((mem_allParts hwhole).2 hq)

end Run

end Arrivals

/-! ## Two packets at once -/

/-- Packets of 1401 bytes from 10.13.0.1 and 10.13.0.2, each the first that its bridge sends. -/
def twoSendings (i : Fin 2) : Sending :=
  ⟨init.connect, fun _ => true, Reassembler.packetFrom [10, 13, 0, UInt8.ofNat (i.val + 1)] 1385⟩

theorem length_twoSendings (i : Fin 2) : (twoSendings i).packet.length = 1401 := Reassembler.length_packetFrom rfl 1385

theorem whole_twoSendings (i : Fin 2) : (twoSendings i).Whole := by
  have hparts : totalParts (twoSendings i).packet ≤ 5 := totalParts_le (by rw [length_twoSendings]; decide)
  refine ⟨by rw [length_twoSendings]; decide, by rw [length_twoSendings]; decide, ?_⟩
  rw [sendFragmented, if_neg (by omega)]
  show 0 ≤ (sendParts _ _ _ _ _).2
  rw [show (twoSendings i).sendto = fun _ => true from rfl, sendParts_ret _ rfl]
  omega

/-- The last part of the first packet is the first to come. -/
theorem reassembled_any_order_twoSendings :
    (arrive twoSendings (fun _ => slotBufferSize) {} [(0, 1), (1, 0), (0, 0), (1, 1)]).2 =
        atLastParts twoSendings [(0, 1), (1, 0), (0, 0), (1, 1)] ∧
      ((arrive twoSendings (fun _ => slotBufferSize) {} [(0, 1), (1, 0), (0, 0), (1, 1)]).2.filterMap id).Perm
        (List.ofFn (fun i => (twoSendings i).packet)) ∧
      ∀ k, ((arrive twoSendings (fun _ => slotBufferSize) {} [(0, 1), (1, 0), (0, 0), (1, 1)]).1.slots k).used = false := by
  have hframes : ∀ i, (twoSendings i).frames.length = 2 := fun i => by
    rw [(whole_twoSendings i).length_frames, totalParts, length_twoSendings]
    decide
  have hsrc : ∀ i, (twoSendings i).srcIp = [10, 13, 0, UInt8.ofNat (i.val + 1)] := fun i => Reassembler.srcIp_packetFrom rfl 1385
  refine reassembled_any_order (by decide) whole_twoSendings (fun i j hij _ => ?_) (fun _ i => ?_) (fun _ => rfl) ?_
  · rw [hsrc, hsrc] at hij
    exact (by decide : ∀ i j : Fin 2,
      ([10, 13, 0, UInt8.ofNat (i.val + 1)] : Bytes) = [10, 13, 0, UInt8.ofNat (j.val + 1)] → i = j) i j hij
  · rw [length_twoSendings]
    decide
  · simp only [allParts, hframes]
    decide
end Slp
