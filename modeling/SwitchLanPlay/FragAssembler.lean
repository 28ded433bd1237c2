import SwitchLanPlay.RelayDelivery
/-!
# FragAssembler — the fake player's reassembler (tools/slp_fake_player.py)

`FragAssembler.feed` keeps the parts of a group in a list and joins them when none is missing, each part behind the zeros
that fill it up to the chunk size.  Of a packet the bridge cut up it gives the packet back, in whatever order the fragments
come, exactly when the last part is full (`reassembled_iff`).
-/
namespace Slp

open Wire RelayBridge

/-- A value of `entries`. -/
structure FragEntry where
  total : Nat
  pmtu : Nat
  parts : List (Option Bytes)

structure FragAssembler where
  maxEntries : Nat := 4
  entries : List ((Bytes × UInt16) × FragEntry) := []

namespace FragAssembler

/-- `self.entries[key]`, made first if it is missing; a full table is emptied for it. -/
def entry (a : FragAssembler) (key : Bytes × UInt16) (total pmtu : Nat) : FragEntry × FragAssembler :=
  match a.entries.lookup key with
  | some e => (e, a)
  | none =>
    let e : FragEntry := ⟨total, pmtu, List.replicate total none⟩
    (e, { a with entries := (key, e) :: (if a.maxEntries ≤ a.entries.length then [] else a.entries) })

def put (a : FragAssembler) (key : Bytes × UInt16) (e : FragEntry) : FragAssembler :=
  { a with entries := a.entries.map (fun x => if x.1 = key then (key, e) else x) }

def pop (a : FragAssembler) (key : Bytes × UInt16) : FragAssembler :=
  { a with entries := a.entries.filter (fun x => x.1 ≠ key) }

/-- The zeros go before the part's bytes. -/
def join (pmtu : Nat) (parts : List (Option Bytes)) : Bytes :=
  parts.flatMap (fun p => List.replicate (pmtu - (p.getD []).length) 0 ++ p.getD [])

def feed (a : FragAssembler) (payload : Bytes) : FragAssembler × Option Bytes :=
  if payload.length < fragHeaderSize then (a, none)
  else
    let hdr := FragHeader.decode payload
    let key := (hdr.srcIp, hdr.id)
    let part := hdr.part.toNat
    let total := hdr.totalPart.toNat
    let clen := hdr.len.toNat
    let pmtu := hdr.pmtu.toNat
    if total = 0 ∨ total ≤ part ∨ pmtu = 0 ∨ pmtu < clen then (a, none)
    else if payload.length < fragHeaderSize + clen then (a, none)
    else
      let (e, a) := a.entry key total pmtu
      if e.total ≠ total then (a, none)
      else if (e.parts.getD part none).isSome then (a, none)
      else
        let parts := e.parts.set part (some (bytesAt payload fragHeaderSize clen))
        if parts.all Option.isSome then (a.pop key, some (join pmtu parts))
        else (a.put key { e with parts := parts }, none)

/-- What `feed` returns for one payload after another. -/
def feedAll : FragAssembler → List Bytes → List (Option Bytes)
  | _, [] => []
  | a, payload :: rest => (a.feed payload).2 :: feedAll (a.feed payload).1 rest

/-! ## The parts of one packet -/

/-- The parts of `p` with those in `got` filled in. -/
def partsWith (p : Bytes) (got : List Nat) : List (Option Bytes) :=
  (List.range (totalParts p)).map (fun i => if i ∈ got then some (partBytes p i) else none)

theorem partsWith_nil (p : Bytes) : partsWith p [] = List.replicate (totalParts p) none := by
  simp [partsWith]

theorem getD_partsWith (p : Bytes) (got : List Nat) {part : Nat} (hpart : part < totalParts p) :
    (partsWith p got).getD part none = if part ∈ got then some (partBytes p part) else none := by
  rw [partsWith, List.getD_eq_getElem?_getD, List.getElem?_map, List.getElem?_range hpart]
  rfl

theorem set_partsWith (p : Bytes) (got : List Nat) (part : Nat) :
    (partsWith p got).set part (some (partBytes p part)) = partsWith p (part :: got) := by
  refine List.ext_getElem (by simp [partsWith]) (fun i hi _ => ?_)
  rw [List.getElem_set]
  by_cases he : part = i
  · subst he; simp [partsWith]
  · simp [partsWith, he, Ne.symm he]

theorem all_partsWith (p : Bytes) (got : List Nat) :
    (partsWith p got).all Option.isSome = true ↔ ∀ i, i < totalParts p → i ∈ got := by
  rw [partsWith, List.all_map, List.all_eq_true]
  constructor
  · intro h i hi
    have hsome := h i (List.mem_range.2 hi)
    by_contra hno
    simp [hno] at hsome
  · intro h i hi
    simp [h i (List.mem_range.1 hi)]

/-- The packet with the zeros `join` puts before each part. -/
def padded (p : Bytes) : Bytes :=
  (List.range (totalParts p)).flatMap (fun i =>
    List.replicate (fragChunk - (partBytes p i).length) 0 ++ partBytes p i)

theorem join_partsWith (p : Bytes) {got : List Nat} (hall : ∀ i, i < totalParts p → i ∈ got) :
    join fragChunk (partsWith p got) = padded p := by
  rw [join, partsWith, List.flatMap_map, padded]
  refine List.flatMap_congr fun i hi => ?_
  rw [if_pos (hall i (List.mem_range.1 hi))]
  rfl

theorem length_padded (p : Bytes) : (padded p).length = totalParts p * fragChunk := by
  rw [padded, List.length_flatMap]
  have hone : ∀ i ∈ List.range (totalParts p),
      (List.replicate (fragChunk - (partBytes p i).length) 0 ++ partBytes p i).length = fragChunk := by
    intro i _
    have := length_partBytes_le p i
    rw [List.length_append, List.length_replicate]
    omega
  rw [List.map_congr_left hone]
  simp

/-- **Cut into chunks and put together again.** -/
theorem flatMap_chunks (c : Nat) (p : Bytes) : ∀ n : Nat,
    (List.range n).flatMap (fun i => bytesAt p (i * c) c) = p.take (n * c)
  | 0 => by simp
  | n + 1 => by
    rw [List.range_succ, List.flatMap_append, flatMap_chunks c p n, Nat.succ_mul, List.take_add]
    simp [bytesAt]

/-- **The zeros are none exactly if the last part is full.** -/
theorem padded_eq_iff {p : Bytes} (hp : 0 < p.length) : padded p = p ↔ fragChunk ∣ p.length := by
  constructor
  · intro h
    have hlen := length_padded p
    rw [h] at hlen
    exact ⟨totalParts p, by rw [hlen, Nat.mul_comm]⟩
  · rintro ⟨n, hn⟩
    have htotal : totalParts p = n := by
      have hlast := lt_totalParts_iff p n
      have hpred := lt_totalParts_iff p (n - 1)
      have hpos : 0 < n := Nat.pos_of_ne_zero (by rintro rfl; rw [hn] at hp; simp at hp)
      rw [hn, fragChunk_eq] at hlast hpred
      omega
    have hfull : ∀ i ∈ List.range (totalParts p),
        List.replicate (fragChunk - (partBytes p i).length) 0 ++ partBytes p i = bytesAt p (i * fragChunk) fragChunk := by
      intro i hi
      have hlt := List.mem_range.1 hi
      have hroom : (i + 1) * fragChunk ≤ p.length := by
        rw [hn, Nat.mul_comm fragChunk n]
        exact Nat.mul_le_mul_right _ (by omega)
      rw [Nat.succ_mul] at hroom
      have hlen : (partBytes p i).length = fragChunk := by
        rw [length_partBytes]
        omega
      have hpart : partBytes p i = bytesAt p (i * fragChunk) fragChunk := by
        simp only [partBytes]
        rw [if_neg (by omega)]
      rw [hlen, Nat.sub_self, List.replicate_zero, List.nil_append, hpart]
    rw [padded, List.flatMap_congr hfull, flatMap_chunks, htotal, Nat.mul_comm, ← hn, List.take_length]

/-! ## The fragments of one packet -/

/-- The table holds the parts `got` of `p` and nothing else. -/
structure Gathers (a : FragAssembler) (p : Bytes) (id : UInt16) (got : List Nat) : Prop where
  room : a.maxEntries = 4
  entries_eq : a.entries =
    if got = [] then [] else [((bytesAt p 12 4, id), ⟨totalParts p, fragChunk, partsWith p got⟩)]

theorem gathers_start (p : Bytes) (id : UInt16) : Gathers {} p id [] := ⟨rfl, rfl⟩

section Feed

variable {a : FragAssembler} {p : Bytes} {id : UInt16} {got : List Nat} {part : Nat}

theorem entry_gathers (h : a.Gathers p id got) :
    ∃ a' : FragAssembler, a.entry (bytesAt p 12 4, id) (totalParts p) fragChunk =
        (⟨totalParts p, fragChunk, partsWith p got⟩, a') ∧ a'.maxEntries = 4 ∧
      a'.entries = [((bytesAt p 12 4, id), ⟨totalParts p, fragChunk, partsWith p got⟩)] := by
  have hentries := h.entries_eq
  by_cases hnone : got = []
  · subst hnone
    rw [if_pos rfl] at hentries
    refine ⟨{ a with
      entries := [((bytesAt p 12 4, id), ⟨totalParts p, fragChunk, List.replicate (totalParts p) none⟩)] }, ?_, h.room, ?_⟩
    · simp [entry, hentries, partsWith_nil]
    · simp [partsWith_nil]
  · rw [if_neg hnone] at hentries
    exact ⟨a, by simp [entry, hentries], h.room, hentries⟩

/-- **A fragment that is new adds its part; when none is missing the packet is joined and the entry goes.** -/
theorem feed_fragment (h : a.Gathers p id got) (hp : 20 ≤ p.length) (h256 : totalParts p < 256)
    (hpart : part < totalParts p) (hnew : part ∉ got) :
    ((∀ i, i < totalParts p → i ∈ part :: got) → (a.feed (fragment p id part)).2 = some (padded p)) ∧
    ((∃ i, i < totalParts p ∧ i ∉ part :: got) →
      (a.feed (fragment p id part)).2 = none ∧ (a.feed (fragment p id part)).1.Gathers p id (part :: got)) := by
  obtain ⟨a', hentry, hroom, hheld⟩ := entry_gathers h
  have hlen := length_partBytes_le p part
  have hfrag := length_fragment hp id part
  have hchunk : bytesAt (fragment p id part) fragHeaderSize (partBytes p part).length = partBytes p part := by
    rw [bytesAt, drop_fragment hp, List.take_length]
  -- the header passes all checks
  have hfeed : a.feed (fragment p id part) =
      if (partsWith p (part :: got)).all Option.isSome
      then (a'.pop (bytesAt p 12 4, id), some (join fragChunk (partsWith p (part :: got))))
      else (a'.put (bytesAt p 12 4, id) ⟨totalParts p, fragChunk, partsWith p (part :: got)⟩, none) := by
    unfold feed
    rw [if_neg (by omega)]
    simp only [decode_fragment hp, toNat_part p id part (by omega), toNat_totalPart p id part h256, toNat_len,
      toNat_pmtu]
    rw [if_neg (by have := fragChunk_eq; omega), if_neg (by omega)]
    have hkey : ((fragHeader p id part).srcIp, (fragHeader p id part).id) = (bytesAt p 12 4, id) := rfl
    simp only [hkey, hentry, hchunk, ne_eq, not_true_eq_false, if_false, getD_partsWith p got hpart, if_neg hnew,
      Option.isSome_none, Bool.false_eq_true, set_partsWith]
  rw [hfeed]
  constructor
  · intro hall
    rw [if_pos ((all_partsWith p _).2 hall), join_partsWith p hall]
  · rintro ⟨i, hi, hmiss⟩
    have hnot : ¬ (partsWith p (part :: got)).all Option.isSome = true :=
      fun hall => hmiss ((all_partsWith p _).1 hall i hi)
    rw [if_neg hnot]
    refine ⟨rfl, hroom, ?_⟩
    simp [put, hheld]

end Feed

/-- **The rest of a packet's fragments, in any order**: nothing until the last, then the padded packet. -/
theorem feedAll_rest {p : Bytes} {id : UInt16} (hp : 20 ≤ p.length) (h256 : totalParts p < 256) :
    ∀ (todo : List Nat) (a : FragAssembler) (got : List Nat), todo ≠ [] → a.Gathers p id got →
      (got ++ todo).Perm (List.range (totalParts p)) →
      a.feedAll (todo.map (fragment p id)) = List.replicate (todo.length - 1) none ++ [some (padded p)]
  | [], _, _, hne, _, _ => absurd rfl hne
  | part :: rest, a, got, _, hgather, hperm => by
    have hpart : part < totalParts p := List.mem_range.1 (hperm.mem_iff.1 (by simp))
    have hnodup : (got ++ part :: rest).Nodup := hperm.nodup_iff.2 List.nodup_range
    have hmiddle : (got ++ part :: rest).Perm ((part :: got) ++ rest) := List.perm_middle
    have hnew : part ∉ got := fun hm => (List.nodup_append.1 hnodup).2.2 part hm part (List.mem_cons_self ..) rfl
    obtain ⟨hlast, hmore⟩ := feed_fragment hgather hp h256 hpart hnew
    rw [List.map_cons, feedAll]
    cases rest with
    | nil =>
      have hall : ∀ i, i < totalParts p → i ∈ part :: got := fun i hi => by
        have := (hmiddle.symm.trans hperm).mem_iff.2 (List.mem_range.2 hi)
        simpa using this
      rw [hlast hall]
      rfl
    | cons next rest' =>
      have hmiss : ∃ i, i < totalParts p ∧ i ∉ part :: got := by
        refine ⟨next, List.mem_range.1 (hperm.mem_iff.1 (by simp)), fun hm => ?_⟩
        exact (List.nodup_append.1 (hmiddle.nodup_iff.1 hnodup)).2.2 next hm next (List.mem_cons_self ..) rfl
      obtain ⟨hnone, hgather'⟩ := hmore hmiss
      rw [hnone, feedAll_rest hp h256 (next :: rest') _ (part :: got) (by simp) hgather' (hmiddle.symm.trans hperm)]
      simp [List.replicate_succ]
  termination_by todo => todo.length

/-! ## Against the bridge -/

theorem frames_of_sendFragmented (b : RelayBridge) (sendto : Nat → Bool) (p : Bytes)
    (hsent : 0 ≤ (b.sendFragmented sendto p).ret) :
    totalParts p < 256 ∧ (b.sendFragmented sendto p).frames = (List.range (totalParts p)).map (fragFrame p b.nextFragId) := by
  unfold sendFragmented at hsent ⊢
  split at hsent
  · simp at hsent
  · rename_i htotal
    rw [if_neg htotal]
    exact ⟨by omega, sendParts_ok b sendto p _ _ hsent⟩

/-- Arrivals of all frames are the fragments, behind their type bytes, in some order. -/
theorem bodies_of_frames {p : Bytes} {id : UInt16} {arrivals : List Bytes}
    (h : arrivals.Perm ((List.range (totalParts p)).map (fragFrame p id))) :
    ∃ order : List Nat, order.Perm (List.range (totalParts p)) ∧ order.length = arrivals.length ∧
      arrivals.map (List.drop 1) = order.map (fragment p id) := by
  obtain ⟨order, heq, hperm⟩ := (congrFun (congrFun (List.eq_map_comp_perm (fragFrame p id)) arrivals)
    (List.range (totalParts p))).mpr h
  refine ⟨order, hperm, by rw [heq, List.length_map], ?_⟩
  rw [heq, List.map_map]
  rfl

/-- **What the two reassemblers make of a packet's fragments, in any order**: the bridge the packet, the fake player the
packet with the zeros before each part. -/
theorem feedAll_frames {b : RelayBridge} {sendto : Nat → Bool} {p : Bytes} (hmtu : relayMtu < p.length)
    (hsent : 0 ≤ (b.sendFragmented sendto p).ret) {arrivals : List Bytes}
    (harrive : arrivals.Perm (b.sendFragmented sendto p).frames) :
    feedAll {} (arrivals.map (List.drop 1)) = List.replicate (arrivals.length - 1) none ++ [some (padded p)] ∧
    ∀ outBufSize, p.length ≤ slotBufferSize → p.length ≤ outBufSize →
      (Reassembler.feed outBufSize {} (arrivals.map (List.drop 1))).2 = [p] := by
  obtain ⟨h256, hframes⟩ := frames_of_sendFragmented b sendto p hsent
  rw [hframes] at harrive
  obtain ⟨order, hperm, hlen, hbodies⟩ := bodies_of_frames harrive
  have h20 : 20 ≤ p.length := by
    unfold relayMtu at hmtu
    omega
  have hne : order ≠ [] := by
    rintro rfl
    have h0 := hperm.length_eq
    have := totalParts_pos (p := p) (by omega)
    simp at h0
    omega
  rw [hbodies, ← hlen]
  refine ⟨feedAll_rest h20 h256 order {} [] hne (gathers_start p _) (by simpa using hperm), fun outBufSize hslot hout => ?_⟩
  have hfresh : Reassembler.Fresh {} b.nextFragId (bytesAt p 12 4) := fun _ => rfl
  obtain ⟨k, hk⟩ := pickSlot_free _ hfresh ⟨⟨0, by decide⟩, rfl⟩
  obtain ⟨-, hfed⟩ := Reassembler.feed_fragments h20 hslot outBufSize _ hfresh hk hperm
  rw [hfed, if_pos hout]

/-- **The fake player reassembles a packet the bridge cut up, as the bridge does, exactly if its last part is full.** -/
theorem reassembled_iff {b : RelayBridge} {sendto : Nat → Bool} {p : Bytes} (hmtu : relayMtu < p.length)
    (hsent : 0 ≤ (b.sendFragmented sendto p).ret) {arrivals : List Bytes}
    (harrive : arrivals.Perm (b.sendFragmented sendto p).frames) :
    (feedAll {} (arrivals.map (List.drop 1)) = List.replicate (arrivals.length - 1) none ++ [some p] ∧
      ∀ outBufSize, p.length ≤ slotBufferSize → p.length ≤ outBufSize →
        (Reassembler.feed outBufSize {} (arrivals.map (List.drop 1))).2 = [p]) ↔
      fragChunk ∣ p.length := by
  obtain ⟨hplayer, hbridge⟩ := feedAll_frames hmtu hsent harrive
  have hp : 0 < p.length := Nat.lt_of_le_of_lt (Nat.zero_le _) hmtu
  rw [hplayer, ← padded_eq_iff hp, and_iff_left hbridge]
  simp

/-- A packet of `n` equal bytes is accepted. -/
theorem sendFragmented_ret (c : UInt8) {n : Nat} (hn : n ≤ slotBufferSize) :
    0 ≤ (init.connect.sendFragmented (fun _ => true) (List.replicate n c)).ret := by
  have hparts : totalParts (List.replicate n c) ≤ 5 := totalParts_le (by simpa using hn)
  rw [sendFragmented, if_neg (by omega)]
  simp only [sendParts_ret init.connect rfl]
  omega

/-- Two full chunks. -/
theorem reassembled_iff_2768 :
    feedAll {} ((init.connect.sendFragmented (fun _ => true) (List.replicate 2768 7)).frames.map (List.drop 1)) =
      List.replicate ((init.connect.sendFragmented (fun _ => true) (List.replicate 2768 7)).frames.length - 1) none ++
        [some (List.replicate 2768 7)] :=
  ((reassembled_iff (by rw [List.length_replicate]; decide) (sendFragmented_ret 7 (by decide)) (List.Perm.refl _)).2
    ⟨2, by rw [List.length_replicate]; decide⟩).1

/-- **Of a packet one byte over the MTU the fake player makes one of 2768 bytes.** -/
theorem reassembled_1401 :
    relayMtu < (List.replicate 1401 (7 : UInt8)).length ∧
    0 ≤ (init.connect.sendFragmented (fun _ => true) (List.replicate 1401 7)).ret ∧
    (padded (List.replicate 1401 7)).length = 2768 ∧
    feedAll {} ((init.connect.sendFragmented (fun _ => true) (List.replicate 1401 7)).frames.map (List.drop 1)) ≠
      List.replicate ((init.connect.sendFragmented (fun _ => true) (List.replicate 1401 7)).frames.length - 1) none ++
        [some (List.replicate 1401 7)] := by
  have hmtu : relayMtu < (List.replicate 1401 (7 : UInt8)).length := by rw [List.length_replicate]; decide
  have hsent := sendFragmented_ret 7 (n := 1401) (by decide)
  have hlen : (padded (List.replicate 1401 7)).length = 2768 := by
    rw [length_padded, totalParts, List.length_replicate]
    decide
  refine ⟨hmtu, hsent, hlen, fun h => ?_⟩
  rw [(feedAll_frames hmtu hsent (List.Perm.refl _)).1] at h
  have heq := congrArg List.length (Option.some.inj (List.singleton_inj.1 (List.append_cancel_left h)))
  rw [hlen, List.length_replicate] at heq
  omega

end FragAssembler
end Slp
