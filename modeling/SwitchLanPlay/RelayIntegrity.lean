import SwitchLanPlay.RelayReassembly
/-!
# RelayIntegrity — whose bytes a reassembled packet is made of

Any number of senders cut packets into fragments, the network keeps every fragment for good, so that it can be lost, come
twice and come late, and one receiver reassembles what comes.  A slot knows the packet it works on by id and source only.  As
long as no fragment joins an incomplete group of another packet, every packet that comes out is one that went in, and ids that
are not used twice are enough for that (`returned_passed`).  A sender that reboots uses them again, and halves of two packets
come out as one (`reboot_combines`).
-/
namespace Slp

open Wire RelayBridge

/-! ## What one fragment does to its group -/

/-- The slot holds parts of the packet that lie in its buffer. -/
def Collects (s : ReassemblySlot) (p : Bytes) (id : UInt16) : Prop :=
  ∃ got, Holds s p id got ∧ ∀ i ∈ got, i < totalParts p ∧ Fits p i

theorem collects_claim (s : ReassemblySlot) (p : Bytes) (id : UInt16) : Collects (s.claim id (bytesAt p 12 4)) p id :=
  ⟨[], holds_claim s p id, fun i hi => by cases hi⟩

theorem fill_of_not_fits (s : ReassemblySlot) {p : Bytes} (id : UInt16) {part : Nat} (h256 : totalParts p < 256)
    (hpart : part < totalParts p) (hfits : ¬ Fits p part) (outBufSize : Nat) :
    s.fill (fragHeader p id part) (partBytes p part) outBufSize = (s.release, none) := by
  have hb : 32 ≤ (fragHeader p id part).part.toNat ∨ slotBufferSize <
      (fragHeader p id part).part.toNat * (fragHeader p id part).pmtu.toNat + (fragHeader p id part).len.toNat := by
    rw [toNat_part p id part (by omega), toNat_pmtu, toNat_len]
    unfold Fits at hfits
    omega
  rw [ReassemblySlot.fill, if_pos hb]

/-- **A group that looks complete is that of a packet that fits the slot.** -/
theorem le_of_isComplete {s : ReassemblySlot} {p : Bytes} {id : UInt16} {got : List Nat} (h : Holds s p id got)
    (hgot : ∀ i ∈ got, i < totalParts p ∧ Fits p i) (hc : s.isComplete (totalParts p) = true) :
    p.length ≤ slotBufferSize := by
  by_contra hlong
  have hfour : 4 < totalParts p := by
    rw [lt_totalParts_iff, fragChunk_eq]
    unfold slotBufferSize relayMtu at hlong
    omega
  have hmask : s.partMask = ReassemblySlot.expectedMask (totalParts p) := by
    simp only [ReassemblySlot.isComplete, Bool.and_eq_true, beq_iff_eq] at hc
    exact hc.1
  have hbit : (ReassemblySlot.expectedMask (totalParts p)).testBit 4 = true := by
    unfold ReassemblySlot.expectedMask
    split
    · decide
    · rw [Nat.testBit_two_pow_sub_one]
      simpa using hfour
  have hmem : 4 ∈ got := by
    have := h.mask 4
    rw [hmask, hbit] at this
    simpa using this
  -- the fifth part ends in the buffer only when it is the packet's last
  have hfits := (hgot 4 hmem).2.2
  rw [length_partBytes, fragChunk_eq] at hfits
  unfold slotBufferSize relayMtu at hfits hlong
  omega

/-- **A fragment of the packet the slot collects**: the slot is freed or goes on collecting, and what comes out is the
packet. -/
theorem fill_collects {s : ReassemblySlot} {p : Bytes} {id : UInt16} (h : Collects s p id) (hp0 : 0 < p.length)
    (h256 : totalParts p < 256) {part : Nat} (hpart : part < totalParts p) (outBufSize : Nat) :
    ((s.fill (fragHeader p id part) (partBytes p part) outBufSize).1.used = false ∨
      Collects (s.fill (fragHeader p id part) (partBytes p part) outBufSize).1 p id) ∧
    ∀ q ∈ (s.fill (fragHeader p id part) (partBytes p part) outBufSize).2, q.bytes = p := by
  obtain ⟨got, hold, hgot⟩ := h
  by_cases hfits : Fits p part
  · have hold' := holds_accept hold h256 hpart
    have hgot' : ∀ i ∈ part :: got, i < totalParts p ∧ Fits p i := by
      intro i hi
      rcases List.mem_cons.1 hi with rfl | hi
      · exact ⟨hpart, hfits⟩
      · exact hgot i hi
    by_cases hc : (s.accept (fragHeader p id part) (partBytes p part)).isComplete (totalParts p) = true
    · have hp := le_of_isComplete hold' hgot' hc
      have hall := (isComplete_iff hold' hp0 hp (fun i hi => (hgot' i hi).1)).1 hc
      obtain ⟨hfree, hout⟩ := fill_last hold hp0 hp (fun i hi => (hgot i hi).1) hpart outBufSize hall
      refine ⟨Or.inl hfree, fun q hq => ?_⟩
      rw [Option.mem_def] at hq
      rw [hq, Option.map_some] at hout
      split at hout
      · exact Option.some.inj hout
      · cases hout
    · rw [fill_of_fits s id h256 hfits]
      simp only [hc, Bool.false_eq_true, if_false]
      exact ⟨Or.inr ⟨part :: got, hold', hgot'⟩, fun q hq => by cases hq⟩
  · rw [fill_of_not_fits s id h256 hpart hfits]
    exact ⟨Or.inl rfl, fun q hq => by cases hq⟩

/-! ## Senders, network and receiver -/

/-- A fragment on its way, with the packet it was cut from. -/
structure InFlight where
  packet : Bytes
  id : UInt16
  part : Nat
deriving DecidableEq

namespace InFlight

def srcIp (f : InFlight) : Bytes := bytesAt f.packet 12 4

def frame (f : InFlight) : Bytes := fragFrame f.packet f.id f.part

/-- What `RecvIpv4` hands to `ReassembleFrag`. -/
def body (f : InFlight) : Bytes := fragment f.packet f.id f.part

end InFlight

/-- `begunBy k` is the fragment slot `k` was last claimed for. -/
structure FragNet (ι : Type) where
  senders : ι → RelayBridge
  passed : List Bytes
  network : List InFlight
  receiver : Reassembler
  begunBy : Fin numSlots → InFlight
  returned : List Bytes

namespace FragNet

variable {ι : Type}

/-- The senders are in any state, the receiver is as constructed, and nothing has been sent. -/
def start (senders : ι → RelayBridge) : FragNet ι where
  senders := senders
  passed := []
  network := []
  receiver := {}
  begunBy _ := ⟨[], 0, 0⟩
  returned := []

inductive Op (ι : Type) where
  -- `SendFragmented`, with the outcome of each `sendto`
  | send (i : ι) (sendto : Nat → Bool) (packet : Bytes)
  | connect (i : ι)
  | close (i : ι)
  -- the sender starts again with a new bridge, under the address it had
  | reboot (i : ι)
  -- `ReassembleFrag` on a fragment that was sent at any time
  | deliver (f : InFlight) (outBufSize : Nat)

variable [DecidableEq ι]

def setSender (N : FragNet ι) (i : ι) (b : RelayBridge) : FragNet ι := { N with senders := Function.update N.senders i b }

/-- The fragments of a call that reached the socket. -/
def launched (b : RelayBridge) (sendto : Nat → Bool) (packet : Bytes) : List InFlight :=
  (List.range (b.sendFragmented sendto packet).frames.length).map (InFlight.mk packet b.nextFragId)

def send (N : FragNet ι) (i : ι) (sendto : Nat → Bool) (packet : Bytes) : FragNet ι :=
  { N.setSender i ((N.senders i).sendFragmented sendto packet).bridge with
    passed := N.passed ++ [packet]
    network := N.network ++ launched (N.senders i) sendto packet }

def deliver (N : FragNet ι) (f : InFlight) (outBufSize : Nat) : FragNet ι :=
  let result := N.receiver.reassembleFrag f.body outBufSize
  { N with
    receiver := result.1
    begunBy :=
      match N.receiver.pickSlot f.id f.srcIp with
      | some (k, false) => Function.update N.begunBy k f
      | _ => N.begunBy
    returned := N.returned ++ (result.2.map (·.bytes)).toList }

def step (N : FragNet ι) : Op ι → FragNet ι
  | .send i sendto packet => N.send i sendto packet
  | .connect i => N.setSender i (N.senders i).connect
  | .close i => N.setSender i (N.senders i).close
  | .reboot i => N.setSender i .init
  | .deliver f outBufSize => N.deliver f outBufSize

def run (N : FragNet ι) (ops : List (Op ι)) : FragNet ι := ops.foldl step N

theorem run_cons (N : FragNet ι) (op : Op ι) (ops : List (Op ι)) : N.run (op :: ops) = (N.step op).run ops := rfl

/-- A packet has an IPv4 header, and only what was sent can come. -/
def May (N : FragNet ι) : Op ι → Prop
  | .send _ _ packet => 20 ≤ packet.length
  | .deliver f _ => f ∈ N.network
  | _ => True

/-- The states of the runs whose steps all meet `ok`. -/
inductive Reachable (ok : FragNet ι → Op ι → Prop) : FragNet ι → Prop
  | start (senders : ι → RelayBridge) : Reachable ok (start senders)
  | step {N : FragNet ι} (h : Reachable ok N) (op : Op ι) (hmay : N.May op) (hok : ok N op) : Reachable ok (N.step op)

/-- The group a fragment joins, if there is one, was begun by a fragment of the same packet. -/
def JoinsOwn (N : FragNet ι) : Op ι → Prop
  | .deliver f _ => ∀ k, N.receiver.pickSlot f.id f.srcIp = some (k, true) → (N.begunBy k).packet = f.packet
  | _ => True

/-- A packet is not sent under an id and source that a fragment was sent under before. -/
def FreshId (N : FragNet ι) : Op ι → Prop
  | .send i _ packet => ∀ f ∈ N.network, f.id = (N.senders i).nextFragId → f.srcIp ≠ bytesAt packet 12 4
  | _ => True

/-- The steps of a run can be taken and meet `ok`. -/
def Allowed (ok : FragNet ι → Op ι → Prop) : FragNet ι → List (Op ι) → Prop
  | _, [] => True
  | N, op :: ops => (N.May op ∧ ok N op) ∧ Allowed ok (N.step op) ops

instance (N : FragNet ι) : (op : Op ι) → Decidable (N.May op)
  | .send _ _ packet => inferInstanceAs (Decidable (20 ≤ packet.length))
  | .deliver f _ => inferInstanceAs (Decidable (f ∈ N.network))
  | .connect _ => instDecidableTrue
  | .close _ => instDecidableTrue
  | .reboot _ => instDecidableTrue

instance (N : FragNet ι) : (op : Op ι) → Decidable (N.FreshId op)
  | .send i _ packet => inferInstanceAs
      (Decidable (∀ f ∈ N.network, f.id = (N.senders i).nextFragId → f.srcIp ≠ bytesAt packet 12 4))
  | .deliver _ _ => instDecidableTrue
  | .connect _ => instDecidableTrue
  | .close _ => instDecidableTrue
  | .reboot _ => instDecidableTrue

instance decidableAllowed {ok : FragNet ι → Op ι → Prop} [hd : ∀ N op, Decidable (ok N op)] :
    ∀ (N : FragNet ι) (ops : List (Op ι)), Decidable (Allowed ok N ops)
  | _, [] => instDecidableTrue
  | N, op :: ops => @instDecidableAnd _ _ inferInstance (decidableAllowed (N.step op) ops)

theorem reachable_run {ok : FragNet ι → Op ι → Prop} {N : FragNet ι} (h : Reachable ok N) (ops : List (Op ι))
    (hall : Allowed ok N ops) : Reachable ok (N.run ops) := by
  induction ops generalizing N with
  | nil => exact h
  | cons op ops ih => exact ih (.step h op hall.1.1 hall.1.2) hall.2

/-! ## Sending -/

theorem frames_sendParts (b : RelayBridge) (sendto : Nat → Bool) (p : Bytes) (id : UInt16) : ∀ (parts : List Nat),
    (b.sendParts sendto p id parts).1 =
      (parts.take (b.sendParts sendto p id parts).1.length).map (fragFrame p id)
  | [] => rfl
  | part :: rest => by
    have ih := frames_sendParts b sendto p id rest
    unfold sendParts
    dsimp only
    split
    · rfl
    · simp only [List.length_cons, List.take_succ_cons, List.map_cons]
      rw [← ih]

/-- **The launched fragments are the frames that `SendFragmented` sent**, parts of a packet of at most 255. -/
theorem frames_launched (b : RelayBridge) (sendto : Nat → Bool) (p : Bytes) :
    (launched b sendto p).map InFlight.frame = (b.sendFragmented sendto p).frames ∧
    ∀ f ∈ launched b sendto p, f.packet = p ∧ f.id = b.nextFragId ∧ f.part < totalParts p ∧ totalParts p < 256 := by
  unfold launched sendFragmented
  split
  · exact ⟨rfl, fun f hf => by cases hf⟩
  · rename_i hmax
    dsimp only
    have hframes := frames_sendParts b sendto p b.nextFragId (List.range (totalParts p))
    have hle : (b.sendParts sendto p b.nextFragId (List.range (totalParts p))).1.length ≤ totalParts p := by
      have := congrArg List.length hframes
      rw [List.length_map, List.length_take, List.length_range] at this
      omega
    rw [List.take_range, Nat.min_eq_left hle] at hframes
    constructor
    · rw [List.map_map]
      exact hframes.symm
    · intro f hf
      obtain ⟨part, hpart, rfl⟩ := List.mem_map.1 hf
      exact ⟨rfl, rfl, Nat.lt_of_lt_of_le (List.mem_range.1 hpart) hle, by omega⟩

/-! ## What is in a slot -/

/-- Every fragment is one of a packet that was passed; every slot in use collects the packet of the fragment that began its
group; every packet returned was passed. -/
structure Inv (N : FragNet ι) : Prop where
  passed : ∀ f ∈ N.network, f.packet ∈ N.passed
  length : ∀ f ∈ N.network, 20 ≤ f.packet.length
  part_lt : ∀ f ∈ N.network, f.part < totalParts f.packet
  parts_lt : ∀ f ∈ N.network, totalParts f.packet < 256
  begun : ∀ k, (N.receiver.slots k).used = true → N.begunBy k ∈ N.network
  collects : ∀ k, (N.receiver.slots k).used = true →
    Collects (N.receiver.slots k) (N.begunBy k).packet (N.begunBy k).id
  returned : ∀ p ∈ N.returned, p ∈ N.passed

omit [DecidableEq ι] in
theorem inv_start (senders : ι → RelayBridge) : (start senders).Inv where
  passed f hf := by cases hf
  length f hf := by cases hf
  part_lt f hf := by cases hf
  parts_lt f hf := by cases hf
  begun k hk := by cases hk
  collects k hk := by cases hk
  returned p hp := by cases hp

variable {N : FragNet ι}

theorem inv_setSender (h : N.Inv) (i : ι) (b : RelayBridge) : (N.setSender i b).Inv where
  passed := h.passed
  length := h.length
  part_lt := h.part_lt
  parts_lt := h.parts_lt
  begun := h.begun
  collects := h.collects
  returned := h.returned

theorem inv_send (h : N.Inv) (i : ι) (sendto : Nat → Bool) {packet : Bytes} (h20 : 20 ≤ packet.length) :
    (N.send i sendto packet).Inv := by
  have hnew := (frames_launched (N.senders i) sendto packet).2
  have hmem : ∀ f ∈ (N.send i sendto packet).network, f ∈ N.network ∨ f ∈ launched (N.senders i) sendto packet :=
    fun f hf => List.mem_append.1 hf
  constructor
  · intro f hf
    apply List.mem_append.2
    rcases hmem f hf with hf | hf
    · exact Or.inl (h.passed f hf)
    · exact Or.inr (by rw [(hnew f hf).1]; exact List.mem_singleton_self _)
  · intro f hf
    rcases hmem f hf with hf | hf
    · exact h.length f hf
    · rw [(hnew f hf).1]; exact h20
  · intro f hf
    rcases hmem f hf with hf | hf
    · exact h.part_lt f hf
    · rw [(hnew f hf).1]; exact (hnew f hf).2.2.1
  · intro f hf
    rcases hmem f hf with hf | hf
    · exact h.parts_lt f hf
    · rw [(hnew f hf).1]; exact (hnew f hf).2.2.2
  · exact fun k hk => List.mem_append_left _ (h.begun k hk)
  · exact h.collects
  · exact fun p hp => List.mem_append_left _ (h.returned p hp)

omit [DecidableEq ι] in
/-- What a delivered fragment leaves in the slot it went to, and in what came out. -/
theorem inv_filled (h : N.Inv) {f : InFlight} (hf : f ∈ N.network) (outBufSize : Nat) (k : Fin numSlots)
    {slot : ReassemblySlot} (hslot : Collects slot f.packet f.id) {g : InFlight} (hg : g ∈ N.network)
    (hpacket : g.packet = f.packet) (hid : g.id = f.id) (mostSuccessFragId : UInt16) :
    Inv { N with
      receiver :=
        { slots := Function.update N.receiver.slots k
            (slot.fill (fragHeader f.packet f.id f.part) (partBytes f.packet f.part) outBufSize).1
          mostSuccessFragId := mostSuccessFragId }
      begunBy := Function.update N.begunBy k g
      returned := N.returned ++
        ((slot.fill (fragHeader f.packet f.id f.part) (partBytes f.packet f.part) outBufSize).2.map (·.bytes)).toList } := by
  have hpos : 0 < f.packet.length := by have := h.length f hf; omega
  obtain ⟨hkept, hout⟩ := fill_collects hslot hpos (h.parts_lt f hf) (h.part_lt f hf) outBufSize
  refine ⟨h.passed, h.length, h.part_lt, h.parts_lt, fun j hj => ?_, fun j hj => ?_, fun p hp => ?_⟩
  · dsimp only at hj ⊢
    by_cases hjk : j = k
    · subst hjk
      rw [Function.update_self]
      exact hg
    · rw [Function.update_of_ne hjk] at hj ⊢
      exact h.begun j hj
  · dsimp only at hj ⊢
    by_cases hjk : j = k
    · subst hjk
      rw [Function.update_self] at hj ⊢
      rw [Function.update_self, hpacket, hid]
      rcases hkept with hfree | hkept
      · rw [hfree] at hj; cases hj
      · exact hkept
    · rw [Function.update_of_ne hjk] at hj ⊢
      rw [Function.update_of_ne hjk]
      exact h.collects j hj
  · rcases List.mem_append.1 hp with hp | hp
    · exact h.returned p hp
    · rw [Option.mem_toList, Option.map_eq_some_iff] at hp
      obtain ⟨q, hq, rfl⟩ := hp
      rw [hout q hq]
      exact h.passed f hf

omit [DecidableEq ι] in
/-- The group a fragment joins was begun under its id and source. -/
theorem group_joined (h : N.Inv) {f : InFlight} {k : Fin numSlots}
    (hpick : N.receiver.pickSlot f.id f.srcIp = some (k, true)) :
    (N.receiver.slots k).used = true ∧ (N.begunBy k).id = f.id ∧ (N.begunBy k).srcIp = f.srcIp := by
  have hgroup := Reassembler.isGroup_of_pickSlot hpick
  simp only [Reassembler.isGroup, Bool.and_eq_true, beq_iff_eq] at hgroup
  obtain ⟨⟨hused, hid⟩, hsrc⟩ := hgroup
  obtain ⟨got, hold, -⟩ := h.collects k hused
  exact ⟨hused, hold.id_eq.symm.trans hid, hold.srcIp_eq.symm.trans hsrc⟩

omit [DecidableEq ι] in
theorem inv_deliver (h : N.Inv) {f : InFlight} (hf : f ∈ N.network) {outBufSize : Nat}
    (hown : N.JoinsOwn (.deliver f outBufSize)) : (N.deliver f outBufSize).Inv := by
  unfold deliver InFlight.body
  cases hpick : N.receiver.pickSlot f.id f.srcIp with
  | none =>
    rw [Reassembler.reassembleFrag_dropped _ (h.length f hf) f.id f.part outBufSize hpick]
    simpa using h
  | some r =>
    obtain ⟨k, existing⟩ := r
    rw [Reassembler.reassembleFrag_fragment _ (h.length f hf) f.id f.part outBufSize hpick]
    cases existing with
    | false => exact inv_filled h hf outBufSize k (collects_claim _ _ _) hf rfl rfl _
    | true =>
      -- the group is the fragment's own, by the condition on the step
      obtain ⟨hused, hid, -⟩ := group_joined h hpick
      have hpacket : (N.begunBy k).packet = f.packet := hown k hpick
      have hcol := h.collects k hused
      rw [hpacket, hid] at hcol
      have hinv := inv_filled h hf outBufSize k hcol (h.begun k hused) hpacket hid
      rw [Function.update_eq_self] at hinv
      exact hinv _

theorem inv_step (h : N.Inv) {op : Op ι} (hmay : N.May op) (hown : N.JoinsOwn op) : (N.step op).Inv := by
  cases op with
  | send i sendto packet => exact inv_send h i sendto hmay
  | connect i => exact inv_setSender h i _
  | close i => exact inv_setSender h i _
  | reboot i => exact inv_setSender h i _
  | deliver f outBufSize => exact inv_deliver h hmay hown

theorem inv_of_reachable (h : Reachable JoinsOwn N) : N.Inv := by
  induction h with
  | start senders => exact inv_start senders
  | step _ op hmay hok ih => exact inv_step ih hmay hok

/-! ## Ids that name one packet -/

/-- Fragments of one id and source are of one packet. -/
def IdsUnique (N : FragNet ι) : Prop := ∀ f ∈ N.network, ∀ g ∈ N.network, f.id = g.id → f.srcIp = g.srcIp → f.packet = g.packet

theorem idsUnique_step (h : N.IdsUnique) {op : Op ι} (hfresh : N.FreshId op) : (N.step op).IdsUnique := by
  cases op with
  | send i sendto packet =>
    have hnew := (frames_launched (N.senders i) sendto packet).2
    intro f hf g hg hid hsrc
    rcases List.mem_append.1 hf with hf | hf <;> rcases List.mem_append.1 hg with hg | hg
    · exact h f hf g hg hid hsrc
    · obtain ⟨hp, hi, -⟩ := hnew g hg
      exact absurd (by rw [hsrc, InFlight.srcIp, hp]) (hfresh f hf (hid.trans hi))
    · obtain ⟨hp, hi, -⟩ := hnew f hf
      exact absurd (by rw [← hsrc, InFlight.srcIp, hp]) (hfresh g hg (hid.symm.trans hi))
    · rw [(hnew f hf).1, (hnew g hg).1]
  | connect i => exact h
  | close i => exact h
  | reboot i => exact h
  | deliver f outBufSize => exact h

/-- **When no id is used twice, every fragment joins its own group.** -/
theorem joinsOwn_of_freshId (h : Reachable FreshId N) : Reachable JoinsOwn N ∧ N.IdsUnique := by
  induction h with
  | start senders => exact ⟨.start senders, fun f hf => by cases hf⟩
  | @step N h op hmay hok ih =>
    obtain ⟨hreach, hunique⟩ := ih
    refine ⟨.step hreach op hmay ?_, idsUnique_step hunique hok⟩
    cases op with
    | deliver f outBufSize =>
      intro k hpick
      have hinv := inv_of_reachable hreach
      obtain ⟨hused, hid, hsrc⟩ := group_joined hinv hpick
      exact hunique _ (hinv.begun k hused) f hmay hid hsrc
    | _ => trivial

/-- **Every packet that comes out is one that went in**, under any loss, duplication and reordering, when no fragment joins an
incomplete group of another packet; and none does while no id is used twice. -/
theorem returned_passed :
    (Reachable JoinsOwn N → ∀ p ∈ N.returned, p ∈ N.passed) ∧ (Reachable FreshId N → Reachable JoinsOwn N) :=
  ⟨fun h => (inv_of_reachable h).returned, fun h => (joinsOwn_of_freshId h).1⟩

/-! ## Two packets under one id -/

/-- A run of deliveries is a run of the reassembler. -/
theorem returned_run_deliver (outBufSize : Nat) : ∀ (fs : List InFlight) (N : FragNet ι),
    (N.run (fs.map (Op.deliver · outBufSize))).returned =
      N.returned ++ (N.receiver.feed outBufSize (fs.map InFlight.body)).2
  | [], N => by simp [run, Reassembler.feed]
  | f :: fs, N => by
    have ih := returned_run_deliver outBufSize fs (N.deliver f outBufSize)
    rw [List.map_cons, List.map_cons, Reassembler.feed_cons, ← List.append_assoc]
    exact ih

/-- A packet of two parts. -/
def packetOf (c : UInt8) : Bytes := List.replicate 12 0 ++ [10, 13, 0, 1] ++ List.replicate 1385 c

/-- One sender, connected. -/
def oneSender : FragNet Unit := start (fun _ => RelayBridge.init.connect)

/-- The parts of a packet come in the wrong order. -/
def outOfOrder : List (Op Unit) :=
  .send () (fun _ => true) (packetOf 1) ::
    [⟨packetOf 1, 0, 1⟩, ⟨packetOf 1, 0, 0⟩].map (Op.deliver · packetCap)

/-- The first part of a packet comes, the sender reboots, and the second part of its next packet comes. -/
def rebooted : List (Op Unit) :=
  [.send () (fun _ => true) (packetOf 1), .deliver ⟨packetOf 1, 0, 0⟩ packetCap, .reboot (), .connect (),
    .send () (fun _ => true) (packetOf 2), .deliver ⟨packetOf 2, 0, 1⟩ packetCap]

theorem returned_passed_outOfOrder : (oneSender.run outOfOrder).returned = [packetOf 1] ∧
    ∀ p ∈ (oneSender.run outOfOrder).returned, p ∈ (oneSender.run outOfOrder).passed := by
  have hreach : Reachable FreshId (oneSender.run outOfOrder) := reachable_run (.start _) outOfOrder (by decide +kernel)
  have hlen : (packetOf 1).length = 1401 := by decide +kernel
  have hpick : ({} : Reassembler).pickSlot 0 (bytesAt (packetOf 1) 12 4) = some (⟨0, by decide⟩, false) := by decide
  have horder : [1, 0].Perm (List.range (totalParts (packetOf 1))) := by
    rw [totalParts, hlen]
    decide
  have hfeed := (Reassembler.feed_fragments (by rw [hlen]; decide) (by rw [hlen]; decide) packetCap {} (fun _ => rfl)
    hpick horder).2
  rw [hlen, if_pos (by decide)] at hfeed
  have hreceiver : (oneSender.step (.send () (fun _ => true) (packetOf 1))).receiver = {} := rfl
  have hnone : (oneSender.step (.send () (fun _ => true) (packetOf 1))).returned = [] := rfl
  have hreturned : (oneSender.run outOfOrder).returned = [packetOf 1] := by
    rw [outOfOrder, run_cons, returned_run_deliver, hreceiver, hnone, List.nil_append]
    simpa only [List.map_cons, List.map_nil, InFlight.body] using hfeed
  exact ⟨hreturned, returned_passed.1 (returned_passed.2 hreach)⟩

/-- A byte of the first part and one of the second. -/
def marks (p : Bytes) : UInt8 × UInt8 := (byteAt p 20, byteAt p 1400)

/-- **Two halves come out as one packet**: the reboot takes the sender's ids back to 0. -/
theorem reboot_combines : Reachable (fun _ _ => True) (oneSender.run rebooted) ∧
    ∃ p ∈ (oneSender.run rebooted).returned, p ∉ (oneSender.run rebooted).passed := by
  have hreach : Reachable (fun _ _ => True) (oneSender.run rebooted) :=
    reachable_run (.start _) rebooted (by decide +kernel)
  have hreturned : (oneSender.run rebooted).returned.map marks = [(1, 2)] := by decide +kernel
  have hpassed : (oneSender.run rebooted).passed.map marks = [(1, 1), (2, 2)] := by decide +kernel
  refine ⟨hreach, ?_⟩
  generalize oneSender.run rebooted = N at hreturned hpassed
  have hmixed : (1, 2) ∈ N.returned.map marks := by simp [hreturned]
  obtain ⟨p, hp, hbytes⟩ := List.mem_map.1 hmixed
  refine ⟨p, hp, fun hin => ?_⟩
  have hmem := List.mem_map_of_mem (f := marks) hin
  rw [hpassed, hbytes] at hmem
  simp at hmem

end FragNet
end Slp
