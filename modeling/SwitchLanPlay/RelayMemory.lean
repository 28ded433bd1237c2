import SwitchLanPlay.Memory
import SwitchLanPlay.RelayMalformed
import SwitchLanPlay.Runs
/-!
# RelayMemory — the relay's receive path never leaves its buffers

`Checked.recvIpv4`, `Checked.reassembleFrag` and `Checked.pump` are the receive path with every `memcpy` and every index
written as a checked access: of the datagram, of a slot's buffer, of the caller's buffer and of a queue cell.  A slot's
`totalLen` was set by an earlier fragment and is used as a length by a later one, so they need the invariant `SlotsBounded`,
which every operation of the bridge keeps.  In a reachable bridge all of them compute what the model does, and none faults
(`receive_in_bounds`).
-/
namespace Slp

open Wire

/-! ## The receive path over checked memory -/

namespace Checked

variable {outBufSize : Nat}

/-- `std::memcpy(&hdr, data, sizeof(hdr))` and the fields of the copy. -/
def fragHeader (data : Bytes) : Option FragHeader := do
  let hdr ← load data 0 fragHeaderSize
  return FragHeader.decode hdr

/-- The test for a complete group and the copy out, with the length written to `*out_len`. -/
def finish (s : ReassemblySlot) (totalPart : Nat) (out : ByteArr outBufSize) :
    Option (ReassemblySlot × ByteArr outBufSize × Option Nat) :=
  if s.isComplete totalPart then
    if outBufSize < s.totalLen then some (s.release, out, none)
    else do
      let bytes ← s.buffer.fetch 0 s.totalLen
      let out' ← out.store 0 bytes
      return (s.release, out', some s.totalLen)
  else some (s, out, none)

/-- One part into the slot picked for it. -/
def fill (s : ReassemblySlot) (hdr : FragHeader) (data : Bytes) (out : ByteArr outBufSize) :
    Option (ReassemblySlot × ByteArr outBufSize × Option Nat) :=
  if 32 ≤ hdr.part.toNat ∨ slotBufferSize < hdr.part.toNat * hdr.pmtu.toNat + hdr.len.toNat then
    some (s.release, out, none)
  else do
    let chunk ← load data fragHeaderSize hdr.len.toNat
    let buffer ← s.buffer.store (hdr.part.toNat * hdr.pmtu.toNat) chunk
    finish { s.accept hdr chunk with buffer := buffer } hdr.totalPart.toNat out

def reassembleFrag (r : Reassembler) (data : Bytes) (out : ByteArr outBufSize) :
    Option (Reassembler × ByteArr outBufSize × Option Nat) :=
  if data.length < fragHeaderSize then some (r, out, none)
  else do
    let hdr ← fragHeader data
    if data.length - fragHeaderSize < hdr.len.toNat then return (r, out, none)
    match r.pickSlot hdr.id hdr.srcIp with
    | none => return (r, out, none)
    | some (k, isExistingGroup) =>
      let slot := if isExistingGroup then r.slots k else (r.slots k).claim hdr.id hdr.srcIp
      let (slot', out', outLen) ← fill slot hdr data out
      return ({ slots := Function.update r.slots k slot'
                mostSuccessFragId := if outLen.isSome then hdr.id else r.mostSuccessFragId }, out', outLen)

/-- The values 1 (with `*out_len`), 0 and -1 of `RecvIpv4`. -/
inductive Ret where
  | packet (outLen : Nat)
  | handled
  | noData
deriving DecidableEq

def recvIpv4 (b : RelayBridge) (datagram : Bytes) (out : ByteArr outBufSize) :
    Option (RelayBridge × ByteArr outBufSize × Ret) :=
  let raw := datagram.take (1 + relayMtu + fragHeaderSize)
  if raw.length = 0 then some (b, out, .noData)
  else do
    let tag ← loadByte raw 0
    match RelayFrameType.ofByte? (tag &&& 0x7F) with
    | some .ipv4 =>
      let plen := raw.length - 1
      if outBufSize < plen then return (b, out, .noData)
      let body ← load raw 1 plen
      let out' ← out.store 0 body
      return (b, out', .packet plen)
    | some .ipv4Frag =>
      if raw.length < 1 + fragHeaderSize then return (b, out, .handled)
      let data ← load raw 1 (raw.length - 1)
      let (r, out', outLen) ← reassembleFrag b.reassembler data out
      return ({ b with reassembler := r }, out', match outLen with | some n => .packet n | none => .handled)
    | _ => return (b, out, .handled)

/-- One turn of the pump loop over its local `pkt`: the packet is copied to the queue's tail cell. -/
def pump (b : RelayBridge) (datagram : Bytes) (pkt : ByteArr packetCap) : Option (RelayBridge × ByteArr packetCap) := do
  let (b', pkt', ret) ← recvIpv4 b datagram pkt
  match ret with
  | .packet pktLen =>
    if b'.queue.count < queueSize then
      let bytes ← pkt'.fetch 0 pktLen
      let cell ← ByteBuf.ofBytes bytes
      return ({ b' with queue := b'.queue.push cell }, pkt')
    return (b', pkt')
  | _ => return (b', pkt')

theorem fragHeader_eq {data : Bytes} (h : fragHeaderSize ≤ data.length) :
    fragHeader data = some (FragHeader.decode data) := by
  rw [fragHeader, load_eq (by omega)]
  simp only [Option.bind_eq_bind, Option.bind_some, Option.pure_def, FragHeader.decode, fragHeaderSize]
  rw [show bytesAt data 0 16 = data.take 16 from rfl]
  simp only [bytesAt_take (show 0 + 4 ≤ 16 by omega), bytesAt_take (show 4 + 4 ≤ 16 by omega),
    byteAt_take (show 8 < 16 by omega), byteAt_take (show 9 < 16 by omega), byteAt_take (show 10 < 16 by omega),
    byteAt_take (show 11 < 16 by omega), byteAt_take (show 12 < 16 by omega), byteAt_take (show 13 < 16 by omega),
    byteAt_take (show 14 < 16 by omega), byteAt_take (show 15 < 16 by omega)]

end Checked

/-! ## The invariant -/

namespace Reassembler

/-- No slot records a packet that its buffer could not hold. -/
def SlotsBounded (r : Reassembler) : Prop := ∀ k, (r.slots k).totalLen ≤ slotBufferSize

/-- **The length the last part fixes is where that part ends.** -/
theorem totalLen_accept (s : ReassemblySlot) (hdr : FragHeader) (chunk : Bytes) :
    (s.accept hdr chunk).totalLen =
      if hdr.part.toNat + 1 = hdr.totalPart.toNat then hdr.part.toNat * hdr.pmtu.toNat + hdr.len.toNat else s.totalLen := by
  simp only [ReassemblySlot.accept]
  split
  case isTrue h => rw [← h, Nat.add_sub_cancel]
  case isFalse => rfl

theorem totalLen_accept_le {s : ReassemblySlot} {hdr : FragHeader} (hs : s.totalLen ≤ slotBufferSize) (hin : ¬ hdr.OutOfSlot)
    (chunk : Bytes) : (s.accept hdr chunk).totalLen ≤ slotBufferSize := by
  rw [totalLen_accept]
  unfold FragHeader.OutOfSlot at hin
  split <;> omega

theorem totalLen_fill_le {s : ReassemblySlot} (hs : s.totalLen ≤ slotBufferSize) (hdr : FragHeader) (chunk : Bytes)
    (outBufSize : Nat) : (s.fill hdr chunk outBufSize).1.totalLen ≤ slotBufferSize := by
  by_cases hout : hdr.OutOfSlot
  · rw [ReassemblySlot.fill_outOfSlot s hout]
    exact hs
  · have hacc := totalLen_accept_le hs hout chunk
    unfold FragHeader.OutOfSlot at hout
    rw [ReassemblySlot.fill, if_neg hout]
    dsimp only
    split
    · split <;> exact hacc
    · exact hacc

theorem SlotsBounded.claimed {r : Reassembler} (h : r.SlotsBounded) (k : Fin numSlots) (ex : Bool) (id : UInt16)
    (srcIp : Bytes) : (if ex then r.slots k else (r.slots k).claim id srcIp).totalLen ≤ slotBufferSize := by
  cases ex
  · exact Nat.zero_le _
  · exact h k

theorem SlotsBounded.reassembleFrag {r : Reassembler} (h : r.SlotsBounded) (data : Bytes) (outBufSize : Nat) :
    (r.reassembleFrag data outBufSize).1.SlotsBounded := by
  by_cases hfrag : IsFragment data
  · cases hk : r.pickSlot (FragHeader.decode data).id (FragHeader.decode data).srcIp with
    | none =>
      rw [reassembleFrag_of_no_pick r outBufSize hfrag hk]
      exact h
    | some pick =>
      obtain ⟨k, ex⟩ := pick
      rw [reassembleFrag_of_pick r outBufSize hfrag hk]
      intro j
      by_cases hj : j = k
      · subst hj
        simp only [Function.update_self]
        exact totalLen_fill_le (h.claimed j ex _ _) _ _ _
      · simp only [Function.update_of_ne hj]
        exact h j
  · rw [reassembleFrag_of_short r outBufSize hfrag]
    exact h

end Reassembler

/-! ## No access leaves its buffer -/

namespace Checked

variable {outBufSize : Nat}

/-- The caller's buffer after a call: a delivered packet is at its front. -/
def deliver (out : ByteArr outBufSize) : Option (ByteBuf outBufSize) → ByteArr outBufSize
  | some p => out.write 0 p.bytes
  | none => out

/-- **The copy of a complete group stays inside the slot's buffer and the caller's.** -/
theorem finish_eq {s : ReassemblySlot} (hs : s.totalLen ≤ slotBufferSize) (totalPart : Nat) (out : ByteArr outBufSize) :
    finish s totalPart out =
      (let (s', p) : ReassemblySlot × Option (ByteBuf outBufSize) :=
        if s.isComplete totalPart then
          if h : s.totalLen ≤ outBufSize then (s.release, some (s.packet outBufSize h)) else (s.release, none)
        else (s, none)
       some (s', deliver out p, p.map ByteBuf.size)) := by
  have hread : (s.buffer.read s.totalLen).length = s.totalLen := ByteArr.length_read _ hs
  unfold finish
  split
  · by_cases hfit : s.totalLen ≤ outBufSize
    · have hstore : out.store 0 (s.buffer.read s.totalLen) = some _ := out.store_eq (by omega)
      rw [if_neg (Nat.not_lt.2 hfit), dif_pos hfit, ByteArr.fetch_front _ hs]
      simp only [Option.bind_eq_bind, Option.bind_some, Option.pure_def, hstore]
      simp only [deliver, Option.map_some, ByteBuf.size, ReassemblySlot.packet, hread]
    · rw [if_pos (Nat.not_le.1 hfit), dif_neg hfit]
      rfl
  · rfl

/-- **A part is filled in without a fault**, whatever length an earlier part gave the group. -/
theorem fill_eq {s : ReassemblySlot} (hs : s.totalLen ≤ slotBufferSize) {hdr : FragHeader} {data : Bytes}
    (hdata : fragHeaderSize + hdr.len.toNat ≤ data.length) (out : ByteArr outBufSize) :
    fill s hdr data out =
      (let (s', p) := s.fill hdr (data.drop fragHeaderSize) outBufSize
       some (s', deliver out p, p.map ByteBuf.size)) := by
  by_cases hout : hdr.OutOfSlot
  · rw [ReassemblySlot.fill_outOfSlot s hout]
    exact if_pos hout
  · have htotal := Reassembler.totalLen_accept_le hs hout (data.drop fragHeaderSize)
    have hlen : (bytesAt data fragHeaderSize hdr.len.toNat).length = hdr.len.toNat := length_bytesAt _ _ _ hdata
    unfold FragHeader.OutOfSlot at hout
    have hstore : s.buffer.store (hdr.part.toNat * hdr.pmtu.toNat) (bytesAt data fragHeaderSize hdr.len.toNat) = some _ :=
      s.buffer.store_eq (by omega)
    rw [ReassemblySlot.fill, if_neg hout, fill, if_neg hout, load_eq hdata]
    simp only [Option.bind_eq_bind, Option.bind_some, hstore]
    exact finish_eq htotal hdr.totalPart.toNat out

/-- **Reassembly does not fault**, whatever the datagram, the buffer's size and the reachable slots. -/
theorem reassembleFrag_eq {r : Reassembler} (h : r.SlotsBounded) (data : Bytes) (out : ByteArr outBufSize) :
    reassembleFrag r data out =
      (let (r', p) := r.reassembleFrag data outBufSize
       some (r', deliver out p, p.map ByteBuf.size)) := by
  by_cases hlen : data.length < fragHeaderSize
  · rw [reassembleFrag, if_pos hlen, Reassembler.reassembleFrag, if_pos hlen]
    rfl
  · rw [reassembleFrag, if_neg hlen, fragHeader_eq (by omega)]
    simp only [Option.bind_eq_bind, Option.bind_some, Option.pure_def]
    have hdrop := List.length_drop (i := fragHeaderSize) (l := data)
    by_cases hchunk : data.length - fragHeaderSize < (FragHeader.decode data).len.toNat
    · rw [if_pos hchunk, Reassembler.reassembleFrag_of_short r outBufSize (by unfold Reassembler.IsFragment; omega)]
      rfl
    · have hfrag : Reassembler.IsFragment data := ⟨by omega, by omega⟩
      rw [if_neg hchunk]
      cases hk : r.pickSlot (FragHeader.decode data).id (FragHeader.decode data).srcIp with
      | none =>
        rw [Reassembler.reassembleFrag_of_no_pick r outBufSize hfrag hk]
        rfl
      | some pick =>
        obtain ⟨k, ex⟩ := pick
        rw [Reassembler.reassembleFrag_of_pick r outBufSize hfrag hk]
        simp only [fill_eq (h.claimed k ex _ _) (show fragHeaderSize + (FragHeader.decode data).len.toNat ≤ data.length by omega),
          Option.bind_some, Option.isSome_map]

/-- The value returned for what the model receives. -/
def Ret.of : RelayBridge.Received outBufSize → Ret
  | .packet p => .packet p.size
  | .handled => .handled
  | .noData => .noData

theorem Ret.packet_le : ∀ {r : RelayBridge.Received outBufSize} {outLen : Nat}, Ret.of r = .packet outLen → outLen ≤ outBufSize
  | .packet p, _, rfl => p.size_le

/-- The caller's buffer after `RecvIpv4`. -/
def received (out : ByteArr outBufSize) : RelayBridge.Received outBufSize → ByteArr outBufSize
  | .packet p => out.write 0 p.bytes
  | _ => out

/-- **`RecvIpv4` does not fault**, whatever the datagram. -/
theorem recvIpv4_eq {b : RelayBridge} (h : b.reassembler.SlotsBounded) (datagram : Bytes) (out : ByteArr outBufSize) :
    recvIpv4 b datagram out =
      (let (b', r) := b.recvIpv4 datagram outBufSize
       some (b', received out r, .of r)) := by
  unfold recvIpv4 RelayBridge.recvIpv4
  cases hraw : datagram.take (1 + relayMtu + fragHeaderSize) with
  | nil => rfl
  | cons tag body =>
    have hbody : load (tag :: body) 1 body.length = some body := by
      rw [load_eq (by rw [List.length_cons]; omega)]
      simp [bytesAt]
    simp only [List.length_cons, Nat.add_sub_cancel, if_neg (Nat.succ_ne_zero _), loadByte, List.getElem?_cons_zero,
      Option.bind_eq_bind, Option.bind_some, Option.pure_def, hbody]
    cases RelayFrameType.ofByte? (tag &&& 0x7F) with
    | none => rfl
    | some type =>
      cases type with
      | ipv4 =>
        by_cases hfit : body.length ≤ outBufSize
        · have hstore : out.store 0 body = some _ := out.store_eq (by omega)
          simp only [if_neg (Nat.not_lt.2 hfit), dif_pos hfit, hstore]
          rfl
        · simp only [if_pos (Nat.not_le.1 hfit), dif_neg hfit]
          rfl
      | ipv4Frag =>
        by_cases hshort : body.length + 1 < 1 + fragHeaderSize
        · simp only [if_pos hshort]
          rfl
        · simp only [if_neg hshort, reassembleFrag_eq h body out, Option.bind_some]
          cases (b.reassembler.reassembleFrag body outBufSize).2 <;> rfl
      | keepalive => rfl
      | ping => rfl
      | authMe => rfl

/-- **The pump's copy stays inside `Packet::data`.** -/
theorem pump_eq {b : RelayBridge} (h : b.reassembler.SlotsBounded) (datagram : Bytes) (pkt : ByteArr packetCap) :
    ∃ pkt', pump b datagram pkt = some (b.pump datagram, pkt') := by
  rw [pump, recvIpv4_eq h]
  simp only [Option.bind_eq_bind, Option.bind_some, RelayBridge.pump]
  rcases b.recvIpv4 datagram packetCap with ⟨b', p | _ | _⟩
  · have hread : (pkt.write 0 p.bytes).fetch 0 p.size = some p.bytes := by
      rw [ByteBuf.size, ByteArr.fetch_front _ p.size_le, ByteArr.read_write _ p.size_le]
    simp only [Ret.of, received, hread, Option.bind_some, ByteBuf.ofBytes_eq p.size_le]
    by_cases hroom : b'.queue.count < queueSize
    · exact ⟨_, if_pos hroom⟩
    · have hpush : b'.queue.push p = b'.queue := dif_neg hroom
      exact ⟨_, by rw [if_neg hroom, hpush]; rfl⟩
  · exact ⟨_, rfl⟩
  · exact ⟨_, rfl⟩

end Checked

/-! ## Every reachable bridge -/

namespace RelayBridge

/-- One call on the bridge: `Connect`, `Close`, a send, a datagram for `RecvIpv4` or for the pump, a pop. -/
inductive Op where
  | connect
  | close
  | sendIpv4 (sendto : Nat → Bool) (packet : Bytes)
  | recvIpv4 (datagram : Bytes) (outBufSize : Nat)
  | pump (datagram : Bytes)
  | popIpv4 (outBufSize : Nat)

def step (b : RelayBridge) : Op → RelayBridge
  | .connect => b.connect
  | .close => b.close
  | .sendIpv4 sendto packet => (b.sendIpv4 sendto packet).bridge
  | .recvIpv4 datagram outBufSize => (b.recvIpv4 datagram outBufSize).1
  | .pump datagram => b.pump datagram
  | .popIpv4 outBufSize => (b.popIpv4 outBufSize).1

abbrev Reachable : RelayBridge → Prop := Runs.Reachable step (fun _ _ => True) init

theorem reassembler_sendIpv4 (b : RelayBridge) (sendto : Nat → Bool) (packet : Bytes) :
    (b.sendIpv4 sendto packet).bridge.reassembler = b.reassembler := by
  unfold sendIpv4 sendFragmented
  split
  · rfl
  · split
    · rfl
    · split <;> rfl

theorem slotsBounded_recvIpv4 {b : RelayBridge} (h : b.reassembler.SlotsBounded) (datagram : Bytes) (outBufSize : Nat) :
    (b.recvIpv4 datagram outBufSize).1.reassembler.SlotsBounded := by
  unfold recvIpv4
  cases datagram.take (1 + relayMtu + fragHeaderSize) with
  | nil => exact h
  | cons tag body =>
    dsimp only
    split
    · split <;> exact h
    · split
      · exact h
      · exact h.reassembleFrag body outBufSize
    · exact h

theorem reassembler_pump (b : RelayBridge) (datagram : Bytes) :
    (b.pump datagram).reassembler = (b.recvIpv4 datagram packetCap).1.reassembler := by
  unfold pump
  rcases b.recvIpv4 datagram packetCap with ⟨b', _ | _ | _⟩ <;> rfl

theorem reassembler_popIpv4 (b : RelayBridge) (outBufSize : Nat) : (b.popIpv4 outBufSize).1.reassembler = b.reassembler := by
  unfold popIpv4
  split <;> rfl

/-- **Every operation keeps the slots' lengths within their buffers.** -/
theorem slotsBounded_step {b : RelayBridge} (h : b.reassembler.SlotsBounded) (op : Op) :
    (b.step op).reassembler.SlotsBounded := by
  cases op with
  | connect => exact h
  | close => exact h
  | sendIpv4 sendto packet => rwa [step, reassembler_sendIpv4]
  | recvIpv4 datagram outBufSize => exact slotsBounded_recvIpv4 h datagram outBufSize
  | pump datagram =>
    rw [step, reassembler_pump]
    exact slotsBounded_recvIpv4 h datagram packetCap
  | popIpv4 outBufSize => rwa [step, reassembler_popIpv4]

theorem Reachable.slotsBounded {b : RelayBridge} (h : Reachable b) : b.reassembler.SlotsBounded :=
  Runs.Reachable.keeps (P := fun b => b.reassembler.SlotsBounded) (fun _ => Nat.zero_le _)
    (fun _ op h _ => slotsBounded_step h op) h

/-- **The receive path stays in bounds**: in a reachable bridge no slot records more bytes than its buffer has, and for every
datagram and every buffer of the caller no access of `RecvIpv4`, of `ReassembleFrag` or of the pump's copy faults; they leave
what the model leaves, and a length handed out with 1 is at most the buffer's size. -/
theorem receive_in_bounds {b : RelayBridge} (h : Reachable b) :
    (∀ k, (b.reassembler.slots k).totalLen ≤ slotBufferSize) ∧
    (∀ (datagram : Bytes) (outBufSize : Nat) (out : ByteArr outBufSize),
      (∃ out' ret, Checked.recvIpv4 b datagram out = some ((b.recvIpv4 datagram outBufSize).1, out', ret) ∧
        ∀ outLen, ret = .packet outLen → outLen ≤ outBufSize) ∧
      (∃ out' outLen, Checked.reassembleFrag b.reassembler datagram out =
          some ((b.reassembler.reassembleFrag datagram outBufSize).1, out', outLen) ∧
        ∀ n, outLen = some n → n ≤ outBufSize)) ∧
    (∀ (datagram : Bytes) (pkt : ByteArr packetCap), ∃ pkt', Checked.pump b datagram pkt = some (b.pump datagram, pkt')) := by
  refine ⟨h.slotsBounded, fun datagram outBufSize out => ⟨⟨_, .of (b.recvIpv4 datagram outBufSize).2,
    Checked.recvIpv4_eq h.slotsBounded datagram out, fun _ => Checked.Ret.packet_le⟩,
    _, _, Checked.reassembleFrag_eq h.slotsBounded datagram out, ?_⟩, Checked.pump_eq h.slotsBounded⟩
  intro n hn
  obtain ⟨p, -, rfl⟩ := Option.map_eq_some_iff.1 hn
  exact p.size_le

/-- The bridge that has one part of a group of two. -/
def oneOfTwo : RelayBridge := init.step (.pump (RelayFrameType.ipv4Frag.code :: Reassembler.firstPart))

theorem receive_in_bounds_oneOfTwo : Reachable oneOfTwo ∧
    (∀ k, (oneOfTwo.reassembler.slots k).totalLen ≤ slotBufferSize) ∧
    ∃ pkt', Checked.pump oneOfTwo (RelayFrameType.ipv4Frag.code :: Reassembler.badPart) (fun _ => 0) =
      some (oneOfTwo.pump (RelayFrameType.ipv4Frag.code :: Reassembler.badPart), pkt') :=
  have hreach : Reachable oneOfTwo := Runs.Reachable.single (Op.pump _) trivial
  ⟨hreach, (receive_in_bounds hreach).1, (receive_in_bounds hreach).2.2 _ _⟩

end RelayBridge

end Slp
