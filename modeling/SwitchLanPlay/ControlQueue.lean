import SwitchLanPlay.Packets
/-!
# ControlQueue — the shared queue of UDP packets (source/bsd/bsd_bridge_service.cpp)

`DrainRawRelayQueue` files every UDP packet the relay delivers in one array of 32 entries, and each bridged socket's
`RecvFrom` takes the first entry for its own port out of it.  An entry leaves by a read on its port alone.

Two runs are compared: one, and the same without the packets for ports no bridged socket is bound to.  They answer every
read alike as long as no packet for a bound port finds the queue full while it holds one for an unbound port
(`recvFrom_unaffected`).  Nothing removes those, so 32 of them close the queue (`thirty_two_unclaimed_starve`).
-/
namespace Slp

open Wire

/-! ## Taking the first match out of a list -/

section PopFirst

variable {α : Type} {p keep : α → Bool}

/-- The first accepted element, and the list without it. -/
def popFirst (p : α → Bool) : List α → Option (α × List α)
  | [] => none
  | a :: l => if p a then some (a, l) else (popFirst p l).map (fun r => (r.1, a :: r.2))

/-- **The first match is taken from between what precedes and what follows it.** -/
theorem popFirst_eq_append : ∀ {l : List α} {a : α} {l' : List α}, popFirst p l = some (a, l') →
    ∃ before after, l = before ++ a :: after ∧ l' = before ++ after ∧ p a = true ∧ ∀ b ∈ before, p b = false
  | [], _, _, h => by cases h
  | b :: l, a, l', h => by
    rw [popFirst] at h
    by_cases hb : p b = true
    · rw [if_pos hb] at h
      cases h
      exact ⟨[], l, rfl, rfl, hb, fun _ h => by cases h⟩
    · rw [if_neg hb] at h
      obtain ⟨⟨a', l''⟩, hr, heq⟩ := Option.map_eq_some_iff.1 h
      cases heq
      obtain ⟨before, after, rfl, rfl, ha, hbefore⟩ := popFirst_eq_append hr
      refine ⟨b :: before, after, rfl, rfl, ha, fun c hc => ?_⟩
      rcases List.mem_cons.1 hc with rfl | hc
      · exact Bool.not_eq_true _ ▸ hb
      · exact hbefore c hc

theorem length_popFirst {l : List α} {r : α × List α} (h : popFirst p l = some r) : r.2.length + 1 = l.length := by
  obtain ⟨a, rest⟩ := r
  obtain ⟨before, after, rfl, rfl, -, -⟩ := popFirst_eq_append h
  simp only [List.length_append, List.length_cons]
  omega

/-- **What is taken out was there and is accepted; what is left was there.** -/
theorem mem_popFirst {l : List α} {r : α × List α} (h : popFirst p l = some r) :
    r.1 ∈ l ∧ p r.1 = true ∧ ∀ a ∈ r.2, a ∈ l := by
  obtain ⟨a, rest⟩ := r
  obtain ⟨before, after, rfl, rfl, ha, -⟩ := popFirst_eq_append h
  refine ⟨by simp, ha, fun b hb => ?_⟩
  rcases List.mem_append.1 hb with hb | hb
  · exact List.mem_append_left _ hb
  · exact List.mem_append_right _ (List.mem_cons_of_mem _ hb)

/-- **Taking the first accepted element leaves the accepted ones after it, and the others.** -/
theorem filter_popFirst {l : List α} {r : α × List α} (h : popFirst p l = some r) :
    l.filter p = r.1 :: r.2.filter p ∧ ∀ q : α → Bool, (∀ a, p a = true → q a = false) → r.2.filter q = l.filter q := by
  obtain ⟨a, rest⟩ := r
  obtain ⟨before, after, rfl, rfl, ha, hbefore⟩ := popFirst_eq_append h
  have hnone : before.filter p = [] := List.filter_eq_nil_iff.2 (fun b hb => by rw [hbefore b hb]; exact Bool.false_ne_true)
  refine ⟨?_, fun q hq => ?_⟩
  · rw [List.filter_append, List.filter_append, hnone, List.nil_append, List.nil_append, List.filter_cons_of_pos ha]
  · have hskip : ¬ q a = true := by simp [hq a ha]
    rw [List.filter_append, List.filter_append, List.filter_cons_of_neg hskip]

/-- **Taking out and filtering commute** when everything that can be taken is kept. -/
theorem popFirst_filter (hkeep : ∀ a, p a = true → keep a = true) : ∀ (l : List α),
    popFirst p (l.filter keep) = (popFirst p l).map (fun r => (r.1, r.2.filter keep))
  | [] => rfl
  | a :: l => by
    rw [popFirst]
    by_cases hp : p a = true
    · rw [if_pos hp, List.filter_cons_of_pos (hkeep a hp), popFirst, if_pos hp]
      rfl
    · rw [if_neg hp]
      by_cases hk : keep a = true
      · rw [List.filter_cons_of_pos hk, popFirst, if_neg hp, popFirst_filter hkeep l, Option.map_map, Option.map_map]
        congr 1
        funext r
        simp [hk]
      · rw [List.filter_cons_of_neg hk, popFirst_filter hkeep l, Option.map_map]
        congr 1
        funext r
        simp [hk]

theorem popFirst_eq_none_iff : ∀ {l : List α}, popFirst p l = none ↔ ∀ a ∈ l, p a = false
  | [] => by simp [popFirst]
  | a :: l => by
    rw [popFirst, List.forall_mem_cons]
    by_cases hp : p a = true
    · simp [hp]
    · rw [if_neg hp, Option.map_eq_none_iff, popFirst_eq_none_iff]
      simp [hp]

theorem popFirst_append : ∀ {before : List α} {a : α} {after : List α}, (∀ b ∈ before, p b = false) → p a = true →
    popFirst p (before ++ a :: after) = some (a, before ++ after)
  | [], a, after, _, ha => by rw [List.nil_append, popFirst, if_pos ha, List.nil_append]
  | b :: before, a, after, hb, ha => by
    have hfirst : ¬ p b = true := by simp [hb b List.mem_cons_self]
    have ih : popFirst p (before ++ a :: after) = some (a, before ++ after) :=
      popFirst_append (fun c hc => hb c (List.mem_cons_of_mem _ hc)) ha
    rw [List.cons_append, popFirst, if_neg hfirst, ih]
    rfl

theorem popFirst_map {β : Type} {p : β → Bool} (f : α → β) : ∀ (l : List α),
    popFirst p (l.map f) = (popFirst (fun a => p (f a)) l).map (fun r => (f r.1, r.2.map f))
  | [] => rfl
  | a :: l => by
    rw [List.map_cons, popFirst, popFirst]
    split
    · rfl
    · rw [popFirst_map f l, Option.map_map, Option.map_map]
      rfl

end PopFirst

/-! ## The queue -/

/-- `ControlQueueSize`. -/
def controlQueueSize : Nat := 32

/-- `sizeof(ControlPacket::data)`. -/
def controlPacketCap : Nat := 20 + 8 + maxBridgedPayload

structure ControlPacket where
  dstPort : UInt16
  data : ByteBuf controlPacketCap

/-- `g_control_queue` and `g_control_count`. -/
structure ControlQueue where
  packets : List ControlPacket
  length_le : packets.length ≤ controlQueueSize

namespace ControlQueue

def empty : ControlQueue := ⟨[], Nat.zero_le _⟩

/-- The copy of a packet that is filed, cut to the entry's array. -/
def packetOf (pkt : Bytes) (dstPort : UInt16) : ControlPacket :=
  ⟨dstPort, ⟨pkt.take controlPacketCap, by rw [List.length_take]; exact Nat.min_le_left _ _⟩⟩

def push (q : ControlQueue) (p : ControlPacket) : ControlQueue :=
  if h : q.packets.length < controlQueueSize then ⟨q.packets ++ [p], by rw [List.length_append]; exact h⟩ else q

/-- The UDP branch of `DrainRawRelayQueue`. -/
def file (q : ControlQueue) (pkt : Bytes) : ControlQueue :=
  match parseIpv4Udp pkt with
  | none => q
  | some d => q.push (packetOf pkt d.dstPort)

def popControlPacketForPort (q : ControlQueue) (port : UInt16) : Option (ControlPacket × ControlQueue) :=
  match h : popFirst (fun p : ControlPacket => p.dstPort == port) q.packets with
  | none => none
  | some r => some (r.1, ⟨r.2, by have := length_popFirst h; have := q.length_le; omega⟩)

theorem pop_of_none {q : ControlQueue} {port : UInt16}
    (h : popFirst (fun p : ControlPacket => p.dstPort == port) q.packets = none) :
    q.popControlPacketForPort port = none := by
  unfold popControlPacketForPort
  split
  · rfl
  · rename_i hr
    rw [h] at hr
    cases hr

theorem pop_of_some {q : ControlQueue} {port : UInt16} {r : ControlPacket × List ControlPacket}
    (h : popFirst (fun p : ControlPacket => p.dstPort == port) q.packets = some r) :
    ∃ hle, q.popControlPacketForPort port = some (r.1, ⟨r.2, hle⟩) := by
  refine ⟨by have := length_popFirst h; have := q.length_le; omega, ?_⟩
  unfold popControlPacketForPort
  split
  · rename_i hr
    rw [h] at hr
    cases hr
  · rename_i r' hr
    rw [h] at hr
    cases hr
    rfl

/-- `RecvFrom` on a bridged socket of local port `port`, its relay queue drained. -/
def recvFrom (q : ControlQueue) (port : UInt16) (bufSize addrSize : Nat) : ControlQueue × RecvFromOut :=
  match q.popControlPacketForPort port with
  | none => (q, .wouldBlock)
  | some (pkt, q') =>
    let ipPacket := pkt.data.bytes
    match parseIpv4Udp ipPacket with
    | none => (q', .wouldBlock)
    | some d =>
      let ihl := ihlOf ipPacket
      let srcPort := read16 (byteAt ipPacket ihl) (byteAt ipPacket (ihl + 1))
      (q', .delivered d.payload d.srcIp srcPort bufSize addrSize)

/-! ## Runs -/

/-- What happens to the queue: a packet popped from the relay, or a read on a bridged socket. -/
inductive Event where
  | relayed (pkt : Bytes)
  | recvFrom (port : UInt16) (bufSize addrSize : Nat)

def step (q : ControlQueue) : Event → ControlQueue × List RecvFromOut
  | .relayed pkt => (q.file pkt, [])
  | .recvFrom port bufSize addrSize => ((q.recvFrom port bufSize addrSize).1, [(q.recvFrom port bufSize addrSize).2])

/-- The queue after a run and what its reads returned. -/
def run : ControlQueue → List Event → ControlQueue × List RecvFromOut
  | q, [] => (q, [])
  | q, e :: es => ((run (q.step e).1 es).1, (q.step e).2 ++ (run (q.step e).1 es).2)

variable (bound : UInt16 → Bool)

/-- Reads happen on bound ports. -/
def Event.ReadsBound : Event → Prop
  | .relayed _ => True
  | .recvFrom port _ _ => bound port = true

/-- The event is not a packet for a port nobody is bound to. -/
def Event.claimable : Event → Bool
  | .relayed pkt => (parseIpv4Udp pkt).all (fun d => bound d.dstPort)
  | .recvFrom _ _ _ => true

/-- A packet for a bound port finds room, or a queue filled by bound ports alone. -/
def HasRoom (q : ControlQueue) : Event → Prop
  | .relayed pkt => ∀ d, parseIpv4Udp pkt = some d → bound d.dstPort = true →
      q.packets.length < controlQueueSize ∨ ∀ p ∈ q.packets, bound p.dstPort = true
  | .recvFrom _ _ _ => True

/-- Every step of the run meets the condition. -/
def HasRoomThroughout : ControlQueue → List Event → Prop
  | _, [] => True
  | q, e :: es => q.HasRoom bound e ∧ HasRoomThroughout (q.step e).1 es

/-- The second queue holds what the first holds for bound ports. -/
def Purged (q q' : ControlQueue) : Prop := q'.packets = q.packets.filter (fun p => bound p.dstPort)

variable {bound}

theorem purged_push_unbound {q q' : ControlQueue} (h : Purged bound q q') {p : ControlPacket}
    (hp : bound p.dstPort = false) : Purged bound (q.push p) q' := by
  unfold push
  split
  · rw [Purged, List.filter_append, h]
    simp [hp]
  · exact h

theorem purged_push_bound {q q' : ControlQueue} (h : Purged bound q q') {p : ControlPacket}
    (hp : bound p.dstPort = true)
    (hroom : q.packets.length < controlQueueSize ∨ ∀ p ∈ q.packets, bound p.dstPort = true) :
    Purged bound (q.push p) (q'.push p) := by
  have hle : q'.packets.length ≤ q.packets.length := by
    rw [show q'.packets = _ from h]
    exact List.length_filter_le _ _
  unfold push
  by_cases hq : q.packets.length < controlQueueSize
  · rw [dif_pos hq, dif_pos (by omega), Purged, List.filter_append, ← h]
    simp [hp]
  · -- full of bound ports' packets: both queues are the same and both drop it
    have hall : q.packets.filter (fun p => bound p.dstPort) = q.packets :=
      List.filter_eq_self.2 (hroom.resolve_left hq)
    rw [dif_neg hq, dif_neg (by rw [show q'.packets = _ from h, hall]; exact hq)]
    exact h

theorem purged_recvFrom {q q' : ControlQueue} (h : Purged bound q q') {port : UInt16} (hport : bound port = true)
    (bufSize addrSize : Nat) :
    Purged bound (q.recvFrom port bufSize addrSize).1 (q'.recvFrom port bufSize addrSize).1 ∧
    (q'.recvFrom port bufSize addrSize).2 = (q.recvFrom port bufSize addrSize).2 := by
  have hkeep : ∀ p : ControlPacket, (p.dstPort == port) = true → bound p.dstPort = true := fun p hp => by
    rw [beq_iff_eq.1 hp]
    exact hport
  have hpop := popFirst_filter hkeep q.packets
  rw [← show q'.packets = _ from h] at hpop
  unfold recvFrom
  cases hq : popFirst (fun p : ControlPacket => p.dstPort == port) q.packets with
  | none =>
    rw [hq] at hpop
    rw [pop_of_none hq, pop_of_none hpop]
    exact ⟨h, rfl⟩
  | some r =>
    rw [hq] at hpop
    obtain ⟨hle, hq1⟩ := pop_of_some hq
    obtain ⟨hle', hq2⟩ := pop_of_some hpop
    rw [hq1, hq2]
    simp only
    cases parseIpv4Udp r.1.data.bytes with
    | none => exact ⟨rfl, rfl⟩
    | some d => exact ⟨rfl, rfl⟩

theorem purged_step {q q' : ControlQueue} (h : Purged bound q q') {e : Event} (hread : e.ReadsBound bound)
    (hroom : q.HasRoom bound e) (hc : e.claimable bound = true) :
    Purged bound (q.step e).1 (q'.step e).1 ∧ (q'.step e).2 = (q.step e).2 := by
  cases e with
  | relayed pkt =>
    refine ⟨?_, rfl⟩
    simp only [step, file]
    cases hd : parseIpv4Udp pkt with
    | none => exact h
    | some d =>
      have hb : bound d.dstPort = true := by simpa [Event.claimable, hd] using hc
      exact purged_push_bound h hb (hroom d hd hb)
  | recvFrom port bufSize addrSize =>
    have hport : bound port = true := hread
    obtain ⟨h1, h2⟩ := purged_recvFrom h hport bufSize addrSize
    exact ⟨h1, by simp only [step, h2]⟩

theorem purged_step_deleted {q q' : ControlQueue} (h : Purged bound q q') {e : Event} (hc : e.claimable bound = false) :
    Purged bound (q.step e).1 q' ∧ (q.step e).2 = [] := by
  cases e with
  | relayed pkt =>
    refine ⟨?_, rfl⟩
    simp only [step, file]
    cases hd : parseIpv4Udp pkt with
    | none => exact h
    | some d =>
      have hb : bound d.dstPort = false := by simpa [Event.claimable, hd] using hc
      exact purged_push_unbound h hb
  | recvFrom port bufSize addrSize => cases hc

theorem purged_run : ∀ (events : List Event) {q q' : ControlQueue}, Purged bound q q' →
    (∀ e ∈ events, e.ReadsBound bound) → HasRoomThroughout bound q events →
    (run q' (events.filter (Event.claimable bound))).2 = (run q events).2
  | [], _, _, _, _, _ => rfl
  | e :: es, q, q', h, hreads, hroom => by
    have hrest : ∀ e' ∈ es, e'.ReadsBound bound := fun e' he' => hreads e' (List.mem_cons_of_mem _ he')
    by_cases hc : e.claimable bound = true
    · obtain ⟨hq, hout⟩ := purged_step h (hreads e (List.mem_cons_self ..)) hroom.1 hc
      rw [List.filter_cons_of_pos hc, run, run, hout, purged_run es hq hrest hroom.2]
    · obtain ⟨hq, hout⟩ := purged_step_deleted h (Bool.not_eq_true _ ▸ hc)
      rw [List.filter_cons_of_neg hc, run, hout, purged_run es hq hrest hroom.2]
      rfl

/-- **Packets for unbound ports change no read** in a run where each packet for a bound port finds room, or a queue that
bound ports alone fill. -/
theorem recvFrom_unaffected {events : List Event} (hreads : ∀ e ∈ events, e.ReadsBound bound)
    (hroom : HasRoomThroughout bound empty events) :
    (run empty (events.filter (Event.claimable bound))).2 = (run empty events).2 :=
  purged_run events rfl hreads hroom

/-! ## Runs on one bound port -/

/-- A one-byte datagram to a port. -/
def datagramTo (port : UInt16) : Bytes := (udpPacket? 0x0A0D0002 0x0A0D0001 ldnControlPort port [7]).getD []

def controlPortOnly (port : UInt16) : Bool := port == ldnControlPort

/-- `n` datagrams to an unbound port, one to the control port, and a read there. -/
def unclaimedThenRead (n : Nat) : List Event :=
  List.replicate n (.relayed (datagramTo 9)) ++
    [.relayed (datagramTo ldnControlPort), .recvFrom ldnControlPort 64 16]

theorem recvFrom_unaffected_by_one :
    (run empty ((unclaimedThenRead 1).filter (Event.claimable controlPortOnly))).2 =
      (run empty (unclaimedThenRead 1)).2 := by
  refine recvFrom_unaffected (fun e he => ?_)
    ⟨fun _ _ _ => Or.inl (by decide), fun _ _ _ => Or.inl (by decide), trivial, trivial⟩
  simp only [unclaimedThenRead, List.replicate_one, List.singleton_append, List.mem_cons, List.not_mem_nil, or_false] at he
  rcases he with rfl | rfl | rfl
  · trivial
  · trivial
  · rfl

/-- **Thirty-two packets to an unbound port starve the bound one**: the datagram that follows them is never read. -/
theorem thirty_two_unclaimed_starve :
    (run empty ((unclaimedThenRead 32).filter (Event.claimable controlPortOnly))).2 ≠
      (run empty (unclaimedThenRead 32)).2 := by
  decide +kernel

end ControlQueue
end Slp
