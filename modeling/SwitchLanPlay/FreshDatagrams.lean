import SwitchLanPlay.BridgedSocket
import SwitchLanPlay.Drainers
import SwitchLanPlay.Runs
/-!
# FreshDatagrams — when a datagram that a bridged socket receives was queued and popped

A datagram waits in the relay's queue, then with the thread that popped it, then in the control queue under its port, and
none of the three is tied to a socket.  A run keeps beside every waiting packet the time it was queued and popped, and for
every instance the time of the `Bind` that bridged its socket.  If no packet for the port is waiting past the relay's queue
when a socket is bridged, whatever it receives was popped after its `Bind`; if none is waiting in the relay's queue either, it
was queued after it (`fresh_datagrams`).  `Close` leaves the control queue as it is, so the next socket of the port receives
what the last one left (`stale_datagram`).
-/
namespace Slp

open Wire

/-- The times at which a packet was queued by the pump thread and popped by a drainer. -/
structure Dates where
  queued : Nat
  popped : Nat

/-- Where a packet is taken to begin. -/
inductive Stage where
  | queued
  | popped
  deriving DecidableEq

def Dates.date (d : Dates) : Stage → Nat
  | .queued => d.queued
  | .popped => d.popped

namespace Draining

/-- A `Bind` that bridges a socket finds no packet for its port with a drainer or in the control queue. -/
def BindsFresh (D : Draining) : Op → Prop
  | .other (.bind i fd port learnedIp ok) => D.console.service.bridgesNow i (.bind i fd port learnedIp ok) = true →
      (∀ e ∈ D.held, flowOf e.2 ≠ some (.udp port)) ∧ ∀ c ∈ D.console.controlQueue.packets, c.dstPort ≠ port
  | _ => True

/-- Nor in the relay's queue. -/
def BindsQuiet (D : Draining) : Op → Prop
  | .other (.bind i fd port learnedIp ok) => D.console.service.bridgesNow i (.bind i fd port learnedIp ok) = true →
      ∀ p ∈ D.relay.queued, flowOf p ≠ some (.udp port)
  | _ => True

instance decidableBindsFresh : ∀ (D : Draining) (op : Op), Decidable (D.BindsFresh op) := fun D op => by
  unfold BindsFresh
  split <;> infer_instance

instance decidableBindsQuiet : ∀ (D : Draining) (op : Op), Decidable (D.BindsQuiet op) := fun D op => by
  unfold BindsQuiet
  split <;> infer_instance

end Draining

/-- The drained console, with the dates of every packet in it.  The clock counts the steps of the run. -/
structure Dated where
  draining : Draining := {}
  clock : Nat := 1
  queued : List (Bytes × Nat) := []
  held : List (Drainer × Bytes × Dates) := []
  filed : List (ControlPacket × Dates) := []
  /-- When the instance's socket was bridged. -/
  boundAt : Nat → Nat := fun _ => 0

namespace Dated

open Draining (Op)

def console (F : Dated) : Console := F.draining.console

def service (F : Dated) : Service := F.draining.console.service

def queuedStep (F : Dated) : Op → List (Bytes × Nat)
  | .arrive datagram =>
    F.queued ++ ((F.draining.relay.pump datagram).queued.drop F.draining.relay.queued.length).map (fun p => (p, F.clock))
  | .pop i => if F.draining.held.any (fun e => e.1 == i) then F.queued else F.queued.tail
  | .other op => F.queued.take (F.draining.other op).relay.queued.length
  | _ => F.queued

def heldStep (F : Dated) : Op → List (Drainer × Bytes × Dates)
  | .pop i =>
    if F.draining.held.any (fun e => e.1 == i) then F.held
    else
      match (F.draining.relay.popIpv4 drainBufSize).2, F.queued with
      | some pkt, (_, d) :: _ => F.held ++ [(i, pkt, ⟨d, F.clock⟩)]
      | _, _ => F.held
  | .file i _ => F.held.eraseP (fun e => e.1 == i)
  | _ => F.held

def filedStep (F : Dated) : Op → List (ControlPacket × Dates)
  | .file i ourIsn =>
    match F.held.find? (fun e => e.1 == i) with
    | none => F.filed
    | some e =>
      F.filed ++ ((F.console.drainPacket ourIsn e.2.1).1.controlQueue.packets.drop F.console.controlQueue.packets.length).map
        (fun p => (p, e.2.2))
  | .recvFrom port => ((popFirst (fun e => e.1.dstPort == port) F.filed).map Prod.snd).getD F.filed
  | _ => F.filed

def step (F : Dated) (op : Op) : Dated where
  draining := F.draining.step op
  clock := F.clock + 1
  queued := F.queuedStep op
  held := F.heldStep op
  filed := F.filedStep op
  boundAt i :=
    match op with
    | .other call => if F.service.bridgesNow i call then F.clock else F.boundAt i
    | _ => F.boundAt i

/-- The packet `RecvFrom` takes next for a port, with its dates. -/
def next (F : Dated) (port : UInt16) : Option (ControlPacket × Dates) :=
  (popFirst (fun e : ControlPacket × Dates => e.1.dstPort == port) F.filed).map Prod.fst

/-- A `Bind` that bridges a socket finds nothing for its port that got as far as the stage. -/
def Fresh (stage : Stage) (F : Dated) (op : Op) : Prop :=
  F.draining.BindsFresh op ∧ (stage = .queued → F.draining.BindsQuiet op)

instance decidableFresh (stage : Stage) (F : Dated) (op : Op) : Decidable (Fresh stage F op) :=
  inferInstanceAs (Decidable (_ ∧ (_ → _)))

/-- Whatever a bridged socket receives next reached the stage after the `Bind` that bridged it. -/
def OnlyAfterBind (stage : Stage) (F : Dated) : Prop :=
  ∀ i s fd, F.service.instance? i = some s → s.isBridged fd = true →
    ∀ c q', F.console.controlQueue.popControlPacketForPort s.bridgedLocalPort = some (c, q') →
      ∃ d, F.next s.bridgedLocalPort = some (c, d) ∧ F.boundAt i < d.date stage

/-! ## The dates are of the packets that are there -/

structure Matches (F : Dated) : Prop where
  queued : F.queued.map Prod.fst = F.draining.relay.queued
  held : F.held.map (fun e => (e.1, e.2.1)) = F.draining.held
  filed : F.filed.map Prod.fst = F.console.controlQueue.packets

section Matches

variable {F : Dated} (h : F.Matches)

include h

theorem find_held (i : Drainer) : F.draining.held.find? (fun e => e.1 == i) =
    (F.held.find? (fun e => e.1 == i)).map (fun e => (e.1, e.2.1)) := by
  rw [← h.held, List.find?_map]
  rfl

theorem matches_arrive (datagram : Bytes) : (F.step (.arrive datagram)).Matches := by
  refine ⟨?_, h.held, h.filed⟩
  show List.map Prod.fst (F.queued ++ _) = (F.draining.relay.pump datagram).queued
  rw [List.map_append, h.queued, List.map_map]
  rcases F.draining.relay.queued_pump datagram with hsame | ⟨p, hp⟩
  · rw [hsame, List.drop_length]
    simp
  · rw [hp, List.drop_left]
    rfl

omit h in
/-- What a step makes of the console and of the dates, when they match. -/
theorem matches_of {op : Op} {D : Draining} {queued : List (Bytes × Nat)} {held : List (Drainer × Bytes × Dates)}
    (hd : F.draining.step op = D) (hq : F.queuedStep op = queued) (hh : F.heldStep op = held)
    (hqueued : queued.map Prod.fst = D.relay.queued) (hheld : held.map (fun e => (e.1, e.2.1)) = D.held)
    (hfiled : (F.filedStep op).map Prod.fst = D.console.controlQueue.packets) : (F.step op).Matches := by
  subst hd hq hh
  exact ⟨hqueued, hheld, hfiled⟩

theorem matches_pop (i : Drainer) : (F.step (.pop i)).Matches := by
  by_cases hheld : (F.draining.held.any (fun e => e.1 == i)) = true
  · exact matches_of (if_pos hheld) (if_pos hheld) (if_pos hheld) h.queued h.held h.filed
  · have hq := h.queued
    rcases F.draining.relay.queued_popIpv4 drainBufSize with ⟨hnil, hnone⟩ | ⟨p, rest, hcons, hrest, hpopped⟩
    · have hkept : F.heldStep (.pop i) = F.held := by rw [heldStep, if_neg hheld, hnone]
      refine matches_of (Draining.pop_of_none hheld hnone) (if_neg hheld) hkept ?_ h.held h.filed
      rw [hnil, List.map_eq_nil_iff] at hq
      rw [hq]
      exact hnil.symm
    · rw [hcons, List.map_eq_cons_iff] at hq
      obtain ⟨⟨pkt, d⟩, tail, hqueued, rfl, rfl⟩ := hq
      rcases hr : F.draining.relay.popIpv4 drainBufSize with ⟨relay, popped⟩
      rw [hr] at hrest hpopped
      have htail : List.map Prod.fst F.queued.tail = relay.queued := by
        rw [hqueued]
        exact hrest.symm
      rcases hpopped with rfl | rfl
      · have htaken : F.heldStep (.pop i) = F.held ++ [(i, pkt, ⟨d, F.clock⟩)] := by
          rw [heldStep, if_neg hheld, hr, hqueued]
        refine matches_of (Draining.pop_of_some hheld hr) (if_neg hheld) htaken htail ?_ h.filed
        rw [List.map_append, h.held]
        rfl
      · -- the packet outgrows the drainer's buffer
        have hkept : F.heldStep (.pop i) = F.held := by rw [heldStep, if_neg hheld, hr]
        exact matches_of (Draining.pop_of_none hheld hr) (if_neg hheld) hkept htail h.held h.filed

theorem matches_file (i : Drainer) (ourIsn : UInt32) : (F.step (.file i ourIsn)).Matches := by
  have hfind := find_held h i
  have hqueued : F.queued.map Prod.fst = F.draining.relay.queued := h.queued
  cases hf : F.held.find? (fun e => e.1 == i) with
  | none =>
    rw [hf] at hfind
    have hdraining : F.draining.step (.file i ourIsn) = F.draining := by
      show F.draining.file i ourIsn = F.draining
      rw [Draining.file, hfind]
      rfl
    have hnone : ∀ e ∈ F.held, ¬ (e.1 == i) = true := by simpa using hf
    refine matches_of hdraining rfl rfl hqueued ?_ ?_
    · rw [heldStep, List.eraseP_of_forall_not hnone]
      exact h.held
    · rw [filedStep, hf]
      exact h.filed
  | some e =>
    obtain ⟨j, pkt, d⟩ := e
    rw [hf, Option.map_some] at hfind
    have hrelay := F.console.drainPacket_relay ourIsn pkt
    refine ⟨?_, ?_, ?_⟩
    · show F.queued.map Prod.fst = (F.draining.file i ourIsn).relay.queued
      rw [hqueued, Draining.file, hfind]
      exact congrArg RelayBridge.queued hrelay.symm
    · show (F.held.eraseP (fun e => e.1 == i)).map _ = (F.draining.file i ourIsn).held
      rw [Draining.file, hfind, ← h.held, List.eraseP_map]
      rfl
    · show (F.filedStep (.file i ourIsn)).map Prod.fst = (F.draining.file i ourIsn).console.controlQueue.packets
      rw [filedStep, hf, Draining.file, hfind, List.map_append, h.filed, List.map_map]
      change _ = (F.console.drainPacket ourIsn pkt).1.controlQueue.packets
      rcases F.console.drainPacket_packets ourIsn pkt with hsame | ⟨port, -, hadded⟩
      · rw [hsame, List.drop_length]
        exact List.append_nil _
      · rw [hadded, List.drop_left]
        rfl

theorem matches_recvFrom (port : UInt16) : (F.step (.recvFrom port)).Matches := by
  have hpop := popFirst_map (p := fun c : ControlPacket => c.dstPort == port) Prod.fst F.filed
  rw [h.filed] at hpop
  have hdraining : F.draining.step (.recvFrom port) = F.draining.recvFrom port := rfl
  cases hp : popFirst (fun e : ControlPacket × Dates => e.1.dstPort == port) F.filed with
  | none =>
    rw [hp, Option.map_none] at hpop
    rw [Draining.recvFrom, show F.draining.console.controlQueue.popControlPacketForPort port = none from
      ControlQueue.pop_of_none hpop] at hdraining
    refine matches_of hdraining rfl rfl h.queued h.held ?_
    rw [filedStep, hp]
    exact h.filed
  | some r =>
    rw [hp, Option.map_some] at hpop
    obtain ⟨hle, hq⟩ := ControlQueue.pop_of_some hpop
    rw [Draining.recvFrom, show F.draining.console.controlQueue.popControlPacketForPort port = _ from hq] at hdraining
    refine matches_of hdraining rfl rfl h.queued h.held ?_
    rw [filedStep, hp]
    rfl

theorem matches_other (op : Service.Op) : (F.step (.other op)).Matches := by
  have hkeeps : (F.draining.other op).relay.queued = F.draining.relay.queued ∨ (F.draining.other op).relay.queued = [] := by
    have hstep := F.service.step_keepsOrClears op
    cases op with
    | drainSegment ourIsn m => exact .inl rfl
    | _ => exact hstep
  refine ⟨?_, ?_, ?_⟩
  · show (F.queued.take (F.draining.other op).relay.queued.length).map Prod.fst = (F.draining.other op).relay.queued
    rw [List.map_take, h.queued]
    rcases hkeeps with hkeep | hclear
    · rw [hkeep, List.take_length]
    · rw [hclear]
      rfl
  · show F.held.map _ = (F.draining.other op).held
    rw [h.held]
    cases op <;> rfl
  · show F.filed.map _ = (F.draining.other op).console.controlQueue.packets
    rw [h.filed]
    cases op <;> rfl

/-- **Every step keeps the dates with their packets.** -/
theorem matches_step (op : Op) : (F.step op).Matches := by
  cases op with
  | arrive datagram => exact matches_arrive h datagram
  | pop i => exact matches_pop h i
  | file i ourIsn => exact matches_file h i ourIsn
  | recvFrom port => exact matches_recvFrom h port
  | other op => exact matches_other h op

end Matches

theorem matches_init : Matches {} := ⟨rfl, rfl, rfl⟩

/-- The packet `RecvFrom` takes is the next one, whatever its dates. -/
theorem next_of_pop {F : Dated} (h : F.Matches) {port : UInt16} {c : ControlPacket} {q' : ControlQueue}
    (hpop : F.console.controlQueue.popControlPacketForPort port = some (c, q')) : ∃ d, F.next port = some (c, d) := by
  have hmap := popFirst_map (p := fun c : ControlPacket => c.dstPort == port) Prod.fst F.filed
  rw [h.filed] at hmap
  unfold next
  cases hp : popFirst (fun e : ControlPacket × Dates => e.1.dstPort == port) F.filed with
  | none =>
    rw [hp, Option.map_none] at hmap
    rw [ControlQueue.pop_of_none hmap] at hpop
    cases hpop
  | some r =>
    obtain ⟨⟨c', d⟩, rest⟩ := r
    rw [hp, Option.map_some] at hmap
    obtain ⟨hle, hq⟩ := ControlQueue.pop_of_some hmap
    rw [hq] at hpop
    cases hpop
    exact ⟨d, rfl⟩

/-! ## Where the packets come from -/

/-- A packet that a step puts into a queue comes from the one before it. -/
structure Moved (F : Dated) (op : Op) : Prop where
  queued : ∀ e ∈ F.queuedStep op, e ∈ F.queued ∨ (∃ datagram, op = .arrive datagram) ∧ e.2 = F.clock
  held : ∀ e ∈ F.heldStep op, e ∈ F.held ∨ (∃ i, op = .pop i) ∧ ∃ p ∈ F.queued, e.2 = (p.1, ⟨p.2, F.clock⟩)
  filed : ∀ e ∈ F.filedStep op, e ∈ F.filed ∨
    (∃ i ourIsn, op = .file i ourIsn) ∧ ∃ p ∈ F.held, e.2 = p.2.2 ∧ flowOf p.2.1 = some (.udp e.1.dstPort)

section Moved

variable {F : Dated} (h : F.Matches)

include h

theorem moved_pop (i : Drainer) : F.Moved (.pop i) where
  queued := fun e he => by
    left
    unfold queuedStep at he
    dsimp only at he
    split at he
    · exact he
    · exact List.mem_of_mem_tail he
  held := fun e he => by
    unfold heldStep at he
    dsimp only at he
    split at he
    · exact .inl he
    split at he
    · rename_i pkt p d rest hpop hqueued
      rcases List.mem_append.1 he with hold | hnew
      · exact .inl hold
      · have hmem : (p, d) ∈ F.queued := by simp [hqueued]
        -- the packet popped is the first of the queue
        have hpkt : pkt = p := by
          have hq := h.queued
          rw [hqueued, List.map_cons] at hq
          rcases F.draining.relay.queued_popIpv4 drainBufSize with ⟨hnil, -⟩ | ⟨p', rest', hcons, -, hpopped⟩
          · rw [hnil] at hq
            cases hq
          · rw [hcons] at hq
            cases hq
            rcases hpopped with hsome | hnone
            · exact Option.some.inj (hpop.symm.trans hsome)
            · cases hnone.symm.trans hpop
        rw [List.mem_singleton] at hnew
        subst hnew hpkt
        exact .inr ⟨⟨i, rfl⟩, (pkt, d), hmem, rfl⟩
    · exact .inl he
  filed := fun e he => .inl he

omit h in
theorem moved_file (i : Drainer) (ourIsn : UInt32) : F.Moved (.file i ourIsn) where
  queued := fun e he => .inl he
  held := fun e he => .inl (List.mem_of_mem_eraseP he)
  filed := fun e he => by
    unfold filedStep at he
    dsimp only at he
    split at he
    · exact .inl he
    · rename_i x hx
      rcases List.mem_append.1 he with hold | hnew
      · exact .inl hold
      · have hmem := List.mem_of_find?_eq_some hx
        rcases F.console.drainPacket_packets ourIsn x.2.1 with hsame | ⟨port, hflow, hadded⟩
        · rw [hsame, List.drop_length] at hnew
          cases hnew
        · rw [hadded, List.drop_left, List.map_singleton, List.mem_singleton] at hnew
          subst hnew
          exact .inr ⟨⟨i, ourIsn, rfl⟩, x, hmem, rfl, hflow⟩

/-- **No step puts a packet anywhere but behind where it was.** -/
theorem moved_step (op : Op) : F.Moved op := by
  cases op with
  | arrive datagram =>
    refine ⟨fun e he => ?_, fun e he => .inl he, fun e he => .inl he⟩
    rcases List.mem_append.1 he with hold | hnew
    · exact .inl hold
    · obtain ⟨p, -, rfl⟩ := List.mem_map.1 hnew
      exact .inr ⟨⟨datagram, rfl⟩, rfl⟩
  | pop i => exact moved_pop h i
  | file i ourIsn => exact moved_file i ourIsn
  | recvFrom port =>
    refine ⟨fun e he => .inl he, fun e he => .inl he, fun e he => .inl ?_⟩
    unfold filedStep at he
    dsimp only at he
    cases hp : popFirst (fun e : ControlPacket × Dates => e.1.dstPort == port) F.filed with
    | none =>
      rw [hp] at he
      exact he
    | some r =>
      rw [hp] at he
      exact (mem_popFirst hp).2.2 e he
  | other call => exact ⟨fun e he => .inl (List.mem_of_mem_take he), fun e he => .inl he, fun e he => .inl he⟩

end Moved

/-! ## The invariant -/

/-- The instance serves a bridged socket on the port. -/
def Bound (F : Dated) (i : Nat) (port : UInt16) : Prop := ∃ fd, 0 ≤ fd ∧ F.service.Serves i fd port

/-- Everything on its way to a bridged socket's port is dated after its `Bind`. -/
structure Inv (stage : Stage) (F : Dated) : Prop where
  clock : ∀ i, F.boundAt i < F.clock
  queued : ∀ i port, F.Bound i port → ∀ e ∈ F.queued, flowOf e.1 = some (.udp port) →
    F.boundAt i < (Dates.mk e.2 F.clock).date stage
  held : ∀ i port, F.Bound i port → ∀ e ∈ F.held, flowOf e.2.1 = some (.udp port) → F.boundAt i < e.2.2.date stage
  filed : ∀ i port, F.Bound i port → ∀ e ∈ F.filed, e.1.dstPort = port → F.boundAt i < e.2.date stage

theorem drainPacket_instances (C : Console) (ourIsn : UInt32) (pkt : Bytes) :
    (C.drainPacket ourIsn pkt).1.service.instances = C.service.instances := by
  have hsegment : ∀ m, (C.service.drainSegment ourIsn m).1.instances = C.service.instances := fun m => by
    unfold Service.drainSegment
    split <;> rfl
  unfold Console.drainPacket
  split
  · rfl
  dsimp only
  split
  · rfl
  split
  · rfl
  split
  · rfl
  · exact hsegment _

/-- Only calls change the instances. -/
theorem instances_step (D : Draining) {op : Op} (h : ∀ call, op ≠ .other call) :
    (D.step op).console.service.instances = D.console.service.instances := by
  cases op with
  | arrive datagram => rfl
  | pop i =>
    show (D.pop i).console.service.instances = _
    unfold Draining.pop
    split
    · rfl
    split <;> rfl
  | file i ourIsn =>
    show (D.file i ourIsn).console.service.instances = _
    unfold Draining.file
    split
    · rfl
    · exact drainPacket_instances D.console ourIsn _
  | recvFrom port =>
    show (D.recvFrom port).console.service.instances = _
    unfold Draining.recvFrom
    split <;> rfl
  | other call => exact absurd rfl (h call)

/-- **A port is served after a step because it was before, or by the `Bind` that bridges it.** -/
theorem bound_step {F : Dated} {op : Op} {i : Nat} {port : UInt16} (h : (F.step op).Bound i port) :
    (F.Bound i port ∧ (F.step op).boundAt i = F.boundAt i) ∨
    ∃ fd learnedIp ok, op = .other (.bind i fd port learnedIp ok) ∧
      F.service.bridgesNow i (.bind i fd port learnedIp ok) = true ∧ (F.step op).boundAt i = F.clock := by
  obtain ⟨fd, hfd, hserves⟩ := h
  by_cases hother : ∃ call, op = .other call
  · obtain ⟨call, rfl⟩ := hother
    by_cases hsegment : ∃ ourIsn m, call = .drainSegment ourIsn m
    · obtain ⟨ourIsn, m, rfl⟩ := hsegment
      exact .inl ⟨⟨fd, hfd, hserves⟩, rfl⟩
    · have hcall : (F.service.step call).1.Serves i fd port := by
        cases call with
        | drainSegment ourIsn m => exact absurd ⟨ourIsn, m, rfl⟩ hsegment
        | _ => exact hserves
      rcases Service.serves_of_step hfd hcall with ⟨hno, hold⟩ | ⟨learnedIp, ok, rfl, hnow⟩
      · exact .inl ⟨⟨fd, hfd, hold⟩, if_neg (by simp [hno])⟩
      · exact .inr ⟨fd, learnedIp, ok, rfl, hnow, if_pos hnow⟩
  · have hinstances := instances_step F.draining (fun call hcall => hother ⟨call, hcall⟩)
    have hold : F.service.Serves i fd port := by
      obtain ⟨s, hs, hb⟩ := hserves
      refine ⟨s, ?_, hb⟩
      rw [← hs]
      exact congrArg (fun l => l[i]?.join) hinstances.symm
    refine .inl ⟨⟨fd, hfd, hold⟩, ?_⟩
    cases op with
    | other call => exact absurd ⟨call, rfl⟩ hother
    | _ => rfl

theorem date_mono (q : Nat) {c c' : Nat} (h : c ≤ c') (stage : Stage) :
    (Dates.mk q c).date stage ≤ (Dates.mk q c').date stage := by
  cases stage with
  | queued => exact Nat.le_refl _
  | popped => exact h

/-- A packet that is queued or popped now is dated now. -/
theorem le_date_now (c : Nat) (stage : Stage) : c ≤ (Dates.mk c (c + 1)).date stage := by
  cases stage with
  | queued => exact Nat.le_refl _
  | popped => exact Nat.le_succ _

section Step

variable {stage : Stage} {F : Dated} {op : Op}

theorem clock_step (h : Inv stage F) (i : Nat) : (F.step op).boundAt i < F.clock + 1 := by
  have hold := h.clock i
  cases op with
  | other call =>
    show (if F.service.bridgesNow i call then F.clock else F.boundAt i) < F.clock + 1
    split <;> omega
  | _ => exact Nat.lt_succ_of_lt hold

variable (hm : F.Matches) (h : Inv stage F) (hok : Fresh stage F op)

include hm h hok

theorem queued_step {i : Nat} {port : UInt16} (hb : (F.step op).Bound i port) {e : Bytes × Nat} (he : e ∈ F.queuedStep op)
    (hflow : flowOf e.1 = some (.udp port)) : (F.step op).boundAt i < (Dates.mk e.2 (F.clock + 1)).date stage := by
  rcases bound_step hb with ⟨hold, hat⟩ | ⟨fd, learnedIp, ok, rfl, hnow, hat⟩
  · rw [hat]
    rcases (moved_step hm op).queued e he with hmem | ⟨-, hdate⟩
    · exact Nat.lt_of_lt_of_le (h.queued i port hold e hmem hflow) (date_mono e.2 (Nat.le_succ _) stage)
    · rw [hdate]
      exact Nat.lt_of_lt_of_le (h.clock i) (le_date_now _ stage)
  · rw [hat]
    rcases (moved_step hm _).queued e he with hmem | ⟨⟨datagram, hop⟩, -⟩
    · cases stage with
      | queued =>
        have hwaiting : e.1 ∈ F.draining.relay.queued := by
          rw [← hm.queued]
          exact List.mem_map_of_mem hmem
        exact absurd hflow (hok.2 rfl hnow e.1 hwaiting)
      | popped => exact Nat.lt_succ_self _
    · cases hop

theorem held_step {i : Nat} {port : UInt16} (hb : (F.step op).Bound i port) {e : Drainer × Bytes × Dates}
    (he : e ∈ F.heldStep op) (hflow : flowOf e.2.1 = some (.udp port)) : (F.step op).boundAt i < e.2.2.date stage := by
  rcases bound_step hb with ⟨hold, hat⟩ | ⟨fd, learnedIp, ok, rfl, hnow, hat⟩
  · rw [hat]
    rcases (moved_step hm op).held e he with hmem | ⟨-, p, hp, hep⟩
    · exact h.held i port hold e hmem hflow
    · rw [hep] at hflow ⊢
      exact h.queued i port hold p hp hflow
  · rcases (moved_step hm _).held e he with hmem | ⟨⟨j, hop⟩, -⟩
    · have hwaiting : (e.1, e.2.1) ∈ F.draining.held := by
        rw [← hm.held]
        exact List.mem_map_of_mem (f := fun e : Drainer × Bytes × Dates => (e.1, e.2.1)) hmem
      exact absurd hflow ((hok.1 hnow).1 _ hwaiting)
    · cases hop

theorem filed_step {i : Nat} {port : UInt16} (hb : (F.step op).Bound i port) {e : ControlPacket × Dates}
    (he : e ∈ F.filedStep op) (hport : e.1.dstPort = port) : (F.step op).boundAt i < e.2.date stage := by
  rcases bound_step hb with ⟨hold, hat⟩ | ⟨fd, learnedIp, ok, rfl, hnow, hat⟩
  · rw [hat]
    rcases (moved_step hm op).filed e he with hmem | ⟨-, p, hp, hep, hflow⟩
    · exact h.filed i port hold e hmem hport
    · rw [hep]
      rw [hport] at hflow
      exact h.held i port hold p hp hflow
  · rcases (moved_step hm _).filed e he with hmem | ⟨⟨j, ourIsn, hop⟩, -⟩
    · have hwaiting : e.1 ∈ F.console.controlQueue.packets := by
        rw [← hm.filed]
        exact List.mem_map_of_mem hmem
      exact absurd hport ((hok.1 hnow).2 _ hwaiting)
    · cases hop

/-- **A step that bridges no socket over waiting packets keeps the invariant.** -/
theorem inv_step : Inv stage (F.step op) where
  clock := clock_step h
  queued := fun _ _ hb _ he hflow => queued_step hm h hok hb he hflow
  held := fun _ _ hb _ he hflow => held_step hm h hok hb he hflow
  filed := fun _ _ hb _ he hport => filed_step hm h hok hb he hport

end Step

theorem inv_init (stage : Stage) : Inv stage {} where
  clock := fun _ => Nat.zero_lt_one
  queued := fun _ _ _ e he => by cases he
  held := fun _ _ _ e he => by cases he
  filed := fun _ _ _ e he => by cases he

/-! ## Runs -/

theorem onlyAfterBind_of_inv {stage : Stage} {F : Dated} (hm : F.Matches) (h : Inv stage F) : F.OnlyAfterBind stage := by
  intro i s fd hs hb c q' hpop
  obtain ⟨d, hd⟩ := next_of_pop hm hpop
  refine ⟨d, hd, ?_⟩
  rw [Instance.isBridged, Bool.and_eq_true, decide_eq_true_eq, beq_iff_eq] at hb
  obtain ⟨r, hr, hrd⟩ := Option.map_eq_some_iff.1 hd
  obtain ⟨hmem, hport, -⟩ := mem_popFirst hr
  rw [hrd, beq_iff_eq] at hport
  rw [hrd] at hmem
  exact h.filed i s.bridgedLocalPort ⟨fd, hb.1, s, hs, hb.2.symm, rfl⟩ _ hmem hport

/-- **A bridged socket receives only what comes after its `Bind`**, in a run whose `Bind`s bridge no socket over packets that
wait for its port. -/
theorem fresh_datagrams (stage : Stage) {F : Dated} (h : Runs.Reachable step (Fresh stage) {} F) : F.OnlyAfterBind stage := by
  have hboth : F.Matches ∧ Inv stage F := h.keeps (P := fun F => F.Matches ∧ Inv stage F) ⟨matches_init, inv_init stage⟩
    (fun F op hF hok => ⟨matches_step hF.1 op, inv_step hF.1 hF.2 hok⟩)
  exact onlyAfterBind_of_inv hboth.1 hboth.2

/-! ## Two sessions -/

/-- A session: the control socket is bound, a datagram for it arrives and is drained. -/
def datagramSession : List Op :=
  [.other (.socket 0 SOCK_DGRAM 3), .other (.bind 0 3 ldnControlPort 0x0A0D0001 true),
    .arrive (Draining.datagramFrame 1), .pop .background, .file .background 0]

/-- It is closed unread, and the next one bound. -/
def staleSession : List Op :=
  [.other .create] ++ datagramSession ++ [.other (.close 0 3), .other (.socket 0 SOCK_DGRAM 3),
    .other (.bind 0 3 ldnControlPort 0x0A0D0001 true)]

theorem fresh_datagrams_datagramSession :
    (Runs.run step {} (.other .create :: datagramSession)).OnlyAfterBind .popped ∧
    (Runs.run step {} (.other .create :: datagramSession)).OnlyAfterBind .queued :=
  ⟨fresh_datagrams .popped (Runs.reachable_run _ .init (by decide +kernel)),
    fresh_datagrams .queued (Runs.reachable_run _ .init (by decide +kernel))⟩

/-- **The next session's socket receives what the last one left**: the datagram was popped before the second `Bind`. -/
theorem stale_datagram :
    let F := Runs.run step {} staleSession
    Runs.Reachable step (fun _ _ => True) {} F ∧
    (F.service.instance? 0).any (fun s => s.isBridged 3 && s.bridgedLocalPort == ldnControlPort) = true ∧
    (F.console.controlQueue.recvFrom ldnControlPort 64 16).2.payload = [1] ∧
    (F.next ldnControlPort).any (fun e => decide (e.2.popped < F.boundAt 0)) = true ∧ ¬ F.OnlyAfterBind .popped := by
  intro F
  have hbridged : (F.service.instance? 0).any (fun s => s.isBridged 3 && s.bridgedLocalPort == ldnControlPort) = true := by
    decide +kernel
  have hstale : (F.next ldnControlPort).any (fun e => decide (e.2.popped < F.boundAt 0)) = true := by decide +kernel
  refine ⟨Runs.reachable_run _ .init (by decide +kernel), hbridged, by decide +kernel, hstale, fun honly => ?_⟩
  obtain ⟨s, hs, hserves⟩ := (Option.any_eq_true _ _).1 hbridged
  rw [Bool.and_eq_true, beq_iff_eq] at hserves
  have hfresh := honly 0 s 3 hs hserves.1
  rw [hserves.2] at hfresh
  cases hpop : F.console.controlQueue.popControlPacketForPort ldnControlPort with
  | none => exact absurd (congrArg Option.isSome hpop) (by decide +kernel)
  | some r =>
    obtain ⟨d, hnext, hlt⟩ := hfresh r.1 r.2 hpop
    rw [hnext, Option.any_some, decide_eq_true_eq] at hstale
    exact absurd hlt (Nat.lt_asymm hstale)

end Dated
end Slp
