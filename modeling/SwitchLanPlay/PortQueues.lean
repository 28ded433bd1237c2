import SwitchLanPlay.Mailboxes
import SwitchLanPlay.InboundMemory
/-!
# PortQueues — the control queue is a FIFO for every port

`PopControlPacketForPort` takes an entry out of the middle of one array and moves the rest down.  The array, which is the
`ControlQueue` as a list of packets (`Checked.performAll_checked`), is seen by its ports as a family of FIFOs that share its 32
entries: filing and popping are the operations of `Mailboxes` (`mailboxes_perform`), so each port gets its packets back whole,
in order and once, and loses one only to a full array (`port_queues`).
-/
namespace Slp

open Wire

/-- A UDP packet that an entry of the queue has room for. -/
structure UdpPacket where
  bytes : Bytes
  datagram : UdpDatagram
  parses : parseIpv4Udp bytes = some datagram
  fits : bytes.length ≤ controlPacketCap

namespace ControlQueue

/-- The packets queued for a port, oldest first. -/
def heldFor (q : ControlQueue) (port : UInt16) : List Bytes :=
  (q.packets.filter (fun p => p.dstPort == port)).map (fun p => p.data.bytes)

/-- The queue as its ports see it. -/
def mailboxes (q : ControlQueue) : Mailboxes UInt16 Bytes := ⟨q.heldFor, q.packets.length⟩

/-- One use of the queue: a packet is filed, or popped for a port. -/
inductive Use where
  | file (p : UdpPacket)
  | pop (port : UInt16)

def Use.op : Use → Mailboxes.Op UInt16 Bytes
  | .file p => .file p.datagram.dstPort p.bytes
  | .pop port => .take port

def perform (q : ControlQueue) : Use → ControlQueue
  | .file p => q.file p.bytes
  | .pop port => ((q.popControlPacketForPort port).map Prod.snd).getD q

/-- The packet for the port that the use adds to the array. -/
def filed (q : ControlQueue) (port : UInt16) : Use → List Bytes
  | .file p =>
    if p.datagram.dstPort = port ∧ (q.file p.bytes).packets.length = q.packets.length + 1 then [p.bytes] else []
  | .pop _ => []

/-- The packet that a pop for the port returns. -/
def returned (q : ControlQueue) (port : UInt16) : Use → List Bytes
  | .file _ => []
  | .pop port' =>
    if port' = port then ((q.popControlPacketForPort port').map (fun r => r.1.data.bytes)).toList else []

def performAll (q : ControlQueue) (uses : List Use) : ControlQueue := uses.foldl perform q

def filedAll (port : UInt16) : ControlQueue → List Use → List Bytes
  | _, [] => []
  | q, u :: us => q.filed port u ++ filedAll port (q.perform u) us

def returnedAll (port : UInt16) : ControlQueue → List Use → List Bytes
  | _, [] => []
  | q, u :: us => q.returned port u ++ returnedAll port (q.perform u) us

section Refines

variable {q : ControlQueue}

theorem heldFor_push (h : q.packets.length < controlQueueSize) (p : UdpPacket) (port : UInt16) :
    (q.push (packetOf p.bytes p.datagram.dstPort)).heldFor port =
      q.heldFor port ++ if p.datagram.dstPort = port then [p.bytes] else [] := by
  have hbytes : (packetOf p.bytes p.datagram.dstPort).data.bytes = p.bytes := List.take_of_length_le p.fits
  rw [push, dif_pos h, heldFor, heldFor, List.filter_append, List.map_append]
  congr 1
  by_cases hp : p.datagram.dstPort = port
  · rw [if_pos hp, List.filter_cons_of_pos (by simpa [packetOf] using hp)]
    simp [hbytes]
  · rw [if_neg hp, List.filter_cons_of_neg (by simpa [packetOf] using hp)]
    rfl

theorem file_eq (q : ControlQueue) (p : UdpPacket) : q.file p.bytes = q.push (packetOf p.bytes p.datagram.dstPort) := by
  rw [file, p.parses]

theorem push_of_full (h : ¬ q.packets.length < controlQueueSize) (c : ControlPacket) : q.push c = q := dif_neg h

theorem length_push (h : q.packets.length < controlQueueSize) (c : ControlPacket) :
    (q.push c).packets.length = q.packets.length + 1 := by
  rw [push, dif_pos h, List.length_append, List.length_singleton]

/-- **A pop for a port with nothing queued fails, and one with something queued returns the oldest.** -/
theorem pop_cases (q : ControlQueue) (port : UInt16) :
    (q.popControlPacketForPort port = none ∧ q.heldFor port = []) ∨
    ∃ c q', q.popControlPacketForPort port = some (c, q') ∧ c.dstPort = port ∧
      q.heldFor port = c.data.bytes :: q'.heldFor port ∧ (∀ other, other ≠ port → q'.heldFor other = q.heldFor other) ∧
      q'.packets.length + 1 = q.packets.length := by
  cases hpop : popFirst (fun c : ControlPacket => c.dstPort == port) q.packets with
  | none =>
    refine Or.inl ⟨pop_of_none hpop, ?_⟩
    rw [heldFor, List.filter_eq_nil_iff.2, List.map_nil]
    intro c hc
    rw [popFirst_eq_none_iff.1 hpop c hc]
    exact Bool.false_ne_true
  | some r =>
    obtain ⟨c, rest⟩ := r
    obtain ⟨hle, hq⟩ := pop_of_some hpop
    have hlen := length_popFirst hpop
    obtain ⟨before, after, hsplit, hrest, hc, hbefore⟩ := popFirst_eq_append hpop
    simp only at hle hrest
    subst hrest
    refine Or.inr ⟨c, ⟨before ++ after, hle⟩, hq, beq_iff_eq.1 hc, ?_, ?_, hlen⟩
    · have hnone : before.filter (fun c : ControlPacket => c.dstPort == port) = [] :=
        List.filter_eq_nil_iff.2 (fun b hb => by rw [hbefore b hb]; exact Bool.false_ne_true)
      have hfilter := List.filter_cons_of_pos (p := fun c : ControlPacket => c.dstPort == port) (l := after) hc
      simp only [heldFor, hsplit, List.filter_append, hfilter, hnone, List.nil_append, List.map_cons]
    · intro other hne
      have hother : ¬ (c.dstPort == other) = true := by
        rw [beq_iff_eq.1 hc, beq_iff_eq]
        exact Ne.symm hne
      have hfilter := List.filter_cons_of_neg (p := fun c : ControlPacket => c.dstPort == other) (l := after) hother
      simp only [heldFor, hsplit, List.filter_append, hfilter]

/-- **Filing and popping are the operations of the mailboxes.** -/
theorem mailboxes_perform (q : ControlQueue) (u : Use) :
    (q.perform u).mailboxes = q.mailboxes.step controlQueueSize u.op := by
  cases u with
  | file p =>
    rw [perform, file_eq, Use.op, Mailboxes.step]
    by_cases hroom : q.packets.length < controlQueueSize
    · refine Mailboxes.ext (fun port => ?_) ?_
      · show (q.push _).heldFor port = _
        rw [heldFor_push hroom]
        by_cases hp : p.datagram.dstPort = port
        · subst hp
          rw [if_pos rfl, Mailboxes.box_file_self _ hroom]
          rfl
        · rw [if_neg hp, Mailboxes.box_file_of_ne _ (Ne.symm hp), List.append_nil]
          rfl
      · rw [Mailboxes.held_file _ hroom]
        exact length_push hroom _
    · rw [push_of_full hroom, Mailboxes.file_of_full _ hroom]
  | pop port =>
    rw [perform, Use.op, Mailboxes.step]
    rcases q.pop_cases port with ⟨hpop, hheld⟩ | ⟨c, q', hpop, -, hheld, hothers, hlen⟩
    · rw [hpop, Mailboxes.take_of_nil hheld]
      rfl
    · rw [hpop]
      refine Mailboxes.ext (fun other => ?_) ?_
      · by_cases hp : other = port
        · subst hp
          rw [Mailboxes.box_take_self hheld]
          rfl
        · rw [Mailboxes.box_take_of_ne hp]
          exact hothers other hp
      · rw [Mailboxes.held_take hheld]
        show q'.packets.length = q.packets.length - 1
        omega

theorem filed_eq (q : ControlQueue) (port : UInt16) (u : Use) :
    q.filed port u = q.mailboxes.stored controlQueueSize port u.op := by
  cases u with
  | file p =>
    rw [filed, file_eq, Use.op, Mailboxes.stored]
    by_cases hroom : q.packets.length < controlQueueSize
    · simp only [length_push hroom, show q.mailboxes.held < controlQueueSize from hroom, and_true]
    · have hfull : ¬ q.mailboxes.held < controlQueueSize := hroom
      rw [push_of_full hroom, if_neg (by omega), if_neg (fun h => hfull h.2)]
  | pop port' => rfl

theorem returned_eq (q : ControlQueue) (port : UInt16) (u : Use) : q.returned port u = q.mailboxes.taken port u.op := by
  cases u with
  | file p => rfl
  | pop port' =>
    rw [returned, Use.op, Mailboxes.taken]
    by_cases hp : port' = port
    · subst hp
      have hbox : q.mailboxes.box port' = q.heldFor port' := rfl
      rw [if_pos rfl, if_pos rfl, hbox]
      rcases q.pop_cases port' with ⟨hpop, hheld⟩ | ⟨c, q', hpop, -, hheld, -⟩
      · rw [hpop, hheld]
        rfl
      · rw [hpop, hheld]
        rfl
    · rw [if_neg hp, if_neg hp]

end Refines

end ControlQueue

/-! ## The array -/

namespace Checked

open ControlQueue

/-- A use of the array of entries. -/
def perform (q : QueueMemory) : Use → Option QueueMemory
  | .file p => file q p.bytes
  | .pop port => do
    match ← popControlPacketForPort q port with
    | none => return q
    | some (_, q') => return q'

def performAll : QueueMemory → List Use → Option QueueMemory
  | q, [] => some q
  | q, u :: us => do
    let q' ← perform q u
    performAll q' us

theorem perform_checked {mem : QueueMemory} {q : ControlQueue} (h : HoldsQueue mem q) (u : Use) :
    ∃ mem', perform mem u = some mem' ∧ HoldsQueue mem' (q.perform u) := by
  cases u with
  | file p => exact file_checked h p.bytes
  | pop port =>
    rw [perform, ControlQueue.perform]
    rcases pop_checked h port with ⟨hmem, hpop⟩ | ⟨e, mem', q', hmem, hpop, -, hold⟩
    · rw [hmem, hpop]
      exact ⟨mem, rfl, h⟩
    · rw [hmem, hpop]
      exact ⟨mem', rfl, hold⟩

/-- **The array with its compaction is the queue**, in every run. -/
theorem performAll_checked : ∀ (uses : List Use) {mem : QueueMemory} {q : ControlQueue}, HoldsQueue mem q →
    ∃ mem', performAll mem uses = some mem' ∧ HoldsQueue mem' (q.performAll uses)
  | [], mem, _, h => ⟨mem, rfl, h⟩
  | u :: us, _, _, h => by
    obtain ⟨mem', hmem', hold⟩ := perform_checked h u
    obtain ⟨mem'', hmem'', hold'⟩ := performAll_checked us hold
    exact ⟨mem'', by rw [performAll, hmem']; exact hmem'', hold'⟩

end Checked

/-! ## Runs -/

namespace ControlQueue

theorem mailboxes_performAll : ∀ (uses : List Use) (q : ControlQueue),
    (q.performAll uses).mailboxes = q.mailboxes.run controlQueueSize (uses.map Use.op)
  | [], _ => rfl
  | u :: us, q => by
    have ih := mailboxes_performAll us (q.perform u)
    rw [mailboxes_perform] at ih
    exact ih

theorem filedAll_eq (port : UInt16) : ∀ (uses : List Use) (q : ControlQueue),
    filedAll port q uses = Mailboxes.storedAll controlQueueSize port q.mailboxes (uses.map Use.op)
  | [], _ => rfl
  | u :: us, q => by
    rw [filedAll, List.map_cons, Mailboxes.storedAll, filed_eq, filedAll_eq port us (q.perform u), mailboxes_perform]

theorem returnedAll_eq (port : UInt16) : ∀ (uses : List Use) (q : ControlQueue),
    returnedAll port q uses = Mailboxes.takenAll controlQueueSize port q.mailboxes (uses.map Use.op)
  | [], _ => rfl
  | u :: us, q => by
    rw [returnedAll, List.map_cons, Mailboxes.takenAll, returned_eq, returnedAll_eq port us (q.perform u), mailboxes_perform]

/-- **The control queue is a family of FIFOs with one capacity.**  After any run of filings and pops: what was filed for a port
is what its pops returned followed by what is still queued for it; a pop fails exactly if nothing is queued for its port,
and otherwise returns the oldest such packet as it was filed, takes it out and leaves the other ports' packets; and a filing
appends for its own port alone, or is discarded, exactly if 32 packets are held.  The array, compacted in place by every pop,
holds this queue, and its pops return these packets. -/
theorem port_queues (uses : List Use) :
    (∃ mem, Checked.performAll Checked.emptyQueue uses = some mem ∧ Checked.HoldsQueue mem (empty.performAll uses) ∧
      ∀ port, (Checked.popControlPacketForPort mem port).map (Option.map fun r => r.1.packet) =
        some (((empty.performAll uses).popControlPacketForPort port).map Prod.fst)) ∧
    (∀ port, filedAll port empty uses = returnedAll port empty uses ++ (empty.performAll uses).heldFor port) ∧
    (∀ port, ((empty.performAll uses).popControlPacketForPort port = none ↔ (empty.performAll uses).heldFor port = []) ∧
      ∀ c q', (empty.performAll uses).popControlPacketForPort port = some (c, q') →
        c.dstPort = port ∧ (empty.performAll uses).heldFor port = c.data.bytes :: q'.heldFor port ∧
        ∀ other, other ≠ port → q'.heldFor other = (empty.performAll uses).heldFor other) ∧
    (∀ p : UdpPacket,
      ((empty.performAll uses).file p.bytes = empty.performAll uses ↔
        (empty.performAll uses).packets.length = controlQueueSize) ∧
      ((empty.performAll uses).packets.length ≠ controlQueueSize → ∀ port,
        ((empty.performAll uses).file p.bytes).heldFor port =
          (empty.performAll uses).heldFor port ++ if p.datagram.dstPort = port then [p.bytes] else [])) := by
  refine ⟨?_, fun port => ?_, fun port => ?_, fun p => ?_⟩
  · obtain ⟨mem, hmem, hold⟩ := Checked.performAll_checked uses Checked.holdsQueue_empty
    refine ⟨mem, hmem, hold, fun port => ?_⟩
    rcases Checked.pop_checked hold port with ⟨hnone, hpop⟩ | ⟨e, mem', q', hsome, hpop, -, -⟩
    · rw [hnone, hpop]
      rfl
    · rw [hsome, hpop]
      rfl
  · have hempty : empty.mailboxes = Mailboxes.empty := rfl
    have hbox : (empty.performAll uses).heldFor port = (empty.performAll uses).mailboxes.box port := rfl
    rw [hbox, filedAll_eq, returnedAll_eq, mailboxes_performAll, hempty]
    exact Mailboxes.storedAll_eq port _
  · generalize empty.performAll uses = q
    rcases q.pop_cases port with ⟨hpop, hheld⟩ | ⟨c, q', hpop, hc, hheld, hothers, -⟩
    · rw [hpop]
      exact ⟨iff_of_true rfl hheld, fun _ _ h => by cases h⟩
    · rw [hpop, hheld]
      refine ⟨iff_of_false (fun h => by cases h) (List.cons_ne_nil _ _), fun c' q'' h => ?_⟩
      cases h
      exact ⟨hc, rfl, hothers⟩
  · generalize empty.performAll uses = q
    have hle := q.length_le
    rw [file_eq]
    by_cases hroom : q.packets.length < controlQueueSize
    · have hlen := length_push hroom (packetOf p.bytes p.datagram.dstPort)
      refine ⟨iff_of_false (fun h => ?_) (by omega), fun _ => heldFor_push hroom p⟩
      rw [h] at hlen
      omega
    · exact ⟨iff_of_true (push_of_full hroom _) (by omega), fun h => absurd (by omega) h⟩

/-- A packet of one byte for port 9. -/
def toNine : UdpPacket where
  bytes := datagramTo 9
  datagram := ⟨0x0A0D0002, 9, [7]⟩
  parses := by decide +kernel
  fits := by decide +kernel

/-- A packet of one byte for the control port. -/
def toControlPort : UdpPacket where
  bytes := datagramTo ldnControlPort
  datagram := ⟨0x0A0D0002, ldnControlPort, [7]⟩
  parses := by decide +kernel
  fits := by decide +kernel

/-- The control port's packet is popped from between the two of port 9. -/
theorem port_queues_twoPorts :
    let q := empty.performAll [.file toNine, .file toControlPort, .file toNine]
    ∃ c q', q.popControlPacketForPort ldnControlPort = some (c, q') ∧ c.dstPort = ldnControlPort ∧
      q.heldFor ldnControlPort = c.data.bytes :: q'.heldFor ldnControlPort ∧ q'.heldFor 9 = q.heldFor 9 ∧
      q.heldFor 9 = [toNine.bytes, toNine.bytes] ∧
      (q.file toNine.bytes).heldFor 9 = q.heldFor 9 ++ [toNine.bytes] := by
  intro q
  obtain ⟨-, -, hpops, hfiles⟩ := port_queues [.file toNine, .file toControlPort, .file toNine]
  have hfile := (hfiles toNine).2 (by decide +kernel) 9
  cases hpop : q.popControlPacketForPort ldnControlPort with
  | none => exact absurd (congrArg Option.isSome hpop) (by decide +kernel)
  | some r =>
    obtain ⟨c, q'⟩ := r
    obtain ⟨hc, hheld, hothers⟩ := (hpops ldnControlPort).2 c q' hpop
    exact ⟨c, q', rfl, hc, hheld, hothers 9 (by decide), by decide +kernel, hfile⟩

end ControlQueue
end Slp
