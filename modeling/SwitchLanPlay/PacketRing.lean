import SwitchLanPlay.BoundedFifo
import SwitchLanPlay.Drainers
import SwitchLanPlay.RelayMemory
/-!
# PacketRing — the relay's packet ring, index by index

`PacketRing` is `m_queue`, `m_queue_head` and `m_queue_count` as they lie in the bridge: an array of cells that start with
whatever the memory had, and two numbers that nothing bounds.  Each critical section under `m_queue_mutex` is one operation,
with every index and every `memcpy` checked.  From the constructor on they run without a fault, whatever their order, and
answer as the bounded FIFO of 64 packets does (`packets_accounted`).
-/
namespace Slp

open Wire BoundedFifo

structure PacketRing where
  queue : Fin queueSize → Block packetCap
  head : Nat
  count : Nat

namespace PacketRing

/-- The ring as constructed over the memory of `m_queue`. -/
def ofMemory (queue : Fin queueSize → Block packetCap) : PacketRing := ⟨queue, 0, 0⟩

/-- `m_queue[i]`. -/
def cell (r : PacketRing) (i : Nat) : Option (Block packetCap) :=
  if h : i < queueSize then some (r.queue ⟨i, h⟩) else none

def setCell (r : PacketRing) (i : Nat) (pkt : Block packetCap) : Option PacketRing :=
  if h : i < queueSize then some { r with queue := Function.update r.queue ⟨i, h⟩ pkt } else none

/-- `PumpLoop` on a packet that `RecvIpv4` delivered. -/
def enqueue (r : PacketRing) (pkt : ByteBuf packetCap) : Option PacketRing :=
  if r.count < queueSize then do
    let tail := (r.head + r.count) % queueSize
    let old ← r.cell tail
    let new ← old.assign pkt.bytes
    let r' ← r.setCell tail new
    return { r' with count := r'.count + 1 }
  else some r

def advance (r : PacketRing) : PacketRing := { r with head := (r.head + 1) % queueSize, count := r.count - 1 }

/-- `PopIpv4`: with 1, the caller's buffer and `*out_len`. -/
def popIpv4 {outBufSize : Nat} (r : PacketRing) (out : ByteArr outBufSize) :
    Option (PacketRing × Option (ByteArr outBufSize × Nat)) :=
  if r.count = 0 then some (r, none)
  else do
    let pkt ← r.cell r.head
    if outBufSize < pkt.len then return (r.advance, none)
    let bytes ← pkt.cells.fetch 0 pkt.len
    let out' ← out.store 0 bytes
    return (r.advance, some (out', pkt.len))

def hasPending (r : PacketRing) : Bool := decide (0 < r.count)

/-- What `Close` does to the ring. -/
def close (r : PacketRing) : PacketRing := { r with head := 0, count := 0 }

/-- The critical sections under `m_queue_mutex`. -/
inductive Op where
  | enqueue (pkt : ByteBuf packetCap)
  | popIpv4 (outBufSize : Nat) (out : ByteArr outBufSize)
  | hasPending
  | close

def call (r : PacketRing) : Op → Option (PacketRing × BoundedFifo.Answer Bytes)
  | .enqueue pkt => do
    let r' ← r.enqueue pkt
    return (r', .done)
  | .popIpv4 _ out => do
    let (r', popped) ← r.popIpv4 out
    return (r', match popped with | some (out', outLen) => .element (out'.read outLen) | none => .nothing)
  | .hasPending => some (r, .pending r.hasPending)
  | .close => some (r.close, .done)

def run : PacketRing → List Op → Option (PacketRing × List (BoundedFifo.Answer Bytes))
  | r, [] => some (r, [])
  | r, op :: ops => do
    let (r', answer) ← r.call op
    let (r'', answers) ← run r' ops
    return (r'', answer :: answers)

/-- The packets in the counted cells, oldest first. -/
def packets (r : PacketRing) : List Bytes :=
  (List.range r.count).filterMap (fun i => (r.cell ((r.head + i) % queueSize)).map (fun pkt => pkt.toBuf.bytes))

/-! ## The FIFO it stands for -/

def fits (outBufSize : Nat) (p : Bytes) : Bool := decide (p.length ≤ outBufSize)

def Op.act : Op → BoundedFifo.Op Bytes Nat
  | .enqueue pkt => .offer pkt.bytes
  | .popIpv4 outBufSize _ => .take outBufSize
  | .hasPending => .probe
  | .close => .flush

def Op.enqueued? : Op → Option Bytes
  | .enqueue pkt => some pkt.bytes
  | _ => none

/-- The account of every packet that came to the ring. -/
def ledger (ops : List Op) : Ledger Bytes := BoundedFifo.run queueSize fits [] (ops.map Op.act)

/-! ## A ring in range -/

/-- The ring of a queue of cells, which has its head and its count in range. -/
def ofQueue (q : RingQueue queueSize (Block packetCap)) : PacketRing := ⟨q.cells, q.head, q.count⟩

/-- Every held cell records a length its array has. -/
def Sized (q : RingQueue queueSize (Block packetCap)) : Prop := ∀ pkt ∈ q.toList, pkt.len ≤ packetCap

def bytesOf (q : RingQueue queueSize (Block packetCap)) : List Bytes := q.toList.map (fun pkt => pkt.toBuf.bytes)

variable {q : RingQueue queueSize (Block packetCap)}

theorem cell_ofQueue (i : Fin queueSize) : (ofQueue q).cell i = some (q.cells i) := dif_pos i.isLt

theorem packets_ofQueue (q : RingQueue queueSize (Block packetCap)) : (ofQueue q).packets = bytesOf q := by
  have hcell : ∀ i, ((ofQueue q).cell (((ofQueue q).head + i) % queueSize)).map (fun pkt => pkt.toBuf.bytes) =
      some (q.cells (q.index i)).toBuf.bytes := by
    intro i
    have hi : (ofQueue q).cell (((ofQueue q).head + i) % queueSize) = some (q.cells (q.index i)) := cell_ofQueue (q.index i)
    rw [hi]
    rfl
  show (List.range q.count).filterMap _ = _
  rw [List.filterMap_congr (fun i _ => hcell i), bytesOf, RingQueue.toList, List.map_map, List.filterMap_eq_map']
  rfl

theorem length_bytesOf : (bytesOf q).length = q.count := by rw [bytesOf, List.length_map, RingQueue.length_toList]

/-- **With room, a packet is written to the tail cell and counted.** -/
theorem enqueue_ofQueue (hsized : Sized q) (pkt : ByteBuf packetCap) (hroom : q.count < queueSize) :
    ∃ q', (ofQueue q).enqueue pkt = some (ofQueue q') ∧ Sized q' ∧ bytesOf q' = bytesOf q ++ [pkt.bytes] := by
  obtain ⟨new, hnew, hlen, hbytes⟩ := (q.cells (q.index q.count)).assign_holds pkt.size_le
  have hcell : (ofQueue q).cell ((q.head + q.count) % queueSize) = some (q.cells (q.index q.count)) :=
    cell_ofQueue (q.index q.count)
  have htail : (q.head + q.count) % queueSize < queueSize := (q.index q.count).isLt
  have hset : (ofQueue q).setCell ((q.head + q.count) % queueSize) new = some _ := dif_pos htail
  have hlist := q.toList_push new hroom
  refine ⟨q.push new, ?_, ?_, ?_⟩
  · rw [enqueue, if_pos (show (ofQueue q).count < queueSize from hroom)]
    show ((ofQueue q).cell ((q.head + q.count) % queueSize) >>= _) = _
    simp only [hcell, hnew, Option.bind_eq_bind, Option.bind_some]
    show ((ofQueue q).setCell ((q.head + q.count) % queueSize) new >>= _) = _
    simp only [hset, Option.bind_eq_bind, Option.bind_some, Option.pure_def, RingQueue.push, dif_pos hroom]
    rfl
  · intro p hp
    rw [hlist] at hp
    rcases List.mem_append.1 hp with hold | hone
    · exact hsized p hold
    · rwa [List.mem_singleton.1 hone]
  · rw [bytesOf, hlist, List.map_append, List.map_singleton, hbytes, bytesOf]

theorem enqueue_full (pkt : ByteBuf packetCap) (hfull : ¬ q.count < queueSize) :
    (ofQueue q).enqueue pkt = some (ofQueue q) := if_neg hfull

/-- **A pop of a held packet** copies it out whole, or drops it when it outgrows the caller's buffer. -/
theorem popIpv4_ofQueue (hsized : Sized q) {pkt : Block packetCap} (hfront : q.front? = some pkt) {outBufSize : Nat}
    (out : ByteArr outBufSize) :
    (ofQueue q).popIpv4 out = some (ofQueue q.pop,
      if fits outBufSize pkt.toBuf.bytes then some (out.write 0 pkt.toBuf.bytes, pkt.len) else none) := by
  have hlist := q.toList_pop pkt hfront
  have hlen : pkt.len ≤ packetCap := hsized pkt (by rw [hlist]; exact List.mem_cons_self)
  have hsize : pkt.toBuf.bytes.length = pkt.len := Block.length_toBuf hlen
  have hcount : (ofQueue q).count ≠ 0 := by
    intro h0
    rw [RingQueue.front?, if_pos (show q.count = 0 from h0)] at hfront
    cases hfront
  have hcell : (ofQueue q).cell q.head = some pkt := by
    have hindex : q.index 0 = ⟨q.head, q.head_lt⟩ := Fin.ext (Nat.mod_eq_of_lt q.head_lt)
    rw [RingQueue.front?, if_neg (show ¬ q.count = 0 from hcount), hindex] at hfront
    rw [← hfront]
    exact cell_ofQueue ⟨q.head, q.head_lt⟩
  rw [popIpv4, if_neg hcount]
  show ((ofQueue q).cell q.head >>= _) = _
  simp only [hcell, Option.bind_eq_bind, Option.bind_some, Option.pure_def, fits, hsize, decide_eq_true_eq]
  by_cases hfit : pkt.len ≤ outBufSize
  · have hfetch : pkt.cells.fetch 0 pkt.len = some pkt.toBuf.bytes := ByteArr.fetch_front _ hlen
    have hstore : out.store 0 pkt.toBuf.bytes = some (out.write 0 pkt.toBuf.bytes) := out.store_eq (by omega)
    rw [if_neg (Nat.not_lt.2 hfit), if_pos hfit]
    simp only [hfetch, hstore, Option.bind_some]
    rfl
  · rw [if_pos (Nat.not_le.1 hfit), if_neg hfit]
    rfl

theorem popIpv4_empty (hcount : q.count = 0) {outBufSize : Nat} (out : ByteArr outBufSize) :
    (ofQueue q).popIpv4 out = some (ofQueue q, none) := if_pos hcount

theorem sized_pop (hsized : Sized q) {pkt : Block packetCap} (hfront : q.front? = some pkt) : Sized q.pop := by
  intro p hp
  exact hsized p (by rw [q.toList_pop pkt hfront]; exact List.mem_cons_of_mem _ hp)

/-! ## The ring refines the FIFO -/

/-- The cells hold what the ledger says is held. -/
structure Refines (q : RingQueue queueSize (Block packetCap)) (l : Ledger Bytes) : Prop where
  sized : Sized q
  held : bytesOf q = BoundedFifo.held l

/-- **Each operation is the FIFO's**: it does not fault, gives the FIFO's answer and leaves what the FIFO holds. -/
theorem call_refines {l : Ledger Bytes} (h : Refines q l) (op : Op) :
    ∃ q', (ofQueue q).call op = some (ofQueue q', answer fits l op.act) ∧
      Refines q' (step queueSize fits l op.act) := by
  have hcount : (BoundedFifo.held l).length = q.count := by rw [← h.held, length_bytesOf]
  cases op with
  | enqueue pkt =>
    have hheld : BoundedFifo.held (step queueSize fits l (.offer pkt.bytes)) =
        if (BoundedFifo.held l).length < queueSize then BoundedFifo.held l ++ [pkt.bytes] else BoundedFifo.held l :=
      held_offer pkt.bytes
    rw [hcount] at hheld
    by_cases hroom : q.count < queueSize
    · obtain ⟨q', hcall, hsized, hbytes⟩ := enqueue_ofQueue h.sized pkt hroom
      refine ⟨q', by rw [call, hcall]; rfl, hsized, ?_⟩
      rw [hbytes, h.held, Op.act, hheld, if_pos hroom]
    · refine ⟨q, by rw [call, enqueue_full pkt hroom]; rfl, h.sized, ?_⟩
      rw [h.held, Op.act, hheld, if_neg hroom]
  | popIpv4 outBufSize out =>
    have hheld : BoundedFifo.held (step queueSize fits l (.take outBufSize)) = (BoundedFifo.held l).tail :=
      held_take outBufSize
    cases hfront : q.front? with
    | none =>
      have hnil : BoundedFifo.held l = [] := by rw [← h.held, bytesOf, q.toList_of_front_none hfront]; rfl
      have hzero : q.count = 0 := by rw [← hcount, hnil]; rfl
      refine ⟨q, ?_, h.sized, by rw [h.held, Op.act, hheld, hnil]; rfl⟩
      rw [call, popIpv4_empty hzero, Op.act, answer, hnil]
      rfl
    | some pkt =>
      have hlist := q.toList_pop pkt hfront
      have hcons : BoundedFifo.held l = pkt.toBuf.bytes :: bytesOf q.pop := by
        rw [← h.held, bytesOf, hlist]
        rfl
      have hlen : pkt.len ≤ packetCap := h.sized pkt (by rw [hlist]; exact List.mem_cons_self)
      refine ⟨q.pop, ?_, sized_pop h.sized hfront, by rw [Op.act, hheld, hcons]; rfl⟩
      rw [call, popIpv4_ofQueue h.sized hfront, Op.act, answer, hcons]
      by_cases hfit : fits outBufSize pkt.toBuf.bytes = true
      · have hread : (out.write 0 pkt.toBuf.bytes).read pkt.len = pkt.toBuf.bytes := by
          have hle : pkt.toBuf.bytes.length ≤ outBufSize := of_decide_eq_true hfit
          have := out.read_write hle
          rwa [Block.length_toBuf hlen] at this
        simp only [if_pos hfit, Option.bind_eq_bind, Option.bind_some, Option.pure_def, hread]
      · simp only [if_neg hfit, Option.bind_eq_bind, Option.bind_some, Option.pure_def]
  | hasPending =>
    have hpending : (ofQueue q).hasPending = !(BoundedFifo.held l).isEmpty := by
      show decide (0 < q.count) = _
      rw [← hcount]
      cases BoundedFifo.held l <;> rfl
    exact ⟨q, by rw [call, hpending]; rfl, h⟩
  | close =>
    have hclear : q.clear.toList = [] := rfl
    refine ⟨q.clear, rfl, fun p hp => ?_, ?_⟩
    · rw [hclear] at hp
      cases hp
    · rw [Op.act, step, held_flush, bytesOf, hclear]
      rfl

theorem run_refines : ∀ (ops : List Op) {q : RingQueue queueSize (Block packetCap)} {l : Ledger Bytes}, Refines q l →
    ∃ q', (ofQueue q).run ops = some (ofQueue q', answers queueSize fits l (ops.map Op.act)) ∧
      Refines q' (BoundedFifo.run queueSize fits l (ops.map Op.act))
  | [], q, _, h => ⟨q, rfl, h⟩
  | op :: ops, q, l, h => by
    obtain ⟨q', hcall, h'⟩ := call_refines h op
    obtain ⟨q'', hrun, h''⟩ := run_refines ops h'
    refine ⟨q'', ?_, h''⟩
    rw [run, hcall]
    simp only [Option.bind_eq_bind, Option.bind_some, hrun]
    rfl

theorem refines_ofMemory (mem : Fin queueSize → Block packetCap) :
    Refines (RingQueue.ofCells mem (by decide)) [] where
  sized _ hp := by cases hp
  held := rfl

theorem filterMap_offered (ops : List Op) :
    (ops.map Op.act).filterMap BoundedFifo.Op.offered? = ops.filterMap Op.enqueued? := by
  rw [List.filterMap_map]
  apply List.filterMap_congr
  intro op _
  cases op <;> rfl

/-- **The ring is a bounded FIFO**: from whatever its memory had, and for every order of its critical sections, no index and no
copy leaves the array, the head stays below 64 and the count at most 64.  Of the packets that came, each in its place of the
ledger, those handed out are the taken ones, whole and in order, those in the ring are the held ones, and `HasPending` tells
whether there are any.  A packet met another end only by one operation: it came when 64 were held, it outgrew the buffer of
the caller who popped it, or it was held at a `Close`. -/
theorem packets_accounted (mem : Fin queueSize → Block packetCap) (ops : List Op) :
    ∃ r answers, (ofMemory mem).run ops = some (r, answers) ∧
      r.head < queueSize ∧ r.count ≤ queueSize ∧
      answers = BoundedFifo.answers queueSize fits [] (ops.map Op.act) ∧
      (ledger ops).map Prod.fst = ops.filterMap Op.enqueued? ∧
      withFate .taken (ledger ops) = answers.filterMap BoundedFifo.Answer.element? ∧
      held (ledger ops) = r.packets ∧
      (r.hasPending = true ↔ r.packets ≠ []) ∧
      ∀ i p f, (ledger ops)[i]? = some (p, f) → f ≠ .held →
        ∃ before op after, ops = before ++ op :: after ∧ Caused queueSize fits (ledger before) i p f op.act := by
  obtain ⟨q, hrun, h⟩ := run_refines ops (refines_ofMemory mem)
  refine ⟨ofQueue q, _, hrun, q.head_lt, q.count_le, rfl, ?_, ?_, ?_, ?_, fun i p f hi hf => ?_⟩
  · rw [ledger, map_fst_run, filterMap_offered]
    rfl
  · exact elements_answers (ops.map Op.act) List.Pairwise.nil
  · rw [packets_ofQueue]
    exact h.held.symm
  · rw [packets_ofQueue, ← List.length_pos_iff, length_bytesOf]
    exact decide_eq_true_iff
  · obtain ⟨before, act, after, hsplit, hcaused⟩ := caused_of_run hf (ops.map Op.act) hi
    obtain ⟨before', rest, rfl, rfl, hrest⟩ := List.map_eq_append_iff.1 hsplit
    obtain ⟨op, after', rfl, rfl, -⟩ := List.map_eq_cons_iff.1 hrest
    exact ⟨before', op, after', rfl, hcaused⟩

/-! ## The bridge's queue is this ring -/

/-- The critical section that a call on the bridge goes through. -/
def ringOp (b : RelayBridge) : RelayBridge.Op → Option Op
  | .pump datagram =>
    match (b.recvIpv4 datagram packetCap).2 with
    | .packet pkt => some (.enqueue pkt)
    | _ => none
  | .popIpv4 outBufSize => some (.popIpv4 outBufSize (fun _ => 0))
  | .close => some .close
  | _ => none

def ringOps : RelayBridge → List RelayBridge.Op → List Op
  | _, [] => []
  | b, op :: ops => (ringOp b op).toList ++ ringOps (b.step op) ops

theorem queued_pump_packet {b : RelayBridge} {datagram : Bytes} {pkt : ByteBuf packetCap}
    (h : (b.recvIpv4 datagram packetCap).2 = .packet pkt) :
    (b.pump datagram).queued = if b.queued.length < queueSize then b.queued ++ [pkt.bytes] else b.queued := by
  have hcount : b.queued.length = b.queue.count := by rw [RelayBridge.queued, List.length_map, RingQueue.length_toList]
  have hqueue := b.recvIpv4_queue datagram packetCap
  have hpump : (b.pump datagram).queue = b.queue.push pkt := by
    unfold RelayBridge.pump
    revert h hqueue
    rcases b.recvIpv4 datagram packetCap with ⟨b', received⟩
    rintro rfl hqueue
    exact congrArg (fun q => q.push pkt) hqueue
  rw [RelayBridge.queued, hpump, hcount]
  split
  · rename_i hroom
    exact RelayBridge.queue_push b.queue pkt hroom
  · rename_i hfull
    rw [RingQueue.push, dif_neg hfull]
    rfl

theorem queued_pump_other {b : RelayBridge} {datagram : Bytes}
    (h : ∀ pkt, (b.recvIpv4 datagram packetCap).2 ≠ .packet pkt) : (b.pump datagram).queued = b.queued := by
  have hqueue := b.recvIpv4_queue datagram packetCap
  unfold RelayBridge.pump RelayBridge.queued
  revert h hqueue
  rcases b.recvIpv4 datagram packetCap with ⟨b', pkt | _ | _⟩
  · intro h
    exact absurd rfl (h pkt)
  · intro _ hqueue
    rw [show b'.queue = b.queue from hqueue]
  · intro _ hqueue
    rw [show b'.queue = b.queue from hqueue]

/-- **A call on the bridge does to its queue what its critical section does to the FIFO.** -/
theorem queued_step {b : RelayBridge} {l : Ledger Bytes} (h : b.queued = held l) (op : RelayBridge.Op) :
    (b.step op).queued = held (BoundedFifo.run queueSize fits l ((ringOp b op).toList.map Op.act)) := by
  cases op with
  | connect => exact h
  | close => exact (RelayBridge.queued_close b).trans (held_flush l).symm
  | sendIpv4 sendto packet =>
    have hqueue : (b.sendIpv4 sendto packet).bridge.queue = b.queue := by
      unfold RelayBridge.sendIpv4 RelayBridge.sendFragmented
      split
      · rfl
      · split
        · rfl
        · split <;> rfl
    show (b.sendIpv4 sendto packet).bridge.queued = held l
    rw [RelayBridge.queued, hqueue]
    exact h
  | recvIpv4 datagram outBufSize =>
    show (b.recvIpv4 datagram outBufSize).1.queued = held l
    rw [RelayBridge.queued, RelayBridge.recvIpv4_queue]
    exact h
  | pump datagram =>
    cases hr : (b.recvIpv4 datagram packetCap).2 with
    | packet pkt =>
      have hop : ringOp b (.pump datagram) = some (.enqueue pkt) := by simp only [ringOp, hr]
      rw [hop]
      show (b.pump datagram).queued = held (step queueSize fits l (.offer pkt.bytes))
      rw [queued_pump_packet hr, held_offer, h]
    | handled =>
      have hop : ringOp b (.pump datagram) = none := by simp only [ringOp, hr]
      rw [hop]
      exact (queued_pump_other (by simp [hr])).trans h
    | noData =>
      have hop : ringOp b (.pump datagram) = none := by simp only [ringOp, hr]
      rw [hop]
      exact (queued_pump_other (by simp [hr])).trans h
  | popIpv4 outBufSize =>
    show (b.popIpv4 outBufSize).1.queued = held (step queueSize fits l (.take outBufSize))
    rw [held_take, ← h]
    rcases b.queued_popIpv4 outBufSize with ⟨hnil, hpop⟩ | ⟨p, rest, hcons, hrest, -⟩
    · rw [hpop, hnil]; rfl
    · rw [hrest, hcons]; rfl

theorem queued_run : ∀ (ops : List RelayBridge.Op) {b : RelayBridge} {l : Ledger Bytes}, b.queued = held l →
    (Runs.run RelayBridge.step b ops).queued =
      held (BoundedFifo.run queueSize fits l ((ringOps b ops).map Op.act))
  | [], _, _, h => h
  | op :: ops, b, l, h => by
    have ih := queued_run ops (queued_step h op)
    rw [ringOps, List.map_append, BoundedFifo.run, List.foldl_append]
    exact ih

/-- **After any run of the bridge the ring holds what the bridge has queued.** -/
theorem packets_eq_queued (mem : Fin queueSize → Block packetCap) (ops : List RelayBridge.Op) :
    ∃ r answers, (ofMemory mem).run (ringOps .init ops) = some (r, answers) ∧
      r.packets = (Runs.run RelayBridge.step .init ops).queued := by
  obtain ⟨q, hrun, h⟩ := run_refines (ringOps .init ops) (refines_ofMemory mem)
  refine ⟨ofQueue q, _, hrun, ?_⟩
  rw [packets_ofQueue, h.held]
  exact (queued_run ops rfl).symm

end PacketRing

end Slp
