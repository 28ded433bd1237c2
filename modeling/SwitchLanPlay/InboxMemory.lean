import SwitchLanPlay.InboundMemory
import SwitchLanPlay.Commands
import SwitchLanPlay.VTcpCalls
/-!
# InboxMemory — the arrays of the virtual connections, and whole runs

`ConnMemory` is the two arrays of a `VTcpConn` with the lengths recorded beside them; the other fields stay in the
`VTcpConn`.  The code that touches the arrays is written over checked memory, for one connection and for every call of the
virtual TCP state (`Checked.step`), and so is every move of a console (`Checked.move`): a popped packet, a bridged
`RecvFrom`, a step of the service.  A run of moves from start faults nowhere and leaves every recorded length within its array
(`inbound_in_bounds`).
-/
namespace Slp
namespace Checked

open Wire

/-! ## One connection -/

structure ConnMemory where
  inbox : Block vtcpInboxCap
  unackedData : Block vtcpInboxCap

/-- The arrays of `VTcpConn{}`. -/
def ConnMemory.zero : ConnMemory := ⟨.zero, .zero⟩

/-- The arrays hold the connection's byte strings, and their lengths are in range. -/
structure HoldsConn (mem : ConnMemory) (c : VTcpConn) : Prop where
  inbox_len : mem.inbox.len ≤ vtcpInboxCap
  unacked_len : mem.unackedData.len ≤ vtcpInboxCap
  inbox : mem.inbox.toBuf.bytes = c.inbox.bytes
  unackedData : mem.unackedData.toBuf.bytes = c.unackedData.bytes

/-- The data branch of `HandleTcpSegment`: the payload is a slice of the packet. -/
def handleData (c : VTcpConn) (mem : ConnMemory) (s : TcpSlice) (pkt : Bytes) : Option ConnMemory :=
  if !c.established || s.len == 0 then some mem
  else if s.header.seq ≠ c.theirSeq then some mem
  else if vtcpInboxCap < s.len then some mem
  else if vtcpInboxCap < mem.inbox.len + s.len then some mem
  else do
    let payload ← load pkt s.off s.len
    let inbox ← mem.inbox.append payload
    return { mem with inbox := inbox }

/-- The TCP branch of `SendTo`. -/
def sendTo (c : VTcpConn) (mem : ConnMemory) (relay : VTcpConn.RelaySend) (buf : Bytes) : Option ConnMemory :=
  if !c.established || !relay.connected then some mem
  else if vtcpInboxCap < buf.length then some mem
  else if relay.ok then do
    let unackedData ← mem.unackedData.assign buf
    return { mem with unackedData := unackedData }
  else some mem

/-- The TCP branch of `RecvFrom` into a buffer of `bufSize` bytes. -/
def recvFromConn (mem : ConnMemory) {bufSize : Nat} (buf : ByteArr bufSize) : Option ConnMemory :=
  if mem.inbox.len = 0 then some mem
  else do
    let deliver := min mem.inbox.len bufSize
    let bytes ← mem.inbox.cells.fetch 0 deliver
    let _ ← buf.store 0 bytes
    let inbox ← mem.inbox.dropFront deliver
    return { mem with inbox := inbox }

/-- `SendTcpSegment`'s `packet`. -/
def segmentBuffer : ByteArr (20 + 20 + maxBridgedPayload) := fun _ => 0

/-- One turn of `CheckDataRetransmits`: `SendTcpSegment` copies the pending data behind the headers of its packet. -/
def checkDataRetransmit (c : VTcpConn) (mem : ConnMemory) (now : UInt64) : Option ConnMemory :=
  if !c.used || !c.established || !c.hasUnackedData then some mem
  else if now - c.lastSendTickMs < VTcpConn.dataRetransmitIntervalMs then some mem
  else if VTcpConn.maxDataRetransmits ≤ c.retransmitCount then some mem
  else if 20 + 20 + maxBridgedPayload < 20 + (20 + mem.unackedData.len) then some mem
  else do
    let bytes ← mem.unackedData.cells.fetch 0 mem.unackedData.len
    let _ ← segmentBuffer.store 40 bytes
    return mem

section Conn

variable {c : VTcpConn} {mem : ConnMemory}

theorem holdsConn_zero {c : VTcpConn} (hinbox : c.inbox = ByteBuf.empty) (hunacked : c.unackedData = ByteBuf.empty) :
    HoldsConn .zero c where
  inbox_len := Nat.zero_le _
  unacked_len := Nat.zero_le _
  inbox := by rw [hinbox]; rfl
  unackedData := by rw [hunacked]; rfl

/-- A step that leaves both byte strings. -/
theorem HoldsConn.of_same (h : HoldsConn mem c) {c' : VTcpConn} (hinbox : c'.inbox = c.inbox)
    (hunacked : c'.unackedData = c.unackedData) : HoldsConn mem c' :=
  ⟨h.inbox_len, h.unacked_len, by rw [hinbox]; exact h.inbox, by rw [hunacked]; exact h.unackedData⟩

theorem HoldsConn.size_eq (h : HoldsConn mem c) : c.inbox.size = mem.inbox.len := by
  rw [ByteBuf.size, ← h.inbox, Block.length_toBuf h.inbox_len]

/-- The segment whose payload is a slice of the packet. -/
def TcpSlice.segment (s : TcpSlice) (pkt : Bytes) : TcpSegment := { s.header with payload := bytesAt pkt s.off s.len }

/-- **An accepted payload fits behind what the inbox holds.** -/
theorem handleData_checked (h : HoldsConn mem c) {s : TcpSlice} {pkt : Bytes} (hin : s.off + s.len ≤ pkt.length)
    (localIp : UInt32) :
    ∃ mem', handleData c mem s pkt = some mem' ∧ HoldsConn mem' (c.handleData localIp (s.segment pkt)).1 := by
  have hlen : (s.segment pkt).payload.length = s.len := length_bytesAt _ _ _ hin
  have hsize := h.size_eq
  have hseq : (s.segment pkt).seq = s.header.seq := rfl
  rw [handleData, VTcpConn.handleData, ← hlen, ← hseq]
  split
  · exact ⟨mem, rfl, h⟩
  split
  · exact ⟨mem, rfl, h⟩
  split
  · exact ⟨mem, rfl, h⟩
  by_cases hfit : c.inbox.size + (s.segment pkt).payload.length ≤ vtcpInboxCap
  · obtain ⟨inbox, hinbox, hle, hbytes⟩ : Block.Holds (mem.inbox.append (bytesAt pkt s.off s.len)) _ :=
      Block.append_holds (by rw [length_bytesAt _ _ _ hin]; omega)
    refine ⟨{ mem with inbox := inbox }, ?_, ?_⟩
    · rw [if_neg (by omega), hlen, load_eq hin, Option.bind_eq_bind, Option.bind_some, hinbox]
      rfl
    · rw [dif_pos hfit]
      exact ⟨hle, h.unacked_len, by rw [hbytes, h.inbox]; rfl, h.unackedData⟩
  · rw [if_pos (by omega), dif_neg hfit]
    exact ⟨mem, rfl, h⟩

theorem sendTo_checked (h : HoldsConn mem c) (localIp : UInt32) (relay : VTcpConn.RelaySend) (buf : Bytes) :
    ∃ mem', sendTo c mem relay buf = some mem' ∧ HoldsConn mem' (c.sendTo localIp relay buf).1 := by
  rw [sendTo, VTcpConn.sendTo]
  split
  · exact ⟨mem, rfl, h⟩
  by_cases hfit : buf.length ≤ vtcpInboxCap
  · rw [if_neg (by omega), dif_pos hfit]
    split
    · obtain ⟨unacked, hun, hle, hbytes⟩ := mem.unackedData.assign_holds hfit
      refine ⟨{ mem with unackedData := unacked }, by rw [hun]; rfl, h.inbox_len, hle, h.inbox, hbytes⟩
    · exact ⟨mem, rfl, h⟩
  · rw [if_pos (by omega), dif_neg hfit]
    exact ⟨mem, rfl, h⟩

theorem recvFrom_conn_checked (h : HoldsConn mem c) {bufSize : Nat} (buf : ByteArr bufSize) (addrSize : Nat) :
    ∃ mem', recvFromConn mem buf = some mem' ∧ HoldsConn mem' (c.recvFrom bufSize addrSize).1 := by
  have hsize := h.size_eq
  have hcap := h.inbox_len
  rw [recvFromConn, VTcpConn.recvFrom, hsize]
  split
  · exact ⟨mem, rfl, h⟩
  · obtain ⟨inbox, hinbox, hle, hbytes⟩ := Block.dropFront_holds hcap (Nat.min_le_left mem.inbox.len bufSize)
    have hfetch : mem.inbox.cells.fetch 0 (min mem.inbox.len bufSize) = some _ := ByteArr.fetch_front _ (by omega)
    have hread : (mem.inbox.cells.read (min mem.inbox.len bufSize)).length ≤ bufSize := by
      rw [ByteArr.length_read _ (by omega)]
      exact Nat.min_le_right _ _
    have hstore : buf.store 0 (mem.inbox.cells.read (min mem.inbox.len bufSize)) = some _ := buf.store_eq (by omega)
    refine ⟨{ mem with inbox := inbox }, ?_, hle, h.unacked_len, ?_, h.unackedData⟩
    · simp only [Option.bind_eq_bind, hfetch, Option.bind_some, hstore, hinbox]
      rfl
    · -- the model drops the whole buffer size, past the end if need be
      have hlen := Block.length_toBuf hcap
      show inbox.toBuf.bytes = c.inbox.bytes.drop bufSize
      rw [hbytes, ← h.inbox]
      by_cases hb : bufSize ≤ mem.inbox.len
      · rw [Nat.min_eq_right hb]
      · rw [Nat.min_eq_left (by omega), List.drop_eq_nil_of_le (by omega), List.drop_eq_nil_of_le (by omega)]

theorem checkDataRetransmit_checked (h : HoldsConn mem c) (localIp : UInt32) (now : UInt64) :
    ∃ mem', checkDataRetransmit c mem now = some mem' ∧ HoldsConn mem' (c.checkDataRetransmit localIp now).1 := by
  have hcap := h.unacked_len
  rw [checkDataRetransmit, VTcpConn.checkDataRetransmit]
  split
  · exact ⟨mem, rfl, h⟩
  split
  · exact ⟨mem, rfl, h⟩
  split
  · exact ⟨mem, rfl, h.of_same rfl rfl⟩
  · have hlen := ByteArr.length_read mem.unackedData.cells hcap
    have hpacket : 40 + mem.unackedData.len ≤ 20 + 20 + maxBridgedPayload := Nat.add_le_add_left hcap 40
    have hstore : segmentBuffer.store 40 (mem.unackedData.cells.read mem.unackedData.len) = some _ :=
      ByteArr.store_eq _ (by omega)
    refine ⟨mem, ?_, h.of_same rfl rfl⟩
    rw [if_neg (by omega), ByteArr.fetch_front _ hcap, Option.bind_eq_bind, Option.bind_some, hstore]
    rfl

end Conn

/-! ## The table of connections -/

abbrev ConnsMemory := Fin maxVTcpConns → ConnMemory

def HoldsConns (mem : ConnsMemory) (t : VTcp) : Prop := ∀ k, HoldsConn (mem k) (t.conns k)

/-- Run one branch on the arrays of the connection found, if any. -/
def onConn (mem : ConnsMemory) (found : Option (Fin maxVTcpConns)) (f : Fin maxVTcpConns → Option ConnMemory) :
    Option ConnsMemory :=
  match found with
  | none => some mem
  | some k => do
    let c ← f k
    return Function.update mem k c

/-- Every connection's turn. -/
def eachConn (mem : ConnsMemory) (f : Fin maxVTcpConns → Option ConnMemory) : Option ConnsMemory :=
  if ∀ k, (f k).isSome then some (fun k => (f k).getD (mem k)) else none

/-- `HandleTcpSegment`: only the data branch touches the arrays. -/
def handleTcpSegment (t : VTcp) (mem : ConnsMemory) (s : TcpSlice) (pkt : Bytes) : Option ConnsMemory :=
  if s.header.isRst || s.header.isSyn || s.header.isFin || !s.header.isAck then some mem
  else
    match SlotTable.first (VTcp.awaitsFinalAck s.header) t.pendingAccepts with
    | some _ => some mem
    | none =>
      onConn mem (t.findVTcpConnByPeer true s.header.srcIp) (fun k => handleData (t.conns k) (mem k) s pkt)

/-- The arrays of a slot that `AllocVTcpConn` or a `Close` sets to `VTcpConn{}`. -/
def resetConn (mem : ConnsMemory) (found : Option (Fin maxVTcpConns)) : Option ConnsMemory :=
  onConn mem found (fun _ => some .zero)

/-- The arrays in one call of the virtual TCP state. -/
def step (t : VTcp) (mem : ConnsMemory) : VTcp.Op → Option ConnsMemory
  | .segment _ m => handleTcpSegment t mem ⟨{ m with payload := [] }, 0, m.payload.length⟩ m.payload
  | .checkDataRetransmits now => eachConn mem (fun k => checkDataRetransmit (t.conns k) (mem k) now)
  | .sendTo fd relay buf => onConn mem (t.findVTcpConnByFd true fd) (fun k => sendTo (t.conns k) (mem k) relay buf)
  | .recvFrom fd bufSize _ =>
    onConn mem (t.findVTcpConnByFd true fd) (fun k => recvFromConn (mem k) (fun _ : Fin bufSize => 0))
  | .listen _ => some mem
  | .accept =>
    if (SlotTable.first (fun p => p.used && p.gotFinalAck) t.pendingAccepts).isSome then resetConn mem (t.allocVTcpConn true)
    else some mem
  | .connect _ _ _ _ => resetConn mem (t.allocVTcpConn true)
  | .connectTimedOut fd => resetConn mem (t.findVTcpConnByFd true fd)
  | .close fd => resetConn mem (t.findVTcpConnByFd true fd)

section Conns

variable {t : VTcp} {mem : ConnsMemory}

theorem onConn_checked (h : HoldsConns mem t) (found : Option (Fin maxVTcpConns)) {f : Fin maxVTcpConns → Option ConnMemory}
    {g : VTcpConn → VTcpConn × List Segment}
    (hf : ∀ k, found = some k → ∃ c, f k = some c ∧ HoldsConn c (g (t.conns k)).1) :
    ∃ mem', onConn mem found f = some mem' ∧ HoldsConns mem' (t.onConn found g).1 := by
  cases found with
  | none => exact ⟨mem, rfl, h⟩
  | some k =>
    obtain ⟨c, hc, hold⟩ := hf k rfl
    refine ⟨Function.update mem k c, by rw [onConn, hc]; rfl, fun j => ?_⟩
    show HoldsConn (Function.update mem k c j) (Function.update t.conns k (g (t.conns k)).1 j)
    by_cases hj : j = k
    · subst hj
      rwa [Function.update_self, Function.update_self]
    · rw [Function.update_of_ne hj, Function.update_of_ne hj]
      exact h j

/-- **A connection whose two byte strings stay needs no array.** -/
theorem onConn_same (h : HoldsConns mem t) (found : Option (Fin maxVTcpConns)) {g : VTcpConn → VTcpConn × List Segment}
    (hg : ∀ c, (g c).1.inbox = c.inbox ∧ (g c).1.unackedData = c.unackedData) : HoldsConns mem (t.onConn found g).1 := by
  cases found with
  | none => exact h
  | some k =>
    intro j
    show HoldsConn (mem j) (Function.update t.conns k (g (t.conns k)).1 j)
    by_cases hj : j = k
    · subst hj
      rw [Function.update_self]
      exact (h j).of_same (hg _).1 (hg _).2
    · rw [Function.update_of_ne hj]
      exact h j

theorem handleSyn_conns (t : VTcp) (found : Option (Fin maxVTcpConns)) (localIp ourIsn : UInt32) (m : TcpSegment) :
    (t.handleSyn found localIp ourIsn m).1.conns = t.conns := by
  unfold VTcp.handleSyn
  split
  · rfl
  split
  · rfl
  split <;> rfl

theorem handleTcpSegment_checked (h : HoldsConns mem t) (s : TcpSlice) {pkt : Bytes} (hin : s.off + s.len ≤ pkt.length)
    (localIp ourIsn : UInt32) :
    ∃ mem', handleTcpSegment t mem s pkt = some mem' ∧
      HoldsConns mem' (t.handleTcpSegment true localIp ourIsn (s.segment pkt)).1 := by
  unfold handleTcpSegment VTcp.handleTcpSegment
  have hrst : (s.segment pkt).isRst = s.header.isRst := rfl
  have hsyn : (s.segment pkt).isSyn = s.header.isSyn := rfl
  have hfin : (s.segment pkt).isFin = s.header.isFin := rfl
  have hack : (s.segment pkt).isAck = s.header.isAck := rfl
  have hsrc : (s.segment pkt).srcIp = s.header.srcIp := rfl
  have hwait : VTcp.awaitsFinalAck (s.segment pkt) = VTcp.awaitsFinalAck s.header := rfl
  rw [hrst, hsyn, hfin, hack, hsrc, hwait]
  dsimp only
  cases s.header.isRst with
  | true =>
    refine ⟨mem, rfl, ?_⟩
    show HoldsConns mem (t.onConn _ (fun c => (c.handleRst, []))).1
    exact onConn_same h _ (fun _ => ⟨rfl, rfl⟩)
  | false =>
    cases s.header.isSyn with
    | true =>
      cases s.header.isAck with
      | true =>
        refine ⟨mem, rfl, ?_⟩
        show HoldsConns mem (t.onConn _ (·.handleSynAck localIp (s.segment pkt))).1
        refine onConn_same h _ (fun c => ?_)
        unfold VTcpConn.handleSynAck
        split <;> exact ⟨rfl, rfl⟩
      | false =>
        refine ⟨mem, rfl, ?_⟩
        show HoldsConns mem (t.handleSyn _ localIp ourIsn _).1
        intro k
        rw [handleSyn_conns]
        exact h k
    | false =>
      cases s.header.isFin with
      | true =>
        refine ⟨mem, rfl, ?_⟩
        show HoldsConns mem (t.onConn _ (·.handleFin localIp (s.segment pkt))).1
        exact onConn_same h _ (fun _ => ⟨rfl, rfl⟩)
      | false =>
        cases s.header.isAck with
        | false => exact ⟨mem, rfl, h⟩
        | true =>
          cases hp : SlotTable.first (VTcp.awaitsFinalAck s.header) t.pendingAccepts with
          | some k => exact ⟨mem, rfl, h⟩
          | none =>
            simp only [Bool.false_or, Bool.not_true, Bool.false_and, Bool.false_eq_true, if_false]
            refine onConn_checked h _ (fun k _ => ?_)
            have hn : HoldsConn (mem k) ((t.conns k).handleAckNumber (s.segment pkt).ack) := by
              unfold VTcpConn.handleAckNumber
              split
              · exact (h k).of_same rfl rfl
              · exact h k
            obtain ⟨c, hc, hold⟩ := handleData_checked hn hin localIp
            refine ⟨c, ?_, hold⟩
            rw [← hc]
            unfold VTcpConn.handleAckNumber
            split <;> rfl

theorem eachConn_checked {f : Fin maxVTcpConns → Option ConnMemory} {t' : VTcp}
    (hf : ∀ k, ∃ c, f k = some c ∧ HoldsConn c (t'.conns k)) : ∃ mem', eachConn mem f = some mem' ∧ HoldsConns mem' t' := by
  have hall : ∀ k, (f k).isSome = true := fun k => by
    obtain ⟨c, hc, -⟩ := hf k
    rw [hc]
    rfl
  refine ⟨_, if_pos hall, fun k => ?_⟩
  obtain ⟨c, hc, hold⟩ := hf k
  rwa [hc]

theorem resetConn_checked (h : HoldsConns mem t) (found : Option (Fin maxVTcpConns)) {t' : VTcp} {c : VTcpConn}
    (hinbox : c.inbox = ByteBuf.empty) (hunacked : c.unackedData = ByteBuf.empty)
    (ht' : t'.conns = (t.onConn found (fun _ => (c, []))).1.conns) :
    ∃ mem', resetConn mem found = some mem' ∧ HoldsConns mem' t' := by
  obtain ⟨mem', hmem', hold⟩ := onConn_checked (f := fun _ => some .zero) (g := fun _ => (c, [])) h found
    (fun k _ => ⟨.zero, rfl, holdsConn_zero hinbox hunacked⟩)
  refine ⟨mem', hmem', fun k => ?_⟩
  rw [ht']
  exact hold k

/-- **Every call of the virtual TCP state stays inside the arrays.** -/
theorem step_checked (h : HoldsConns mem t) (localIp : UInt32) (op : VTcp.Op) :
    ∃ mem', step t mem op = some mem' ∧ HoldsConns mem' (t.step localIp op).1 := by
  cases op with
  | segment ourIsn m =>
    have hm : (TcpSlice.segment ⟨{ m with payload := [] }, 0, m.payload.length⟩ m.payload) = m := by
      simp [TcpSlice.segment, bytesAt]
    have hle : 0 + m.payload.length ≤ m.payload.length := by omega
    have hin := handleTcpSegment_checked h ⟨{ m with payload := [] }, 0, m.payload.length⟩ hle localIp ourIsn
    rwa [hm] at hin
  | checkDataRetransmits now => exact eachConn_checked (fun k => checkDataRetransmit_checked (h k) localIp now)
  | sendTo fd relay buf =>
    have hon := onConn_checked h (t.findVTcpConnByFd true fd)
      (f := fun k => sendTo (t.conns k) (mem k) relay buf) (g := fun c => ((c.sendTo localIp relay buf).1, []))
      (fun k _ => sendTo_checked (h k) localIp relay buf)
    cases hfd : t.findVTcpConnByFd true fd with
    | none =>
      rw [hfd] at hon
      rw [VTcp.step_sendTo_of_none localIp relay buf hfd, step, hfd]
      exact hon
    | some k =>
      rw [hfd] at hon
      rw [VTcp.step_sendTo_of_some localIp relay buf hfd, step, hfd]
      exact hon
  | recvFrom fd bufSize addrSize =>
    have hon := onConn_checked h (t.findVTcpConnByFd true fd)
      (f := fun k => recvFromConn (mem k) (fun _ : Fin bufSize => 0)) (g := fun c => ((c.recvFrom bufSize addrSize).1, []))
      (fun k _ => recvFrom_conn_checked (h k) _ addrSize)
    cases hfd : t.findVTcpConnByFd true fd with
    | none =>
      rw [hfd] at hon
      rw [VTcp.step_recvFrom_of_none localIp bufSize addrSize hfd, step, hfd]
      exact hon
    | some k =>
      rw [hfd] at hon
      rw [VTcp.step_recvFrom_of_some localIp bufSize addrSize hfd, step, hfd]
      exact hon
  | listen fd => exact ⟨mem, rfl, h⟩
  | accept =>
    show ∃ mem', _ ∧ HoldsConns mem' ((t.accept true).elim t (·.1))
    rw [step, VTcp.accept]
    cases hp : SlotTable.first (fun p => p.used && p.gotFinalAck) t.pendingAccepts with
    | none => exact ⟨mem, rfl, h⟩
    | some p =>
      refine resetConn_checked h (t.allocVTcpConn true) (c := VTcp.acceptedConn (t.pendingAccepts p) t.nextSyntheticFd)
        rfl rfl ?_
      cases t.allocVTcpConn true <;> rfl
  | connect fd dstIp dstPort ourIsn =>
    refine resetConn_checked h (t.allocVTcpConn true) (c := VTcp.connectingConn fd dstIp dstPort ourIsn) rfl rfl ?_
    cases hk : t.allocVTcpConn true with
    | none => rw [VTcp.step_connect_of_none localIp fd dstIp dstPort ourIsn hk]; rfl
    | some k => rw [VTcp.step_connect_of_some localIp fd dstIp dstPort ourIsn hk]; rfl
  | connectTimedOut fd =>
    refine resetConn_checked h (t.findVTcpConnByFd true fd) (c := {}) rfl rfl ?_
    show (t.connectTimedOut true fd).conns = _
    unfold VTcp.connectTimedOut
    cases t.findVTcpConnByFd true fd <;> rfl
  | close fd =>
    refine resetConn_checked h (t.findVTcpConnByFd true fd) (c := {}) rfl rfl ?_
    show (t.close true localIp fd).1.conns = _
    unfold VTcp.close
    cases t.findVTcpConnByFd true fd <;> rfl

end Conns

/-! ## Runs of the console -/

/-- The arrays that an inbound packet can reach. -/
structure Memory where
  conns : ConnsMemory := fun _ => .zero
  queue : QueueMemory := emptyQueue

structure Holds (mem : Memory) (C : Console) : Prop where
  conns : HoldsConns mem.conns C.service.vtcp
  queue : HoldsQueue mem.queue C.controlQueue

/-- The body of the popping loop of `DrainRawRelayQueue`. -/
def drainPacket (C : Console) (mem : Memory) (pkt : Bytes) : Option Memory :=
  if pkt.length < 20 then some mem
  else do
    let proto ← loadByte pkt 9
    if proto = 17 then
      let queue ← file mem.queue pkt
      return { mem with queue := queue }
    if proto ≠ 6 then return mem
    match ← parseIpv4Tcp pkt with
    | none => return mem
    | some s =>
      if C.service.activeLdnInstance.isNone || s.header.dstPort != ldnControlPort then return mem
      let conns ← handleTcpSegment C.service.vtcp mem.conns s pkt
      return { mem with conns := conns }

/-- The arrays in one move of the console. -/
def move (C : Console) (mem : Memory) : Console.Move → Option Memory
  | .packet _ pkt => drainPacket C mem pkt
  | .read port bufSize addrSize => do
    let (queue, _) ← recvFrom mem.queue port (fun _ : Fin bufSize => 0) (fun _ : Fin addrSize => 0)
    return { mem with queue := queue }
  | .step op =>
    match C.service.vtcpCall op with
    | none => some mem
    | some (_, call) => do
      let conns ← step C.service.vtcp mem.conns call
      return { mem with conns := conns }

/-- The arrays after a run of moves. -/
def moves : Console → Memory → List Console.Move → Option Memory
  | _, mem, [] => some mem
  | C, mem, m :: ms => do
    let mem' ← move C mem m
    moves (C.move m) mem' ms

section Moves

variable {C : Console} {mem : Memory}

theorem holds_init : Holds {} {} where
  conns _ := holdsConn_zero rfl rfl
  queue := holdsQueue_empty

theorem drainPacket_checked (h : Holds mem C) (ourIsn : UInt32) (pkt : Bytes) :
    ∃ mem', drainPacket C mem pkt = some mem' ∧ Holds mem' (C.drainPacket ourIsn pkt).1 := by
  unfold drainPacket Console.drainPacket
  split
  · exact ⟨mem, rfl, h⟩
  rw [loadByte_eq (by omega)]
  simp only [Option.bind_eq_bind, Option.bind_some, Option.pure_def]
  split
  · obtain ⟨queue, hqueue, hold⟩ := file_checked h.queue pkt
    rw [hqueue]
    exact ⟨_, rfl, h.conns, hold⟩
  split
  · exact ⟨mem, rfl, h⟩
  rw [parseIpv4Tcp_checked]
  cases hparse : Slp.parseIpv4Tcp pkt with
  | none => exact ⟨mem, rfl, h⟩
  | some m =>
    obtain ⟨hin, hpayload, hm⟩ := tcpSliceOf_inside hparse
    have hseg : (tcpSliceOf pkt).segment pkt = m := by
      rw [TcpSlice.segment, hpayload]
      exact hm.symm
    have hport : (tcpSliceOf pkt).header.dstPort = m.dstPort := by
      rw [hm]
    simp only [Option.map_some, Option.bind_some, hport, Service.drainSegment]
    split
    · exact ⟨mem, rfl, h⟩
    · obtain ⟨conns, hconns, hold⟩ := handleTcpSegment_checked h.conns (tcpSliceOf pkt) (Nat.le_of_eq hin)
        C.service.lastBridgedLocalIp ourIsn
      rw [hseg] at hold
      rw [hconns]
      exact ⟨_, rfl, hold, h.queue⟩

/-- **No move faults.** -/
theorem move_checked (h : Holds mem C) (m : Console.Move) : ∃ mem', move C mem m = some mem' ∧ Holds mem' (C.move m) := by
  cases m with
  | packet ourIsn pkt => exact drainPacket_checked h ourIsn pkt
  | read port bufSize addrSize =>
    obtain ⟨queue, hqueue, hold⟩ := recvFrom_checked h.queue port (fun _ : Fin bufSize => 0) (fun _ : Fin addrSize => 0)
    rw [move, hqueue]
    exact ⟨_, rfl, h.conns, hold⟩
  | step op =>
    have hvtcp := C.service.vtcp_step op
    rw [move]
    cases hcall : C.service.vtcpCall op with
    | none =>
      rw [hcall] at hvtcp
      exact ⟨mem, rfl, by rw [Console.move, Console.setService, hvtcp]; exact h.conns, h.queue⟩
    | some call =>
      obtain ⟨conns, hconns, hold⟩ := step_checked h.conns call.1 call.2
      rw [hcall] at hvtcp
      refine ⟨{ mem with conns := conns }, ?_, ?_, h.queue⟩
      · dsimp only
        rw [hconns]
        rfl
      show HoldsConns conns (C.service.step op).1.vtcp
      rw [hvtcp]
      exact hold

theorem moves_checked : ∀ (ms : List Console.Move) {C : Console} {mem : Memory}, Holds mem C →
    ∃ mem', moves C mem ms = some mem' ∧ Holds mem' (Runs.run Console.move C ms)
  | [], _, mem, h => ⟨mem, rfl, h⟩
  | m :: ms, _, _, h => by
    obtain ⟨mem', hmem', hold⟩ := move_checked h m
    obtain ⟨mem'', hmem'', hold'⟩ := moves_checked ms hold
    exact ⟨mem'', by rw [moves, hmem']; exact hmem'', hold'⟩

/-- **A packet is handled in bounds from the parser to the caller's buffers.**  In every run of a console the arrays hold what
the model's state says and no recorded length outgrows its array.  Then, for every byte string, both parsers read inside it
and hand out a slice of it, and the drain files it, or appends its payload, without a fault; and a bridged `RecvFrom` copies,
parses again and delivers without one, whatever the port and the caller's buffers. -/
theorem inbound_in_bounds (ms : List Console.Move) :
    ∃ mem, moves {} {} ms = some mem ∧ Holds mem (Runs.run Console.move {} ms) ∧
      (∀ k, (mem.conns k).inbox.len ≤ vtcpInboxCap ∧ (mem.conns k).unackedData.len ≤ vtcpInboxCap) ∧
      (∀ pkt : Bytes,
        (∃ r, parseIpv4Udp pkt = some r ∧ ∀ s, r = some s → s.off + s.len ≤ pkt.length) ∧
        (∃ r, parseIpv4Tcp pkt = some r ∧ ∀ s, r = some s → s.off + s.len ≤ pkt.length) ∧
        ∃ mem', drainPacket (Runs.run Console.move {} ms) mem pkt = some mem') ∧
      (∀ (port : UInt16) (bufSize addrSize : Nat) (buf : ByteArr bufSize) (addr : ByteArr addrSize),
        ∃ queue, recvFrom mem.queue port buf addr =
          some (queue, ((Runs.run Console.move {} ms).controlQueue.recvFrom port bufSize addrSize).2)) := by
  obtain ⟨mem, hmem, hold⟩ := moves_checked ms holds_init
  refine ⟨mem, hmem, hold, fun k => ⟨(hold.conns k).inbox_len, (hold.conns k).unacked_len⟩, fun pkt => ⟨?_, ?_, ?_⟩, ?_⟩
  · refine ⟨_, parseIpv4Udp_checked pkt, fun s hs => ?_⟩
    obtain ⟨d, hd, rfl⟩ := Option.map_eq_some_iff.1 hs
    exact (udpSliceOf_inside hd).1
  · refine ⟨_, parseIpv4Tcp_checked pkt, fun s hs => ?_⟩
    obtain ⟨m, hm, rfl⟩ := Option.map_eq_some_iff.1 hs
    exact Nat.le_of_eq (tcpSliceOf_inside hm).1
  · obtain ⟨mem', hmem', -⟩ := drainPacket_checked hold 0 pkt
    exact ⟨mem', hmem'⟩
  · intro port bufSize addrSize buf addr
    obtain ⟨queue, hqueue, -⟩ := recvFrom_checked hold.queue port buf addr
    exact ⟨queue, hqueue⟩

end Moves

/-- A byte of data from an accepted station, and a datagram for port 9. -/
def inboundMoves : List Console.Move :=
  Console.hostSession.map .step ++ [.packet 0 oneBytePacket, .packet 0 (ControlQueue.datagramTo 9)]

theorem inbound_in_bounds_inboundMoves : ∃ mem, moves {} {} inboundMoves = some mem ∧
    Holds mem (Runs.run Console.move {} inboundMoves) ∧
    (∃ s, parseIpv4Tcp oneBytePacket = some (some s) ∧ s.off + s.len ≤ oneBytePacket.length) := by
  obtain ⟨mem, hmem, hold, -, hparse, -⟩ := inbound_in_bounds inboundMoves
  obtain ⟨r, hr, hin⟩ := (hparse oneBytePacket).2.1
  cases r with
  | none => exact absurd hr (by decide +kernel)
  | some s => exact ⟨mem, hmem, hold, s, hr, hin s rfl⟩

end Checked
end Slp
