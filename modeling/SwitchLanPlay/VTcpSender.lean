import SwitchLanPlay.SeqSpace
import SwitchLanPlay.VTcpSlots
/-!
# VTcpSender — the bytes a connection has accepted and not seen acknowledged

Beside the table a run keeps, for each slot, what its connection's `SendTo` has accepted since the handshake and how much
of it the peer's cumulative acknowledgements cover (`SendHistory`).  There is one retransmission buffer, which the next
`SendTo` overwrites and `CheckDataRetransmits` releases when it gives up.  As long as each accepted `SendTo` comes when
everything before it is acknowledged, and nothing unacknowledged is given up (`OneInFlight`), the buffer holds exactly
the unacknowledged bytes (`run_holdsUnacked`).
-/
namespace Slp

open Wire SeqSpace

/-- What a connection's `SendTo` accepted since the handshake, from sequence number `base` on, and the highest cumulative
acknowledgement among it. -/
structure SendHistory where
  base : UInt32
  accepted : Bytes
  acked : Nat

namespace SendHistory

/-- An acknowledgement number moves the mark when it falls between the mark and the last accepted byte. -/
def ackedUpTo (h : SendHistory) (ack : UInt32) : SendHistory :=
  let n := (ack - seqAt h.base h.acked).toNat
  if h.acked + n ≤ h.accepted.length then { h with acked := h.acked + n } else h

def start (base : UInt32) : SendHistory := ⟨base, [], 0⟩

end SendHistory

namespace VTcpConn

/-- The bytes from the mark up to `our_seq` are in the retransmission buffer. -/
def HoldsUnacked (c : VTcpConn) (h : SendHistory) : Prop :=
  c.ourSeq = seqAt h.base h.accepted.length ∧
  (h.acked < h.accepted.length → c.hasUnackedData = true ∧ ∃ n, n ≤ h.acked ∧
    c.unackedSeq = seqAt h.base n ∧ c.unackedData.bytes = h.accepted.drop n)

/-- A slot against its history: what holds of a connection once it is established. -/
structure Tracked (c : VTcpConn) (h : SendHistory) : Prop where
  idle : c.used = false → c.established = false
  done : c.established = true → c.synSentAwaitingSynack = false
  acked_le : c.established = true → h.acked ≤ h.accepted.length
  holds : c.established = true → c.HoldsUnacked h

theorem tracked_empty (h : SendHistory) : Tracked {} h where
  idle := fun _ => rfl
  done := fun hc => by cases hc
  acked_le := fun hc => by cases hc
  holds := fun hc => by cases hc

theorem tracked_start {c : VTcpConn} (hu : c.used = true) (hs : c.synSentAwaitingSynack = false) :
    Tracked c (.start c.ourSeq) where
  idle := fun h => by rw [hu] at h; cases h
  done := fun _ => hs
  acked_le := fun _ => Nat.le_refl _
  holds := fun _ => ⟨(seqAt_zero _).symm, fun h => by cases h⟩

/-- **A change outside the sender's fields keeps the slot tracked.** -/
theorem tracked_congr {c c' : VTcpConn} {h : SendHistory} (hc : Tracked c h) (hu : c'.used = c.used)
    (he : c'.established = c.established) (hs : c'.synSentAwaitingSynack = c.synSentAwaitingSynack)
    (ho : c'.ourSeq = c.ourSeq) (hp : c'.hasUnackedData = c.hasUnackedData) (hn : c'.unackedSeq = c.unackedSeq)
    (hd : c'.unackedData = c.unackedData) : Tracked c' h := by
  obtain ⟨h1, h2, h3, h4⟩ := hc
  refine ⟨fun h => ?_, fun h => ?_, fun h => ?_, fun h => ?_⟩
  · rw [he]; exact h1 (hu ▸ h)
  · rw [hs]; exact h2 (he ▸ h)
  · exact h3 (he ▸ h)
  · rw [HoldsUnacked, ho, hp, hn, hd]
    exact h4 (he ▸ h)

/-! ## Acknowledgements -/

theorem holdsUnacked_ackedUpTo {c : VTcpConn} {h : SendHistory} (hh : c.HoldsUnacked h) (ack : UInt32) :
    c.HoldsUnacked (h.ackedUpTo ack) := by
  unfold SendHistory.ackedUpTo
  simp only
  split
  · refine ⟨hh.1, fun hlt => ?_⟩
    simp only at hlt
    obtain ⟨hp, n, hn, hrest⟩ := hh.2 (by omega)
    refine ⟨hp, n, ?_, hrest⟩
    simp only
    omega
  · exact hh

theorem acked_le_ackedUpTo {h : SendHistory} (hle : h.acked ≤ h.accepted.length) (ack : UInt32) :
    (h.ackedUpTo ack).acked ≤ (h.ackedUpTo ack).accepted.length := by
  unfold SendHistory.ackedUpTo
  simp only
  split
  · assumption
  · exact hle

theorem tracked_ackedUpTo {c : VTcpConn} {h : SendHistory} (hc : Tracked c h) (ack : UInt32) :
    Tracked c (h.ackedUpTo ack) where
  idle := hc.idle
  done := hc.done
  acked_le := fun he => acked_le_ackedUpTo (hc.acked_le he) ack
  holds := fun he => holdsUnacked_ackedUpTo (hc.holds he) ack

/-- The acknowledgement that releases the buffer covers every accepted byte. -/
theorem ackedUpTo_all {c : VTcpConn} {h : SendHistory} (hle : h.acked ≤ h.accepted.length) (hh : c.HoldsUnacked h)
    {ack : UInt32} (hack : ack = c.unackedSeq + seqLen c.unackedData.bytes) :
    ¬ (h.ackedUpTo ack).acked < (h.ackedUpTo ack).accepted.length := by
  by_cases hlt : h.acked < h.accepted.length
  · obtain ⟨-, n, hn, hseq, hbytes⟩ := hh.2 hlt
    have hcap : (h.accepted.drop n).length ≤ vtcpInboxCap := by
      rw [← hbytes]
      exact c.unackedData.size_le
    rw [List.length_drop] at hcap
    have hend : ack = seqAt h.base h.accepted.length := by
      rw [hack, hseq, hbytes, seqLen, seqAt_add, List.length_drop, Nat.add_sub_cancel' (by omega)]
    have hdist : (ack - seqAt h.base h.acked).toNat = h.accepted.length - h.acked := by
      rw [hend]
      exact toNat_sub_seqAt h.base hle (by unfold vtcpInboxCap at hcap; omega)
    unfold SendHistory.ackedUpTo
    simp only [hdist]
    rw [if_pos (by omega)]
    simp only
    omega
  · unfold SendHistory.ackedUpTo
    simp only
    split
    · simp only; omega
    · exact hlt

theorem tracked_handleAckNumber {c : VTcpConn} {h : SendHistory} (hc : Tracked c h) (ack : UInt32) :
    Tracked (c.handleAckNumber ack) (h.ackedUpTo ack) := by
  unfold handleAckNumber
  by_cases hrel : (c.hasUnackedData && ack == c.unackedSeq + seqLen c.unackedData.bytes) = true
  · rw [if_pos hrel]
    simp only [Bool.and_eq_true, beq_iff_eq] at hrel
    have ht := tracked_ackedUpTo hc ack
    refine ⟨ht.idle, ht.done, ht.acked_le, fun he => ⟨(ht.holds he).1, fun hlt => ?_⟩⟩
    exact absurd hlt (ackedUpTo_all (hc.acked_le he) (hc.holds he) hrel.2)
  · rw [if_neg hrel]
    exact tracked_ackedUpTo hc ack

/-! ## The connection's own steps -/

theorem tracked_handleSynAck {c : VTcpConn} {h : SendHistory} (hc : Tracked c h) (hu : c.used = true) (localIp : UInt32)
    (m : TcpSegment) :
    Tracked (c.handleSynAck localIp m).1
      (if !c.established && (c.handleSynAck localIp m).1.established then
        .start (c.handleSynAck localIp m).1.ourSeq else h.ackedUpTo m.ack) := by
  unfold handleSynAck
  by_cases hs : (c.synSentAwaitingSynack && m.ack == c.ourIsn + 1) = true
  · rw [if_pos hs]
    simp only [Bool.and_eq_true] at hs
    have hne : c.established = false := by
      by_contra he
      rw [hc.done (by simpa using he)] at hs
      cases hs.1
    simp only [hne, Bool.not_false, Bool.and_self, if_true]
    exact tracked_start hu rfl
  · rw [if_neg hs, if_neg (by simp)]
    exact tracked_ackedUpTo hc m.ack

theorem tracked_handleData {c : VTcpConn} {h : SendHistory} (hc : Tracked c h) (localIp : UInt32) (m : TcpSegment) :
    Tracked (c.handleData localIp m).1 h := by
  unfold handleData
  split
  · exact hc
  split
  · exact hc
  split
  · exact hc
  split
  · exact tracked_congr hc rfl rfl rfl rfl rfl rfl rfl
  · exact hc

theorem established_handleAck (c : VTcpConn) (localIp : UInt32) (m : TcpSegment) :
    (c.handleAck localIp m).1.established = c.established := by
  have hn : (c.handleAckNumber m.ack).established = c.established := by
    unfold handleAckNumber
    split <;> rfl
  rw [← hn, handleAck]
  generalize c.handleAckNumber m.ack = d
  unfold handleData
  split
  · rfl
  split
  · rfl
  split
  · rfl
  split <;> rfl

/-- **A segment from the peer keeps the slot tracked**: its handshake starts a history, its acknowledgement moves the
mark. -/
theorem tracked_receive {c : VTcpConn} {h : SendHistory} (hc : Tracked c h) (hu : c.used = true) (localIp : UInt32)
    (m : TcpSegment) :
    Tracked (c.receive localIp m).1
      (if !c.established && (c.receive localIp m).1.established then .start (c.receive localIp m).1.ourSeq
       else if m.isAck = true then h.ackedUpTo m.ack else h) := by
  have hmark : Tracked c (if m.isAck = true then h.ackedUpTo m.ack else h) := by
    split
    · exact tracked_ackedUpTo hc m.ack
    · exact hc
  have hsame : ∀ {c' : VTcpConn} {h' : SendHistory}, Tracked c' h' → c'.established = c.established →
      Tracked c' (if !c.established && c'.established then .start c'.ourSeq else h') := fun ht he => by
    rw [he, if_neg (by simp)]
    exact ht
  unfold receive
  by_cases hrst : m.isRst = true
  · rw [if_pos hrst]
    have hrest : Tracked c.handleRst _ := tracked_congr hmark rfl rfl rfl rfl rfl rfl rfl
    exact hsame hrest rfl
  rw [if_neg hrst]
  by_cases hack : m.isAck = true
  · rw [if_pos hack] at hmark ⊢
    by_cases hsyn : m.isSyn = true
    · rw [if_neg (by simp [hack]), if_pos (by simp [hsyn, hack])]
      exact tracked_handleSynAck hc hu localIp m
    rw [if_neg (by simp [hsyn]), if_neg (by simp [hsyn])]
    by_cases hfin : m.isFin = true
    · rw [if_pos hfin]
      have hrest : Tracked (c.handleFin localIp m).1 _ := tracked_congr hmark rfl rfl rfl rfl rfl rfl rfl
      exact hsame hrest rfl
    · rw [if_neg hfin, if_neg (by simp [hack])]
      exact hsame (tracked_handleData (tracked_handleAckNumber hc m.ack) localIp m) (established_handleAck c localIp m)
  · rw [if_neg hack] at hmark ⊢
    by_cases hsyn : m.isSyn = true
    · rw [if_pos (by simp [hsyn, hack])]
      exact hsame hc rfl
    rw [if_neg (by simp [hsyn]), if_neg (by simp [hsyn])]
    by_cases hfin : m.isFin = true
    · rw [if_pos hfin]
      have hrest : Tracked (c.handleFin localIp m).1 _ := tracked_congr hc rfl rfl rfl rfl rfl rfl rfl
      exact hsame hrest rfl
    · rw [if_neg hfin, if_pos (by simpa using hack)]
      exact hsame hc rfl

/-- **An accepted `SendTo` with everything before it acknowledged fills the buffer with the unacknowledged bytes.** -/
theorem tracked_sendTo {c : VTcpConn} {h : SendHistory} (hc : Tracked c h) (localIp : UInt32) (relay : RelaySend)
    (buf : Bytes) (hall : 0 ≤ (c.sendTo localIp relay buf).2.2.1 → h.acked = h.accepted.length) :
    Tracked (c.sendTo localIp relay buf).1
      (if 0 ≤ (c.sendTo localIp relay buf).2.2.1 then { h with accepted := h.accepted ++ buf } else h) := by
  unfold sendTo at hall ⊢
  by_cases hup : (!c.established || !relay.connected) = true
  · rw [if_pos hup, if_neg (by simp)]
    exact hc
  rw [if_neg hup] at hall ⊢
  by_cases hlen : buf.length ≤ vtcpInboxCap
  · rw [dif_pos hlen] at hall ⊢
    by_cases hok : relay.ok = true
    · simp only [if_pos hok] at hall ⊢
      rw [if_pos (by omega)]
      have hacked := hall (by omega)
      refine ⟨hc.idle, hc.done, fun _ => ?_, fun he => ⟨?_, fun _ => ⟨rfl, h.accepted.length, ?_, ?_, ?_⟩⟩⟩
      · simp only [List.length_append]
        omega
      · simp only [(hc.holds he).1, seqLen, List.length_append, seqAt_add]
      · simp only [hacked]
        exact Nat.le_refl _
      · exact (hc.holds he).1
      · simp
    · rw [if_neg hok, if_neg (by simp)]
      exact hc
  · rw [dif_neg hlen, if_neg (by simp)]
    exact hc

/-- **A retransmission turn that gives up nothing unacknowledged keeps the slot tracked.** -/
theorem tracked_checkDataRetransmit {c : VTcpConn} {h : SendHistory} (hc : Tracked c h) (localIp : UInt32) (now : UInt64)
    (hkeep : c.hasUnackedData = true → (c.checkDataRetransmit localIp now).1.hasUnackedData = false →
      h.acked = h.accepted.length) : Tracked (c.checkDataRetransmit localIp now).1 h := by
  unfold checkDataRetransmit at hkeep ⊢
  by_cases hidle : (!c.used || !c.established || !c.hasUnackedData) = true
  · rw [if_pos hidle]
    exact hc
  rw [if_neg hidle] at hkeep ⊢
  have hpend : c.hasUnackedData = true := by
    simp only [Bool.or_eq_true, Bool.not_eq_true', not_or, Bool.not_eq_false] at hidle
    exact hidle.2
  by_cases hwait : now - c.lastSendTickMs < dataRetransmitIntervalMs
  · rw [if_pos hwait]
    exact hc
  rw [if_neg hwait] at hkeep ⊢
  by_cases hgive : maxDataRetransmits ≤ c.retransmitCount
  · rw [if_pos hgive] at hkeep ⊢
    have hall := hkeep hpend rfl
    refine ⟨hc.idle, hc.done, hc.acked_le, fun he => ⟨(hc.holds he).1, fun hlt => ?_⟩⟩
    omega
  · rw [if_neg hgive]
    exact tracked_congr hc rfl rfl rfl rfl rfl rfl rfl

theorem established_checkDataRetransmit (c : VTcpConn) (localIp : UInt32) (now : UInt64) :
    (c.checkDataRetransmit localIp now).1.established = c.established := by
  unfold checkDataRetransmit
  split
  · rfl
  split
  · rfl
  split <;> rfl

theorem established_sendTo (c : VTcpConn) (localIp : UInt32) (relay : RelaySend) (buf : Bytes) :
    (c.sendTo localIp relay buf).1.established = c.established := by
  unfold sendTo
  split
  · rfl
  split
  · split <;> rfl
  · rfl

end VTcpConn

/-! ## Runs of the table -/

namespace VTcp

open VTcpConn

/-- The history of a slot after a call that does not establish its connection. -/
def marked (t : VTcp) (localIp : UInt32) (log : Fin maxVTcpConns → SendHistory) (op : Op) (k : Fin maxVTcpConns) :
    SendHistory :=
  match op with
  | .segment _ m =>
    if t.findVTcpConnByPeer true m.srcIp = some k ∧ m.isAck = true then (log k).ackedUpTo m.ack else log k
  | .sendTo fd relay buf =>
    if t.findVTcpConnByFd true fd = some k ∧ 0 ≤ ((t.conns k).sendTo localIp relay buf).2.2.1 then
      { log k with accepted := (log k).accepted ++ buf }
    else log k
  | _ => log k

/-- The histories after a call: a connection that becomes established starts one. -/
def historyStep (t : VTcp) (localIp : UInt32) (log : Fin maxVTcpConns → SendHistory) (op : Op) (k : Fin maxVTcpConns) :
    SendHistory :=
  if !(t.conns k).established && ((t.step localIp op).1.conns k).established then
    .start ((t.step localIp op).1.conns k).ourSeq
  else t.marked localIp log op k

/-- A `SendTo` is accepted only when everything before it is acknowledged, and nothing unacknowledged is given up. -/
def OneInFlight (t : VTcp) (localIp : UInt32) (log : Fin maxVTcpConns → SendHistory) : Op → Prop
  | .sendTo fd relay buf => ∀ k, t.findVTcpConnByFd true fd = some k →
      0 ≤ ((t.conns k).sendTo localIp relay buf).2.2.1 → (log k).acked = (log k).accepted.length
  | .checkDataRetransmits now => ∀ k, (t.conns k).hasUnackedData = true →
      ((t.conns k).checkDataRetransmit localIp now).1.hasUnackedData = false → (log k).acked = (log k).accepted.length
  | _ => True

/-- The table and the histories after a run. -/
def runLogged (localIp : UInt32) (t : VTcp) (log : Fin maxVTcpConns → SendHistory) :
    List Op → VTcp × (Fin maxVTcpConns → SendHistory)
  | [] => (t, log)
  | op :: ops => runLogged localIp (t.step localIp op).1 (t.historyStep localIp log op) ops

def OneInFlightThroughout (localIp : UInt32) (t : VTcp) (log : Fin maxVTcpConns → SendHistory) : List Op → Prop
  | [] => True
  | op :: ops => t.OneInFlight localIp log op ∧
      OneInFlightThroughout localIp (t.step localIp op).1 (t.historyStep localIp log op) ops

/-- Every slot against its history. -/
def AllTracked (t : VTcp) (log : Fin maxVTcpConns → SendHistory) : Prop := ∀ k, Tracked (t.conns k) (log k)

variable {t : VTcp} {localIp : UInt32} {log : Fin maxVTcpConns → SendHistory} {k : Fin maxVTcpConns}

theorem used_of_findByPeer {peerIp : UInt32} (h : t.findVTcpConnByPeer true peerIp = some k) :
    (t.conns k).used = true ∧ (t.conns k).peerIp = peerIp := by
  rw [findVTcpConnByPeer, if_pos rfl] at h
  simpa using SlotTable.apply_of_first h

/-- A slot that a call leaves, its history marked or not. -/
theorem tracked_marked (h : Tracked (t.conns k) (log k)) {op : Op} (hk : t.named op ≠ some k) :
    Tracked (t.conns k) (t.marked localIp log op k) := by
  cases op with
  | segment ourIsn m =>
    unfold marked
    dsimp only
    split
    · exact tracked_ackedUpTo h m.ack
    · exact h
  | sendTo fd relay buf =>
    have hne : t.findVTcpConnByFd true fd ≠ some k := hk
    simpa [marked, hne] using h
  | _ => exact h

theorem tracked_of_not_established {c : VTcpConn} (he : c.established = false) (h : SendHistory) : Tracked c h where
  idle := fun _ => he
  done := fun hc => by rw [he] at hc; cases hc
  acked_le := fun hc => by rw [he] at hc; cases hc
  holds := fun hc => by rw [he] at hc; cases hc

/-- **A call that meets the condition keeps every slot tracked.** -/
theorem tracked_step (h : t.AllTracked log) {op : Op} (hone : t.OneInFlight localIp log op) :
    (t.step localIp op).1.AllTracked (t.historyStep localIp log op) := by
  intro k
  have hstep := step_slotStep t localIp k op
  unfold historyStep
  generalize (t.step localIp op).1.conns k = c at hstep ⊢
  cases hstep with
  | kept _ hk =>
    rw [if_neg (by simp)]
    exact tracked_marked (h k) hk
  | received ourIsn m hk =>
    have hrec := tracked_receive (h k) (used_of_findByPeer hk).1 localIp m
    simpa [marked, hk] using hrec
  | retransmitted now =>
    rw [established_checkDataRetransmit, if_neg (by simp)]
    exact tracked_checkDataRetransmit (h k) localIp now (hone k)
  | sent fd relay buf hk =>
    rw [established_sendTo, if_neg (by simp)]
    simpa [marked, hk] using tracked_sendTo (h k) localIp relay buf (hone k hk)
  | read fd bufSize addrSize =>
    have hinbox : ∃ inbox, ((t.conns k).recvFrom bufSize addrSize).1 = { t.conns k with inbox := inbox } := by
      unfold recvFrom
      split
      · exact ⟨_, rfl⟩
      · exact ⟨_, rfl⟩
    obtain ⟨inbox, hi⟩ := hinbox
    rw [hi, if_neg (by simp)]
    exact tracked_congr (h k) rfl rfl rfl rfl rfl rfl rfl
  | cleared => exact tracked_of_not_established rfl _
  | accepted p hfree =>
    -- a free slot has no established connection, so the handshake starts a history
    rw [(h k).idle hfree]
    exact tracked_start rfl rfl
  | connecting => exact tracked_of_not_established rfl _

theorem tracked_run : ∀ (ops : List Op) (t : VTcp) (log : Fin maxVTcpConns → SendHistory), t.AllTracked log →
    OneInFlightThroughout localIp t log ops →
    (runLogged localIp t log ops).1.AllTracked (runLogged localIp t log ops).2
  | [], _, _, h, _ => h
  | _ :: ops, _, _, h, hone => tracked_run ops _ _ (tracked_step h hone.1) hone.2

/-- **No accepted byte is forgotten with one segment in flight**: after any run from the empty table whose steps meet the
condition, an established connection's unacknowledged bytes are in its retransmission buffer. -/
theorem run_holdsUnacked (localIp : UInt32) (log : Fin maxVTcpConns → SendHistory) (ops : List Op)
    (hone : OneInFlightThroughout localIp {} log ops) (k : Fin maxVTcpConns)
    (he : ((runLogged localIp {} log ops).1.conns k).established = true) :
    ((runLogged localIp {} log ops).1.conns k).HoldsUnacked ((runLogged localIp {} log ops).2 k) :=
  (tracked_run ops {} log (fun k => tracked_empty (log k)) hone k).holds he

/-! ## One and two segments in flight -/

/-- A client's connection to a host, its handshake done and the given `SendTo` calls made. -/
def clientSends (bufs : List Bytes) : List Op :=
  [.connect 3 0x0A0D0001 ldnControlPort 100,
    .segment 0 { srcIp := 0x0A0D0001, srcPort := ldnControlPort, dstPort := ldnControlPort, seq := 500, ack := 101,
                 flags := TCP_SYN ||| TCP_ACK, payload := [] }] ++
  bufs.map (fun buf => .sendTo 3 { connected := true, ok := true, now := 0 } buf)

def noHistory (_ : Fin maxVTcpConns) : SendHistory := .start 0

theorem run_holdsUnacked_one :
    ((runLogged 0x0A0D0002 {} noHistory (clientSends [[1]])).1.conns ⟨0, by decide⟩).HoldsUnacked
      ((runLogged 0x0A0D0002 {} noHistory (clientSends [[1]])).2 ⟨0, by decide⟩) :=
  run_holdsUnacked 0x0A0D0002 noHistory (clientSends [[1]])
    ⟨trivial, trivial, by intro k; revert k; decide +kernel, trivial⟩ _ (by decide +kernel)

/-- **A second `SendTo` before the acknowledgement forgets the first**: byte 1 was accepted, is not acknowledged and is
nowhere. -/
theorem second_send_forgets_first :
    ((runLogged 0x0A0D0002 {} noHistory (clientSends [[1], [2]])).1.conns ⟨0, by decide⟩).established = true ∧
    ((runLogged 0x0A0D0002 {} noHistory (clientSends [[1], [2]])).1.conns ⟨0, by decide⟩).peerClosed = false ∧
    ¬ ((runLogged 0x0A0D0002 {} noHistory (clientSends [[1], [2]])).1.conns ⟨0, by decide⟩).HoldsUnacked
      ((runLogged 0x0A0D0002 {} noHistory (clientSends [[1], [2]])).2 ⟨0, by decide⟩) := by
  refine ⟨by decide +kernel, by decide +kernel, fun hh => ?_⟩
  obtain ⟨hle, hheld, hacc⟩ : ((runLogged 0x0A0D0002 {} noHistory (clientSends [[1], [2]])).2 ⟨0, by decide⟩).acked = 0 ∧
      ((runLogged 0x0A0D0002 {} noHistory (clientSends [[1], [2]])).1.conns ⟨0, by decide⟩).unackedData.bytes = [2] ∧
      ((runLogged 0x0A0D0002 {} noHistory (clientSends [[1], [2]])).2 ⟨0, by decide⟩).accepted = [1, 2] := by
    decide +kernel
  obtain ⟨-, n, hn, -, hbytes⟩ := hh.2 (by rw [hle, hacc]; decide)
  rw [hle] at hn
  rw [hheld, hacc, Nat.le_zero.1 hn] at hbytes
  cases hbytes

end VTcp
end Slp
