import SwitchLanPlay.SeqSpace
import SwitchLanPlay.VTcp
/-!
# VTcpStream — one connection against the byte streams of its two directions

A `ByteStream` is one direction of a connection: what the sending end's `SendTo` accepted, whether it sent its FIN, and
what the receiving end's `RecvFrom` returned.  `Carries` says that a segment carries a piece of the stream under the right
sequence numbers.  `Reads` ties a receiving connection to the stream and `Sends` a sending one; both are kept by every
branch of the code, the receiving one for every segment that carries a piece (`reads_received`), and what the sending one
emits carries pieces (`sends_sendTo`, `sends_receive`, `sends_checkDataRetransmit`, `carries_close`).
-/
namespace Slp

open Wire SeqSpace

structure ByteStream where
  accepted : Bytes := []
  closed : Bool := false
  returned : Bytes := []

namespace ByteStream

/-- The sequence numbers the stream has used: its bytes, and one for a FIN. -/
def seqNumbers (s : ByteStream) : Nat := s.accepted.length + (if s.closed then 1 else 0)

/-- The sending end goes on: it accepts more until it has sent its FIN. -/
structure Grows (s s' : ByteStream) : Prop where
  accepted : s.accepted <+: s'.accepted
  closed : s.closed = true → s'.closed = true ∧ s'.accepted = s.accepted
  returned : s'.returned = s.returned

theorem grows_refl (s : ByteStream) : s.Grows s := ⟨List.prefix_refl _, fun h => ⟨h, rfl⟩, rfl⟩

theorem Grows.seqNumbers_le {s s' : ByteStream} (h : s.Grows s') : s.seqNumbers ≤ s'.seqNumbers := by
  have hlen := h.accepted.length_le
  unfold seqNumbers
  by_cases hc : s.closed = true
  · rw [if_pos hc, if_pos (h.closed hc).1]
    omega
  · rw [if_neg hc]
    omega

/-- A segment that carries a piece of the stream, its data numbered from `base`; a FIN comes after the last byte. -/
structure Carries (s : ByteStream) (base : UInt32) (m : TcpSegment) : Prop where
  no_rst : m.isRst = false
  data : m.isSyn = false → m.isFin = false → m.payload ≠ [] →
    ∃ n, n ≤ s.accepted.length ∧ m.seq = seqAt base n ∧ m.payload <+: s.accepted.drop n
  fin : m.isSyn = false → m.isFin = true →
    s.closed = true ∧ ∃ n, n ≤ s.accepted.length ∧ m.seq = seqAt base n ∧ m.payload = s.accepted.drop n

/-- A segment without payload, SYN, FIN and RST carries nothing. -/
theorem carries_empty (s : ByteStream) (base : UInt32) {m : TcpSegment} (hr : m.isRst = false) (hf : m.isFin = false)
    (hp : m.payload = []) : s.Carries base m where
  no_rst := hr
  data := fun _ _ hne => absurd hp hne
  fin := fun _ h => by rw [hf] at h; cases h

theorem Carries.grows {s s' : ByteStream} {base : UInt32} {m : TcpSegment} (h : s.Carries base m) (hg : s.Grows s') :
    s'.Carries base m where
  no_rst := h.no_rst
  data := fun hs hf hp => by
    obtain ⟨n, hn, hseq, hpiece⟩ := h.data hs hf hp
    exact ⟨n, Nat.le_trans hn hg.accepted.length_le, hseq, piece_mono hg.accepted hpiece hn⟩
  fin := fun hs hf => by
    obtain ⟨hc, n, hn, hseq, hpiece⟩ := h.fin hs hf
    obtain ⟨hc', ha⟩ := hg.closed hc
    exact ⟨hc', n, by rw [ha]; exact hn, hseq, by rw [ha]; exact hpiece⟩

end ByteStream

/-! ## What a segment does to a connection -/

namespace VTcpConn

/-- The outcomes of a segment for the connection of its source. -/
inductive Received (c : VTcpConn) (localIp : UInt32) (m : TcpSegment) : VTcpConn × List Segment → Prop
  | ignored : Received c localIp m (c, [])
  | aborted (hrst : m.isRst = true) : Received c localIp m (c.handleRst, [])
  | connected (hsyn : m.isSyn = true) (hack : m.isAck = true) (hwait : c.synSentAwaitingSynack = true) :
      Received c localIp m
        ({ c with theirSeq := m.seq + 1, ourSeq := c.ourIsn + 1, synSentAwaitingSynack := false, established := true },
          [m.reply localIp (c.ourIsn + 1) (m.seq + 1) TCP_ACK])
  | finished (hsyn : m.isSyn = false) (hfin : m.isFin = true) : Received c localIp m (c.handleFin localIp m)
  | acked (pend : Bool) (hpend : pend = true → c.hasUnackedData = true) :
      Received c localIp m ({ c with hasUnackedData := pend }, [])
  | filed (pend : Bool) (hpend : pend = true → c.hasUnackedData = true) (hsyn : m.isSyn = false) (hfin : m.isFin = false)
      (hest : c.established = true) (hne : m.payload ≠ []) (hseq : m.seq = c.theirSeq)
      (hfit : c.inbox.size + m.payload.length ≤ vtcpInboxCap) :
      Received c localIp m
        ({ c with hasUnackedData := pend, inbox := c.inbox.append m.payload hfit,
                  theirSeq := c.theirSeq + seqLen m.payload },
          [m.reply localIp c.ourSeq (c.theirSeq + seqLen m.payload) TCP_ACK])

theorem received_handleAck (c : VTcpConn) (localIp : UInt32) {m : TcpSegment} (hsyn : m.isSyn = false)
    (hfin : m.isFin = false) : Received c localIp m (c.handleAck localIp m) := by
  obtain ⟨pend, hpend, hd⟩ : ∃ pend, (pend = true → c.hasUnackedData = true) ∧
      c.handleAckNumber m.ack = { c with hasUnackedData := pend } := by
    unfold handleAckNumber
    split
    · exact ⟨false, fun h => (by cases h), rfl⟩
    · exact ⟨c.hasUnackedData, id, rfl⟩
  rw [handleAck, hd]
  unfold handleData
  by_cases hest : (!c.established || m.payload.length == 0) = true
  · rw [if_pos hest]
    exact .acked pend hpend
  rw [if_neg hest]
  by_cases hseq : m.seq ≠ c.theirSeq
  · rw [if_pos hseq]
    exact .acked pend hpend
  rw [if_neg hseq]
  by_cases hbig : vtcpInboxCap < m.payload.length
  · rw [if_pos hbig]
    exact .acked pend hpend
  rw [if_neg hbig]
  simp only [Bool.or_eq_true, Bool.not_eq_true', beq_iff_eq, not_or, Bool.not_eq_false] at hest
  by_cases hfit : c.inbox.size + m.payload.length ≤ vtcpInboxCap
  · rw [dif_pos hfit]
    exact .filed pend hpend hsyn hfin hest.1 (fun h => hest.2 (by rw [h]; rfl)) (not_not.1 hseq) hfit
  · rw [dif_neg hfit]
    exact .acked pend hpend

/-- **Every segment has one of these outcomes for the connection it is for.** -/
theorem receive_cases (c : VTcpConn) (localIp : UInt32) (m : TcpSegment) :
    Received c localIp m (c.receive localIp m) := by
  unfold receive
  by_cases hrst : m.isRst = true
  · rw [if_pos hrst]
    exact .aborted hrst
  rw [if_neg hrst]
  by_cases hsyn : m.isSyn = true
  · by_cases hack : m.isAck = true
    · rw [if_neg (by simp [hack]), if_pos (by simp [hsyn, hack])]
      unfold handleSynAck
      by_cases hwait : (c.synSentAwaitingSynack && m.ack == c.ourIsn + 1) = true
      · rw [if_pos hwait]
        simp only [Bool.and_eq_true] at hwait
        exact .connected hsyn hack hwait.1
      · rw [if_neg hwait]
        exact .ignored
    · rw [if_pos (by simp [hsyn, hack])]
      exact .ignored
  rw [if_neg (by simp [hsyn]), if_neg (by simp [hsyn])]
  have hnosyn : m.isSyn = false := by simpa using hsyn
  by_cases hfin : m.isFin = true
  · rw [if_pos hfin]
    exact .finished hnosyn hfin
  rw [if_neg hfin]
  by_cases hack : m.isAck = true
  · rw [if_neg (by simp [hack])]
    exact received_handleAck c localIp hnosyn (by simpa using hfin)
  · rw [if_pos (by simpa using hack)]
    exact .ignored

/-! ## The receiving end -/

/-- A receiving connection against the stream: what it has returned and filed is a prefix of what was accepted, and once
established it expects the next byte, or has passed the end. -/
structure Reads (base : UInt32) (s : ByteStream) (c : VTcpConn) : Prop where
  fresh : c.synSentAwaitingSynack = true → c.established = false ∧ c.inbox.bytes = [] ∧ s.returned = []
  got : s.returned ++ c.inbox.bytes <+: s.accepted
  seq : c.established = true → c.theirSeq = seqAt base (s.returned ++ c.inbox.bytes).length ∨
    (s.closed = true ∧ c.theirSeq = seqAt base (s.accepted.length + 1))

theorem reads_start {base : UInt32} {s : ByteStream} {c : VTcpConn} (hb : c.inbox.bytes = []) (hr : s.returned = [])
    (hw : c.synSentAwaitingSynack = true → c.established = false) (hseq : c.established = true → c.theirSeq = base) :
    Reads base s c where
  fresh := fun h => ⟨hw h, hb, hr⟩
  got := by rw [hb, hr]; exact List.nil_prefix
  seq := fun he => Or.inl (by rw [hb, hr, hseq he]; simp)

theorem Reads.grows {base : UInt32} {s s' : ByteStream} {c : VTcpConn} (h : Reads base s c) (hg : s.Grows s') :
    Reads base s' c where
  fresh := by rw [hg.returned]; exact h.fresh
  got := by rw [hg.returned]; exact h.got.trans hg.accepted
  seq := fun he => by
    rw [hg.returned]
    rcases h.seq he with hs | ⟨hc, hs⟩
    · exact Or.inl hs
    · obtain ⟨hc', ha⟩ := hg.closed hc
      exact Or.inr ⟨hc', by rw [ha]; exact hs⟩

/-- The fields a receiver is judged by. -/
structure SameReader (c c' : VTcpConn) : Prop where
  established : c'.established = c.established
  awaiting : c'.synSentAwaitingSynack = c.synSentAwaitingSynack
  inbox : c'.inbox = c.inbox
  their_seq : c'.theirSeq = c.theirSeq
  peer_closed : c'.peerClosed = c.peerClosed

theorem Reads.congr {base : UInt32} {s : ByteStream} {c c' : VTcpConn} (h : Reads base s c) (he : SameReader c c') :
    Reads base s c' := by
  obtain ⟨h1, h2, h3⟩ := h
  exact ⟨by rw [he.awaiting, he.established, he.inbox]; exact h1, by rw [he.inbox]; exact h2,
    by rw [he.established, he.inbox, he.their_seq]; exact h3⟩

/-- **The next piece extends what was received by itself.** -/
theorem next_piece {base : UInt32} {s : ByteStream} {got : Bytes} {m : TcpSegment} (hlt : s.accepted.length < 2 ^ 32)
    (hgot : got <+: s.accepted) (hm : s.Carries base m) (hsyn : m.isSyn = false) (hfin : m.isFin = false)
    (hne : m.payload ≠ []) (hseq : m.seq = seqAt base got.length) : got ++ m.payload <+: s.accepted := by
  obtain ⟨n, hn, hs, hpiece⟩ := hm.data hsyn hfin hne
  have hle := hgot.length_le
  have : n = got.length := seqAt_inj (by omega) (by omega) (hs.symm.trans hseq)
  rw [this] at hpiece
  exact prefix_append_piece hgot hpiece

/-- **A segment that carries a piece keeps the receiver in step with the stream**, its FIN carrying no payload and its
SYN-ACK the right number. -/
theorem reads_received {base : UInt32} {s : ByteStream} {c : VTcpConn} {m : TcpSegment} (localIp : UInt32)
    (hlt : s.seqNumbers < 2 ^ 32) (h : Reads base s c) (hm : s.Carries base m)
    (hfinal : m.isSyn = false → m.isFin = true → m.payload = [])
    (hsynack : c.synSentAwaitingSynack = true → m.isSyn = true → m.seq + 1 = base) :
    Reads base s (c.receive localIp m).1 := by
  have hacc : s.accepted.length < 2 ^ 32 := Nat.lt_of_le_of_lt (Nat.le_add_right _ _) hlt
  have hcases := receive_cases c localIp m
  generalize c.receive localIp m = r at hcases
  cases hcases with
  | ignored => exact h
  | aborted hrst => exact ⟨h.fresh, h.got, h.seq⟩
  | connected hsyn hack hw =>
    obtain ⟨-, hb, hr⟩ := h.fresh hw
    exact reads_start hb hr (fun hf => by cases hf) (fun _ => hsynack hw hsyn)
  | finished hsyn hfin =>
    obtain ⟨hclosed, n, hn, hseq, hpiece⟩ := hm.fin hsyn hfin
    rw [hfinal hsyn hfin] at hpiece
    have hend : n = s.accepted.length := by
      have := congrArg List.length hpiece
      rw [List.length_nil, List.length_drop] at this
      omega
    exact ⟨h.fresh, h.got, fun _ => Or.inr ⟨hclosed, by
      show m.seq + 1 = _
      rw [hseq, hend, seqAt_succ]⟩⟩
  | acked pend hpend => exact h.congr ⟨rfl, rfl, rfl, rfl, rfl⟩
  | filed pend hpend hsyn hfin hest hne hseq hfit =>
    have hin : c.theirSeq = seqAt base (s.returned ++ c.inbox.bytes).length := by
      rcases h.seq hest with hs | ⟨hclosed, hs⟩
      · exact hs
      · -- past the end nothing is left to carry
        obtain ⟨n, hn, hns, hpiece⟩ := hm.data hsyn hfin hne
        have hcount : s.accepted.length + 1 < 2 ^ 32 := by
          rw [ByteStream.seqNumbers, if_pos hclosed] at hlt
          exact hlt
        have : n = s.accepted.length + 1 := seqAt_inj (by omega) hcount (hns.symm.trans (hseq.trans hs))
        omega
    have hgot := next_piece hacc h.got hm hsyn hfin hne (hseq.trans hin)
    refine ⟨fun hw => ?_, ?_, fun _ => Or.inl ?_⟩
    · rw [(h.fresh hw).1] at hest
      cases hest
    · rw [ByteBuf.bytes_append, ← List.append_assoc]
      exact hgot
    · simp only [ByteBuf.bytes_append]
      rw [hin, seqLen, seqAt_add, ← List.append_assoc, ← List.length_append]

/-- **What `RecvFrom` copies out it takes from the front of the inbox.** -/
theorem recvFrom_split (c : VTcpConn) (bufSize addrSize : Nat) : ∃ inbox : ByteBuf vtcpInboxCap,
    (c.recvFrom bufSize addrSize).1 = { c with inbox := inbox } ∧
    (c.recvFrom bufSize addrSize).2.payload ++ inbox.bytes = c.inbox.bytes := by
  unfold recvFrom
  split
  · refine ⟨c.inbox, rfl, ?_⟩
    split <;> rfl
  · exact ⟨c.inbox.drop bufSize, rfl, List.take_append_drop _ _⟩

theorem reads_recvFrom {base : UInt32} {s : ByteStream} {c : VTcpConn} (h : Reads base s c) (bufSize addrSize : Nat) :
    Reads base { s with returned := s.returned ++ (c.recvFrom bufSize addrSize).2.payload }
      (c.recvFrom bufSize addrSize).1 := by
  obtain ⟨inbox, hc, hsplit⟩ := recvFrom_split c bufSize addrSize
  have hgot : s.returned ++ (c.recvFrom bufSize addrSize).2.payload ++ inbox.bytes = s.returned ++ c.inbox.bytes := by
    rw [List.append_assoc, hsplit]
  rw [hc]
  refine ⟨fun hw => ?_, ?_, fun he => ?_⟩
  · obtain ⟨he, hb, hr⟩ := h.fresh hw
    rw [hb, List.append_eq_nil_iff] at hsplit
    exact ⟨he, hsplit.2, by simp [hr, hsplit.1]⟩
  · simp only [hgot]
    exact h.got
  · simp only [hgot]
    exact h.seq he

/-! ## The sending end -/

/-- A sending connection against the stream: its next number is the one after all it accepted, and what it holds for
retransmission is a piece. -/
structure Sends (base : UInt32) (s : ByteStream) (c : VTcpConn) : Prop where
  not_closed : s.closed = false
  waiting : c.synSentAwaitingSynack = true → c.established = false ∧ c.ourIsn + 1 = base ∧ s.accepted = []
  our_seq : c.established = true → c.ourSeq = seqAt base s.accepted.length
  held : c.hasUnackedData = true →
    ∃ n, n ≤ s.accepted.length ∧ c.unackedSeq = seqAt base n ∧ c.unackedData.bytes <+: s.accepted.drop n

theorem sends_start {base : UInt32} {s : ByteStream} {c : VTcpConn} (hc : s.closed = false) (ha : s.accepted = [])
    (hw : c.synSentAwaitingSynack = true → c.established = false ∧ c.ourIsn + 1 = base)
    (hseq : c.established = true → c.ourSeq = base) (hheld : c.hasUnackedData = false) : Sends base s c where
  not_closed := hc
  waiting := fun h => ⟨(hw h).1, (hw h).2, ha⟩
  our_seq := fun he => by rw [ha, hseq he]; simp
  held := fun h => by rw [hheld] at h; cases h

/-- A segment that carries a piece of the stream and neither opens nor ends it. -/
structure Within (s : ByteStream) (base : UInt32) (m : TcpSegment) : Prop where
  carries : s.Carries base m
  no_syn : m.isSyn = false
  no_fin : m.isFin = false

theorem within_reply (s : ByteStream) (base : UInt32) (m : TcpSegment) (localIp seq ack : UInt32) :
    Within s base (m.reply localIp seq ack TCP_ACK).received := by
  have hrst : (m.reply localIp seq ack TCP_ACK).received.isRst = false := (by decide : (TCP_ACK &&& TCP_RST != 0) = false)
  have hsyn : (m.reply localIp seq ack TCP_ACK).received.isSyn = false := (by decide : (TCP_ACK &&& TCP_SYN != 0) = false)
  have hfin : (m.reply localIp seq ack TCP_ACK).received.isFin = false := (by decide : (TCP_ACK &&& TCP_FIN != 0) = false)
  exact ⟨ByteStream.carries_empty s base hrst hfin rfl, hsyn, hfin⟩

theorem within_data {s : ByteStream} {base : UInt32} {c : VTcpConn} {localIp seq : UInt32} {buf : Bytes} {n : Nat}
    (hn : n ≤ s.accepted.length) (hseq : seq = seqAt base n) (hp : buf <+: s.accepted.drop n) :
    Within s base (c.segment localIp seq (TCP_PSH ||| TCP_ACK) buf).received := by
  have hrst : (c.segment localIp seq (TCP_PSH ||| TCP_ACK) buf).received.isRst = false :=
    (by decide : ((TCP_PSH ||| TCP_ACK) &&& TCP_RST != 0) = false)
  have hsyn : (c.segment localIp seq (TCP_PSH ||| TCP_ACK) buf).received.isSyn = false :=
    (by decide : ((TCP_PSH ||| TCP_ACK) &&& TCP_SYN != 0) = false)
  have hfin : (c.segment localIp seq (TCP_PSH ||| TCP_ACK) buf).received.isFin = false :=
    (by decide : ((TCP_PSH ||| TCP_ACK) &&& TCP_FIN != 0) = false)
  exact ⟨⟨hrst, fun _ _ _ => ⟨n, hn, hseq, hp⟩, fun _ hf => by rw [hfin] at hf; cases hf⟩, hsyn, hfin⟩

theorem sends_receive {base : UInt32} {s : ByteStream} {c : VTcpConn} (h : Sends base s c) (localIp : UInt32)
    (m : TcpSegment) : Sends base s (c.receive localIp m).1 ∧
      ∀ g ∈ (c.receive localIp m).2, Within s base g.received := by
  have hone : ∀ (g : Segment), Within s base g.received → ∀ g' ∈ [g], Within s base g'.received := fun g hg g' hg' => by
    rw [List.mem_singleton.1 hg']
    exact hg
  have hcases := receive_cases c localIp m
  generalize c.receive localIp m = r at hcases
  cases hcases with
  | ignored => exact ⟨h, fun g hg => (by cases hg)⟩
  | aborted hrst => exact ⟨⟨h.not_closed, h.waiting, h.our_seq, h.held⟩, fun g hg => (by cases hg)⟩
  | connected hsyn hack hw =>
    obtain ⟨-, hisn, ha⟩ := h.waiting hw
    refine ⟨⟨h.not_closed, fun hf => (by cases hf), fun _ => ?_, h.held⟩, hone _ (within_reply s base m localIp _ _)⟩
    rw [ha]
    simpa using hisn
  | finished hsyn hfin =>
    exact ⟨⟨h.not_closed, h.waiting, h.our_seq, h.held⟩, hone _ (within_reply s base m localIp _ _)⟩
  | acked pend hpend =>
    exact ⟨⟨h.not_closed, h.waiting, h.our_seq, fun hp => h.held (hpend hp)⟩, fun g hg => (by cases hg)⟩
  | filed pend hpend hsyn hfin hest hne hseq hfit =>
    exact ⟨⟨h.not_closed, h.waiting, h.our_seq, fun hp => h.held (hpend hp)⟩, hone _ (within_reply s base m localIp _ _)⟩

theorem sends_checkDataRetransmit {base : UInt32} {s : ByteStream} {c : VTcpConn} (h : Sends base s c)
    (localIp : UInt32) (now : UInt64) : Sends base s (c.checkDataRetransmit localIp now).1 ∧
      ∀ g ∈ (c.checkDataRetransmit localIp now).2, Within s base g.received := by
  unfold checkDataRetransmit
  by_cases hidle : (!c.used || !c.established || !c.hasUnackedData) = true
  · rw [if_pos hidle]
    exact ⟨h, fun g hg => (by cases hg)⟩
  rw [if_neg hidle]
  split
  · exact ⟨h, fun g hg => (by cases hg)⟩
  split
  · exact ⟨⟨h.not_closed, h.waiting, h.our_seq, fun hp => (by cases hp)⟩, fun g hg => (by cases hg)⟩
  · simp only [Bool.or_eq_true, Bool.not_eq_true', not_or, Bool.not_eq_false] at hidle
    obtain ⟨n, hn, hseq, hp⟩ := h.held hidle.2
    refine ⟨⟨h.not_closed, h.waiting, h.our_seq, h.held⟩, fun g hg => ?_⟩
    rw [List.mem_singleton.1 hg]
    exact within_data hn hseq hp

/-- **An accepted `SendTo` appends its bytes and emits the piece they are**; a refused one changes nothing. -/
theorem sends_sendTo {base : UInt32} {s : ByteStream} {c : VTcpConn} (h : Sends base s c) (localIp : UInt32)
    (relay : RelaySend) (buf : Bytes) :
    (0 ≤ (c.sendTo localIp relay buf).2.2.1 ∧
      Sends base { s with accepted := s.accepted ++ buf } (c.sendTo localIp relay buf).1 ∧
      ∀ g ∈ (c.sendTo localIp relay buf).2.1, Within { s with accepted := s.accepted ++ buf } base g.received) ∨
    (¬ 0 ≤ (c.sendTo localIp relay buf).2.2.1 ∧ (c.sendTo localIp relay buf).1 = c ∧
      (c.sendTo localIp relay buf).2.1 = []) := by
  unfold sendTo
  by_cases hready : (!c.established || !relay.connected) = true
  · rw [if_pos hready]
    exact Or.inr ⟨by simp, rfl, rfl⟩
  rw [if_neg hready]
  simp only [Bool.or_eq_true, Bool.not_eq_true', not_or, Bool.not_eq_false] at hready
  by_cases hfit : buf.length ≤ vtcpInboxCap
  · rw [dif_pos hfit]
    by_cases hok : relay.ok = true
    · rw [if_pos hok]
      have hseq := h.our_seq hready.1
      have hpiece : buf <+: (s.accepted ++ buf).drop s.accepted.length :=
        ⟨[], by rw [List.append_nil, List.drop_left]⟩
      have hle : s.accepted.length ≤ (s.accepted ++ buf).length := by simp
      refine Or.inl ⟨Int.natCast_nonneg _, ⟨h.not_closed, fun hw => ?_, fun _ => ?_, fun _ => ?_⟩, fun g hg => ?_⟩
      · have := (h.waiting hw).1
        rw [hready.1] at this
        cases this
      · show c.ourSeq + seqLen buf = _
        rw [hseq, seqLen, seqAt_add, List.length_append]
      · exact ⟨s.accepted.length, hle, hseq, hpiece⟩
      · rw [List.mem_singleton.1 hg]
        exact within_data hle hseq hpiece
    · rw [if_neg hok]
      exact Or.inr ⟨by simp, rfl, rfl⟩
  · rw [dif_neg hfit]
    exact Or.inr ⟨by simp, rfl, rfl⟩

/-- **The FIN of a `Close` carries the end of the stream.** -/
theorem carries_close {base : UInt32} {s : ByteStream} {c : VTcpConn} (h : Sends base s c) (localIp : UInt32) :
    ∀ g ∈ c.close localIp, { s with closed := true }.Carries base g.received ∧ g.received.isSyn = false ∧
      g.received.payload = [] := by
  intro g hg
  unfold close at hg
  split at hg
  · rename_i he
    rw [List.mem_singleton.1 hg]
    have hrst : (c.segment localIp c.ourSeq (TCP_FIN ||| TCP_ACK) []).received.isRst = false :=
      (by decide : ((TCP_FIN ||| TCP_ACK) &&& TCP_RST != 0) = false)
    have hsyn : (c.segment localIp c.ourSeq (TCP_FIN ||| TCP_ACK) []).received.isSyn = false :=
      (by decide : ((TCP_FIN ||| TCP_ACK) &&& TCP_SYN != 0) = false)
    refine ⟨⟨hrst, fun _ _ hne => absurd rfl hne, fun _ _ => ⟨rfl, s.accepted.length, le_rfl, h.our_seq he, ?_⟩⟩, hsyn, rfl⟩
    rw [List.drop_length]
    rfl
  · cases hg

end VTcpConn
end Slp
