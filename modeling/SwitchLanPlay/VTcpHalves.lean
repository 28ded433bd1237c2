import SwitchLanPlay.VTcpEndpoint
import SwitchLanPlay.VTcpStream
/-!
# VTcpHalves — an endpoint as the sending half of one stream and the receiving half of the other

`Sending` and `Receiving` lift what holds of a connection to the endpoint, with or without a connection, and
`opened` says whether the one connection has been opened.  Each is kept by every step of the endpoint.  What is asked of a
receiving connection is a parameter (`Reading`), so the stream's integrity and its end of file share one induction.
-/
namespace Slp

open Wire SeqSpace

namespace ByteStream

/-- A call of the sending end: the bytes it accepted, and the FIN it sent if any. -/
def afterSend (s : ByteStream) (segs : List Segment) (sent : Option (UInt32 × Bytes)) : ByteStream :=
  { s with accepted := s.accepted ++ sent.elim [] (·.2), closed := s.closed || segs.any (·.received.isFin) }

/-- A call of the receiving end: the bytes it returned. -/
def afterRecv (s : ByteStream) (received : Option (UInt32 × RecvFromOut)) : ByteStream :=
  { s with returned := s.returned ++ received.elim [] (·.2.payload) }

theorem afterSend_none {s : ByteStream} {segs : List Segment} (h : ∀ g ∈ segs, g.received.isFin = false) :
    s.afterSend segs none = s := by
  have hany : segs.any (·.received.isFin) = false := by
    rw [List.any_eq_false]
    exact fun g hg => by rw [h g hg]; simp
  simp [afterSend, hany]

theorem afterSend_some {s : ByteStream} {segs : List Segment} {x : UInt32 × Bytes}
    (h : ∀ g ∈ segs, g.received.isFin = false) :
    s.afterSend segs (some x) = { s with accepted := s.accepted ++ x.2 } := by
  have hany : segs.any (·.received.isFin) = false := by
    rw [List.any_eq_false]
    exact fun g hg => by rw [h g hg]; simp
  simp [afterSend, hany]

theorem afterRecv_none (s : ByteStream) : s.afterRecv none = s := by simp [afterRecv]

theorem grows_append {s : ByteStream} (h : s.closed = false) (b : Bytes) : s.Grows { s with accepted := s.accepted ++ b } :=
  ⟨List.prefix_append _ _, fun hc => (by rw [h] at hc; cases hc), rfl⟩

theorem grows_close {s : ByteStream} (b : Bool) : s.Grows { s with closed := s.closed || b } :=
  ⟨List.prefix_refl _, fun hc => ⟨by simp [hc], rfl⟩, rfl⟩

end ByteStream

namespace Endpoint

/-- The endpoint opens one connection: `Connect` and `Accept` open none once one was opened. -/
structure Once (peerIp : UInt32) (opened : Bool) (E : Endpoint) (op : VTcp.Op) (E' : Endpoint) : Prop where
  connect : ∀ fd dstPort ourIsn, op = .connect fd peerIp dstPort ourIsn → opened = false
  accept : op = .accept → opened = true → E' = E

theorem Once.unopened_of_accept {peerIp : UInt32} {opened : Bool} {E E' : Endpoint} (h : Once peerIp opened E .accept E')
    (hne : E' ≠ E) : opened = false := by
  cases opened with
  | true => exact absurd (h.accept rfl rfl) hne
  | false => rfl

/-! ## The sending half -/

structure Sending (base : UInt32) (s : ByteStream) (E : Endpoint) (opened : Bool) : Prop where
  conn : ∀ c, E.conn = some c → VTcpConn.Sends base s c
  unopened : opened = false → E.conn = none ∧ s.accepted = [] ∧ s.closed = false ∧
    ∀ p, E.pending = some p → p.ourIsn + 1 = base

/-- The step's own initial sequence number, if it uses one, is the one the stream is numbered from. -/
structure Numbers (base : UInt32) (opened : Bool) (E E' : Endpoint) : Prop where
  conn : ∀ c, E.conn = none → E'.conn = some c → c.synSentAwaitingSynack = true → c.ourIsn + 1 = base
  pending : ∀ p, opened = false → E.pending = none → E'.pending = some p → p.ourIsn + 1 = base

/-- What a step of the sending half emits: pieces of the stream, its end, and the segments that open the connection. -/
structure Emits (base : UInt32) (s : ByteStream) (peerIp : UInt32) (opened : Bool) (op : VTcp.Op) (E' : Endpoint)
    (g : TcpSegment) : Prop where
  carries : s.Carries base g
  final : g.isSyn = false → g.isFin = true → g.payload = []
  syn : g.isSyn = true → g.isAck = false →
    g.seq + 1 = base ∧ ∃ fd dstPort ourIsn, op = .connect fd peerIp dstPort ourIsn
  syn_ack : g.isSyn = true → g.isAck = true → E'.pending ≠ none ∧ (opened = false → g.seq + 1 = base)

section Sending

variable {base localIp peerIp : UInt32} {s : ByteStream} {E E' : Endpoint} {opened : Bool} {op : VTcp.Op} {out : VTcp.Out}
  {segs : List Segment}

theorem sending_of (hconn : ∀ c, E'.conn = some c → VTcpConn.Sends base s c)
    (hun : opened = false → E'.conn = none → s.accepted = [] ∧ s.closed = false ∧
      ∀ p, E'.pending = some p → p.ourIsn + 1 = base) : Sending base s E' (opened || E'.conn.isSome) where
  conn := hconn
  unopened := fun h => by
    rw [Bool.or_eq_false_iff, Option.isSome_eq_false_iff, Option.isNone_iff_eq_none] at h
    exact ⟨h.2, hun h.1 h.2⟩

theorem Sending.opened_of_conn (h : Sending base s E opened) {c : VTcpConn} (hc : E.conn = some c) : opened = true := by
  cases ho : opened with
  | true => rfl
  | false => rw [(h.unopened ho).1] at hc; cases hc

theorem emits_within {g : TcpSegment} (h : VTcpConn.Within s base g) : Emits base s peerIp opened op E' g where
  carries := h.carries
  final := fun _ hf => by rw [h.no_fin] at hf; cases hf
  syn := fun hs => by rw [h.no_syn] at hs; cases hs
  syn_ack := fun hs => by rw [h.no_syn] at hs; cases hs

/-- A step of a connection that accepts nothing and emits pieces only. -/
theorem Sending.of_conn {p : Option PendingAccept} {c c' : VTcpConn} (h : Sending base s ⟨some c, p⟩ opened)
    (hsends : VTcpConn.Sends base s c') (hsegs : ∀ g ∈ segs, VTcpConn.Within s base g.received) :
    Sending base (s.afterSend segs none) ⟨some c', p⟩ (opened || true) ∧ s.Grows (s.afterSend segs none) ∧
      ∀ g ∈ segs, Emits base (s.afterSend segs none) peerIp opened op ⟨some c', p⟩ g.received := by
  rw [ByteStream.afterSend_none (fun g hg => (hsegs g hg).no_fin)]
  refine ⟨sending_of ?_ ?_, s.grows_refl, fun g hg => emits_within (hsegs g hg)⟩
  · rintro _ ⟨⟩
    exact hsends
  · intro ho
    rw [h.opened_of_conn rfl] at ho
    cases ho

/-- A step that accepts and emits nothing. -/
theorem Sending.of_quiet (h : Sending base s E' (opened || E'.conn.isSome)) (hsegs : ∀ g ∈ segs, g ∈ ([] : List Segment)) :
    Sending base (s.afterSend segs none) E' (opened || E'.conn.isSome) ∧ s.Grows (s.afterSend segs none) ∧
      ∀ g ∈ segs, Emits base (s.afterSend segs none) peerIp opened op E' g.received := by
  obtain rfl := List.eq_nil_of_subset_nil hsegs
  rw [ByteStream.afterSend_none (fun g hg => by cases hg)]
  exact ⟨h, s.grows_refl, fun g hg => (by cases hg)⟩

/-- A step that accepts nothing and emits a segment that opens the connection. -/
theorem Sending.of_opening {o : Segment} (h : Sending base s E' (opened || E'.conn.isSome)) (hsegs : ∀ g ∈ segs, g ∈ [o])
    (hrst : o.received.isRst = false) (hfin : o.received.isFin = false) (hempty : o.received.payload = [])
    (hsyn : o.received.isAck = false → o.received.seq + 1 = base ∧ ∃ fd dstPort ourIsn, op = .connect fd peerIp dstPort ourIsn)
    (hack : o.received.isAck = true → E'.pending ≠ none ∧ (opened = false → o.received.seq + 1 = base)) :
    Sending base (s.afterSend segs none) E' (opened || E'.conn.isSome) ∧ s.Grows (s.afterSend segs none) ∧
      ∀ g ∈ segs, Emits base (s.afterSend segs none) peerIp opened op E' g.received := by
  have hall : ∀ g ∈ segs, g = o := fun g hg => List.mem_singleton.1 (hsegs g hg)
  rw [ByteStream.afterSend_none (fun g hg => by rw [hall g hg]; exact hfin)]
  refine ⟨h, s.grows_refl, fun g hg => ?_⟩
  rw [hall g hg]
  exact ⟨s.carries_empty base hrst hfin hempty, fun _ _ => hempty, fun _ => hsyn, fun _ => hack⟩

/-- A connection that goes away leaves nothing to keep. -/
theorem sending_gone (p : Option PendingAccept) : Sending base s ⟨none, p⟩ (true || false) where
  conn := fun c hc => by cases hc
  unopened := fun ho => by cases ho

/-- A `Close` ends the stream, if it emits anything at all. -/
theorem Sending.close {p : Option PendingAccept} {c : VTcpConn} (h : Sending base s ⟨some c, p⟩ opened)
    (hsegs : ∀ g ∈ segs, g ∈ c.close localIp) :
    Sending base (s.afterSend segs none) ⟨none, p⟩ (opened || false) ∧ s.Grows (s.afterSend segs none) ∧
      ∀ g ∈ segs, Emits base (s.afterSend segs none) peerIp opened op ⟨none, p⟩ g.received := by
  have hclose := VTcpConn.carries_close (h.conn c rfl) localIp
  rw [h.opened_of_conn rfl]
  have hgrows : s.Grows (s.afterSend segs none) := by
    simp only [ByteStream.afterSend, Option.elim_none, List.append_nil]
    exact ByteStream.grows_close _
  refine ⟨sending_gone p, hgrows, fun g hg => ?_⟩
  obtain ⟨hcar, hsyn, hp⟩ := hclose g (hsegs g hg)
  refine ⟨⟨hcar.no_rst, fun hs hf hne => absurd hp hne, fun hs hf => ?_⟩, fun _ _ => hp, fun hs => ?_, fun hs => ?_⟩
  · obtain ⟨-, n, hn, hseq, hpiece⟩ := hcar.fin hs hf
    simp only [ByteStream.afterSend, Option.elim_none, List.append_nil]
    refine ⟨?_, n, hn, hseq, hpiece⟩
    rw [Bool.or_eq_true, List.any_eq_true]
    exact Or.inr ⟨g, hg, hf⟩
  · rw [hsyn] at hs
    cases hs
  · rw [hsyn] at hs
    cases hs

/-- **Every step keeps the sending half**: the stream grows by what the step accepted, and all it emits is numbered from
the same base. -/
theorem Sending.step (h : Sending base s E opened) (hstep : Step localIp peerIp E op E' out)
    (honce : Once peerIp opened E op E') (hnum : Numbers base opened E E') (hsegs : ∀ g ∈ segs, g ∈ out.segs) :
    Sending base (s.afterSend segs out.sent) E' (opened || E'.conn.isSome) ∧ s.Grows (s.afterSend segs out.sent) ∧
      ∀ g ∈ segs, Emits base (s.afterSend segs out.sent) peerIp opened op E' g.received := by
  cases hstep with
  | idle E op =>
    exact Sending.of_quiet (sending_of h.conn (fun ho _ => (h.unopened ho).2)) hsegs
  | request ourIsn m hsrc hsyn =>
    refine Sending.of_opening (sending_of h.conn (fun ho _ => ?_)) hsegs
      (by decide : ((TCP_SYN ||| TCP_ACK) &&& TCP_RST != 0) = false)
      (by decide : ((TCP_SYN ||| TCP_ACK) &&& TCP_FIN != 0) = false) rfl (fun hno => ?_)
      (fun _ => ⟨by simp, fun ho => hnum.pending _ ho rfl rfl⟩)
    · obtain ⟨-, ha, hc, -⟩ := h.unopened ho
      exact ⟨ha, hc, fun p hp => hnum.pending p ho rfl hp⟩
    · have hack : (m.reply localIp ourIsn (m.seq + 1) (TCP_SYN ||| TCP_ACK)).received.isAck = true :=
        (by decide : ((TCP_SYN ||| TCP_ACK) &&& TCP_ACK != 0) = true)
      rw [hack] at hno
      cases hno
  | acknowledge c p ourIsn m hsrc hack hp =>
    refine Sending.of_quiet (sending_of h.conn (fun ho _ => ?_)) hsegs
    obtain ⟨-, ha, hc, hpend⟩ := h.unopened ho
    refine ⟨ha, hc, ?_⟩
    rintro _ ⟨⟩
    exact hpend p rfl
  | receive c p ourIsn m hsrc =>
    obtain ⟨hs, hw⟩ := VTcpConn.sends_receive (h.conn c rfl) localIp m
    exact h.of_conn hs (fun g hg => hw g (hsegs g hg))
  | checkDataRetransmits c p now =>
    obtain ⟨hs, hw⟩ := VTcpConn.sends_checkDataRetransmit (h.conn c rfl) localIp now
    exact h.of_conn hs (fun g hg => hw g (hsegs g hg))
  | sendTo c p fd relay buf =>
    rcases VTcpConn.sends_sendTo (h.conn c rfl) localIp relay buf with ⟨hret, hs, hw⟩ | ⟨hret, hsame, hnone⟩
    · have hw' : ∀ g ∈ segs, VTcpConn.Within { s with accepted := s.accepted ++ buf } base g.received := fun g hg =>
        hw g (hsegs g hg)
      rw [if_pos hret, ByteStream.afterSend_some (fun g hg => (hw' g hg).no_fin)]
      refine ⟨sending_of ?_ ?_, ByteStream.grows_append (h.conn c rfl).not_closed buf, fun g hg => emits_within (hw' g hg)⟩
      · rintro _ ⟨⟩
        exact hs
      · intro ho
        rw [h.opened_of_conn rfl] at ho
        cases ho
    · rw [hsame, if_neg hret]
      rw [hnone] at hsegs
      exact h.of_conn (h.conn c rfl) (fun g hg => (by cases hsegs g hg))
  | recvFrom c p fd bufSize addrSize =>
    have hc := h.conn c rfl
    obtain ⟨inbox, hsame, -⟩ := VTcpConn.recvFrom_split c bufSize addrSize
    rw [hsame]
    exact h.of_conn ⟨hc.not_closed, hc.waiting, hc.our_seq, hc.held⟩ (fun g hg => (by cases hsegs g hg))
  | accept p fd hp =>
    obtain ⟨-, ha, hc, hpend⟩ := h.unopened (honce.unopened_of_accept (fun he => by cases he))
    refine Sending.of_quiet (sending_of ?_ (fun _ hno => by cases hno)) hsegs
    rintro _ ⟨⟩
    exact VTcpConn.sends_start hc ha (fun hw => by cases hw) (fun _ => hpend p rfl) rfl
  | connect p fd dstPort ourIsn =>
    obtain ⟨-, ha, hc, hpend⟩ := h.unopened (honce.connect fd dstPort ourIsn rfl)
    have hisn : ourIsn + 1 = base := hnum.conn _ rfl rfl rfl
    refine Sending.of_opening (sending_of ?_ (fun _ hno => by cases hno)) hsegs
      (by decide : (TCP_SYN &&& TCP_RST != 0) = false) (by decide : (TCP_SYN &&& TCP_FIN != 0) = false) rfl
      (fun _ => ⟨hisn, fd, dstPort, ourIsn, rfl⟩) (fun hyes => ?_)
    · rintro _ ⟨⟩
      exact VTcpConn.sends_start hc ha (fun _ => ⟨rfl, hisn⟩) (fun he => by cases he) rfl
    · have hack : (VTcp.synSegment localIp peerIp dstPort ourIsn).received.isAck = false :=
        (by decide : (TCP_SYN &&& TCP_ACK != 0) = false)
      rw [hack] at hyes
      cases hyes
  | connectTimedOut c p fd =>
    rw [h.opened_of_conn rfl]
    exact Sending.of_quiet (sending_gone p) hsegs
  | close c p fd => exact h.close hsegs

end Sending

/-! ## The receiving half -/

/-- What is asked of a receiving connection: kept by everything but the segments that `G` excludes. -/
structure Reading (R : UInt32 → ByteStream → VTcpConn → Prop) (G : VTcpConn → TcpSegment → Prop) : Prop where
  start : ∀ {base s c}, c.inbox.bytes = [] → c.peerClosed = false → s.returned = [] →
    (c.synSentAwaitingSynack = true → c.established = false) → (c.established = true → c.theirSeq = base) → R base s c
  grows : ∀ {base s s' c}, R base s c → s.Grows s' → R base s' c
  congr : ∀ {base s c c'}, R base s c → VTcpConn.SameReader c c' → R base s c'
  rebase : ∀ {base base' s c}, R base s c → c.established = false → R base' s c
  recvFrom : ∀ {base s c} (bufSize addrSize : Nat), R base s c →
    R base { s with returned := s.returned ++ (c.recvFrom bufSize addrSize).2.payload } (c.recvFrom bufSize addrSize).1
  received : ∀ {base s c m} (localIp : UInt32), s.seqNumbers < 2 ^ 32 → R base s c → s.Carries base m →
    (c.synSentAwaitingSynack = true → m.isSyn = true → m.seq + 1 = base) → G c m → R base s (c.receive localIp m).1

structure Receiving (R : UInt32 → ByteStream → VTcpConn → Prop) (base : UInt32) (s : ByteStream) (E : Endpoint)
    (opened : Bool) : Prop where
  conn : ∀ c, E.conn = some c → R base s c
  unopened : opened = false → E.conn = none ∧ s.returned = [] ∧ ∀ p, E.pending = some p → p.theirIsn + 1 = base

/-- A segment the receiving half is handed: it carries a piece, and opens the connection with the right number. -/
structure Handed (G : VTcpConn → TcpSegment → Prop) (base : UInt32) (s : ByteStream) (E : Endpoint) (opened : Bool)
    (m : TcpSegment) : Prop where
  carries : s.Carries base m
  syn : m.BareSyn → opened = false → m.seq + 1 = base
  conn : ∀ c, E.conn = some c → (c.synSentAwaitingSynack = true → m.isSyn = true → m.seq + 1 = base) ∧ G c m

section Receiving

variable {R : UInt32 → ByteStream → VTcpConn → Prop} {G : VTcpConn → TcpSegment → Prop} {base localIp peerIp : UInt32}
  {s : ByteStream} {E E' : Endpoint} {opened : Bool} {op : VTcp.Op} {out : VTcp.Out}

theorem receiving_of (hconn : ∀ c, E'.conn = some c → R base s c)
    (hun : opened = false → E'.conn = none → s.returned = [] ∧ ∀ p, E'.pending = some p → p.theirIsn + 1 = base) :
    Receiving R base s E' (opened || E'.conn.isSome) where
  conn := hconn
  unopened := fun h => by
    rw [Bool.or_eq_false_iff, Option.isSome_eq_false_iff, Option.isNone_iff_eq_none] at h
    exact ⟨h.2, hun h.1 h.2⟩

/-- A step of a connection. -/
theorem Receiving.of_conn {p : Option PendingAccept} {c : VTcpConn} (h : R base s c) (ho : opened = true) :
    Receiving R base s ⟨some c, p⟩ (opened || true) := by
  refine receiving_of ?_ (fun hf => by rw [ho] at hf; cases hf)
  rintro _ ⟨⟩
  exact h

theorem Receiving.opened_of_conn (h : Receiving R base s E opened) {c : VTcpConn} (hc : E.conn = some c) :
    opened = true := by
  cases ho : opened with
  | true => rfl
  | false => rw [(h.unopened ho).1] at hc; cases hc

theorem receiving_gone (p : Option PendingAccept) : Receiving R base s ⟨none, p⟩ (true || false) where
  conn := fun c hc => by cases hc
  unopened := fun ho => by cases ho

theorem Receiving.grows (hR : Reading R G) (h : Receiving R base s E opened) {s' : ByteStream} (hg : s.Grows s') :
    Receiving R base s' E opened where
  conn := fun c hc => hR.grows (h.conn c hc) hg
  unopened := by rw [hg.returned]; exact h.unopened

theorem sameReader_sendTo (c : VTcpConn) (localIp : UInt32) (relay : VTcpConn.RelaySend) (buf : Bytes) :
    VTcpConn.SameReader c (c.sendTo localIp relay buf).1 := by
  unfold VTcpConn.sendTo
  split
  · exact ⟨rfl, rfl, rfl, rfl, rfl⟩
  split
  · split <;> exact ⟨rfl, rfl, rfl, rfl, rfl⟩
  · exact ⟨rfl, rfl, rfl, rfl, rfl⟩

theorem sameReader_checkDataRetransmit (c : VTcpConn) (localIp : UInt32) (now : UInt64) :
    VTcpConn.SameReader c (c.checkDataRetransmit localIp now).1 := by
  unfold VTcpConn.checkDataRetransmit
  split
  · exact ⟨rfl, rfl, rfl, rfl, rfl⟩
  split
  · exact ⟨rfl, rfl, rfl, rfl, rfl⟩
  split <;> exact ⟨rfl, rfl, rfl, rfl, rfl⟩

/-- **Every step keeps the receiving half**, a segment's if the half was handed it. -/
theorem Receiving.step (hR : Reading R G) (hlt : s.seqNumbers < 2 ^ 32) (h : Receiving R base s E opened)
    (hstep : Step localIp peerIp E op E' out) (honce : Once peerIp opened E op E')
    (hm : ∀ ourIsn m, op = .segment ourIsn m → m.srcIp = peerIp → Handed G base s E opened m) :
    Receiving R base (s.afterRecv out.received) E' (opened || E'.conn.isSome) := by
  cases hstep with
  | idle E op =>
    rw [ByteStream.afterRecv_none]
    exact receiving_of h.conn (fun ho _ => (h.unopened ho).2)
  | request ourIsn m hsrc hsyn =>
    rw [ByteStream.afterRecv_none]
    refine receiving_of h.conn (fun ho _ => ⟨(h.unopened ho).2.1, ?_⟩)
    rintro _ ⟨⟩
    exact (hm ourIsn m rfl hsrc).syn hsyn ho
  | acknowledge c p ourIsn m hsrc hack hp =>
    rw [ByteStream.afterRecv_none]
    refine receiving_of h.conn (fun ho _ => ⟨(h.unopened ho).2.1, ?_⟩)
    rintro _ ⟨⟩
    exact (h.unopened ho).2.2 p rfl
  | receive c p ourIsn m hsrc =>
    rw [ByteStream.afterRecv_none]
    have hm := hm ourIsn m rfl hsrc
    obtain ⟨hsyn, hG⟩ := hm.conn c rfl
    exact Receiving.of_conn (hR.received localIp hlt (h.conn c rfl) hm.carries hsyn hG) (h.opened_of_conn rfl)
  | checkDataRetransmits c p now =>
    rw [ByteStream.afterRecv_none]
    exact Receiving.of_conn (hR.congr (h.conn c rfl) (sameReader_checkDataRetransmit c localIp now)) (h.opened_of_conn rfl)
  | sendTo c p fd relay buf =>
    rw [ByteStream.afterRecv_none]
    exact Receiving.of_conn (hR.congr (h.conn c rfl) (sameReader_sendTo c localIp relay buf)) (h.opened_of_conn rfl)
  | recvFrom c p fd bufSize addrSize =>
    exact Receiving.of_conn (hR.recvFrom bufSize addrSize (h.conn c rfl)) (h.opened_of_conn rfl)
  | accept p fd hp =>
    rw [ByteStream.afterRecv_none]
    obtain ⟨-, hr, hpend⟩ := h.unopened (honce.unopened_of_accept (fun he => by cases he))
    refine receiving_of ?_ (fun _ hno => by cases hno)
    rintro _ ⟨⟩
    exact hR.start rfl rfl hr (fun hw => by cases hw) (fun _ => hpend p rfl)
  | connect p fd dstPort ourIsn =>
    rw [ByteStream.afterRecv_none]
    obtain ⟨-, hr, -⟩ := h.unopened (honce.connect fd dstPort ourIsn rfl)
    refine receiving_of ?_ (fun _ hno => by cases hno)
    rintro _ ⟨⟩
    exact hR.start rfl rfl hr (fun _ => rfl) (fun he => by cases he)
  | connectTimedOut c p fd =>
    rw [ByteStream.afterRecv_none, h.opened_of_conn rfl]
    exact receiving_gone p
  | close c p fd =>
    rw [ByteStream.afterRecv_none, h.opened_of_conn rfl]
    exact receiving_gone p

/-- Only a connection returns bytes. -/
theorem Step.received (hstep : Step localIp peerIp E op E' out) : out.received = none ∨ ∃ c, E'.conn = some c := by
  cases hstep with
  | recvFrom c p fd bufSize addrSize => exact Or.inr ⟨_, rfl⟩
  | _ => exact Or.inl rfl

end Receiving

/-- What `Reads` asks is kept by every segment whose FIN carries no payload. -/
theorem reading_reads : Reading VTcpConn.Reads (fun _ m => m.isSyn = false → m.isFin = true → m.payload = []) where
  start := fun hb _ hr hw hseq => VTcpConn.reads_start hb hr hw hseq
  grows := VTcpConn.Reads.grows
  congr := VTcpConn.Reads.congr
  rebase := fun h he => ⟨h.fresh, h.got, fun he' => by rw [he] at he'; cases he'⟩
  recvFrom := fun bufSize addrSize h => VTcpConn.reads_recvFrom h bufSize addrSize
  received := fun localIp hlt h hm hsyn hG => VTcpConn.reads_received localIp hlt h hm hG hsyn

theorem returned_of_reads {base : UInt32} {s : ByteStream} {E : Endpoint} {opened : Bool}
    {received : Option (UInt32 × RecvFromOut)} (h : Receiving VTcpConn.Reads base (s.afterRecv received) E opened)
    (hr : received = none ∨ ∃ c, E.conn = some c) (hp : s.returned <+: s.accepted) :
    (s.afterRecv received).returned <+: s.accepted := by
  rcases hr with rfl | ⟨c, hc⟩
  · rw [ByteStream.afterRecv_none]
    exact hp
  · exact (List.prefix_append _ _).trans (h.conn c hc).got

end Endpoint
end Slp
