import SwitchLanPlay.Tunnel
/-!
# TunnelEof — when the end of file is the end of the stream

`RecvFrom` answers 0 once the inbox is empty and a FIN was seen.  The FIN branch of `HandleTcpSegment` asks neither whether
the data before the FIN has arrived nor whether the FIN carries data, so the answer comes early exactly when a FIN is
handled out of order.  `Drains` is what holds of a connection on which no FIN is; it serves the tunnel and a connection to
any peer that numbers its stream consistently (`Reader`), whose FIN may carry payload.
-/
namespace Slp

open Wire SeqSpace

namespace ByteStream

instance (s s' : ByteStream) : Decidable (s.Grows s') :=
  decidable_of_iff (s.accepted <+: s'.accepted ∧ (s.closed = true → s'.closed = true ∧ s'.accepted = s.accepted) ∧
    s'.returned = s.returned) ⟨fun h => ⟨h.1, h.2.1, h.2.2⟩, fun h => ⟨h.accepted, h.closed, h.returned⟩⟩

instance (s : ByteStream) (base : UInt32) (m : TcpSegment) : Decidable (s.Carries base m) :=
  decidable_of_iff (m.isRst = false ∧
    (m.isSyn = false → m.isFin = false → m.payload ≠ [] →
      ∃ n, n ≤ s.accepted.length ∧ m.seq = seqAt base n ∧ m.payload <+: s.accepted.drop n) ∧
    (m.isSyn = false → m.isFin = true →
      s.closed = true ∧ ∃ n, n ≤ s.accepted.length ∧ m.seq = seqAt base n ∧ m.payload = s.accepted.drop n))
    ⟨fun h => ⟨h.1, h.2.1, h.2.2⟩, fun h => ⟨h.no_rst, h.data, h.fin⟩⟩

end ByteStream

namespace VTcpConn

/-- A FIN that ends the connection finds it established and all the data up to its end received. -/
def FinInOrder (c : VTcpConn) (m : TcpSegment) : Prop :=
  m.isSyn = false → m.isFin = true → c.peerClosed = false →
    c.established = true ∧ m.seq + seqLen m.payload = c.theirSeq

instance (c : VTcpConn) (m : TcpSegment) : Decidable (FinInOrder c m) := by
  unfold FinInOrder
  infer_instance

/-- A receiving connection whose end of file is the end of the stream. -/
structure Drains (base : UInt32) (s : ByteStream) (c : VTcpConn) : Prop where
  fresh : c.synSentAwaitingSynack = true →
    c.established = false ∧ c.peerClosed = false ∧ c.inbox.bytes = [] ∧ s.returned = []
  opened : c.established = true → c.peerClosed = false →
    s.returned ++ c.inbox.bytes <+: s.accepted ∧ c.theirSeq = seqAt base (s.returned ++ c.inbox.bytes).length
  eof : c.peerClosed = true → s.closed = true ∧ s.accepted <+: s.returned ++ c.inbox.bytes

theorem drains_start {base : UInt32} {s : ByteStream} {c : VTcpConn} (hb : c.inbox.bytes = []) (hp : c.peerClosed = false)
    (hr : s.returned = []) (hw : c.synSentAwaitingSynack = true → c.established = false)
    (hseq : c.established = true → c.theirSeq = base) : Drains base s c where
  fresh := fun h => ⟨hw h, hp, hb, hr⟩
  opened := fun he _ => by
    rw [hb, hr, hseq he]
    exact ⟨List.nil_prefix, by simp⟩
  eof := fun h => by rw [hp] at h; cases h

theorem Drains.grows {base : UInt32} {s s' : ByteStream} {c : VTcpConn} (h : Drains base s c) (hg : s.Grows s') :
    Drains base s' c where
  fresh := by rw [hg.returned]; exact h.fresh
  opened := fun he hp => by
    rw [hg.returned]
    obtain ⟨hgot, hseq⟩ := h.opened he hp
    exact ⟨hgot.trans hg.accepted, hseq⟩
  eof := fun hp => by
    obtain ⟨hc, hall⟩ := h.eof hp
    obtain ⟨hc', ha⟩ := hg.closed hc
    rw [hg.returned, ha]
    exact ⟨hc', hall⟩

theorem Drains.congr {base : UInt32} {s : ByteStream} {c c' : VTcpConn} (h : Drains base s c) (he : SameReader c c') :
    Drains base s c' := by
  obtain ⟨h1, h2, h3⟩ := h
  exact ⟨by rw [he.awaiting, he.established, he.peer_closed, he.inbox]; exact h1,
    by rw [he.established, he.peer_closed, he.inbox, he.their_seq]; exact h2,
    by rw [he.peer_closed, he.inbox]; exact h3⟩

theorem drains_recvFrom {base : UInt32} {s : ByteStream} {c : VTcpConn} (h : Drains base s c) (bufSize addrSize : Nat) :
    Drains base { s with returned := s.returned ++ (c.recvFrom bufSize addrSize).2.payload }
      (c.recvFrom bufSize addrSize).1 := by
  obtain ⟨inbox, hc, hsplit⟩ := recvFrom_split c bufSize addrSize
  have hgot : s.returned ++ (c.recvFrom bufSize addrSize).2.payload ++ inbox.bytes = s.returned ++ c.inbox.bytes := by
    rw [List.append_assoc, hsplit]
  rw [hc]
  refine ⟨fun hw => ?_, fun he hp => ?_, fun hp => ?_⟩
  · obtain ⟨he, hp, hb, hr⟩ := h.fresh hw
    rw [hb, List.append_eq_nil_iff] at hsplit
    exact ⟨he, hp, hsplit.2, by simp [hr, hsplit.1]⟩
  · simp only [hgot]
    exact h.opened he hp
  · simp only [hgot]
    exact h.eof hp

/-- **A FIN in order arrives after all that was accepted.** -/
theorem all_received {base : UInt32} {s : ByteStream} {got : Bytes} {m : TcpSegment} (hlt : s.accepted.length < 2 ^ 32)
    (hgot : got <+: s.accepted) (hm : s.Carries base m) (hsyn : m.isSyn = false) (hfin : m.isFin = true)
    (hseq : m.seq + seqLen m.payload = seqAt base got.length) : s.accepted <+: got := by
  obtain ⟨-, n, hn, hs, hpiece⟩ := hm.fin hsyn hfin
  have hend : m.seq + seqLen m.payload = seqAt base s.accepted.length := by
    rw [hs, seqLen, seqAt_add, hpiece, List.length_drop, Nat.add_sub_cancel' hn]
  have hle := hgot.length_le
  have hlen : s.accepted.length = got.length := seqAt_inj hlt (by omega) (hend.symm.trans hseq)
  exact ⟨[], by rw [List.append_nil, hgot.eq_of_length hlen.symm]⟩

/-- **A segment that carries a piece keeps a draining receiver**, its FIN being in order. -/
theorem drains_received {base : UInt32} {s : ByteStream} {c : VTcpConn} {m : TcpSegment} (localIp : UInt32)
    (hlt : s.seqNumbers < 2 ^ 32) (h : Drains base s c) (hm : s.Carries base m)
    (hsynack : c.synSentAwaitingSynack = true → m.isSyn = true → m.seq + 1 = base) (hfin : FinInOrder c m) :
    Drains base s (c.receive localIp m).1 := by
  have hacc : s.accepted.length < 2 ^ 32 := Nat.lt_of_le_of_lt (Nat.le_add_right _ _) hlt
  have hcases := receive_cases c localIp m
  generalize c.receive localIp m = r at hcases
  cases hcases with
  | ignored => exact h
  | aborted hrst =>
    rw [hm.no_rst] at hrst
    cases hrst
  | connected hsyn hack hw =>
    obtain ⟨-, hp, hb, hr⟩ := h.fresh hw
    exact drains_start hb hp hr (fun hf => by cases hf) (fun _ => hsynack hw hsyn)
  | finished hsyn hf =>
    have hclosed := (hm.fin hsyn hf).1
    cases hp : c.peerClosed with
    | true =>
      refine ⟨fun hw => ?_, fun _ hno => (by cases hno), fun _ => h.eof hp⟩
      rw [(h.fresh hw).2.1] at hp
      cases hp
    | false =>
      obtain ⟨he, hseq⟩ := hfin hsyn hf hp
      obtain ⟨hgot, hin⟩ := h.opened he hp
      refine ⟨fun hw => ?_, fun _ hno => (by cases hno), fun _ =>
        ⟨hclosed, all_received hacc hgot hm hsyn hf (hseq.trans hin)⟩⟩
      rw [(h.fresh hw).1] at he
      cases he
  | acked pend hpend => exact h.congr ⟨rfl, rfl, rfl, rfl, rfl⟩
  | filed pend hpend hsyn hnofin hest hne hseq hfit =>
    refine ⟨fun hw => ?_, fun _ hp => ?_, fun hp => ?_⟩
    · rw [(h.fresh hw).1] at hest
      cases hest
    · obtain ⟨hgot, hin⟩ := h.opened hest hp
      rw [ByteBuf.bytes_append, ← List.append_assoc]
      refine ⟨next_piece hacc hgot hm hsyn hnofin hne (hseq.trans hin), ?_⟩
      simp only
      rw [hin, seqLen, seqAt_add, ← List.length_append]
    · obtain ⟨hc, hall⟩ := h.eof hp
      rw [ByteBuf.bytes_append, ← List.append_assoc]
      exact ⟨hc, hall.trans (List.prefix_append _ _)⟩

/-- **`RecvFrom` answers 0 into a non-empty buffer** only with an empty inbox after a FIN. -/
theorem recvFrom_zero {c : VTcpConn} {bufSize addrSize : Nat} (hbuf : 0 < bufSize)
    (h : (c.recvFrom bufSize addrSize).2.ret = 0) : c.inbox.bytes = [] ∧ c.peerClosed = true := by
  unfold recvFrom at h
  by_cases hempty : c.inbox.size = 0
  · rw [if_pos hempty] at h
    refine ⟨List.length_eq_zero_iff.1 hempty, ?_⟩
    by_contra hp
    rw [if_neg hp] at h
    cases h
  · rw [if_neg hempty] at h
    have hzero : (c.inbox.bytes.take bufSize).length = 0 := Int.natCast_eq_zero.1 h
    rw [List.length_take] at hzero
    have : c.inbox.bytes.length ≠ 0 := hempty
    omega

end VTcpConn

namespace Endpoint

theorem reading_drains : Reading VTcpConn.Drains VTcpConn.FinInOrder where
  start := fun hb hp hr hw hseq => VTcpConn.drains_start hb hp hr hw hseq
  grows := VTcpConn.Drains.grows
  congr := VTcpConn.Drains.congr
  rebase := fun h he => ⟨h.fresh, fun he' => (by rw [he] at he'; cases he'), h.eof⟩
  recvFrom := fun bufSize addrSize h => VTcpConn.drains_recvFrom h bufSize addrSize
  received := fun localIp hlt h hm hsyn hG => VTcpConn.drains_received localIp hlt h hm hsyn hG

/-- **End of file on a draining endpoint**: all that was accepted has been returned. -/
theorem all_returned {localIp peerIp base : UInt32} {s : ByteStream} {E E' : Endpoint} {opened : Bool} {fd : Int}
    {bufSize addrSize : Nat} {out : VTcp.Out} {x : UInt32} {r : RecvFromOut}
    (h : Receiving VTcpConn.Drains base s E opened)
    (hstep : Step localIp peerIp E (.recvFrom fd bufSize addrSize) E' out) (hr : out.received = some (x, r))
    (hbuf : 0 < bufSize) (hret : r.ret = 0) : s.accepted <+: s.returned := by
  cases hstep with
  | idle => cases hr
  | recvFrom c p =>
    cases hr
    obtain ⟨hb, hp⟩ := VTcpConn.recvFrom_zero hbuf hret
    have hall := ((h.conn c rfl).eof hp).2
    rwa [hb, List.append_nil] at hall

end Endpoint

/-! ## A connection to any peer -/

/-- One instance and what a peer, a bridge or not, made of its stream. -/
structure Reader where
  table : VTcp
  stream : ByteStream := {}
  opened : Bool := false

namespace Reader

inductive Move where
  | peer (stream : ByteStream)
  | call (op : VTcp.Op)

section Moves

variable (localIp peerIp base : UInt32)

def step (S : Reader) : Move → Reader
  | .peer stream => { S with stream := stream }
  | .call op =>
    let t' := (S.table.step localIp op).1
    { table := t'
      stream := S.stream.afterRecv ((S.table.step localIp op).2.toPeer peerIp).received
      opened := S.opened || (t'.endpoint peerIp).conn.isSome }

/-- The peer goes on with its stream, and what it sends carries a piece of it, numbered from `base`; the instance opens one
connection to it. -/
def May (S : Reader) : Move → Prop
  | .peer stream => S.stream.Grows stream
  | .call op =>
    (∀ ourIsn m, op = .segment ourIsn m → m.srcIp = peerIp →
      S.stream.Carries base m ∧ (m.isSyn = true → m.seq + 1 = base)) ∧
    (∀ fd dstPort ourIsn, op = .connect fd peerIp dstPort ourIsn → S.opened = false) ∧
    (op = .accept → S.opened = true → (S.table.step localIp .accept).1.endpoint peerIp = S.table.endpoint peerIp)

structure Start (S : Reader) : Prop where
  solo : S.table.Solo peerIp
  endpoint : S.table.endpoint peerIp = ⟨none, none⟩
  stream : S.stream = {}
  opened : S.opened = false

/-- Every FIN the instance is handed is in order. -/
def FinsInOrder (S : Reader) (mv : Move) : Prop :=
  ∀ ourIsn m c, mv = .call (.segment ourIsn m) → m.srcIp = peerIp → (S.table.endpoint peerIp).conn = some c → c.FinInOrder m

inductive Reachable : Reader → Prop
  | start {S : Reader} (h : S.Start peerIp) : Reachable S
  | step {S : Reader} (h : Reachable S) (mv : Move) (hmay : S.May localIp peerIp base mv)
      (hfin : S.FinsInOrder peerIp mv) : Reachable (S.step localIp peerIp mv)

end Moves

variable {localIp peerIp base : UInt32} {S : Reader}

theorem opensAlone (hI : Endpoint.Receiving VTcpConn.Drains base S.stream (S.table.endpoint peerIp) S.opened) {op : VTcp.Op}
    (hmay : S.May localIp peerIp base (.call op)) : S.table.OpensAlone peerIp op where
  connect := fun fd dstPort ourIsn hop => (hI.unopened (hmay.2.1 fd dstPort ourIsn hop)).1
  accept := fun r hop hr => by
    cases ho : S.opened with
    | false => exact Or.inl (hI.unopened ho).1
    | true =>
      have hsame := hmay.2.2 hop ho
      have hstep : (S.table.step localIp .accept).1 = (S.table.accept true).elim S.table (·.1) := rfl
      rw [hstep, hr] at hsame
      exact Or.inr hsame

/-- **The receiving half drains in every state of a run.** -/
theorem reachable_drains (h : Reachable localIp peerIp base S) (hlt : S.stream.seqNumbers < 2 ^ 32) :
    S.table.Solo peerIp ∧ Endpoint.Receiving VTcpConn.Drains base S.stream (S.table.endpoint peerIp) S.opened := by
  induction h with
  | start h =>
    rw [h.endpoint, h.stream, h.opened]
    exact ⟨h.solo, fun _ hc => (by cases hc), fun _ => ⟨rfl, rfl, fun _ hp => (by cases hp)⟩⟩
  | @step S h mv hmay hfin ih =>
    cases mv with
    | peer stream =>
      obtain ⟨hsolo, hI⟩ := ih (Nat.lt_of_le_of_lt (ByteStream.Grows.seqNumbers_le hmay) hlt)
      exact ⟨hsolo, hI.grows Endpoint.reading_drains hmay⟩
    | call op =>
      have hnow : S.stream.seqNumbers < 2 ^ 32 := hlt
      obtain ⟨hsolo, hI⟩ := ih hnow
      obtain ⟨hsolo', out, hstep, hshow⟩ := VTcp.endpoint_step hsolo localIp (opensAlone hI hmay)
      have honce : Endpoint.Once peerIp S.opened (S.table.endpoint peerIp) op
          ((S.table.step localIp op).1.endpoint peerIp) :=
        ⟨hmay.2.1, fun hop ho => by rw [hop]; exact hmay.2.2 hop ho⟩
      have hnext := hI.step Endpoint.reading_drains hnow hstep honce (fun ourIsn m hop hsrc => by
        obtain ⟨hcar, hsyn⟩ := hmay.1 ourIsn m hop hsrc
        exact ⟨hcar, fun hbare _ => hsyn hbare.syn, fun c hc =>
          ⟨fun _ hs => hsyn hs, hfin ourIsn m c (by rw [hop]) hsrc hc⟩⟩)
      rw [← hshow.received] at hnext
      exact ⟨hsolo', hnext⟩

/-- Decides `May` and `FinsInOrder`; an `accept` has to be the first that opens the connection. -/
def moveCheck (peerIp base : UInt32) (S : Reader) : Move → Bool
  | .peer stream => decide (S.stream.Grows stream)
  | .call (.segment _ m) =>
    m.srcIp != peerIp || (decide (S.stream.Carries base m) && (!m.isSyn || m.seq + 1 == base) &&
      (S.table.endpoint peerIp).conn.all (fun c => decide (c.FinInOrder m)))
  | .call (.connect _ dstIp _ _) => dstIp != peerIp || !S.opened
  | .call .accept => !S.opened
  | .call _ => true

theorem may_of_moveCheck {mv : Move} (h : S.moveCheck peerIp base mv = true) : S.May localIp peerIp base mv := by
  cases mv with
  | peer stream =>
    show S.stream.Grows stream
    exact of_decide_eq_true h
  | call op =>
    refine ⟨fun ourIsn m hop hsrc => ?_, fun fd dstPort ourIsn hop => ?_, fun hop ho => ?_⟩
    · subst hop
      simp only [moveCheck, hsrc, bne_self_eq_false, Bool.false_or, Bool.and_eq_true, decide_eq_true_eq,
        Bool.or_eq_true, Bool.not_eq_true', beq_iff_eq] at h
      exact ⟨h.1.1, fun hs => h.1.2.resolve_left (by rw [hs]; exact Bool.noConfusion)⟩
    · subst hop
      simpa [moveCheck] using h
    · subst hop
      rw [moveCheck, ho] at h
      cases h

theorem finsInOrder_of_moveCheck {mv : Move} (h : S.moveCheck peerIp base mv = true) :
    S.FinsInOrder peerIp mv := by
  intro ourIsn m c hmv hsrc hc
  subst hmv
  simp only [moveCheck, hsrc, bne_self_eq_false, Bool.false_or, Bool.and_eq_true, hc, Option.all_some,
    decide_eq_true_eq] at h
  exact h.2

/-- The state after a list of moves that are all possible and in order. -/
def run (localIp peerIp base : UInt32) : Reader → List Move → Option Reader
  | S, [] => some S
  | S, mv :: mvs =>
    if S.moveCheck peerIp base mv then run localIp peerIp base (S.step localIp peerIp mv) mvs else none

theorem start_fresh (peerIp : UInt32) : Start peerIp { table := {} } where
  solo := Tunnel.solo_empty peerIp
  endpoint := Tunnel.endpoint_empty peerIp
  stream := rfl
  opened := rfl

theorem reachable_run : ∀ (mvs : List Move) {S S' : Reader}, Reachable localIp peerIp base S →
    run localIp peerIp base S mvs = some S' → Reachable localIp peerIp base S'
  | [], S, S', h, hrun => by
    cases hrun
    exact h
  | mv :: mvs, S, S', h, hrun => by
    rw [run] at hrun
    split at hrun
    · rename_i hmv
      exact reachable_run mvs (h.step mv (may_of_moveCheck hmv) (finsInOrder_of_moveCheck hmv)) hrun
    · cases hrun

end Reader

/-! ## The tunnel -/

namespace Tunnel

/-- Every FIN handed to an end is in order. -/
structure FinsInOrder (clientIp hostIp : UInt32) (T : Tunnel) (mv : Move) : Prop where
  client : ∀ ourIsn m c, mv = .client (.segment ourIsn m) → m.srcIp = hostIp →
    (T.client.endpoint hostIp).conn = some c → c.FinInOrder m
  host : ∀ ourIsn m c, mv = .host (.segment ourIsn m) → m.srcIp = clientIp →
    (T.host.endpoint clientIp).conn = some c → c.FinInOrder m

theorem reachable_drains {clientIp hostIp : UInt32} {T : Tunnel}
    (h : Reachable clientIp hostIp (FinsInOrder clientIp hostIp) T) (hup : T.up.seqNumbers < 2 ^ 32)
    (hdown : T.down.seqNumbers < 2 ^ 32) : Inv clientIp hostIp VTcpConn.Drains T :=
  reachable_inv Endpoint.reading_drains
    (fun _ _ hok => ⟨fun ourIsn m c hmv hsrc hc _ => hok.client ourIsn m c hmv hsrc hc,
      fun ourIsn m c hmv hsrc hc _ => hok.host ourIsn m c hmv hsrc hc⟩) h hup hdown

/-- `RecvFrom` of a table on its connection with a peer. -/
def Answers (t : VTcp) (localIp peerIp : UInt32) (fd : Int) (bufSize addrSize : Nat) (r : RecvFromOut) : Prop :=
  (t.step localIp (.recvFrom fd bufSize addrSize)).2.received = some (peerIp, r)

theorem all_returned {t : VTcp} {localIp peerIp base : UInt32} {s : ByteStream} {opened : Bool} (hsolo : t.Solo peerIp)
    (h : Endpoint.Receiving VTcpConn.Drains base s (t.endpoint peerIp) opened) {fd : Int} {bufSize addrSize : Nat}
    {r : RecvFromOut} (hread : Answers t localIp peerIp fd bufSize addrSize r) (hbuf : 0 < bufSize) (hret : r.ret = 0) :
    s.accepted <+: s.returned := by
  have halone : t.OpensAlone peerIp (.recvFrom fd bufSize addrSize) :=
    ⟨fun _ _ _ hop => (by cases hop), fun _ hop => (by cases hop)⟩
  obtain ⟨-, out, hstep, hshow⟩ := VTcp.endpoint_step hsolo localIp halone
  have hr : out.received = some (peerIp, r) := by
    rw [← hshow.received, hread]
    simp
  exact Endpoint.all_returned h hstep hr hbuf hret

/-- **End of file is not early while FINs come in order**: a `RecvFrom` that answers 0 into a non-empty buffer follows
the return of every byte accepted at the other end, in both directions of the tunnel and from any other peer. -/
theorem eof_after_all {clientIp hostIp localIp peerIp base : UInt32} {T : Tunnel} {S : Reader} {fd : Int}
    {bufSize addrSize : Nat} {r : RecvFromOut} (hbuf : 0 < bufSize) (hret : r.ret = 0) :
    (Reachable clientIp hostIp (FinsInOrder clientIp hostIp) T → T.up.seqNumbers < 2 ^ 32 →
      T.down.seqNumbers < 2 ^ 32 →
        (Answers T.host hostIp clientIp fd bufSize addrSize r → T.up.accepted <+: T.up.returned) ∧
        (Answers T.client clientIp hostIp fd bufSize addrSize r → T.down.accepted <+: T.down.returned)) ∧
    (Reader.Reachable localIp peerIp base S → S.stream.seqNumbers < 2 ^ 32 →
        Answers S.table localIp peerIp fd bufSize addrSize r → S.stream.accepted <+: S.stream.returned) := by
  constructor
  · intro h hup hdown
    obtain ⟨hcs, hhs, bU, bD, hI⟩ := reachable_drains h hup hdown
    constructor
    · intro hread
      exact all_returned hhs hI.host_reads hread hbuf hret
    · intro hread
      exact all_returned hcs hI.client_reads hread hbuf hret
  · intro h hlt hread
    obtain ⟨hsolo, hI⟩ := Reader.reachable_drains h hlt
    exact all_returned hsolo hI hread hbuf hret

/-- Decides `FinsInOrder`. -/
def finsInOrderCheck (clientIp hostIp : UInt32) (T : Tunnel) : Move → Bool
  | .client (.segment _ m) => m.srcIp != hostIp || (T.client.endpoint hostIp).conn.all (fun c => decide (c.FinInOrder m))
  | .host (.segment _ m) => m.srcIp != clientIp || (T.host.endpoint clientIp).conn.all (fun c => decide (c.FinInOrder m))
  | _ => true

theorem finsInOrder_of_check {clientIp hostIp : UInt32} {T : Tunnel} {mv : Move}
    (h : finsInOrderCheck clientIp hostIp T mv = true) : FinsInOrder clientIp hostIp T mv := by
  refine ⟨fun ourIsn m c hmv hsrc hc => ?_, fun ourIsn m c hmv hsrc hc => ?_⟩
  · subst hmv
    simpa [finsInOrderCheck, hsrc, hc] using h
  · subst hmv
    simpa [finsInOrderCheck, hsrc, hc] using h

/-- A handshake, three bytes up and the client's FIN, the host being handed what `last` says and reading after it. -/
def threeBytesThenFin (last : List Move) : List Move :=
  let syn : TcpSegment := ⟨1, 11452, 11452, 100, 0, TCP_SYN, []⟩
  let synAck : TcpSegment := ⟨2, 11452, 11452, 700, 101, TCP_SYN ||| TCP_ACK, []⟩
  let ack : TcpSegment := ⟨1, 11452, 11452, 101, 701, TCP_ACK, []⟩
  [.client (.connect 5 2 11452 100), .host (.segment 700 syn), .client (.segment 0 synAck), .host (.segment 0 ack),
    .host .accept, .client (.sendTo 5 ⟨true, true, 0⟩ [7, 8, 9]), .client (.close 5)] ++ last

def dataUp : TcpSegment := ⟨1, 11452, 11452, 101, 701, TCP_PSH ||| TCP_ACK, [7, 8, 9]⟩

def finUp : TcpSegment := ⟨1, 11452, 11452, 104, 701, TCP_FIN ||| TCP_ACK, []⟩

/-- A peer's handshake, three bytes and a FIN that carries the last two of them once more. -/
def finWithPayload : List Reader.Move :=
  let syn : TcpSegment := ⟨1, 11452, 11452, 100, 0, TCP_SYN, []⟩
  let ack : TcpSegment := ⟨1, 11452, 11452, 101, 701, TCP_ACK, []⟩
  let fin : TcpSegment := ⟨1, 11452, 11452, 102, 701, TCP_FIN ||| TCP_ACK, [8, 9]⟩
  [.call (.segment 700 syn), .call (.segment 0 ack), .call .accept, .peer ⟨[7, 8, 9], true, []⟩,
    .call (.segment 0 dataUp), .call (.segment 0 fin), .call (.recvFrom 1000 8 16)]

theorem eof_after_all_in_order :
    ∃ T S r, r.ret = 0 ∧ Reachable 1 2 (FinsInOrder 1 2) T ∧ T.up.closed = true ∧
      Answers T.host 2 1 1000 8 16 r ∧ T.up.accepted <+: T.up.returned ∧ Reader.Reachable 2 1 101 S ∧
      S.stream.closed = true ∧ Answers S.table 2 1 1000 8 16 r ∧ S.stream.accepted <+: S.stream.returned := by
  have htunnel : (run 1 2 (finsInOrderCheck 1 2) { client := {}, host := {} }
      (threeBytesThenFin [.host (.segment 0 dataUp), .host (.segment 0 finUp), .host (.recvFrom 1000 8 16)])).any
      (fun T => T.up.closed && decide (T.up.seqNumbers < 2 ^ 32) && decide (T.down.seqNumbers < 2 ^ 32) &&
        decide ((T.host.step 2 (.recvFrom 1000 8 16)).2.received = some (1, { ret := 0, errno := .none }))) = true := by
    decide +kernel
  have hreader : (Reader.run 2 1 101 { table := {} } finWithPayload).any
      (fun S => S.stream.closed && decide (S.stream.seqNumbers < 2 ^ 32) &&
        decide ((S.table.step 2 (.recvFrom 1000 8 16)).2.received = some (1, { ret := 0, errno := .none }))) = true := by
    decide +kernel
  obtain ⟨T, hT, h⟩ := (Option.any_eq_true _ _).1 htunnel
  obtain ⟨S, hS, h'⟩ := (Option.any_eq_true _ _).1 hreader
  simp only [Bool.and_eq_true, decide_eq_true_eq] at h h'
  have hreach := reachable_run (fun _ _ => finsInOrder_of_check) _ (.start (start_fresh 1 2)) hT
  have hreach' := Reader.reachable_run _ (.start (Reader.start_fresh 1)) hS
  obtain ⟨hall, hall'⟩ := @eof_after_all 1 2 2 1 101 T S 1000 8 16 { ret := 0, errno := .none } (by decide) rfl
  exact ⟨T, S, _, rfl, hreach, h.1.1.1, h.2, (hall hreach h.1.1.2 h.1.2).1 h.2, hreach', h'.1.1, h'.2,
    hall' hreach' h'.1.2 h'.2⟩

/-- **A FIN that overtakes the data ends the stream early.** -/
theorem fin_overtakes_data :
    ∃ T r, Reachable 1 2 (fun _ _ => True) T ∧ T.up.seqNumbers < 2 ^ 32 ∧ T.down.seqNumbers < 2 ^ 32 ∧
      Answers T.host 2 1 1000 8 16 r ∧ r.ret = 0 ∧ ¬ T.up.accepted <+: T.up.returned := by
  have hrun : (run 1 2 (fun _ _ => true) { client := {}, host := {} }
      (threeBytesThenFin [.host (.segment 0 finUp), .host (.segment 0 dataUp)])).any
      (fun T => decide (T.up.seqNumbers < 2 ^ 32) && decide (T.down.seqNumbers < 2 ^ 32) &&
        decide ((T.host.step 2 (.recvFrom 1000 8 16)).2.received = some (1, { ret := 0, errno := .none })) &&
        decide (¬ T.up.accepted <+: T.up.returned)) = true := by
    decide +kernel
  obtain ⟨T, hT, h⟩ := (Option.any_eq_true _ _).1 hrun
  simp only [Bool.and_eq_true, decide_eq_true_eq] at h
  exact ⟨T, _, reachable_run (fun _ _ _ => trivial) _ (.start (start_fresh 1 2)) hT, h.1.1.1, h.1.1.2, h.1.2, rfl, h.2⟩

end Tunnel
end Slp
