import SwitchLanPlay.VTcpHalves
/-!
# TunnelLink — the two endpoints of one connection and the network between them

A `Link` is what one connection comes down to: the endpoint of the host in the client's table, the endpoint of the client in
the host's, the two byte streams and every segment either sent.  A segment once sent can be delivered at any time and any
number of times, or never.  `Inv` ties both ends to both streams and to all segments sent; it is kept by a step of either
end (`Inv.clientStep`, `Inv.hostStep`).  The initial sequence numbers are chosen during the run, so the two bases are chosen
anew by the steps that open the connection (`Inv.rebaseUp`, `Inv.rebaseDown`).
-/
namespace Slp

open Wire SeqSpace

/-! ## What the opening steps of an endpoint do -/

namespace Endpoint

variable {localIp peerIp : UInt32} {E E' : Endpoint} {op : VTcp.Op} {out : VTcp.Out}

/-- An empty endpoint stays as it is, takes a connection request, or connects. -/
theorem Step.of_empty (hstep : Step localIp peerIp E op E' out) (hc : E.conn = none) (hp : E.pending = none) :
    (E' = E ∧ out = {}) ∨
    (∃ ourIsn m, op = .segment ourIsn m ∧ m.srcIp = peerIp ∧ m.BareSyn ∧ E'.pending ≠ none) ∨
    (∃ fd dstPort ourIsn, op = .connect fd peerIp dstPort ourIsn ∧ E'.conn ≠ none) := by
  cases hstep with
  | idle E op => exact Or.inl ⟨rfl, rfl⟩
  | request ourIsn m hsrc hsyn => exact Or.inr (Or.inl ⟨ourIsn, m, rfl, hsrc, hsyn, by simp⟩)
  | acknowledge c p ourIsn m hsrc hack hq => cases hp
  | receive c p ourIsn m hsrc => cases hc
  | checkDataRetransmits c p now => cases hc
  | sendTo c p fd relay buf => cases hc
  | recvFrom c p fd bufSize addrSize => cases hc
  | accept p fd hq => cases hp
  | connect p fd dstPort ourIsn => exact Or.inr (Or.inr ⟨fd, dstPort, ourIsn, rfl, by simp⟩)
  | connectTimedOut c p fd => cases hc
  | close c p fd => cases hc

theorem Step.pending_none (hstep : Step localIp peerIp E op E' out) (hp : E.pending = none)
    (hreq : ∀ ourIsn m, op = .segment ourIsn m → m.srcIp = peerIp → ¬ m.BareSyn) : E'.pending = none := by
  cases hstep with
  | request ourIsn m hsrc hsyn => exact absurd hsyn (hreq ourIsn m rfl hsrc)
  | acknowledge c p ourIsn m hsrc hack hq => cases hp
  | accept p fd hq => rfl
  | _ => exact hp

/-- Only `Accept` takes a pending entry away. -/
theorem Step.pending_taken (hstep : Step localIp peerIp E op E' out) (hp : E'.pending = none) :
    E.pending = none ∨ E'.conn ≠ none := by
  cases hstep with
  | request ourIsn m hsrc hsyn => cases hp
  | acknowledge c p ourIsn m hsrc hack hq => cases hp
  | accept p fd hq => exact Or.inr (by simp)
  | _ => exact Or.inl hp

/-- Without a segment and a pending entry no connection becomes established. -/
theorem Step.unestablished (hstep : Step localIp peerIp E op E' out) (hp : E.pending = none)
    (he : ∀ c, E.conn = some c → c.established = false)
    (hseg : ∀ ourIsn m, op = .segment ourIsn m → m.srcIp ≠ peerIp) : ∀ c, E'.conn = some c → c.established = false := by
  cases hstep with
  | idle E op => exact he
  | request ourIsn m hsrc hsyn => exact fun c hc => by cases hc
  | acknowledge c p ourIsn m hsrc hack hq => cases hp
  | receive c p ourIsn m hsrc => exact absurd hsrc (hseg ourIsn m rfl)
  | checkDataRetransmits c p now =>
    rintro _ ⟨⟩
    rw [(sameReader_checkDataRetransmit c localIp now).established]
    exact he c rfl
  | sendTo c p fd relay buf =>
    rintro _ ⟨⟩
    rw [(sameReader_sendTo c localIp relay buf).established]
    exact he c rfl
  | recvFrom c p fd bufSize addrSize =>
    rintro _ ⟨⟩
    obtain ⟨inbox, hsame, -⟩ := VTcpConn.recvFrom_split c bufSize addrSize
    rw [hsame]
    exact he c rfl
  | accept p fd hq => cases hp
  | connect p fd dstPort ourIsn =>
    rintro _ ⟨⟩
    rfl
  | connectTimedOut c p fd => exact fun c hc => by cases hc
  | close c p fd => exact fun c hc => by cases hc

/-- A connection that still waits for its SYN-ACK waited before, or has just sent its SYN; it emits nothing else. -/
theorem Step.awaiting (hstep : Step localIp peerIp E op E' out) {c' : VTcpConn} (hc' : E'.conn = some c')
    (hw' : c'.synSentAwaitingSynack = true)
    (hest : ∀ c, E.conn = some c → c.synSentAwaitingSynack = true → c.established = false)
    (hsyn : ∀ c, E.conn = some c → c.synSentAwaitingSynack = true →
      ∀ ourIsn m, op = .segment ourIsn m → m.srcIp = peerIp → m.isSyn = true) :
    ((∃ c, E.conn = some c ∧ c.synSentAwaitingSynack = true) ∨ ∃ fd dstPort ourIsn, op = .connect fd peerIp dstPort ourIsn) ∧
      ∀ g ∈ out.segs, g.received.isSyn = true := by
  cases hstep with
  | idle E op => exact ⟨Or.inl ⟨c', hc', hw'⟩, fun g hg => by cases hg⟩
  | request ourIsn m hsrc hbare => cases hc'
  | acknowledge c p ourIsn m hsrc hack hq => exact ⟨Or.inl ⟨c', hc', hw'⟩, fun g hg => by cases hg⟩
  | receive c p ourIsn m hsrc =>
    cases hc'
    have hs : c.synSentAwaitingSynack = true → m.isSyn = true := fun hw => hsyn c rfl hw ourIsn m rfl hsrc
    have hcases := VTcpConn.receive_cases c localIp m
    generalize c.receive localIp m = r at hcases hw'
    cases hcases with
    | ignored => exact ⟨Or.inl ⟨c, rfl, hw'⟩, fun g hg => by cases hg⟩
    | aborted hrst => exact ⟨Or.inl ⟨c, rfl, hw'⟩, fun g hg => by cases hg⟩
    | connected hsyn hack hw => cases hw'
    | finished hno hfin => rw [hs hw'] at hno; cases hno
    | acked pend hpend => exact ⟨Or.inl ⟨c, rfl, hw'⟩, fun g hg => by cases hg⟩
    | filed pend hpend hno hfin he hne hseq hfit => rw [hs hw'] at hno; cases hno
  | checkDataRetransmits c p now =>
    cases hc'
    rw [(sameReader_checkDataRetransmit c localIp now).awaiting] at hw'
    have he := hest c rfl hw'
    refine ⟨Or.inl ⟨c, rfl, hw'⟩, fun g hg => ?_⟩
    simp [VTcpConn.checkDataRetransmit, he] at hg
  | sendTo c p fd relay buf =>
    cases hc'
    rw [(sameReader_sendTo c localIp relay buf).awaiting] at hw'
    have he := hest c rfl hw'
    refine ⟨Or.inl ⟨c, rfl, hw'⟩, fun g hg => ?_⟩
    simp [VTcpConn.sendTo, he] at hg
  | recvFrom c p fd bufSize addrSize =>
    cases hc'
    obtain ⟨inbox, hsame, -⟩ := VTcpConn.recvFrom_split c bufSize addrSize
    rw [hsame] at hw'
    exact ⟨Or.inl ⟨c, rfl, hw'⟩, fun g hg => by cases hg⟩
  | accept p fd hq =>
    cases hc'
    cases hw'
  | connect p fd dstPort ourIsn =>
    refine ⟨Or.inr ⟨fd, dstPort, ourIsn, rfl⟩, fun g hg => ?_⟩
    rw [List.mem_singleton.1 hg]
    exact (by decide : (TCP_SYN &&& TCP_SYN != 0) = true)
  | connectTimedOut c p fd => cases hc'
  | close c p fd => cases hc'

/-- Before any acknowledgement an endpoint without connection only answers requests. -/
theorem Step.unacknowledged (hstep : Step localIp peerIp E op E' out) (hc : E.conn = none)
    (hp : ∀ p, E.pending = some p → p.gotFinalAck = false)
    (hconn : ∀ fd dstPort ourIsn, op ≠ .connect fd peerIp dstPort ourIsn)
    (hsyn : ∀ ourIsn m, op = .segment ourIsn m → m.srcIp = peerIp → m.isSyn = true) :
    E'.conn = none ∧ (∀ p, E'.pending = some p → p.gotFinalAck = false) ∧ ∀ g ∈ out.segs, g.received.isSyn = true := by
  cases hstep with
  | idle E op => exact ⟨hc, hp, fun g hg => by cases hg⟩
  | request ourIsn m hsrc hbare =>
    refine ⟨rfl, ?_, fun g hg => ?_⟩
    · rintro _ ⟨⟩
      rfl
    · rw [List.mem_singleton.1 hg]
      exact (by decide : ((TCP_SYN ||| TCP_ACK) &&& TCP_SYN != 0) = true)
  | acknowledge c p ourIsn m hsrc hack hq =>
    have := hsyn ourIsn m rfl hsrc
    rw [hack.no_syn] at this
    cases this
  | receive c p ourIsn m hsrc => cases hc
  | checkDataRetransmits c p now => cases hc
  | sendTo c p fd relay buf => cases hc
  | recvFrom c p fd bufSize addrSize => cases hc
  | accept p fd hq =>
    rw [hp p rfl] at hq
    cases hq
  | connect p fd dstPort ourIsn => exact absurd rfl (hconn fd dstPort ourIsn)
  | connectTimedOut c p fd => cases hc
  | close c p fd => cases hc

end Endpoint

/-! ## The link and its invariant -/

structure Link where
  client : Endpoint
  host : Endpoint
  up : ByteStream
  down : ByteStream
  toHost : List Segment
  toClient : List Segment
  connected : Bool
  accepted : Bool

namespace Link

def afterClient (L : Link) (E' : Endpoint) (out : VTcp.Out) (segs : List Segment) : Link :=
  { L with
    client := E'
    up := L.up.afterSend segs out.sent
    down := L.down.afterRecv out.received
    toHost := L.toHost ++ segs
    connected := L.connected || E'.conn.isSome }

def afterHost (L : Link) (E' : Endpoint) (out : VTcp.Out) (segs : List Segment) : Link :=
  { L with
    host := E'
    down := L.down.afterSend segs out.sent
    up := L.up.afterRecv out.received
    toClient := L.toClient ++ segs
    accepted := L.accepted || E'.conn.isSome }

/-- A segment of one direction. -/
structure Sent (base : UInt32) (s : ByteStream) (g : TcpSegment) : Prop where
  carries : s.Carries base g
  final : g.isSyn = false → g.isFin = true → g.payload = []

theorem Sent.grows {base : UInt32} {s s' : ByteStream} {g : TcpSegment} (h : Sent base s g) (hg : s.Grows s') :
    Sent base s' g := ⟨h.carries.grows hg, h.final⟩

theorem Sent.afterRecv {base : UInt32} {s : ByteStream} {g : TcpSegment} (h : Sent base s g)
    (received : Option (UInt32 × RecvFromOut)) : Sent base (s.afterRecv received) g :=
  ⟨⟨h.carries.no_rst, h.carries.data, h.carries.fin⟩, h.final⟩

/-- The state of both ends, the two streams and everything sent, `bU` and `bD` numbering the streams. -/
structure Inv (R : UInt32 → ByteStream → VTcpConn → Prop) (bU bD : UInt32) (L : Link) : Prop where
  client_sends : Endpoint.Sending bU L.up L.client L.connected
  client_reads : Endpoint.Receiving R bD L.down L.client L.connected
  host_sends : Endpoint.Sending bD L.down L.host L.accepted
  host_reads : Endpoint.Receiving R bU L.up L.host L.accepted
  to_host : ∀ g ∈ L.toHost, Sent bU L.up g.received ∧
    (g.received.isSyn = true → g.received.isAck = false ∧ g.received.seq + 1 = bU)
  to_client : ∀ g ∈ L.toClient, Sent bD L.down g.received ∧ (g.received.isSyn = true → g.received.isAck = true)
  no_request : L.client.pending = none
  unconnected : L.connected = false → L.toHost = [] ∧ L.host.pending = none ∧ L.accepted = false
  unrequested : L.accepted = false → L.host.pending = none →
    L.toClient = [] ∧ ∀ c, L.client.conn = some c → c.established = false
  -- until the client has its SYN-ACK, nothing but the handshake has been sent
  early : ∀ c, L.client.conn = some c → c.synSentAwaitingSynack = true → L.accepted = false ∧
    (∀ g ∈ L.toHost, g.received.isSyn = true) ∧
    (∀ g ∈ L.toClient, g.received.isSyn = true ∧ g.received.seq + 1 = bD) ∧
    ∀ p, L.host.pending = some p → p.gotFinalAck = false

variable {R : UInt32 → ByteStream → VTcpConn → Prop} {G : VTcpConn → TcpSegment → Prop} {bU bD : UInt32} {L : Link}
  {localIp peerIp : UInt32} {E E' : Endpoint} {op : VTcp.Op} {out : VTcp.Out} {segs : List Segment}

theorem sending_afterRecv {base : UInt32} {s : ByteStream} {E : Endpoint} {opened : Bool}
    (h : Endpoint.Sending base s E opened) (received : Option (UInt32 × RecvFromOut)) :
    Endpoint.Sending base (s.afterRecv received) E opened where
  conn := fun c hc => by
    obtain ⟨h1, h2, h3, h4⟩ := h.conn c hc
    exact ⟨h1, h2, h3, h4⟩
  unopened := h.unopened

/-- The link on which nothing has happened yet. -/
def empty : Link := ⟨⟨none, none⟩, ⟨none, none⟩, {}, {}, [], [], false, false⟩

theorem inv_empty (R : UInt32 → ByteStream → VTcpConn → Prop) (bU bD : UInt32) : Inv R bU bD empty where
  client_sends := ⟨fun _ hc => (by cases hc), fun _ => ⟨rfl, rfl, rfl, fun _ hp => (by cases hp)⟩⟩
  client_reads := ⟨fun _ hc => (by cases hc), fun _ => ⟨rfl, rfl, fun _ hp => (by cases hp)⟩⟩
  host_sends := ⟨fun _ hc => (by cases hc), fun _ => ⟨rfl, rfl, rfl, fun _ hp => (by cases hp)⟩⟩
  host_reads := ⟨fun _ hc => (by cases hc), fun _ => ⟨rfl, rfl, fun _ hp => (by cases hp)⟩⟩
  to_host := fun _ hg => by cases hg
  to_client := fun _ hg => by cases hg
  no_request := rfl
  unconnected := fun _ => ⟨rfl, rfl, rfl⟩
  unrequested := fun _ _ => ⟨rfl, fun _ hc => (by cases hc)⟩
  early := fun _ hc => by cases hc

theorem no_segs (hsegs : ∀ g ∈ segs, g ∈ out.segs) (hout : out = {}) : segs = [] := by
  subst hout
  exact List.eq_nil_of_subset_nil hsegs

/-- A segment of `net` that an end is handed. -/
structure Delivers (net : List Segment) (peerIp : UInt32) (op : VTcp.Op) : Prop where
  mem : ∀ ourIsn m, op = .segment ourIsn m → m.srcIp = peerIp → ∃ g ∈ net, g.received = m

/-- The client is never asked for a connection. -/
theorem Inv.not_bareSyn (h : Inv R bU bD L) (hnet : Delivers L.toClient peerIp op) :
    ∀ ourIsn m, op = .segment ourIsn m → m.srcIp = peerIp → ¬ m.BareSyn := fun ourIsn m hop hsrc hbare => by
  obtain ⟨g, hg, rfl⟩ := hnet.mem ourIsn m hop hsrc
  have := (h.to_client g hg).2 hbare.syn
  rw [hbare.no_ack] at this
  cases this

/-- **A step of the client keeps the invariant.** -/
theorem Inv.clientStep (hR : Endpoint.Reading R G) (h : Inv R bU bD L) (hlt : L.down.seqNumbers < 2 ^ 32)
    (hstep : Endpoint.Step localIp peerIp L.client op E' out) (honce : Endpoint.Once peerIp L.connected L.client op E')
    (hnum : Endpoint.Numbers bU L.connected L.client E') (hsegs : ∀ g ∈ segs, g ∈ out.segs)
    (hnet : Delivers L.toClient peerIp op)
    (hG : ∀ ourIsn m c, op = .segment ourIsn m → m.srcIp = peerIp → L.client.conn = some c →
      (m.isSyn = false → m.isFin = true → m.payload = []) → G c m) : Inv R bU bD (L.afterClient E' out segs) := by
  obtain ⟨hsends, hgrows, hemits⟩ := h.client_sends.step hstep honce hnum hsegs
  have hreq := h.not_bareSyn hnet
  have hpend := hstep.pending_none h.no_request hreq
  have hhanded : ∀ ourIsn m, op = .segment ourIsn m → m.srcIp = peerIp →
      Endpoint.Handed G bD L.down L.client L.connected m := fun ourIsn m hop hsrc => by
    have hno := hreq ourIsn m hop hsrc
    obtain ⟨g, hg, rfl⟩ := hnet.mem ourIsn m hop hsrc
    have hsent := (h.to_client g hg).1
    exact ⟨hsent.carries, fun hbare => absurd hbare hno, fun c hc =>
      ⟨fun hw _ => ((h.early c hc hw).2.2.1 g hg).2, hG ourIsn _ c hop hsrc hc hsent.final⟩⟩
  refine ⟨hsends, h.client_reads.step hR hlt hstep honce hhanded, sending_afterRecv h.host_sends _,
    h.host_reads.grows hR hgrows, ?_, fun g hg => ⟨(h.to_client g hg).1.afterRecv _, (h.to_client g hg).2⟩, hpend, ?_, ?_,
    ?_⟩
  · -- what was sent before, and what this step sends
    intro g hg
    rcases List.mem_append.1 hg with hold | hnew
    · exact ⟨(h.to_host g hold).1.grows hgrows, (h.to_host g hold).2⟩
    · have he := hemits g hnew
      refine ⟨⟨he.carries, he.final⟩, fun hs => ?_⟩
      cases ha : g.received.isAck with
      | true => exact absurd hpend (he.syn_ack hs ha).1
      | false => exact ⟨rfl, (he.syn hs ha).1⟩
  · intro hno
    simp only [afterClient, Bool.or_eq_false_iff, Option.isSome_eq_false_iff, Option.isNone_iff_eq_none] at hno
    obtain ⟨hnet', hpend', hacc⟩ := h.unconnected hno.1
    rcases hstep.of_empty (h.client_sends.unopened hno.1).1 h.no_request with ⟨-, hout⟩ | ⟨isn, m, hop, hsrc, hb, -⟩ |
        ⟨_, _, _, -, hc⟩
    · have hnil : segs = [] := no_segs hsegs hout
      refine ⟨?_, hpend', hacc⟩
      simp only [afterClient, hnet', hnil, List.append_nil]
    · exact absurd hb (hreq isn m hop hsrc)
    · exact absurd hno.2 hc
  · intro hacc hp
    obtain ⟨hempty, hest⟩ := h.unrequested hacc hp
    refine ⟨hempty, hstep.unestablished h.no_request hest (fun isn m hop hsrc => ?_)⟩
    obtain ⟨g, hg, -⟩ := hnet.mem isn m hop hsrc
    rw [hempty] at hg
    cases hg
  · intro c' hc' hw'
    have hsyn : ∀ c, L.client.conn = some c → c.synSentAwaitingSynack = true →
        ∀ ourIsn m, op = .segment ourIsn m → m.srcIp = peerIp → m.isSyn = true := fun c hc hw ourIsn m hop hsrc => by
      obtain ⟨g, hg, rfl⟩ := hnet.mem ourIsn m hop hsrc
      exact ((h.early c hc hw).2.2.1 g hg).1
    obtain ⟨hbefore, hout⟩ := hstep.awaiting hc' hw' (fun c hc hw => ((h.client_sends.conn c hc).waiting hw).1) hsyn
    have hnew : ∀ g ∈ segs, g.received.isSyn = true := fun g hg => hout g (hsegs g hg)
    rcases hbefore with ⟨c, hc, hw⟩ | ⟨fd, dstPort, ourIsn, hop⟩
    · obtain ⟨hacc, hth, htc, hpa⟩ := h.early c hc hw
      exact ⟨hacc, fun g hg => (List.mem_append.1 hg).elim (hth g) (hnew g), htc, hpa⟩
    · -- the first SYN: nothing has been sent yet
      obtain ⟨hnone, hp, hacc⟩ := h.unconnected (honce.connect fd dstPort ourIsn hop)
      obtain ⟨hempty, -⟩ := h.unrequested hacc hp
      refine ⟨hacc, fun g hg => ?_, fun g hg => ?_, fun p hp' => ?_⟩
      · simp only [afterClient, hnone, List.nil_append] at hg
        exact hnew g hg
      · simp only [afterClient, hempty] at hg
        cases hg
      · simp only [afterClient, hp] at hp'
        cases hp'

/-- **A step of the host keeps the invariant.** -/
theorem Inv.hostStep (hR : Endpoint.Reading R G) (h : Inv R bU bD L) (hlt : L.up.seqNumbers < 2 ^ 32)
    (hstep : Endpoint.Step localIp peerIp L.host op E' out) (honce : Endpoint.Once peerIp L.accepted L.host op E')
    (hconn : ∀ fd dstPort ourIsn, op ≠ .connect fd peerIp dstPort ourIsn)
    (hnum : Endpoint.Numbers bD L.accepted L.host E') (hsegs : ∀ g ∈ segs, g ∈ out.segs)
    (hnet : Delivers L.toHost peerIp op)
    (hG : ∀ ourIsn m c, op = .segment ourIsn m → m.srcIp = peerIp → L.host.conn = some c →
      (m.isSyn = false → m.isFin = true → m.payload = []) → G c m) : Inv R bU bD (L.afterHost E' out segs) := by
  obtain ⟨hsends, hgrows, hemits⟩ := h.host_sends.step hstep honce hnum hsegs
  have hhanded : ∀ ourIsn m, op = .segment ourIsn m → m.srcIp = peerIp →
      Endpoint.Handed G bU L.up L.host L.accepted m := fun ourIsn m hop hsrc => by
    obtain ⟨g, hg, rfl⟩ := hnet.mem ourIsn m hop hsrc
    obtain ⟨hsent, hsyn⟩ := h.to_host g hg
    exact ⟨hsent.carries, fun hbare _ => (hsyn hbare.syn).2, fun c hc =>
      ⟨fun _ hs => (hsyn hs).2, hG ourIsn _ c hop hsrc hc hsent.final⟩⟩
  -- while the host has accepted nothing and holds no entry, nothing but a request changes its endpoint
  have hidle : (L.accepted || E'.conn.isSome) = false → E'.pending = none → E' = L.host ∧ out = {} ∧ L.accepted = false ∧
      L.host.pending = none := fun hno hp => by
    simp only [Bool.or_eq_false_iff, Option.isSome_eq_false_iff, Option.isNone_iff_eq_none] at hno
    have hpend : L.host.pending = none := (hstep.pending_taken hp).resolve_right (fun hc => hc hno.2)
    rcases hstep.of_empty (h.host_sends.unopened hno.1).1 hpend with ⟨hE, hout⟩ | ⟨_, _, -, -, -, hc⟩ |
        ⟨_, _, _, -, hc⟩
    · exact ⟨hE, hout, hno.1, hpend⟩
    · exact absurd hp hc
    · exact absurd hno.2 hc
  have hquiet : out = {} → segs = [] := no_segs hsegs
  refine ⟨sending_afterRecv h.client_sends _, h.client_reads.grows hR hgrows, hsends,
    h.host_reads.step hR hlt hstep honce hhanded, fun g hg => ⟨(h.to_host g hg).1.afterRecv _, (h.to_host g hg).2⟩, ?_,
    h.no_request, ?_, ?_, ?_⟩
  · intro g hg
    rcases List.mem_append.1 hg with hold | hnew
    · exact ⟨(h.to_client g hold).1.grows hgrows, (h.to_client g hold).2⟩
    · have he := hemits g hnew
      refine ⟨⟨he.carries, he.final⟩, fun hs => ?_⟩
      cases ha : g.received.isAck with
      | true => rfl
      | false =>
        obtain ⟨-, fd, dstPort, ourIsn, hop⟩ := he.syn hs ha
        exact absurd hop (hconn fd dstPort ourIsn)
  · intro hno
    obtain ⟨hnet', hpend', hacc⟩ := h.unconnected hno
    rcases hstep.of_empty (h.host_sends.unopened hacc).1 hpend' with ⟨hE, -⟩ | ⟨isn, m, hop, hsrc, -, -⟩ |
        ⟨fd, dstPort, ourIsn, hop, -⟩
    · refine ⟨hnet', by rw [afterHost, hE]; exact hpend', ?_⟩
      simp only [afterHost, hacc, hE, (h.host_sends.unopened hacc).1, Option.isSome_none, Bool.or_false]
    · obtain ⟨g, hg, -⟩ := hnet.mem isn m hop hsrc
      rw [hnet'] at hg
      cases hg
    · exact absurd hop (hconn fd dstPort ourIsn)
  · intro hacc hp
    obtain ⟨-, hout, hacc', hp'⟩ := hidle hacc hp
    obtain ⟨hempty, hest⟩ := h.unrequested hacc' hp'
    refine ⟨?_, hest⟩
    simp only [afterHost, hempty, hquiet hout, List.append_nil]
  · intro c hc hw
    obtain ⟨hacc, hth, htc, hpa⟩ := h.early c hc hw
    have hsyn : ∀ ourIsn m, op = .segment ourIsn m → m.srcIp = peerIp → m.isSyn = true := fun ourIsn m hop hsrc => by
      obtain ⟨g, hg, rfl⟩ := hnet.mem ourIsn m hop hsrc
      exact hth g hg
    obtain ⟨hnone, hpa', hout⟩ := hstep.unacknowledged (h.host_sends.unopened hacc).1 hpa hconn hsyn
    refine ⟨by simp only [afterHost, hacc, hnone, Option.isSome_none, Bool.or_false], hth, fun g hg => ?_, hpa'⟩
    rcases List.mem_append.1 hg with hold | hnew
    · exact htc g hold
    · have hs := hout g (hsegs g hnew)
      have he := hemits g hnew
      refine ⟨hs, ?_⟩
      cases ha : g.received.isAck with
      | true => exact (he.syn_ack hs ha).2 hacc
      | false => exact (he.syn hs ha).1

/-! ## The bases -/

/-- Before the client connects, the stream of its direction can be numbered from anywhere. -/
theorem Inv.rebaseUp (h : Inv R bU bD L) (hno : L.connected = false) (base : UInt32) : Inv R base bD L := by
  obtain ⟨hc, ha, hcl, -⟩ := h.client_sends.unopened hno
  obtain ⟨hnet, hp, hacc⟩ := h.unconnected hno
  obtain ⟨hhc, hr, -⟩ := h.host_reads.unopened hacc
  refine ⟨⟨fun c hc' => ?_, fun _ => ⟨hc, ha, hcl, fun p hp' => ?_⟩⟩, h.client_reads, h.host_sends,
    ⟨fun c hc' => ?_, fun _ => ⟨hhc, hr, fun p hp' => ?_⟩⟩, fun g hg => ?_, h.to_client, h.no_request, h.unconnected,
    h.unrequested, h.early⟩
  · rw [hc] at hc'; cases hc'
  · rw [h.no_request] at hp'; cases hp'
  · rw [hhc] at hc'; cases hc'
  · rw [hp] at hp'; cases hp'
  · rw [hnet] at hg; cases hg

/-- Before the host answers a request, the stream of its direction can be numbered from anywhere. -/
theorem Inv.rebaseDown (hR : Endpoint.Reading R G) (h : Inv R bU bD L) (hacc : L.accepted = false)
    (hp : L.host.pending = none) (base : UInt32) : Inv R bU base L := by
  obtain ⟨hc, ha, hcl, -⟩ := h.host_sends.unopened hacc
  obtain ⟨hnet, hest⟩ := h.unrequested hacc hp
  refine ⟨h.client_sends, ⟨fun c hc' => hR.rebase (h.client_reads.conn c hc') (hest c hc'), fun ho => ?_⟩,
    ⟨fun c hc' => ?_, fun _ => ⟨hc, ha, hcl, fun p hp' => ?_⟩⟩, h.host_reads, h.to_host, fun g hg => ?_, h.no_request,
    h.unconnected, h.unrequested, fun c hc' hw => ?_⟩
  · obtain ⟨hcc, hr, -⟩ := h.client_reads.unopened ho
    exact ⟨hcc, hr, fun p hp' => by rw [h.no_request] at hp'; cases hp'⟩
  · rw [hc] at hc'; cases hc'
  · rw [hp] at hp'; cases hp'
  · rw [hnet] at hg; cases hg
  · obtain ⟨h1, h2, -, h4⟩ := h.early c hc' hw
    exact ⟨h1, h2, fun g hg => (by rw [hnet] at hg; cases hg), h4⟩

theorem awaiting_connects (hstep : Endpoint.Step localIp peerIp E op E' out) (hE : E.conn = none) {c : VTcpConn}
    (hc : E'.conn = some c) (hw : c.synSentAwaitingSynack = true) :
    ∃ fd dstPort ourIsn, op = .connect fd peerIp dstPort ourIsn := by
  have hnone : ∀ c, E.conn = some c → False := fun c hc => by rw [hE] at hc; cases hc
  rcases (hstep.awaiting hc hw (fun c hc => (hnone c hc).elim) (fun c hc => (hnone c hc).elim)).1 with ⟨c, hc, -⟩ | hop
  · exact (hnone c hc).elim
  · exact hop

/-- The base of the client's stream is chosen by the step that connects. -/
theorem Inv.exists_numbers_client (h : Inv R bU bD L) (hstep : Endpoint.Step localIp peerIp L.client op E' out)
    (honce : Endpoint.Once peerIp L.connected L.client op E') (hnet : Delivers L.toClient peerIp op) :
    ∃ base, Inv R base bD L ∧ Endpoint.Numbers base L.connected L.client E' := by
  have hreq := h.not_bareSyn hnet
  have hpend : ∀ p, E'.pending ≠ some p := fun p hp => by
    rw [hstep.pending_none h.no_request hreq] at hp
    cases hp
  by_cases hnew : ∃ c, L.client.conn = none ∧ E'.conn = some c ∧ c.synSentAwaitingSynack = true
  · obtain ⟨c, hnone, hc, hw⟩ := hnew
    obtain ⟨fd, dstPort, ourIsn, hop⟩ := awaiting_connects hstep hnone hc hw
    refine ⟨c.ourIsn + 1, h.rebaseUp (honce.connect fd dstPort ourIsn hop) _, ⟨fun c' _ hc' _ => ?_, fun p _ _ hp =>
      absurd hp (hpend p)⟩⟩
    rw [hc] at hc'
    cases hc'
    rfl
  · exact ⟨bU, h, ⟨fun c hn hc hw => absurd ⟨c, hn, hc, hw⟩ hnew, fun p _ _ hp => absurd hp (hpend p)⟩⟩

/-- The base of the host's stream is chosen by the step that answers the first request. -/
theorem Inv.exists_numbers_host (hR : Endpoint.Reading R G) (h : Inv R bU bD L)
    (hstep : Endpoint.Step localIp peerIp L.host op E' out)
    (hconn : ∀ fd dstPort ourIsn, op ≠ .connect fd peerIp dstPort ourIsn) :
    ∃ base, Inv R bU base L ∧ Endpoint.Numbers base L.accepted L.host E' := by
  have hno : ∀ c, L.host.conn = none → E'.conn = some c → c.synSentAwaitingSynack = true → False := fun c hn hc hw => by
    obtain ⟨fd, dstPort, ourIsn, hop⟩ := awaiting_connects hstep hn hc hw
    exact hconn fd dstPort ourIsn hop
  by_cases hnew : ∃ p, L.accepted = false ∧ L.host.pending = none ∧ E'.pending = some p
  · obtain ⟨p, hacc, hn, hp⟩ := hnew
    refine ⟨p.ourIsn + 1, h.rebaseDown hR hacc hn _, ⟨fun c hn hc hw => (hno c hn hc hw).elim, fun p' _ _ hp' => ?_⟩⟩
    rw [hp] at hp'
    cases hp'
    rfl
  · exact ⟨bD, h, ⟨fun c hn hc hw => (hno c hn hc hw).elim, fun p ho hn hp => absurd ⟨p, ho, hn, hp⟩ hnew⟩⟩

end Link
end Slp
