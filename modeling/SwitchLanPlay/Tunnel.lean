import SwitchLanPlay.TunnelLink
/-!
# Tunnel — two bridge instances and the network between them

The client's and the host's virtual TCP state take turns in any order, every call of either on any of its peers included.
The network holds all the segments the two ends sent on their connection; handing one of them to the other end, at any
time and any number of times, is a move like any other, so loss, duplication and reordering need no moves of their own.

`streams_intact` is the tunnel's integrity: what one end returned is a prefix of what the other accepted.
-/
namespace Slp

open Wire

/-- The part of what a call shows that concerns one peer. -/
def VTcp.Out.toPeer (out : VTcp.Out) (ip : UInt32) : VTcp.Out where
  segs := out.segs.filter (fun g => g.dstIp == ip)
  sent := out.sent.filter (fun x => x.1 == ip)
  received := out.received.filter (fun x => x.1 == ip)

structure Tunnel where
  client : VTcp
  host : VTcp
  up : ByteStream := {}
  down : ByteStream := {}
  toHost : List Segment := []
  toClient : List Segment := []
  connected : Bool := false
  accepted : Bool := false

namespace Tunnel

/-- A call on the client's or on the host's side. -/
inductive Move where
  | client (op : VTcp.Op)
  | host (op : VTcp.Op)

section Moves

variable (clientIp hostIp : UInt32)

def step (T : Tunnel) : Move → Tunnel
  | .client op =>
    let t' := (T.client.step clientIp op).1
    let out := (T.client.step clientIp op).2.toPeer hostIp
    { T with
      client := t'
      up := T.up.afterSend out.segs out.sent
      down := T.down.afterRecv out.received
      toHost := T.toHost ++ out.segs
      connected := T.connected || (t'.endpoint hostIp).conn.isSome }
  | .host op =>
    let t' := (T.host.step hostIp op).1
    let out := (T.host.step hostIp op).2.toPeer clientIp
    { T with
      host := t'
      down := T.down.afterSend out.segs out.sent
      up := T.up.afterRecv out.received
      toClient := T.toClient ++ out.segs
      accepted := T.accepted || (t'.endpoint clientIp).conn.isSome }

/-- The client is handed segments the host sent, and connects to the host once. -/
structure ClientMay (T : Tunnel) (op : VTcp.Op) : Prop where
  segment : ∀ ourIsn m, op = .segment ourIsn m → m.srcIp = hostIp → ∃ g ∈ T.toClient, g.received = m
  connect : ∀ fd dstPort ourIsn, op = .connect fd hostIp dstPort ourIsn → T.connected = false

/-- The host is handed segments the client sent, and accepts one connection of the client. -/
structure HostMay (T : Tunnel) (op : VTcp.Op) : Prop where
  segment : ∀ ourIsn m, op = .segment ourIsn m → m.srcIp = clientIp → ∃ g ∈ T.toHost, g.received = m
  connect : ∀ fd dstPort ourIsn, op ≠ .connect fd clientIp dstPort ourIsn
  accept : op = .accept → T.accepted = true →
    (T.host.step hostIp .accept).1.endpoint clientIp = T.host.endpoint clientIp

def May (T : Tunnel) : Move → Prop
  | .client op => ClientMay hostIp T op
  | .host op => HostMay clientIp hostIp T op

/-- Both ends know nothing of each other; what else their tables hold is open. -/
structure Start (T : Tunnel) : Prop where
  client_solo : T.client.Solo hostIp
  host_solo : T.host.Solo clientIp
  client : T.client.endpoint hostIp = ⟨none, none⟩
  host : T.host.endpoint clientIp = ⟨none, none⟩
  up : T.up = {}
  down : T.down = {}
  to_host : T.toHost = []
  to_client : T.toClient = []
  connected : T.connected = false
  accepted : T.accepted = false

/-- The states of the runs whose moves all meet `ok`. -/
inductive Reachable (ok : Tunnel → Move → Prop) : Tunnel → Prop
  | start {T : Tunnel} (h : T.Start clientIp hostIp) : Reachable ok T
  | step {T : Tunnel} (h : Reachable ok T) (mv : Move) (hmay : T.May clientIp hostIp mv) (hok : ok T mv) :
      Reachable ok (T.step clientIp hostIp mv)

def link (T : Tunnel) : Link where
  client := T.client.endpoint hostIp
  host := T.host.endpoint clientIp
  up := T.up
  down := T.down
  toHost := T.toHost
  toClient := T.toClient
  connected := T.connected
  accepted := T.accepted

end Moves

/-! ## The moves are steps of the link -/

variable {clientIp hostIp : UInt32} {T : Tunnel} {R : UInt32 → ByteStream → VTcpConn → Prop}
  {G : VTcpConn → TcpSegment → Prop} {ok : Tunnel → Move → Prop} {bU bD : UInt32}

theorem seqNumbers_le_afterSend (s : ByteStream) (segs : List Segment) (sent : Option (UInt32 × Bytes)) :
    s.seqNumbers ≤ (s.afterSend segs sent).seqNumbers := by
  unfold ByteStream.seqNumbers ByteStream.afterSend
  rw [List.length_append]
  cases s.closed with
  | true => simp
  | false => simp; omega

theorem seqNumbers_le_step (clientIp hostIp : UInt32) (T : Tunnel) (mv : Move) :
     T.up.seqNumbers ≤ (T.step clientIp hostIp mv).up.seqNumbers ∧
    T.down.seqNumbers ≤ (T.step clientIp hostIp mv).down.seqNumbers := by
  cases mv with
  | client op => exact ⟨seqNumbers_le_afterSend _ _ _, Nat.le_refl _⟩
  | host op => exact ⟨Nat.le_refl _, seqNumbers_le_afterSend _ _ _⟩

/-- What holds of the two tables and of the link between them. -/
structure Inv (clientIp hostIp : UInt32) (R : UInt32 → ByteStream → VTcpConn → Prop) (T : Tunnel) : Prop where
  client_solo : T.client.Solo hostIp
  host_solo : T.host.Solo clientIp
  link : ∃ bU bD, Link.Inv R bU bD (T.link clientIp hostIp)

theorem inv_start (h : T.Start clientIp hostIp) : Inv clientIp hostIp R T where
  client_solo := h.client_solo
  host_solo := h.host_solo
  link := by
    have hempty : T.link clientIp hostIp = Link.empty := by
      simp only [link, Link.empty, h.client, h.host, h.up, h.down, h.to_host, h.to_client, h.connected, h.accepted]
    rw [hempty]
    exact ⟨0, 0, Link.inv_empty R 0 0⟩

theorem shows_toPeer {full : VTcp.Out} {ip : UInt32} {out : VTcp.Out} (h : VTcp.Shows full ip out) :
    (∀ g ∈ (full.toPeer ip).segs, g ∈ out.segs) ∧ (full.toPeer ip).sent = out.sent ∧
      (full.toPeer ip).received = out.received := by
  refine ⟨fun g hg => ?_, h.sent, h.received⟩
  obtain ⟨hmem, hdst⟩ := List.mem_filter.1 hg
  exact h.segs g hmem (by simpa using hdst)

theorem opensAlone_client (hI : Link.Inv R bU bD (T.link clientIp hostIp)) {op : VTcp.Op} (hmay : ClientMay hostIp T op) :
    T.client.OpensAlone hostIp op where
  connect := fun fd dstPort ourIsn hop => (hI.client_sends.unopened (hmay.connect fd dstPort ourIsn hop)).1
  accept := fun _ _ hr => Or.inr (VTcp.endpoint_accept_of_no_pending hI.no_request hr)

theorem once_client (hI : Link.Inv R bU bD (T.link clientIp hostIp)) {op : VTcp.Op} (hmay : ClientMay hostIp T op) :
    Endpoint.Once hostIp T.connected (T.client.endpoint hostIp) op ((T.client.step clientIp op).1.endpoint hostIp) where
  connect := hmay.connect
  accept := fun hop _ => by
    subst hop
    show VTcp.endpoint ((T.client.accept true).elim T.client (·.1)) hostIp = _
    cases hr : T.client.accept true with
    | none => rfl
    | some r => exact VTcp.endpoint_accept_of_no_pending hI.no_request hr

/-- The host accepts no second connection of the client. -/
theorem opensAlone_host (hI : Link.Inv R bU bD (T.link clientIp hostIp)) {op : VTcp.Op}
    (hmay : HostMay clientIp hostIp T op) : T.host.OpensAlone clientIp op where
  connect := fun fd dstPort ourIsn hop => absurd hop (hmay.connect fd dstPort ourIsn)
  accept := fun r hop hr => by
    cases hacc : T.accepted with
    | false => exact Or.inl (hI.host_sends.unopened hacc).1
    | true =>
      have hsame := hmay.accept hop hacc
      have hstep : (T.host.step hostIp .accept).1 = (T.host.accept true).elim T.host (·.1) := rfl
      rw [hstep, hr] at hsame
      exact Or.inr hsame

theorem once_host {op : VTcp.Op} (hmay : HostMay clientIp hostIp T op) :
    Endpoint.Once clientIp T.accepted (T.host.endpoint clientIp) op ((T.host.step hostIp op).1.endpoint clientIp) where
  connect := fun fd dstPort ourIsn hop => absurd hop (hmay.connect fd dstPort ourIsn)
  accept := fun hop hacc => by
    have := hmay.accept hop hacc
    rw [hop]
    exact this

/-- What a move has to meet for `R` to be kept: `G` of every segment an end's connection is handed. -/
structure Handles (clientIp hostIp : UInt32) (G : VTcpConn → TcpSegment → Prop) (T : Tunnel) (mv : Move) : Prop where
  client : ∀ ourIsn m c, mv = .client (.segment ourIsn m) → m.srcIp = hostIp → (T.client.endpoint hostIp).conn = some c →
    (m.isSyn = false → m.isFin = true → m.payload = []) → G c m
  host : ∀ ourIsn m c, mv = .host (.segment ourIsn m) → m.srcIp = clientIp → (T.host.endpoint clientIp).conn = some c →
    (m.isSyn = false → m.isFin = true → m.payload = []) → G c m

/-- **One move keeps the invariant.** -/
theorem inv_step (hR : Endpoint.Reading R G) (h : Inv clientIp hostIp R T) (hup : T.up.seqNumbers < 2 ^ 32)
    (hdown : T.down.seqNumbers < 2 ^ 32) {mv : Move} (hmay : T.May clientIp hostIp mv)
    (hG : Handles clientIp hostIp G T mv) : Inv clientIp hostIp R (T.step clientIp hostIp mv) := by
  obtain ⟨hcs, hhs, bU, bD, hI⟩ := h
  cases mv with
  | client op =>
    obtain ⟨hsolo, out, hstep, hshow⟩ := VTcp.endpoint_step hcs clientIp (opensAlone_client hI hmay)
    obtain ⟨hsegs, hsent, hrecv⟩ := shows_toPeer hshow
    have honce := once_client hI hmay
    have hnet : Link.Delivers T.toClient hostIp op := ⟨hmay.segment⟩
    obtain ⟨bU, hI, hnum⟩ := hI.exists_numbers_client hstep honce hnet
    refine ⟨hsolo, hhs, bU, bD, ?_⟩
    have hI' := hI.clientStep hR hdown hstep honce hnum hsegs hnet
      (fun ourIsn m c hop hsrc hc => hG.client ourIsn m c (by rw [hop]) hsrc hc)
    rw [Link.afterClient, ← hsent, ← hrecv] at hI'
    exact hI'
  | host op =>
    obtain ⟨hsolo, out, hstep, hshow⟩ := VTcp.endpoint_step hhs hostIp (opensAlone_host hI hmay)
    obtain ⟨hsegs, hsent, hrecv⟩ := shows_toPeer hshow
    have hnet : Link.Delivers T.toHost clientIp op := ⟨hmay.segment⟩
    obtain ⟨bD, hI, hnum⟩ := hI.exists_numbers_host hR hstep hmay.connect
    refine ⟨hcs, hsolo, bU, bD, ?_⟩
    have hI' := hI.hostStep hR hup hstep (once_host hmay) hmay.connect hnum hsegs hnet
      (fun ourIsn m c hop hsrc hc => hG.host ourIsn m c (by rw [hop]) hsrc hc)
    rw [Link.afterHost, ← hsent, ← hrecv] at hI'
    exact hI'

/-- **The invariant holds in every state of a run** on which fewer than 2^32 sequence numbers were used each way. -/
theorem reachable_inv (hR : Endpoint.Reading R G) (hok : ∀ T mv, ok T mv → Handles clientIp hostIp G T mv)
    (h : Reachable clientIp hostIp ok T) (hup : T.up.seqNumbers < 2 ^ 32) (hdown : T.down.seqNumbers < 2 ^ 32) :
    Inv clientIp hostIp R T := by
  induction h with
  | start h => exact inv_start h
  | @step T h mv hmay hmv ih =>
    obtain ⟨hu, hd⟩ := seqNumbers_le_step clientIp hostIp T mv
    have hup' : T.up.seqNumbers < 2 ^ 32 := by omega
    have hdown' : T.down.seqNumbers < 2 ^ 32 := by omega
    exact inv_step hR (ih hup' hdown') hup' hdown' hmay (hok T mv hmv)

/-! ## Runs that can be computed -/

/-- `May` decided. -/
def mayCheck (clientIp hostIp : UInt32) (T : Tunnel) : Move → Bool
  | .client (.segment _ m) => m.srcIp != hostIp || T.toClient.any (fun g => g.received == m)
  | .client (.connect _ dstIp _ _) => dstIp != hostIp || !T.connected
  | .client _ => true
  | .host (.segment _ m) => m.srcIp != clientIp || T.toHost.any (fun g => g.received == m)
  | .host (.connect _ dstIp _ _) => dstIp != clientIp
  | .host .accept => !T.accepted
  | .host _ => true

theorem mem_of_offered {net : List Segment} {m : TcpSegment} {peerIp : UInt32}
    (h : (m.srcIp != peerIp || net.any (fun g => g.received == m)) = true) (hsrc : m.srcIp = peerIp) :
    ∃ g ∈ net, g.received = m := by
  rw [hsrc, Bool.or_eq_true, List.any_eq_true] at h
  rcases h with hne | ⟨g, hg, he⟩
  · simp at hne
  · exact ⟨g, hg, by simpa using he⟩

theorem may_of_mayCheck {mv : Move} (h : T.mayCheck clientIp hostIp mv = true) : T.May clientIp hostIp mv := by
  cases mv with
  | client op =>
    refine ⟨fun ourIsn m hop hsrc => ?_, fun fd dstPort ourIsn hop => ?_⟩
    · subst hop
      exact mem_of_offered h hsrc
    · subst hop
      simpa [mayCheck] using h
  | host op =>
    refine ⟨fun ourIsn m hop hsrc => ?_, fun fd dstPort ourIsn hop => ?_, fun hop hacc => ?_⟩
    · subst hop
      exact mem_of_offered h hsrc
    · subst hop
      simp [mayCheck] at h
    · subst hop
      rw [mayCheck, hacc] at h
      cases h

/-- The state after a list of moves that are all possible. -/
def run (clientIp hostIp : UInt32) (okCheck : Tunnel → Move → Bool) : Tunnel → List Move → Option Tunnel
  | T, [] => some T
  | T, mv :: mvs =>
    if T.mayCheck clientIp hostIp mv && okCheck T mv then run clientIp hostIp okCheck (T.step clientIp hostIp mv) mvs
    else none

theorem reachable_run {okCheck : Tunnel → Move → Bool} (hok : ∀ T mv, okCheck T mv = true → ok T mv) :
    ∀ (mvs : List Move) {T T' : Tunnel}, Reachable clientIp hostIp ok T →
      run clientIp hostIp okCheck T mvs = some T' → Reachable clientIp hostIp ok T'
  | [], T, T', h, hrun => by
    cases hrun
    exact h
  | mv :: mvs, T, T', h, hrun => by
    rw [run] at hrun
    split at hrun
    · rename_i hmv
      rw [Bool.and_eq_true] at hmv
      exact reachable_run hok mvs (h.step mv (may_of_mayCheck hmv.1) (hok T mv hmv.2)) hrun
    · cases hrun

theorem solo_empty (ip : UInt32) : VTcp.Solo {} ip := ⟨fun _ _ h => (by cases h), fun _ _ h => (by cases h)⟩

theorem endpoint_empty (ip : UInt32) : VTcp.endpoint {} ip = ⟨none, none⟩ := by
  rw [VTcp.endpoint, SlotTable.lookup_eq_none_iff.2 (fun _ => rfl), SlotTable.lookup_eq_none_iff.2 (fun _ => rfl)]

theorem start_fresh (clientIp hostIp : UInt32) : Start clientIp hostIp { client := {}, host := {} } where
  client_solo := solo_empty hostIp
  host_solo := solo_empty clientIp
  client := endpoint_empty hostIp
  host := endpoint_empty clientIp
  up := rfl
  down := rfl
  to_host := rfl
  to_client := rfl
  connected := rfl
  accepted := rfl

/-! ## Integrity -/

/-- The receivers are in step with the streams, whatever the order of the moves. -/
theorem reachable_reads (h : Reachable clientIp hostIp ok T) (hup : T.up.seqNumbers < 2 ^ 32)
    (hdown : T.down.seqNumbers < 2 ^ 32) : Inv clientIp hostIp VTcpConn.Reads T :=
  reachable_inv Endpoint.reading_reads
    (fun _ _ _ => ⟨fun _ _ _ _ _ _ hfinal => hfinal, fun _ _ _ _ _ _ hfinal => hfinal⟩) h hup hdown

/-- **Stream integrity**: in every state of every run, what one end's `RecvFrom` returned is a prefix of what the other
end's `SendTo` accepted, while each end has used fewer than 2^32 sequence numbers (its bytes, and one if it sent a FIN). -/
theorem streams_intact (h : Reachable clientIp hostIp (fun _ _ => True) T) (hup : T.up.seqNumbers < 2 ^ 32)
    (hdown : T.down.seqNumbers < 2 ^ 32) :
    T.up.returned <+: T.up.accepted ∧ T.down.returned <+: T.down.accepted := by
  induction h with
  | start h =>
    rw [h.up, h.down]
    exact ⟨List.nil_prefix, List.nil_prefix⟩
  | @step T h mv hmay hmv ih =>
    have hnext := reachable_reads (h.step mv hmay hmv) hup hdown
    obtain ⟨hu, hd⟩ := seqNumbers_le_step clientIp hostIp T mv
    have hup' : T.up.seqNumbers < 2 ^ 32 := by omega
    have hdown' : T.down.seqNumbers < 2 ^ 32 := by omega
    obtain ⟨hcs, hhs, bU, bD, hI⟩ := reachable_reads h hup' hdown'
    obtain ⟨-, -, bU', bD', hI'⟩ := hnext
    obtain ⟨hpu, hpd⟩ := ih hup' hdown'
    cases mv with
    | client op =>
      obtain ⟨-, out, hstep, hshow⟩ := VTcp.endpoint_step hcs clientIp (opensAlone_client hI hmay)
      have hr := hstep.received
      rw [← (shows_toPeer hshow).2.2] at hr
      exact ⟨hpu.trans (List.prefix_append _ _), Endpoint.returned_of_reads hI'.client_reads hr hpd⟩
    | host op =>
      obtain ⟨-, out, hstep, hshow⟩ := VTcp.endpoint_step hhs hostIp (opensAlone_host hI hmay)
      have hr := hstep.received
      rw [← (shows_toPeer hshow).2.2] at hr
      exact ⟨Endpoint.returned_of_reads hI'.host_reads hr hpu, hpd.trans (List.prefix_append _ _)⟩

/-- A handshake, three bytes up across the end of the sequence space, the segment delivered twice, and two reads. -/
def threeBytesUp : List Move :=
  let syn : TcpSegment := ⟨1, 11452, 11452, 0xFFFFFFFE, 0, TCP_SYN, []⟩
  let synAck : TcpSegment := ⟨2, 11452, 11452, 700, 0xFFFFFFFF, TCP_SYN ||| TCP_ACK, []⟩
  let ack : TcpSegment := ⟨1, 11452, 11452, 0xFFFFFFFF, 701, TCP_ACK, []⟩
  let data : TcpSegment := ⟨1, 11452, 11452, 0xFFFFFFFF, 701, TCP_PSH ||| TCP_ACK, [7, 8, 9]⟩
  [.client (.connect 5 2 11452 0xFFFFFFFE), .host (.segment 700 syn), .client (.segment 0 synAck), .host (.segment 0 ack),
    .host .accept, .client (.sendTo 5 ⟨true, true, 0⟩ [7, 8, 9]), .host (.segment 0 data), .host (.segment 0 data),
    .host (.recvFrom 1000 2 16), .host (.recvFrom 1000 2 16)]

theorem streams_intact_threeBytesUp : ∃ T, run 1 2 (fun _ _ => true) { client := {}, host := {} } threeBytesUp = some T ∧
    T.up.returned = [7, 8, 9] ∧ T.up.returned <+: T.up.accepted ∧ T.down.returned <+: T.down.accepted := by
  obtain ⟨T, hT, hr, hu, hd⟩ : ∃ T, run 1 2 (fun _ _ => true) { client := {}, host := {} } threeBytesUp = some T ∧
      T.up.returned = [7, 8, 9] ∧ T.up.seqNumbers < 2 ^ 32 ∧ T.down.seqNumbers < 2 ^ 32 := by
    have hsome : (run 1 2 (fun _ _ => true) { client := {}, host := {} } threeBytesUp).any
        (fun T => T.up.returned == [7, 8, 9] && decide (T.up.seqNumbers < 2 ^ 32) && decide (T.down.seqNumbers < 2 ^ 32)) =
        true := by decide +kernel
    obtain ⟨T, hT, h⟩ := (Option.any_eq_true _ _).1 hsome
    simp only [Bool.and_eq_true, beq_iff_eq, decide_eq_true_eq] at h
    exact ⟨T, hT, h.1.1, h.1.2, h.2⟩
  exact ⟨T, hT, hr, streams_intact (reachable_run (fun _ _ _ => trivial) threeBytesUp (.start (start_fresh 1 2)) hT) hu hd⟩

end Tunnel
end Slp
