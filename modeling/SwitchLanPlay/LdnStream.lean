import SwitchLanPlay.LdnVTcp
import SwitchLanPlay.LdnWire
import SwitchLanPlay.SeqSpace
import SwitchLanPlay.StopAndWait
/-!
# LdnStream — what the tools' virtual TCP hands over (VTcp.send and VTcp.recv in tools/slp_ldn.py)

Two nodes are joined by a VTcp each, over a relay that may lose, repeat, delay and reorder their segments.  Each end may have
any number of calls of `send` under way, in threads of their own.

What one end's `recv` returns are payloads that `send` was called with at the other, in that order and each call's once at
most.  Where an end sends one payload at a time and no call of it has returned False or raised, every payload that a call has
returned True for was handed over, unless it is empty: no segment brings an empty one (`delivered_in_order`).  After a call that
returned False this is no longer so: the next payload goes out under the same sequence number, and is taken for delivered when
the first one was (`lost_after_failure`).

The server's endpoint is a new one for every SYN that arrives, so that this is about the runs in which one does; and about
those that send less than 2^31 bytes each way, since a segment that the network held back for longer has a number that came
around again.
-/
namespace Slp
namespace Ldn

open Wire SeqSpace StopAndWait

inductive Side where
  | client
  | server
deriving DecidableEq

def Side.other : Side → Side
  | .client => .server
  | .server => .client

/-- A call of `send` that has not returned: what it sends, under which sequence number, and the turns of its loop that are
left. -/
structure Call where
  seq : UInt32
  payload : Bytes
  left : Nat
deriving DecidableEq

/-- One end, with its history: the payloads that a `send` began with, the calls that are over, with `true` for those that
returned True and `false` for those that returned False or raised, whether two were ever under way at a time, and what `recv`
returned. -/
structure End where
  v : VTcp
  calls : List Call := []
  begun : List Bytes := []
  returned : List (Bytes × Bool) := []
  overlapped : Bool := false
  read : List Bytes := []

namespace End

def withV (e : End) (v : VTcp) : End := { e with v := v }

/-- The `retries` of `send`. -/
def retries : Nat := 6

/-- The largest payload that the datagram of `_send` holds, beside the byte of its type and the headers. -/
def payloadMax : Nat := LdnWire.udpMax - 1 - 40

/-- `send` up to its loop. -/
def send (e : End) (payload : Bytes) : End :=
  if e.v.state ≠ .established then { e with returned := e.returned ++ [(payload, false)] }
  else
    { e with
      calls := e.calls ++ [⟨e.v.ourSeq, payload, retries⟩]
      begun := e.begun ++ [payload]
      overlapped := e.overlapped || !e.calls.isEmpty }

/-- A call is over. -/
def finish (e : End) (k : Nat) (call : Call) (ok : Bool) : End :=
  { e with calls := e.calls.eraseIdx k, returned := e.returned ++ [(call.payload, ok)] }

/-- The segment that a call sends. -/
def dataSegment (e : End) (call : Call) : Segment :=
  { e.v.segment call.seq e.v.theirSeq (TCP_PSH ||| TCP_ACK) with payload := call.payload }

/-- The next turn of a call's loop; `_send` raises on a payload that is too large, which ends the call as well. -/
def turn (e : End) (k : Nat) : End × List Segment :=
  match e.calls[k]? with
  | none => (e, [])
  | some call =>
    if call.left = 0 ∨ e.v.state ≠ .established ∨ payloadMax < call.payload.length then (e.finish k call false, [])
    else ({ e with calls := e.calls.set k { call with left := call.left - 1 } }, [e.dataSegment call])

/-- **A turn sends the call's segment or nothing.** -/
theorem mem_turn {e : End} {k : Nat} {m : Segment} (h : m ∈ (e.turn k).2) :
    e.v.state = .established ∧ ∃ call ∈ e.calls, m = e.dataSegment call := by
  unfold turn at h
  split at h
  · cases h
  · rename_i call hk
    by_cases hover : call.left = 0 ∨ e.v.state ≠ .established ∨ payloadMax < call.payload.length
    · rw [if_pos hover] at h
      cases h
    · rw [if_neg hover] at h
      obtain ⟨hlt, hget⟩ := List.getElem?_eq_some_iff.1 hk
      exact ⟨not_not.1 (not_or.1 (not_or.1 hover).2).1, call, hget ▸ List.getElem_mem hlt, List.mem_singleton.1 h⟩

/-- A look at the sequence number while the call waits. -/
def look (e : End) (k : Nat) : End :=
  match e.calls[k]? with
  | none => e
  | some call =>
    if call.left < retries ∧ (seqGt e.v.ourSeq call.seq = true ∨ e.v.ourSeq = call.seq + seqLen call.payload) then
      e.finish k call true
    else e

/-- A look of `recv` at the inbox. -/
def recv (e : End) : End := { e with v := e.v.recv.1, read := e.read ++ e.v.recv.2.toList }

def close (e : End) : End × List Segment :=
  ({ e with v := { e.v with state := .closed } },
    if e.v.state = .established then [e.v.segment e.v.ourSeq e.v.theirSeq (TCP_FIN ||| TCP_ACK)] else [])

end End

/-- The two ends, the segments on their way to each, and whether `connect` was called and the server took a SYN. -/
structure Link where
  ends : Side → End
  net : Side → List Segment
  dialled : Bool
  accepted : Bool

namespace Link

inductive Op where
  | connect (isn : UInt32)
  | arrive (p : Side) (m : Segment) (isn : UInt32)
  | send (p : Side) (payload : Bytes)
  | turn (p : Side) (k : Nat)
  | look (p : Side) (k : Nat)
  | recv (p : Side)
  | close (p : Side)

/-- The end after something, and what it sends. -/
def put (N : Link) (p : Side) (r : End × List Segment) : Link :=
  { N with
    ends := Function.update N.ends p r.1
    net := Function.update N.net p.other (N.net p.other ++ r.2) }

/-- A segment stays on its way when a copy of it arrives. -/
def step (N : Link) : Op → Link
  | .connect isn =>
    let r := (N.ends .client).v.connect isn
    { N.put .client ((N.ends .client).withV r.1, r.2) with dialled := true }
  | .arrive p m isn =>
    let r := (N.ends p).v.onSegment isn m.received
    { N.put p ((N.ends p).withV r.1, r.2) with accepted := N.accepted || m.flags == TCP_SYN }
  | .send p payload => N.put p ((N.ends p).send payload, [])
  | .turn p k => N.put p ((N.ends p).turn k)
  | .look p k => N.put p ((N.ends p).look k, [])
  | .recv p => N.put p ((N.ends p).recv, [])
  | .close p => N.put p (N.ends p).close

def total (payloads : List Bytes) : Nat := (payloads.map List.length).sum

/-- The payloads that segments bring: `on_segment` looks at none that is empty. -/
def carried (payloads : List Bytes) : List Bytes := payloads.filter (!·.isEmpty)

/-- One `connect`, and one SYN taken; what arrives was sent; and less than half of the sequence numbers are used up. -/
def May (N : Link) : Op → Prop
  | .connect _ => N.dialled = false
  | .arrive p m _ => m ∈ N.net p ∧ (m.flags = TCP_SYN → N.accepted = false)
  | .send p payload => total (N.ends p).begun + payload.length < 2 ^ 31
  | _ => True

/-- The nodes of these addresses before they connect. -/
def start (client server : UInt32) : Link where
  ends
    | .client => { v := { ip := client, peerIp := server, peerPort := ldnControlPort } }
    | .server => { v := { ip := server, peerIp := client, peerPort := ldnControlPort } }
  net _ := []
  dialled := false
  accepted := false

/-- What `recv` returned at this end, and what it is to return. -/
def delivered (N : Link) (p : Side) : List Bytes := (N.ends p).read ++ (N.ends p).v.inbox

@[simp] theorem carried_append (xs ys : List Bytes) : carried (xs ++ ys) = carried xs ++ carried ys := List.filter_append ..

@[simp] theorem carried_empty : carried [[]] = [] := rfl

theorem carried_singleton {payload : Bytes} (h : payload ≠ []) : carried [payload] = [payload] := by
  simp [carried, h]

theorem total_carried (payloads : List Bytes) : total (carried payloads) = total payloads := by
  induction payloads with
  | nil => rfl
  | cons payload rest ih =>
    cases payload with
    | nil => simpa [carried, total] using ih
    | cons b tail => simpa [carried, total] using ih

end Link

/-! ## One direction -/

/-- The sequence number of an end's first byte. -/
def End.base (e : End) : UInt32 := e.v.ourIsn + 1

/-- The calls of an end that sends one payload at a time and none of whose calls returned False or raised. -/
inductive InTurn (e : End) (ch : Channel UInt8) : Prop
  | idle (hcalls : e.calls = []) (hacked : ch.acked = size ch.attempts)
      (hreturned : ch.attempts.map Prod.snd = Link.carried (e.returned.map Prod.fst))
  | nothing (call : Call) (hcalls : e.calls = [call]) (hempty : call.payload = []) (hacked : ch.acked = size ch.attempts)
      (hreturned : ch.attempts.map Prod.snd = Link.carried (e.returned.map Prod.fst))
  | sending (call : Call) (done : List (Nat × Bytes)) (hcalls : e.calls = [call])
      (hattempts : ch.attempts = done ++ [(size done, call.payload)]) (hseq : call.seq = seqAt e.base (size done))
      (hreturned : done.map Prod.snd = Link.carried (e.returned.map Prod.fst))

/-- From the end `s` to the end `r`: what is on its way is `ch`.  `so` and `ro` tell whether an end has the other's initial
sequence number. -/
structure Dir (s r : End) (so ro : Bool) (ch : Channel UInt8) : Prop where
  inv : ch.Inv
  begun : ch.attempts.map Prod.snd = Link.carried s.begun
  delivered : ch.delivered.map Prod.snd = r.read ++ r.v.inbox
  room : size ch.attempts < 2 ^ 31
  calls : ∀ call ∈ s.calls, ∃ o, (call.payload = [] ∨ (o, call.payload) ∈ ch.attempts) ∧ call.seq = seqAt s.base o
  sent : so = true → s.v.ourSeq = seqAt s.base ch.acked
  taken : ro = true → r.v.state ≠ .closed → r.v.theirSeq = seqAt s.base ch.expected
  inTurn : s.overlapped = false → (∀ x ∈ s.returned, x.2 = true) → Contiguous ch.attempts ∧ InTurn s ch

section Numbers

variable {base : UInt32} {m n : Nat}

/-- **Among less than half of the numbers `_seq_gt` compares offsets.** -/
theorem seqGt_seqAt (hm : m < 2 ^ 31) (hn : n < 2 ^ 31) : seqGt (seqAt base n) (seqAt base m) = true ↔ m < n := by
  have hne : seqAt base n = seqAt base m ↔ n = m :=
    ⟨fun h => seqAt_inj (by omega) (by omega) h, fun h => by rw [h]⟩
  unfold seqGt
  rw [Bool.and_eq_true, bne_iff_ne, ne_eq, hne, decide_eq_true_iff, UInt32.lt_iff_toNat_lt]
  rcases Nat.le_total m n with hle | hle
  · rw [toNat_sub_seqAt base hle (by omega)]
    have hhalf : (0x80000000 : UInt32).toNat = 2 ^ 31 := rfl
    omega
  · rw [UInt32.toNat_sub, toNat_seqAt, toNat_seqAt]
    have hhalf : (0x80000000 : UInt32).toNat = 2 ^ 31 := rfl
    have hb := base.toNat_lt
    omega

theorem ackedSeq_seqAt {v : VTcp} (hseq : v.ourSeq = seqAt base m) (hm : m < 2 ^ 31) (hn : n < 2 ^ 31) :
    v.ackedSeq (seqAt base n) = seqAt base (max m n) := by
  unfold VTcp.ackedSeq
  rw [hseq]
  by_cases h : m < n
  · rw [if_pos ((seqGt_seqAt hm hn).2 h), Nat.max_eq_right (Nat.le_of_lt h)]
  · rw [if_neg fun hgt => h ((seqGt_seqAt hm hn).1 hgt), Nat.max_eq_left (by omega)]

end Numbers

namespace Dir

variable {s s' r r' : End} {so ro : Bool} {ch : Channel UInt8}

theorem expected_lt (h : Dir s r so ro ch) : ch.expected < 2 ^ 31 := Nat.lt_of_le_of_lt h.inv.expected_le h.room

theorem acked_lt (h : Dir s r so ro ch) : ch.acked < 2 ^ 31 := Nat.lt_of_le_of_lt h.inv.acked_le h.expected_lt

theorem offset_lt (h : Dir s r so ro ch) {x : Nat × Bytes} (hx : x ∈ ch.attempts) : x.1 < 2 ^ 31 :=
  Nat.lt_of_le_of_lt (h.inv.attempts_le x hx) h.acked_lt

theorem size_attempts (h : Dir s r so ro ch) : size ch.attempts = Link.total s.begun := by
  rw [← Link.total_carried, ← h.begun, size, Link.total, List.map_map]
  rfl

/-- What the direction says of the end that sends. -/
structure SameSender (s s' : End) : Prop where
  calls : s'.calls = s.calls
  begun : s'.begun = s.begun
  returned : s'.returned = s.returned
  overlapped : s'.overlapped = s.overlapped

theorem inTurn_congr (h : InTurn s ch) (hs : SameSender s s') (hbase : s'.base = s.base) : InTurn s' ch := by
  cases h with
  | idle hcalls hacked hreturned => exact .idle (hs.calls.trans hcalls) hacked (hreturned.trans (by rw [hs.returned]))
  | nothing call hcalls hempty hacked hreturned =>
    exact .nothing call (hs.calls.trans hcalls) hempty hacked (hreturned.trans (by rw [hs.returned]))
  | sending call done hcalls hattempts hseq hreturned =>
    exact .sending call done (hs.calls.trans hcalls) hattempts (hseq.trans (by rw [hbase]))
      (hreturned.trans (by rw [hs.returned]))

/-- Only the sender's history and its numbers matter. -/
theorem sender (h : Dir s r so ro ch) (hs : SameSender s s') (hbase : s'.base = s.base) (hseq : s'.v.ourSeq = s.v.ourSeq) :
    Dir s' r so ro ch where
  inv := h.inv
  begun := by
    rw [hs.begun]
    exact h.begun
  delivered := h.delivered
  room := h.room
  calls := by
    rw [hs.calls, hbase]
    exact h.calls
  sent := by
    rw [hseq, hbase]
    exact h.sent
  taken := by
    rw [hbase]
    exact h.taken
  inTurn := by
    rw [hs.overlapped, hs.returned]
    intro hover htrue
    exact ⟨(h.inTurn hover htrue).1, inTurn_congr (h.inTurn hover htrue).2 hs hbase⟩

/-- Only what the receiver took and the number it expects matter. -/
theorem receiver (h : Dir s r so ro ch) (hread : r'.read ++ r'.v.inbox = r.read ++ r.v.inbox)
    (hseq : r'.v.state ≠ .closed → r.v.state ≠ .closed ∧ r'.v.theirSeq = r.v.theirSeq) : Dir s r' so ro ch where
  inv := h.inv
  begun := h.begun
  delivered := h.delivered.trans hread.symm
  room := h.room
  calls := h.calls
  sent := h.sent
  taken := fun hro hstate => (hseq hstate).2.trans (h.taken hro (hseq hstate).1)
  inTurn := h.inTurn

/-! ### Calls of `send` -/

/-- A call that returns False or raises. -/
theorem failed (h : Dir s r so ro ch) (hbase : s'.base = s.base) (hseq : s'.v.ourSeq = s.v.ourSeq)
    (hcalls : ∀ call ∈ s'.calls, call ∈ s.calls) (hbegun : s'.begun = s.begun) {payload : Bytes}
    (hreturned : s'.returned = s.returned ++ [(payload, false)]) : Dir s' r so ro ch where
  inv := h.inv
  begun := by
    rw [hbegun]
    exact h.begun
  delivered := h.delivered
  room := h.room
  calls := by
    rw [hbase]
    exact fun call hcall => h.calls call (hcalls call hcall)
  sent := by
    rw [hseq, hbase]
    exact h.sent
  taken := by
    rw [hbase]
    exact h.taken
  inTurn := by
    intro _ htrue
    rw [hreturned] at htrue
    cases htrue (payload, false) (List.mem_append_right _ List.mem_cons_self)

theorem send_refused (h : Dir s r so ro ch) (hstate : s.v.state ≠ .established) (payload : Bytes) :
    Dir (s.send payload) r so ro ch := by
  rw [End.send, if_pos hstate]
  exact h.failed rfl rfl (fun _ hcall => hcall) rfl rfl

/-- **A call that begins numbers its payload with the offset acknowledged last.** -/
theorem send_begun (h : Dir s r so ro ch) (hstate : s.v.state = .established) (hso : so = true) {payload : Bytes}
    (hne : payload ≠ []) (hroom : Link.total s.begun + payload.length < 2 ^ 31) :
    Dir (s.send payload) r so ro (ch.begin payload) := by
  have hsize := h.size_attempts
  have hsent := h.sent hso
  rw [End.send, if_neg (not_not_intro hstate)]
  exact {
    inv := h.inv.begin hne
    begun := by
      rw [Channel.begin, List.map_append, h.begun, Link.carried_append, Link.carried_singleton hne]
      rfl
    delivered := h.delivered
    room := by
      have hgrown : size (ch.begin payload).attempts = size ch.attempts + payload.length := by
        rw [Channel.begin, size_append, size_singleton]
      omega
    calls := by
      intro call hcall
      rcases List.mem_append.1 hcall with hcall | hcall
      · obtain ⟨o, ho, hseq⟩ := h.calls call hcall
        exact ⟨o, ho.imp_right (List.mem_append_left _), hseq⟩
      · rw [List.mem_singleton.1 hcall]
        exact ⟨ch.acked, .inr (List.mem_append_right _ List.mem_cons_self), hsent⟩
    sent := fun _ => hsent
    taken := h.taken
    inTurn := by
      intro hover htrue
      rw [Bool.or_eq_false_iff] at hover
      have hnil : s.calls = [] := by simpa using hover.2
      obtain ⟨hturn, hin⟩ := h.inTurn hover.1 htrue
      cases hin with
      | idle hcalls hacked hreturned =>
        refine ⟨Channel.contiguous_begin hturn hacked payload, .sending ⟨s.v.ourSeq, payload, End.retries⟩ ch.attempts ?_ ?_ ?_
          hreturned⟩
        · simp [hnil]
        · simp [Channel.begin, hacked]
        · rw [← hacked]
          exact hsent
      | nothing call hcalls _ _ _ =>
        rw [hnil] at hcalls
        cases hcalls
      | sending call done hcalls _ _ _ =>
        rw [hnil] at hcalls
        cases hcalls }

/-- **A call that begins with nothing** leaves the channel as it is. -/
theorem send_nothing (h : Dir s r so ro ch) (hstate : s.v.state = .established) (hso : so = true) :
    Dir (s.send []) r so ro ch := by
  rw [End.send, if_neg (not_not_intro hstate)]
  exact {
    inv := h.inv
    begun := by
      rw [Link.carried_append, Link.carried_empty, List.append_nil]
      exact h.begun
    delivered := h.delivered
    room := h.room
    calls := by
      intro call hcall
      rcases List.mem_append.1 hcall with hcall | hcall
      · exact h.calls call hcall
      · rw [List.mem_singleton.1 hcall]
        exact ⟨ch.acked, .inl rfl, h.sent hso⟩
    sent := h.sent
    taken := h.taken
    inTurn := by
      intro hover htrue
      rw [Bool.or_eq_false_iff] at hover
      have hnil : s.calls = [] := by simpa using hover.2
      obtain ⟨hturn, hin⟩ := h.inTurn hover.1 htrue
      refine ⟨hturn, ?_⟩
      cases hin with
      | idle hcalls hacked hreturned =>
        refine .nothing ⟨s.v.ourSeq, [], End.retries⟩ ?_ rfl hacked hreturned
        simp [hnil]
      | nothing call hcalls _ _ _ =>
        rw [hnil] at hcalls
        cases hcalls
      | sending call done hcalls _ _ _ =>
        rw [hnil] at hcalls
        cases hcalls }

theorem mem_eraseIdx {calls : List Call} {k : Nat} {call : Call} (h : call ∈ calls.eraseIdx k) : call ∈ calls :=
  (List.eraseIdx_sublist calls k).subset h

theorem only_call {calls : List Call} {only call : Call} {k : Nat} (hcalls : calls = [only]) (hk : calls[k]? = some call) :
    call = only ∧ k = 0 := by
  rw [hcalls, List.getElem?_singleton] at hk
  split at hk
  · exact ⟨(Option.some.inj hk).symm, ‹_›⟩
  · cases hk

/-- A turn of a call's loop. -/
theorem turn (h : Dir s r so ro ch) (k : Nat) : Dir (s.turn k).1 r so ro ch := by
  unfold End.turn
  cases hk : s.calls[k]? with
  | none => exact h
  | some call =>
    by_cases hover : call.left = 0 ∨ s.v.state ≠ .established ∨ End.payloadMax < call.payload.length
    · simp only [if_pos hover]
      exact h.failed rfl rfl (fun _ hcall => mem_eraseIdx hcall) rfl rfl
    · simp only [if_neg hover]
      obtain ⟨hlt, hget⟩ := List.getElem?_eq_some_iff.1 hk
      have hmem : call ∈ s.calls := hget ▸ List.getElem_mem hlt
      exact {
        inv := h.inv
        begun := h.begun
        delivered := h.delivered
        room := h.room
        calls := by
          intro call' hcall'
          rcases List.mem_or_eq_of_mem_set hcall' with hold | rfl
          · exact h.calls call' hold
          · exact h.calls call hmem
        sent := h.sent
        taken := h.taken
        inTurn := by
          intro hoverlap htrue
          obtain ⟨hturn, hin⟩ := h.inTurn hoverlap htrue
          refine ⟨hturn, ?_⟩
          cases hin with
          | idle hcalls _ _ =>
            rw [hcalls] at hmem
            cases hmem
          | nothing only hcalls hempty hacked hreturned =>
            obtain ⟨rfl, rfl⟩ := only_call hcalls hk
            refine .nothing { call with left := call.left - 1 } ?_ hempty hacked hreturned
            simp [hcalls]
          | sending only done hcalls hattempts hseq hreturned =>
            obtain ⟨rfl, rfl⟩ := only_call hcalls hk
            refine .sending { call with left := call.left - 1 } done ?_ hattempts hseq hreturned
            simp [hcalls] }

/-- **A call that returns True saw its payload acknowledged**, if it is the only one and none failed before. -/
theorem look (h : Dir s r so ro ch) (hso : s.calls ≠ [] → so = true) (k : Nat) : Dir (s.look k) r so ro ch := by
  unfold End.look
  cases hk : s.calls[k]? with
  | none => exact h
  | some call =>
    by_cases hsees : call.left < End.retries ∧
        (seqGt s.v.ourSeq call.seq = true ∨ s.v.ourSeq = call.seq + seqLen call.payload)
    · simp only [if_pos hsees]
      obtain ⟨hlt, hget⟩ := List.getElem?_eq_some_iff.1 hk
      have hmem : call ∈ s.calls := hget ▸ List.getElem_mem hlt
      have hsent := h.sent (hso (List.ne_nil_of_mem hmem))
      exact {
        inv := h.inv
        begun := h.begun
        delivered := h.delivered
        room := h.room
        calls := fun call' hcall' => h.calls call' (mem_eraseIdx hcall')
        sent := h.sent
        taken := h.taken
        inTurn := by
          intro hoverlap htrue
          obtain ⟨hturn, hin⟩ := h.inTurn hoverlap fun x hx => htrue x (List.mem_append_left _ hx)
          refine ⟨hturn, ?_⟩
          cases hin with
          | idle hcalls _ _ =>
            rw [hcalls] at hmem
            cases hmem
          | nothing only hcalls hempty hacked hreturned =>
            obtain ⟨rfl, rfl⟩ := only_call hcalls hk
            refine .idle ?_ hacked ?_
            · simp [End.finish, hcalls]
            · simp [End.finish, hempty, hreturned]
          | sending only done hcalls hattempts hseq hreturned =>
            obtain ⟨rfl, rfl⟩ := only_call hcalls hk
            have hlast : (size done, call.payload) ∈ ch.attempts :=
              hattempts ▸ List.mem_append_right _ List.mem_cons_self
            have hacked : ch.acked = size ch.attempts := by
              refine (Channel.acked_cases h.inv hturn hattempts).resolve_left fun hdone => ?_
              rw [hdone, ← hseq] at hsent
              rcases hsees.2 with hgt | heq
              · rw [hsent, hseq, seqGt_seqAt (h.offset_lt hlast) (h.offset_lt hlast)] at hgt
                exact Nat.lt_irrefl _ hgt
              · have hsize : size ch.attempts = size done + call.payload.length := by
                  rw [hattempts, size_append, size_singleton]
                have hroom := h.room
                rw [hsent, hseq, seqLen, seqAt_add] at heq
                have hsame := seqAt_inj (by omega) (by omega) heq
                exact h.inv.nonempty _ hlast (List.length_eq_zero_iff.1 (Nat.left_eq_add.1 hsame))
            refine .idle ?_ hacked ?_
            · simp [End.finish, hcalls]
            · simp [End.finish, hattempts, hreturned, Link.carried_singleton (h.inv.nonempty _ hlast)] }
    · simp only [if_neg hsees]
      exact h

/-! ### What arrives -/

/-- **An acknowledgement of the receiver's** moves the sender's number on, never back. -/
theorem acknowledge (h : Dir s r so ro ch) {n : Nat} (hn : ch.Mark n) (hs : SameSender s s') (hbase : s'.base = s.base)
    (hseq : s'.v.ourSeq = seqAt s.base (max ch.acked n)) : Dir s' r so ro (ch.acknowledge n) where
  inv := h.inv.acknowledge hn
  begun := by
    rw [hs.begun]
    exact h.begun
  delivered := h.delivered
  room := h.room
  calls := by
    rw [hs.calls, hbase]
    exact h.calls
  sent := by
    rw [hbase]
    exact fun _ => hseq
  taken := by
    rw [hbase]
    exact h.taken
  inTurn := by
    rw [hs.overlapped, hs.returned]
    intro hover htrue
    obtain ⟨hturn, hin⟩ := h.inTurn hover htrue
    refine ⟨hturn, inTurn_congr ?_ hs hbase⟩
    have hle := Nat.le_trans hn.le_expected h.inv.expected_le
    cases hin with
    | idle hcalls hacked hreturned =>
      exact .idle hcalls ((Nat.max_eq_left (hacked ▸ hle)).trans hacked) hreturned
    | nothing call hcalls hempty hacked hreturned =>
      exact .nothing call hcalls hempty ((Nat.max_eq_left (hacked ▸ hle)).trans hacked) hreturned
    | sending call done hcalls hattempts hnum hreturned => exact .sending call done hcalls hattempts hnum hreturned

theorem delivered_arrive (ch : Channel UInt8) (x : Nat × Bytes) : (ch.arrive x).delivered =
    if x.1 = ch.expected then ch.delivered ++ [x] else ch.delivered := by
  unfold Channel.arrive
  split <;> rfl

theorem expected_arrive (ch : Channel UInt8) (x : Nat × Bytes) : (ch.arrive x).expected =
    if x.1 = ch.expected then ch.expected + x.2.length else ch.expected := by
  rw [Channel.expected, delivered_arrive]
  split
  · rw [size_append, size_singleton]
    rfl
  · rfl

/-- **A payload is taken when it is the next one.** -/
theorem arrive (h : Dir s r so ro ch) {o : Nat} {payload : Bytes} (hx : (o, payload) ∈ ch.attempts)
    (hread : r'.read = r.read) (hinbox : r'.v.inbox = if o = ch.expected then r.v.inbox ++ [payload] else r.v.inbox)
    (hseq : r'.v.theirSeq = seqAt s.base (ch.arrive (o, payload)).expected) : Dir s r' so ro (ch.arrive (o, payload)) where
  inv := h.inv.arrive hx
  begun := by
    rw [Channel.attempts_arrive]
    exact h.begun
  delivered := by
    have hdel := h.delivered
    rw [delivered_arrive, hread, hinbox]
    split
    · rw [List.map_append, hdel, List.map_singleton, List.append_assoc]
    · exact hdel
  room := by
    rw [Channel.attempts_arrive]
    exact h.room
  calls := by
    rw [Channel.attempts_arrive]
    exact h.calls
  sent := by
    rw [Channel.acked_arrive]
    exact h.sent
  taken := fun _ _ => hseq
  inTurn := by
    intro hover htrue
    obtain ⟨hturn, hin⟩ := h.inTurn hover htrue
    rw [Channel.attempts_arrive]
    refine ⟨hturn, ?_⟩
    cases hin with
    | idle hcalls hacked hreturned =>
      refine .idle hcalls ?_ ?_
      · rw [Channel.attempts_arrive, Channel.acked_arrive]
        exact hacked
      · rw [Channel.attempts_arrive]
        exact hreturned
    | nothing call hcalls hempty hacked hreturned =>
      refine .nothing call hcalls hempty ?_ ?_
      · rw [Channel.attempts_arrive, Channel.acked_arrive]
        exact hacked
      · rw [Channel.attempts_arrive]
        exact hreturned
    | sending call done hcalls hattempts hnum hreturned =>
      refine .sending call done hcalls ?_ hnum hreturned
      rw [Channel.attempts_arrive]
      exact hattempts

end Dir

/-! ## Both directions -/

namespace Side

@[simp] theorem other_other (p : Side) : p.other.other = p := by cases p <;> rfl

@[simp] theorem other_ne (p : Side) : p.other ≠ p := by cases p <;> decide

theorem eq_or_other (p q : Side) : q = p ∨ q = p.other := by cases p <;> cases q <;> decide

end Side

namespace Link

section Relation

variable (N : Link) (c : Side → Channel UInt8) (joined : Bool)

/-- The end has the other's initial sequence number. -/
def opened : Side → Bool
  | .client => joined
  | .server => N.accepted

/-- An acknowledgement of what was taken of this end, unless the end is closed. -/
def AckOk (q : Side) (ack : UInt32) : Prop :=
  (N.ends q).v.state = .closed ∨ ∃ n, (c q).Mark n ∧ ack = seqAt (N.ends q).base n

/-- A segment on its way to the end `q`. -/
inductive InFlight (q : Side) (m : Segment) : Prop
  | syn (hq : q = .server) (hflags : m.flags = TCP_SYN) (hseq : m.seq + 1 = (N.ends .client).base)
  | synAck (hq : q = .client) (hflags : m.flags = TCP_SYN ||| TCP_ACK) (hseq : m.seq + 1 = (N.ends .server).base)
      (haccepted : N.accepted = true)
  | ack (hjoined : joined = true) (hflags : m.flags = TCP_ACK ∨ m.flags = TCP_PSH ||| TCP_ACK) (hack : AckOk N c q m.ack)
      (hdata : m.payload = [] ∨ ∃ o, (o, m.payload) ∈ (c q.other).attempts ∧ m.seq = seqAt (N.ends q.other).base o)
  | fin (hjoined : joined = true) (hflags : m.flags = TCP_FIN ||| TCP_ACK) (hclosed : (N.ends q.other).v.state = .closed)

/-- The two directions of the link are `c`; `joined` once the client took the server's SYN-ACK. -/
structure Rel : Prop where
  dir : ∀ p, Dir (N.ends p) (N.ends p.other) (N.opened joined p) (N.opened joined p.other) (c p)
  net : ∀ q, ∀ m ∈ N.net q, InFlight N c joined q m
  idle : N.dialled = false → (∀ p, N.net p = []) ∧ N.accepted = false
  unaccepted : N.accepted = false → (N.ends .server).v.state = .closed ∧ joined = false
  unjoined : joined = false → ∀ p, c p = {} ∧ (N.ends p).calls = []
  established : ∀ p, (N.ends p).v.state = .established → joined = true
  client : (N.ends .client).v.state ≠ .synRcvd
  client_joined : joined = true → (N.ends .client).v.state ≠ .synSent

end Relation

variable {N N' : Link} {c c' : Side → Channel UInt8} {joined : Bool} {p q : Side}

theorem Rel.opened_of_joined (h : Rel N c joined) (hj : joined = true) (p : Side) : N.opened joined p = true := by
  cases p with
  | client => exact hj
  | server =>
    cases ha : N.accepted with
    | true => exact ha
    | false => exact absurd (h.unaccepted ha).2 (by rw [hj]; decide)

/-- What later states keep of a segment on its way. -/
structure Grows (N N' : Link) (c c' : Side → Channel UInt8) : Prop where
  base : ∀ p, (N'.ends p).base = (N.ends p).base
  closed : ∀ p, (N.ends p).v.state = .closed → (N'.ends p).v.state = .closed
  attempts : ∀ p, ∀ x ∈ (c p).attempts, x ∈ (c' p).attempts
  marks : ∀ p n, (c p).Mark n → (c' p).Mark n
  accepted : N.accepted = true → N'.accepted = true

theorem AckOk.mono {ack : UInt32} (h : AckOk N c q ack) (g : Grows N N' c c') : AckOk N' c' q ack := by
  rcases h with hclosed | ⟨n, hn, hack⟩
  · exact .inl (g.closed q hclosed)
  · exact .inr ⟨n, g.marks q n hn, by rw [g.base]; exact hack⟩

theorem InFlight.mono {m : Segment} (h : InFlight N c joined q m) (g : Grows N N' c c') : InFlight N' c' joined q m := by
  cases h with
  | syn hq hflags hseq => exact .syn hq hflags (hseq.trans (g.base _).symm)
  | synAck hq hflags hseq haccepted => exact .synAck hq hflags (hseq.trans (g.base _).symm) (g.accepted haccepted)
  | ack hjoined hflags hack hdata =>
    refine .ack hjoined hflags (hack.mono g) (hdata.imp_right fun ⟨o, ho, hseq⟩ => ⟨o, g.attempts _ _ ho, ?_⟩)
    rw [g.base]
    exact hseq
  | fin hjoined hflags hclosed => exact .fin hjoined hflags (g.closed _ hclosed)

section Put

variable {e : End} {segs : List Segment}

theorem ends_put (N : Link) (p : Side) (r : End × List Segment) : (N.put p r).ends p = r.1 := Function.update_self ..

theorem ends_put_other (N : Link) (p : Side) (r : End × List Segment) : (N.put p r).ends p.other = N.ends p.other :=
  Function.update_of_ne p.other_ne ..

theorem net_put (N : Link) (p : Side) (r : End × List Segment) : (N.put p r).net p.other = N.net p.other ++ r.2 :=
  Function.update_self ..

theorem net_put_self (N : Link) (p : Side) (r : End × List Segment) : (N.put p r).net p = N.net p :=
  Function.update_of_ne p.other_ne.symm ..

section Arrive

variable (N : Link) (p : Side) (m : Segment) (isn : UInt32)

theorem ends_arrive : (N.step (.arrive p m isn)).ends p = (N.ends p).withV ((N.ends p).v.onSegment isn m.received).1 :=
  Function.update_self ..

theorem ends_arrive_other : (N.step (.arrive p m isn)).ends p.other = N.ends p.other :=
  Function.update_of_ne p.other_ne ..

theorem net_arrive : (N.step (.arrive p m isn)).net p.other = N.net p.other ++ ((N.ends p).v.onSegment isn m.received).2 :=
  Function.update_self ..

theorem net_arrive_self : (N.step (.arrive p m isn)).net p = N.net p := Function.update_of_ne p.other_ne.symm ..

end Arrive

/-- The states that an end may come to with the other's number in hand, or without it. -/
structure Onward (e e' : End) (joined : Bool) : Prop where
  base : e'.base = e.base
  closed : e.v.state = .closed → e'.v.state = .closed
  established : e'.v.state = .established → joined = true
  synSent : e'.v.state = .synSent → e.v.state = .synSent
  synRcvd : e'.v.state = .synRcvd → e.v.state = .synRcvd
  calls : joined = false → e.calls = [] → e'.calls = []

theorem Onward.refl (h : Rel N c joined) (p : Side) : Onward (N.ends p) (N.ends p) joined :=
  ⟨rfl, id, h.established p, id, id, fun _ => id⟩

theorem base_put (hbase : e.base = (N.ends p).base) (segs : List Segment) (d : Side) :
    ((N.put p (e, segs)).ends d).base = (N.ends d).base := by
  rcases p.eq_or_other d with rfl | rfl
  · rw [ends_put]
    exact hbase
  · rw [ends_put_other]

theorem grows_put (hon : Onward (N.ends p) e joined) (hattempts : ∀ d, ∀ x ∈ (c d).attempts, x ∈ (c' d).attempts)
    (hmarks : ∀ d n, (c d).Mark n → (c' d).Mark n) : Grows N (N.put p (e, segs)) c c' where
  base := base_put hon.base segs
  closed d := by
    rcases p.eq_or_other d with rfl | rfl
    · rw [ends_put]
      exact hon.closed
    · rw [ends_put_other]
      exact id
  attempts := hattempts
  marks := hmarks
  accepted := id

/-- **A step of one end**: it is enough to look at its two directions and at what it sends. -/
theorem Rel.put (h : Rel N c joined) (hon : Onward (N.ends p) e joined)
    (hattempts : ∀ d, ∀ x ∈ (c d).attempts, x ∈ (c' d).attempts) (hmarks : ∀ d n, (c d).Mark n → (c' d).Mark n)
    (hunjoined : joined = false → ∀ d, c' d = {})
    (hout : Dir e (N.ends p.other) (N.opened joined p) (N.opened joined p.other) (c' p))
    (hin : Dir (N.ends p.other) e (N.opened joined p.other) (N.opened joined p) (c' p.other))
    (hsegs : ∀ m ∈ segs, joined = true ∧ InFlight (N.put p (e, segs)) c' joined p.other m) :
    Rel (N.put p (e, segs)) c' joined where
  dir d := by
    rcases p.eq_or_other d with rfl | rfl
    · rw [ends_put, ends_put_other]
      exact hout
    · rw [Side.other_other, ends_put, ends_put_other]
      exact hin
  net d m hm := by
    have hgrows : Grows N (N.put p (e, segs)) c c' := grows_put hon hattempts hmarks
    rcases p.eq_or_other d with rfl | rfl
    · rw [net_put_self] at hm
      exact (h.net _ m hm).mono hgrows
    · rw [net_put] at hm
      rcases List.mem_append.1 hm with hm | hm
      · exact (h.net _ m hm).mono hgrows
      · exact (hsegs m hm).2
  idle hdialled := by
    obtain ⟨hnet, haccepted⟩ := h.idle hdialled
    have hnone : segs = [] := by
      apply List.eq_nil_iff_forall_not_mem.2
      intro m hm
      have hj := (hsegs m hm).1
      rw [(h.unaccepted haccepted).2] at hj
      cases hj
    refine ⟨fun d => ?_, haccepted⟩
    rcases p.eq_or_other d with rfl | rfl
    · rw [net_put_self, hnet]
    · rw [net_put, hnet, hnone]
      rfl
  unaccepted haccepted := by
    obtain ⟨hclosed, hj⟩ := h.unaccepted haccepted
    refine ⟨?_, hj⟩
    rcases p.eq_or_other .server with hp | hp
    · rw [hp, ends_put]
      rw [hp] at hclosed
      exact hon.closed hclosed
    · rw [hp, ends_put_other, ← hp]
      exact hclosed
  unjoined hj d := by
    refine ⟨hunjoined hj d, ?_⟩
    rcases p.eq_or_other d with rfl | rfl
    · rw [ends_put]
      exact hon.calls hj (h.unjoined hj _).2
    · rw [ends_put_other]
      exact (h.unjoined hj _).2
  established d := by
    rcases p.eq_or_other d with rfl | rfl
    · rw [ends_put]
      exact hon.established
    · rw [ends_put_other]
      exact h.established _
  client := by
    rcases p.eq_or_other .client with hp | hp
    · rw [hp, ends_put]
      intro hrcvd
      exact h.client (hp ▸ hon.synRcvd hrcvd)
    · rw [hp, ends_put_other, ← hp]
      exact h.client
  client_joined hj := by
    rcases p.eq_or_other .client with hp | hp
    · rw [hp, ends_put]
      intro hsent
      exact h.client_joined hj (hp ▸ hon.synSent hsent)
    · rw [hp, ends_put_other, ← hp]
      exact h.client_joined hj

end Put

/-! ### Calls -/

section Calls

variable (h : Rel N c joined)

include h

/-- A step that leaves both directions as they are. -/
theorem Rel.put_same {e : End} {segs : List Segment} (hon : Onward (N.ends p) e joined)
    (hout : Dir e (N.ends p.other) (N.opened joined p) (N.opened joined p.other) (c p))
    (hin : Dir (N.ends p.other) e (N.opened joined p.other) (N.opened joined p) (c p.other))
    (hsegs : ∀ m ∈ segs, joined = true ∧ InFlight (N.put p (e, segs)) c joined p.other m) : Rel (N.put p (e, segs)) c joined :=
  h.put hon (fun _ _ => id) (fun _ _ => id) (fun hj d => (h.unjoined hj d).1) hout hin hsegs

/-- The direction to an end, from the side of its sender. -/
theorem Rel.dir_to (p : Side) :
    Dir (N.ends p.other) (N.ends p) (N.opened joined p.other) (N.opened joined p) (c p.other) := by
  have hdir := h.dir p.other
  rwa [Side.other_other] at hdir

theorem Rel.onward_of_v {e : End} (hv : e.v = (N.ends p).v)
    (hcalls : joined = false → (N.ends p).calls = [] → e.calls = []) : Onward (N.ends p) e joined := by
  have hrefl := Onward.refl h p
  refine ⟨?_, ?_, ?_, ?_, ?_, hcalls⟩
  · rw [End.base, hv]
    rfl
  · rw [hv]
    exact id
  · rw [hv]
    exact hrefl.established
  · rw [hv]
    exact id
  · rw [hv]
    exact id

/-- **What an established end acknowledges was taken.** -/
theorem Rel.ackOk_theirSeq (hstate : (N.ends p).v.state = .established) :
    ∃ n, (c p.other).Mark n ∧ (N.ends p).v.theirSeq = seqAt (N.ends p.other).base n := by
  have hj := h.established p hstate
  refine ⟨_, (c p.other).mark_expected, (h.dir_to p).taken (h.opened_of_joined hj p) ?_⟩
  rw [hstate]
  decide

theorem Rel.send (payload : Bytes) (hmay : N.May (.send p payload)) : ∃ c', Rel (N.step (.send p payload)) c' joined := by
  have hreceive : ∀ ch, Dir (N.ends p.other) (N.ends p) (N.opened joined p.other) (N.opened joined p) ch →
      Dir (N.ends p.other) ((N.ends p).send payload) (N.opened joined p.other) (N.opened joined p) ch := by
    intro ch hdir
    unfold End.send
    split
    · exact hdir.receiver rfl fun hs => ⟨hs, rfl⟩
    · exact hdir.receiver rfl fun hs => ⟨hs, rfl⟩
  have hv : ((N.ends p).send payload).v = (N.ends p).v := by
    unfold End.send
    split <;> rfl
  by_cases hstate : (N.ends p).v.state = .established
  · have hj := h.established p hstate
    have hso := h.opened_of_joined hj p
    have hon : Onward (N.ends p) ((N.ends p).send payload) joined := by
      refine h.onward_of_v hv fun hno => ?_
      rw [hj] at hno
      cases hno
    by_cases hne : payload = []
    · subst hne
      exact ⟨c, h.put_same hon ((h.dir p).send_nothing hstate hso) (hreceive _ (h.dir_to p)) (by simp)⟩
    have hother : Function.update c p ((c p).begin payload) p.other = c p.other := Function.update_of_ne p.other_ne ..
    refine ⟨Function.update c p ((c p).begin payload), h.put hon ?_ ?_ (fun hno => ?_) ?_ ?_ (by simp)⟩
    · intro d x hx
      rcases p.eq_or_other d with rfl | rfl
      · rw [Function.update_self]
        exact List.mem_append_left _ hx
      · rwa [hother]
    · intro d n hn
      rcases p.eq_or_other d with rfl | rfl
      · rw [Function.update_self]
        exact hn
      · rwa [hother]
    · rw [hj] at hno
      cases hno
    · rw [Function.update_self]
      exact (h.dir p).send_begun hstate hso hne hmay
    · rw [hother]
      exact hreceive _ (h.dir_to p)
  · have hon : Onward (N.ends p) ((N.ends p).send payload) joined := by
      refine h.onward_of_v hv fun _ hnil => ?_
      rw [End.send, if_pos hstate]
      exact hnil
    exact ⟨c, h.put_same hon ((h.dir p).send_refused hstate payload) (hreceive _ (h.dir_to p)) (by simp)⟩

theorem Rel.turn (k : Nat) : Rel (N.step (.turn p k)) c joined := by
  have hv : ((N.ends p).turn k).1.v = (N.ends p).v := by
    unfold End.turn
    split
    · rfl
    · split <;> rfl
  have hread : ((N.ends p).turn k).1.read = (N.ends p).read := by
    unfold End.turn
    split
    · rfl
    · split <;> rfl
  have hkept : ((N.ends p).turn k).1.read ++ ((N.ends p).turn k).1.v.inbox = (N.ends p).read ++ (N.ends p).v.inbox := by
    rw [hv, hread]
  have hin := (h.dir_to p).receiver hkept (by rw [hv]; exact fun hs => ⟨hs, rfl⟩)
  have hon : Onward (N.ends p) ((N.ends p).turn k).1 joined := by
    refine h.onward_of_v hv fun _ hnil => ?_
    rw [End.turn, hnil]
    exact hnil
  refine h.put_same hon ((h.dir p).turn k) hin fun m hm => ?_
  have hbase : ∀ d, ((N.put p ((N.ends p).turn k)).ends d).base = (N.ends d).base := base_put hon.base _
  obtain ⟨hstate, call, hcall, rfl⟩ := End.mem_turn hm
  obtain ⟨n, hn, htheir⟩ := h.ackOk_theirSeq hstate
  obtain ⟨o, ho, hseq⟩ := (h.dir p).calls call hcall
  refine ⟨h.established p hstate, .ack (h.established p hstate) (.inr rfl) (.inr ⟨n, hn, ?_⟩)
    (ho.imp_right fun ho => ⟨o, ?_, ?_⟩)⟩
  · exact htheir.trans (congrArg (fun b => seqAt b n) (hbase _).symm)
  · rw [Side.other_other]
    exact ho
  · rw [Side.other_other]
    exact hseq.trans (congrArg (fun b => seqAt b o) (hbase _).symm)

theorem Rel.look (k : Nat) : Rel (N.step (.look p k)) c joined := by
  have hv : ((N.ends p).look k).v = (N.ends p).v := by
    unfold End.look
    split
    · rfl
    · split <;> rfl
  have hread : ((N.ends p).look k).read = (N.ends p).read := by
    unfold End.look
    split
    · rfl
    · split <;> rfl
  have hkept : ((N.ends p).look k).read ++ ((N.ends p).look k).v.inbox = (N.ends p).read ++ (N.ends p).v.inbox := by rw [hv, hread]
  have hin := (h.dir_to p).receiver hkept (by rw [hv]; exact fun hs => ⟨hs, rfl⟩)
  have hon : Onward (N.ends p) ((N.ends p).look k) joined := by
    refine h.onward_of_v hv fun _ hnil => ?_
    rw [End.look, hnil]
    exact hnil
  refine h.put_same hon ((h.dir p).look (fun hcalls => ?_) k) hin (by simp)
  by_cases hj : joined = true
  · exact h.opened_of_joined hj p
  · exact absurd (h.unjoined (Bool.not_eq_true _ ▸ hj) p).2 hcalls

theorem Rel.recv : Rel (N.step (.recv p)) c joined := by
  have hbase : (N.ends p).recv.base = (N.ends p).base := by
    unfold End.recv End.base VTcp.recv
    split <;> rfl
  have hstate : (N.ends p).recv.v.state = (N.ends p).v.state := by
    unfold End.recv VTcp.recv
    split <;> rfl
  have htheir : (N.ends p).recv.v.theirSeq = (N.ends p).v.theirSeq := by
    unfold End.recv VTcp.recv
    split <;> rfl
  have hour : (N.ends p).recv.v.ourSeq = (N.ends p).v.ourSeq := by
    unfold End.recv VTcp.recv
    split <;> rfl
  have hread : (N.ends p).recv.read ++ (N.ends p).recv.v.inbox = (N.ends p).read ++ (N.ends p).v.inbox := by
    unfold End.recv VTcp.recv
    split
    · simp
    · rename_i b rest hinbox
      simp [hinbox]
  have hrefl := Onward.refl h p
  refine h.put_same ⟨hbase, by rw [hstate]; exact id, by rw [hstate]; exact hrefl.established, by rw [hstate]; exact id,
    by rw [hstate]; exact id, fun _ => id⟩ ((h.dir p).sender ⟨rfl, rfl, rfl, rfl⟩ hbase hour)
    ((h.dir_to p).receiver hread ?_) (by simp)
  rw [hstate]
  exact fun hs => ⟨hs, htheir⟩

theorem Rel.close : Rel (N.step (.close p)) c joined := by
  refine h.put_same ⟨rfl, fun _ => rfl, nofun, nofun, nofun, fun _ => id⟩ ((h.dir p).sender ⟨rfl, rfl, rfl, rfl⟩ rfl rfl)
    ((h.dir_to p).receiver rfl fun hs => absurd rfl hs) fun m hm => ?_
  by_cases hstate : (N.ends p).v.state = .established
  · rw [if_pos hstate] at hm
    rw [List.mem_singleton.1 hm]
    refine ⟨h.established p hstate, .fin (h.established p hstate) rfl ?_⟩
    rw [Side.other_other, ends_put]
  · rw [if_neg hstate] at hm
    cases hm

end Calls

/-! ### The handshake -/

/-- A direction that nothing was sent in, from and to ends whose numbers are new. -/
theorem anew {s s' r r' : End} {so so' ro ro' : Bool} (h : Dir s r so ro {}) (hnone : s.calls = []) (hs : Dir.SameSender s s')
    (hread : r'.read ++ r'.v.inbox = r.read ++ r.v.inbox) (hsent : so' = true → s'.v.ourSeq = s'.base)
    (htaken : ro' = true → r'.v.state ≠ .closed → r'.v.theirSeq = s'.base) : Dir s' r' so' ro' {} where
  inv := h.inv
  begun := by
    rw [hs.begun]
    exact h.begun
  delivered := h.delivered.trans hread.symm
  room := h.room
  calls := by
    rw [hs.calls, hnone]
    nofun
  sent := fun hso => (hsent hso).trans (seqAt_zero _).symm
  taken := fun hro hstate => (htaken hro hstate).trans (seqAt_zero _).symm
  inTurn := by
    rw [hs.overlapped, hs.returned]
    intro hover htrue
    obtain ⟨hturn, hin⟩ := h.inTurn hover htrue
    refine ⟨hturn, ?_⟩
    cases hin with
    | idle hcalls hacked hreturned => exact .idle (hs.calls.trans hcalls) hacked (hreturned.trans (by rw [hs.returned]))
    | nothing call hcalls _ _ _ =>
      rw [hnone] at hcalls
      cases hcalls
    | sending call done hcalls _ _ _ =>
      rw [hnone] at hcalls
      cases hcalls

section Flags

variable {m : Segment}

theorem bareSyn_of_flags (h : m.flags = TCP_SYN) : m.received.BareSyn := by
  have hflags : m.received.flags = TCP_SYN := h
  constructor
  all_goals
    simp only [TcpSegment.isSyn, TcpSegment.isAck, TcpSegment.isRst, hflags]
    decide

theorem plainAck_of_flags (h : m.flags = TCP_ACK ∨ m.flags = TCP_PSH ||| TCP_ACK) : m.received.PlainAck := by
  have hflags : m.received.flags = TCP_ACK ∨ m.received.flags = TCP_PSH ||| TCP_ACK := h
  constructor
  all_goals
    simp only [TcpSegment.isSyn, TcpSegment.isAck, TcpSegment.isRst, TcpSegment.isFin]
    rcases hflags with hflags | hflags <;> rw [hflags] <;> decide

end Flags

section Handshake

variable (h : Rel N c joined)

include h

/-- **The client's SYN goes out.** -/
theorem Rel.connect (isn : UInt32) (hmay : N.May (.connect isn)) : Rel (N.step (.connect isn)) c joined := by
  obtain ⟨hnet, haccepted⟩ := h.idle hmay
  obtain ⟨hclosed, hj⟩ := h.unaccepted haccepted
  have hc : ∀ p, c p = {} := fun p => (h.unjoined hj p).1
  have hcalls : ∀ p, (N.ends p).calls = [] := fun p => (h.unjoined hj p).2
  have hdir := h.dir
  simp only [hc] at hdir
  have hclient : (N.step (.connect isn)).ends .client = (N.ends .client).withV ((N.ends .client).v.connect isn).1 :=
    ends_put N .client ((N.ends .client).withV ((N.ends .client).v.connect isn).1, ((N.ends .client).v.connect isn).2)
  have hserver : (N.step (.connect isn)).ends .server = N.ends .server :=
    ends_put_other N .client ((N.ends .client).withV ((N.ends .client).v.connect isn).1, ((N.ends .client).v.connect isn).2)
  have hopened : ∀ p, (N.step (.connect isn)).opened joined p = false := by
    intro p
    cases p with
    | client => exact hj
    | server => exact haccepted
  have hnone : ∀ {b : Bool}, b = false → ∀ {P : Prop}, b = true → P := by
    intro b hb P htrue
    rw [hb] at htrue
    cases htrue
  constructor
  · intro p
    rw [hc]
    cases p with
    | client =>
      simp only [Side.other]
      rw [hclient, hserver]
      exact anew (hdir .client) (hcalls _) ⟨rfl, rfl, rfl, rfl⟩ rfl (hnone (hopened _)) (hnone (hopened _))
    | server =>
      simp only [Side.other]
      rw [hclient, hserver]
      exact anew (hdir .server) (hcalls _) ⟨rfl, rfl, rfl, rfl⟩ rfl (hnone (hopened _)) (hnone (hopened _))
  · intro q m hm
    cases q with
    | client =>
      have hempty : (N.step (.connect isn)).net .client = [] := hnet .client
      rw [hempty] at hm
      cases hm
    | server =>
      have hsyn : (N.step (.connect isn)).net .server = N.net .server ++ [(N.ends .client).v.segment isn 0 TCP_SYN] :=
        net_put N .client _
      rw [hsyn, hnet] at hm
      refine .syn rfl ?_ ?_
      · rw [List.mem_singleton.1 hm]
        rfl
      · rw [List.mem_singleton.1 hm, hclient]
        rfl
  · intro hdialled
    cases hdialled
  · intro _
    rw [hserver]
    exact ⟨hclosed, hj⟩
  · refine fun _ p => ⟨hc p, ?_⟩
    cases p with
    | client =>
      rw [hclient]
      exact hcalls _
    | server =>
      rw [hserver]
      exact hcalls _
  · intro p hp
    cases p with
    | client =>
      rw [hclient] at hp
      cases hp
    | server =>
      rw [hserver] at hp
      exact h.established _ hp
  · rw [hclient]
    nofun
  · exact hnone hj

/-- **The server takes the SYN.** -/
theorem Rel.accept {m : Segment} (isn : UInt32) (hmem : m ∈ N.net .server) (hflags : m.flags = TCP_SYN)
    (haccepted : N.accepted = false) : Rel (N.step (.arrive .server m isn)) c joined := by
  obtain ⟨hclosed, hj⟩ := h.unaccepted haccepted
  have hc : ∀ p, c p = {} := fun p => (h.unjoined hj p).1
  have hcalls : ∀ p, (N.ends p).calls = [] := fun p => (h.unjoined hj p).2
  have hdir := h.dir
  simp only [hc] at hdir
  have hseg := onSegment_syn (N.ends .server).v isn (bareSyn_of_flags hflags)
  have hserver := ends_arrive N .server m isn
  have hclient : (N.step (.arrive .server m isn)).ends .client = N.ends .client := ends_arrive_other N .server m isn
  have htaken : (N.step (.arrive .server m isn)).accepted = true := by
    show (N.accepted || m.flags == TCP_SYN) = true
    rw [hflags, beq_self_eq_true, Bool.or_true]
  rw [hseg] at hserver
  -- what was on its way before is the SYN
  have hsyn : ∀ q, ∀ m' ∈ N.net q, q = .server ∧ m'.flags = TCP_SYN ∧ m'.seq + 1 = (N.ends .client).base := by
    intro q m' hm'
    cases h.net q m' hm' with
    | syn hq hflags hseq => exact ⟨hq, hflags, hseq⟩
    | synAck _ _ _ hacc =>
      rw [haccepted] at hacc
      cases hacc
    | ack hjoined _ _ _ =>
      rw [hj] at hjoined
      cases hjoined
    | fin hjoined _ _ =>
      rw [hj] at hjoined
      cases hjoined
  constructor
  · intro p
    rw [hc]
    cases p with
    | client =>
      simp only [Side.other]
      rw [hclient, hserver]
      refine anew (hdir .client) (hcalls _) ⟨rfl, rfl, rfl, rfl⟩ rfl (fun hso => ?_) fun _ _ => (hsyn _ m hmem).2.2
      have hfalse : joined = true := hso
      rw [hj] at hfalse
      cases hfalse
    | server =>
      simp only [Side.other]
      rw [hclient, hserver]
      refine anew (hdir .server) (hcalls _) ⟨rfl, rfl, rfl, rfl⟩ rfl (fun _ => rfl) fun hro => ?_
      have hfalse : joined = true := hro
      rw [hj] at hfalse
      cases hfalse
  · intro q m' hm'
    cases q with
    | client =>
      have hreply : (N.step (.arrive .server m isn)).net .client =
          N.net .client ++ ((N.ends .server).v.onSegment isn m.received).2 := net_arrive N .server m isn
      rw [hreply, hseg] at hm'
      rcases List.mem_append.1 hm' with hold | hnew
      · cases (hsyn _ m' hold).1
      · rw [List.mem_singleton.1 hnew]
        refine .synAck rfl rfl ?_ htaken
        rw [hserver]
        rfl
    | server =>
      have hsame : (N.step (.arrive .server m isn)).net .server = N.net .server := net_arrive_self N .server m isn
      rw [hsame] at hm'
      obtain ⟨-, hf, hs⟩ := hsyn _ m' hm'
      refine .syn rfl hf ?_
      rw [hclient]
      exact hs
  · intro hdialled
    have hempty := (h.idle hdialled).1 .server
    rw [hempty] at hmem
    cases hmem
  · intro hno
    rw [htaken] at hno
    cases hno
  · refine fun _ p => ⟨hc p, ?_⟩
    cases p with
    | client =>
      rw [hclient]
      exact hcalls _
    | server =>
      rw [hserver]
      exact hcalls _
  · intro p hp
    cases p with
    | client =>
      rw [hclient] at hp
      exact h.established _ hp
    | server =>
      rw [hserver] at hp
      cases hp
  · rw [hclient]
    exact h.client
  · intro hjoined
    rw [hj] at hjoined
    cases hjoined

/-- **The client takes the SYN-ACK.** -/
theorem Rel.join {m : Segment} (isn : UInt32) (hmem : m ∈ N.net .client) (hflags : m.flags = TCP_SYN ||| TCP_ACK)
    (hseq : m.seq + 1 = (N.ends .server).base) (haccepted : N.accepted = true)
    (hgo : (N.ends .client).v.state = .synSent ∧ m.received.ack = (N.ends .client).v.ourIsn + 1) :
    Rel (N.step (.arrive .client m isn)) c true := by
  have hj : joined = false := by
    cases hjoined : joined with
    | false => rfl
    | true => exact absurd hgo.1 (h.client_joined hjoined)
  have hc : ∀ p, c p = {} := fun p => (h.unjoined hj p).1
  have hcalls : ∀ p, (N.ends p).calls = [] := fun p => (h.unjoined hj p).2
  have hdir := h.dir
  simp only [hc] at hdir
  have hkind : m.received.isRst = false ∧ m.received.isSyn = true ∧ m.received.isAck = true := by
    have hf : m.received.flags = TCP_SYN ||| TCP_ACK := hflags
    simp only [TcpSegment.isSyn, TcpSegment.isAck, TcpSegment.isRst, hf]
    decide
  have hseg := onSegment_synAck (N.ends .client).v isn hkind.1 hkind.2.1 hkind.2.2
  rw [if_pos hgo] at hseg
  have hclient := ends_arrive N .client m isn
  rw [hseg] at hclient
  have hserver : (N.step (.arrive .client m isn)).ends .server = N.ends .server := ends_arrive_other N .client m isn
  have haccepted' : (N.step (.arrive .client m isn)).accepted = true := by
    show (N.accepted || m.flags == TCP_SYN) = true
    rw [haccepted, Bool.true_or]
  -- what was on its way before is of the handshake
  have hold : ∀ q, ∀ m' ∈ N.net q, InFlight (N.step (.arrive .client m isn)) c true q m' := by
    intro q m' hm'
    cases h.net q m' hm' with
    | syn hq hf hs =>
      refine .syn hq hf ?_
      rw [hclient]
      exact hs
    | synAck hq hf hs hacc =>
      refine .synAck hq hf ?_ haccepted'
      rw [hserver]
      exact hs
    | ack hjoined _ _ _ =>
      rw [hj] at hjoined
      cases hjoined
    | fin hjoined _ _ =>
      rw [hj] at hjoined
      cases hjoined
  constructor
  · intro p
    rw [hc]
    cases p with
    | client =>
      simp only [Side.other]
      rw [hclient, hserver]
      refine anew (hdir .client) (hcalls _) ⟨rfl, rfl, rfl, rfl⟩ rfl (fun _ => rfl) fun _ hstate => ?_
      exact ((hdir .client).taken haccepted hstate).trans (seqAt_zero _)
    | server =>
      simp only [Side.other]
      rw [hclient, hserver]
      refine anew (hdir .server) (hcalls _) ⟨rfl, rfl, rfl, rfl⟩ rfl (fun _ => ?_) fun _ _ => hseq
      exact ((hdir .server).sent haccepted).trans (seqAt_zero _)
  · intro q m' hm'
    cases q with
    | client =>
      rw [net_arrive_self] at hm'
      exact hold _ m' hm'
    | server =>
      have hreply : (N.step (.arrive .client m isn)).net .server =
          N.net .server ++ ((N.ends .client).v.onSegment isn m.received).2 := net_arrive N .client m isn
      rw [hreply, hseg] at hm'
      rcases List.mem_append.1 hm' with hm' | hm'
      · exact hold _ m' hm'
      · rw [List.mem_singleton.1 hm']
        refine .ack rfl (.inl rfl) (.inr ⟨0, (c .server).mark_zero, ?_⟩) (.inl rfl)
        rw [seqAt_zero, hserver]
        exact hseq
  · intro hdialled
    have hempty := (h.idle hdialled).1 .client
    rw [hempty] at hmem
    cases hmem
  · intro hno
    rw [haccepted'] at hno
    cases hno
  · nofun
  · exact fun _ _ => rfl
  · rw [hclient]
    nofun
  · intro _
    rw [hclient]
    nofun

end Handshake

/-! ### Acknowledgements and payloads -/

section Arrivals

variable {m : Segment}

theorem step_arrive (hflags : m.flags ≠ TCP_SYN) (isn : UInt32) : N.step (.arrive p m isn) =
    N.put p ((N.ends p).withV ((N.ends p).v.onSegment isn m.received).1, ((N.ends p).v.onSegment isn m.received).2) := by
  have hno : (m.flags == TCP_SYN) = false := by simp [hflags]
  simp [step, hno, put]

variable (h : Rel N c joined)

include h

/-- A segment that does nothing. -/
theorem Rel.ignored (hflags : m.flags ≠ TCP_SYN) {isn : UInt32}
    (hseg : (N.ends p).v.onSegment isn m.received = ((N.ends p).v, [])) : Rel (N.step (.arrive p m isn)) c joined := by
  rw [step_arrive hflags, hseg]
  exact h.put_same (Onward.refl h p) (h.dir p) (h.dir_to p) (by simp)

/-- **A FIN closes the end**, and is acknowledged. -/
theorem Rel.fin (hjoined : joined = true) (hflags : m.flags = TCP_FIN ||| TCP_ACK)
    (hclosed : (N.ends p.other).v.state = .closed) (isn : UInt32) : Rel (N.step (.arrive p m isn)) c joined := by
  have hkind : m.received.isRst = false ∧ m.received.isSyn = false ∧ m.received.isFin = true := by
    have hf : m.received.flags = TCP_FIN ||| TCP_ACK := hflags
    simp only [TcpSegment.isSyn, TcpSegment.isFin, TcpSegment.isRst, hf]
    decide
  have hsyn : m.flags ≠ TCP_SYN := by
    rw [hflags]
    decide
  rw [step_arrive hsyn, onSegment_fin _ isn hkind.1 hkind.2.1 hkind.2.2]
  refine h.put_same ⟨rfl, fun _ => rfl, nofun, nofun, nofun, fun _ => id⟩ ((h.dir p).sender ⟨rfl, rfl, rfl, rfl⟩ rfl rfl)
    ((h.dir_to p).receiver rfl fun hs => absurd rfl hs) fun m' hm' => ?_
  rw [List.mem_singleton.1 hm']
  refine ⟨hjoined, .ack hjoined (.inl rfl) (.inl ?_) (.inl rfl)⟩
  rw [ends_put_other]
  exact hclosed

/-- **The final acknowledgement establishes the server.** -/
theorem Rel.confirm (hjoined : joined = true) (hstate : (N.ends p).v.state = .synRcvd) :
    Rel (N.put p ((N.ends p).withV { (N.ends p).v with state := .established }, [])) c joined := by
  refine h.put_same ⟨rfl, fun hclosed => ?_, fun _ => hjoined, nofun, nofun, fun _ => id⟩
    ((h.dir p).sender ⟨rfl, rfl, rfl, rfl⟩ rfl rfl) ((h.dir_to p).receiver rfl fun _ => ⟨?_, rfl⟩) (by simp)
  · rw [hstate] at hclosed
    cases hclosed
  · rw [hstate]
    decide

section OnAck

variable {n : Nat} (hjoined : joined = true) (hstate : (N.ends p).v.state = .established) (hn : (c p).Mark n)

include hjoined hstate hn

/-- **An acknowledgement without a new payload.** -/
theorem Rel.acknowledge : Rel (N.put p ((N.ends p).withV { (N.ends p).v with
    ourSeq := seqAt (N.ends p).base (max (c p).acked n) }, [])) (Function.update c p ((c p).acknowledge n)) joined := by
  have hother : Function.update c p ((c p).acknowledge n) p.other = c p.other := Function.update_of_ne p.other_ne ..
  have hself : Function.update c p ((c p).acknowledge n) p = (c p).acknowledge n := Function.update_self ..
  refine h.put ⟨rfl, id, fun _ => hjoined, id, id, fun _ => id⟩ (fun d x hx => ?_) (fun d k hk => ?_) (fun hno => ?_) ?_ ?_ (by simp)
  · rcases p.eq_or_other d with rfl | rfl
    · rw [hself]
      exact hx
    · rwa [hother]
  · rcases p.eq_or_other d with rfl | rfl
    · rw [hself]
      exact hk
    · rwa [hother]
  · rw [hjoined] at hno
    cases hno
  · rw [hself]
    exact (h.dir p).acknowledge hn ⟨rfl, rfl, rfl, rfl⟩ rfl rfl
  · rw [hother]
    exact (h.dir_to p).receiver rfl fun hs => ⟨hs, rfl⟩

/-- **An acknowledgement with the next payload**, which is taken and acknowledged. -/
theorem Rel.take {payload : Bytes} (hx : ((c p.other).expected, payload) ∈ (c p.other).attempts) :
    Rel (N.put p ((N.ends p).withV { (N.ends p).v with
        ourSeq := seqAt (N.ends p).base (max (c p).acked n)
        inbox := (N.ends p).v.inbox ++ [payload]
        theirSeq := (N.ends p).v.theirSeq + seqLen payload },
      [(N.ends p).v.segment (seqAt (N.ends p).base (max (c p).acked n)) ((N.ends p).v.theirSeq + seqLen payload) TCP_ACK]))
      (Function.update (Function.update c p ((c p).acknowledge n)) p.other
        ((c p.other).arrive ((c p.other).expected, payload))) joined := by
  have hself : Function.update (Function.update c p ((c p).acknowledge n)) p.other
      ((c p.other).arrive ((c p.other).expected, payload)) p = (c p).acknowledge n := by
    rw [Function.update_of_ne p.other_ne.symm, Function.update_self]
  have hother : Function.update (Function.update c p ((c p).acknowledge n)) p.other
      ((c p.other).arrive ((c p.other).expected, payload)) p.other = (c p.other).arrive ((c p.other).expected, payload) :=
    Function.update_self ..
  have htheir : (N.ends p).v.theirSeq + seqLen payload =
      seqAt (N.ends p.other).base ((c p.other).arrive ((c p.other).expected, payload)).expected := by
    have hbefore := (h.dir_to p).taken (h.opened_of_joined hjoined p) (by rw [hstate]; decide)
    rw [hbefore, Dir.expected_arrive, if_pos rfl, seqLen, seqAt_add]
  refine h.put ⟨rfl, id, fun _ => hjoined, id, id, fun _ => id⟩ (fun d x hmem => ?_) (fun d k hk => ?_) (fun hno => ?_) ?_ ?_
    fun m' hm' => ?_
  · rcases p.eq_or_other d with rfl | rfl
    · rw [hself]
      exact hmem
    · rw [hother, Channel.attempts_arrive]
      exact hmem
  · rcases p.eq_or_other d with rfl | rfl
    · rw [hself]
      exact hk
    · rw [hother]
      exact hk.arrive _
  · rw [hjoined] at hno
    cases hno
  · rw [hself]
    exact (h.dir p).acknowledge hn ⟨rfl, rfl, rfl, rfl⟩ rfl rfl
  · rw [hother]
    exact (h.dir_to p).arrive hx rfl (if_pos rfl).symm htheir
  · rw [List.mem_singleton.1 hm']
    refine ⟨hjoined, .ack hjoined (.inl rfl)
      (.inr ⟨((c p.other).arrive ((c p.other).expected, payload)).expected, ?_, ?_⟩) (.inl rfl)⟩
    · rw [hother]
      exact Channel.mark_expected _
    · rw [ends_put_other]
      exact htheir

end OnAck

/-- **Whatever arrives, the two directions go on.** -/
theorem Rel.arrive (isn : UInt32) (hmay : N.May (.arrive p m isn)) : ∃ c' j', Rel (N.step (.arrive p m isn)) c' j' := by
  obtain ⟨hmem, hfirst⟩ := hmay
  cases h.net p m hmem with
  | syn hq hflags _ =>
    subst hq
    exact ⟨c, joined, h.accept isn hmem hflags (hfirst hflags)⟩
  | synAck hq hflags hseq haccepted =>
    subst hq
    by_cases hgo : (N.ends .client).v.state = .synSent ∧ m.received.ack = (N.ends .client).v.ourIsn + 1
    · exact ⟨c, true, h.join isn hmem hflags hseq haccepted hgo⟩
    · have hf : m.received.flags = TCP_SYN ||| TCP_ACK := hflags
      have hsyn : m.flags ≠ TCP_SYN := by
        rw [hflags]
        decide
      refine ⟨c, joined, h.ignored hsyn ?_⟩
      rw [onSegment_synAck, if_neg hgo]
      all_goals
        simp only [TcpSegment.isSyn, TcpSegment.isAck, TcpSegment.isRst, hf]
        decide
  | fin hjoined hflags hclosed => exact ⟨c, joined, h.fin hjoined hflags hclosed isn⟩
  | ack hjoined hflags hack hdata =>
    have hsyn : m.flags ≠ TCP_SYN := by
      rcases hflags with hf | hf <;> rw [hf] <;> decide
    have hseg := onSegment_ack (N.ends p).v isn (plainAck_of_flags hflags)
    by_cases hrcvd : (N.ends p).v.state = .synRcvd ∧ m.received.ack = (N.ends p).v.ourIsn + 1
    · rw [if_pos hrcvd] at hseg
      rw [step_arrive hsyn, hseg]
      exact ⟨c, joined, h.confirm hjoined hrcvd.1⟩
    rw [if_neg hrcvd] at hseg
    by_cases hest : (N.ends p).v.state = .established
    · rw [if_neg (not_not_intro hest)] at hseg
      obtain ⟨n, hn, hackn⟩ := hack.resolve_left (by rw [hest]; decide)
      have hnlt := Nat.lt_of_le_of_lt hn.le_expected (h.dir p).expected_lt
      have hacked : (N.ends p).v.ackedSeq m.ack = seqAt (N.ends p).base (max (c p).acked n) := by
        rw [hackn]
        exact ackedSeq_seqAt ((h.dir p).sent (h.opened_of_joined hjoined p)) (h.dir p).acked_lt hnlt
      have hquiet := h.acknowledge hjoined hest hn
      rw [step_arrive hsyn, hseg, VTcp.onAck]
      simp only [Segment.received, hacked]
      rcases hdata with hnil | ⟨o, ho, hseq⟩
      · rw [if_pos (by rw [hnil]; rfl)]
        exact ⟨_, joined, hquiet⟩
      · have hlen : ¬ m.payload.length = 0 := by
          have hne := (h.dir_to p).inv.nonempty _ ho
          exact fun hzero => hne (List.length_eq_zero_iff.1 hzero)
        have htheir := (h.dir_to p).taken (h.opened_of_joined hjoined p) (by rw [hest]; decide)
        rw [if_neg hlen]
        by_cases hnext : m.seq = (N.ends p).v.theirSeq
        · have hoff : o = (c p.other).expected := by
            have hlt := (h.dir_to p).offset_lt ho
            have hexp := (h.dir_to p).expected_lt
            rw [hseq, htheir] at hnext
            exact seqAt_inj (by omega) (by omega) hnext
          subst hoff
          rw [if_pos hnext]
          exact ⟨_, joined, h.take hjoined hest hn ho⟩
        · rw [if_neg hnext]
          exact ⟨_, joined, hquiet⟩
    · rw [if_pos hest] at hseg
      exact ⟨c, joined, h.ignored hsyn hseg⟩

end Arrivals

/-! ## Every run -/

theorem rel_start (client server : UInt32) : Rel (start client server) (fun _ => {}) false where
  dir p := by
    have hv : ((start client server).ends p).calls = [] ∧ ((start client server).ends p).begun = [] ∧
        ((start client server).ends p).returned = [] := by
      cases p <;> exact ⟨rfl, rfl, rfl⟩
    have hread : ((start client server).ends p.other).read ++ ((start client server).ends p.other).v.inbox = [] := by
      cases p <;> rfl
    have hclosed : ∀ q, (start client server).opened false q = false := by
      intro q
      cases q <;> rfl
    exact {
      inv := Channel.inv_new
      begun := by
        rw [hv.2.1]
        rfl
      delivered := hread.symm
      room := by simp
      calls := by simp [hv.1]
      sent := by simp [hclosed]
      taken := by simp [hclosed]
      inTurn := by
        refine fun _ _ => ⟨Traces.justified_nil, .idle hv.1 rfl ?_⟩
        rw [hv.2.2]
        rfl }
  net q m hm := by cases hm
  idle _ := ⟨fun _ => rfl, rfl⟩
  unaccepted _ := ⟨rfl, rfl⟩
  unjoined _ p := by cases p <;> exact ⟨rfl, rfl⟩
  established p hp := by cases p <;> cases hp
  client := nofun
  client_joined := nofun

theorem Rel.step (h : Rel N c joined) (op : Op) (hmay : N.May op) : ∃ c' j', Rel (N.step op) c' j' := by
  cases op with
  | connect isn => exact ⟨c, joined, h.connect isn hmay⟩
  | arrive p m isn => exact h.arrive isn hmay
  | send p payload =>
    obtain ⟨c', h'⟩ := h.send payload hmay
    exact ⟨c', joined, h'⟩
  | turn p k => exact ⟨c, joined, h.turn k⟩
  | look p k => exact ⟨c, joined, h.look k⟩
  | recv p => exact ⟨c, joined, h.recv⟩
  | close p => exact ⟨c, joined, h.close⟩

theorem rel_reachable {client server : UInt32} (h : Runs.Reachable step May (start client server) N) :
    ∃ c joined, Rel N c joined := by
  refine h.keeps (P := fun N => ∃ c joined, Rel N c joined) ⟨_, _, rel_start client server⟩ fun N op hN hmay => ?_
  obtain ⟨c, joined, hrel⟩ := hN
  exact hrel.step op hmay

/-- **In order, and at most once**: what an end hands over are payloads that a `send` of the other began with, in the order
in which they began.  While the other sends one at a time and no call of it returned False or raised, they are all those of the
calls that returned True that are not empty, and the one under way at most. -/
theorem delivered_in_order {client server : UInt32} (h : Runs.Reachable step May (start client server) N) (p : Side) :
    List.Sublist (N.delivered p.other) (N.ends p).begun ∧
    ((N.ends p).overlapped = false → (∀ x ∈ (N.ends p).returned, x.2 = true) →
      N.delivered p.other = carried ((N.ends p).returned.map Prod.fst) ∨
      ∃ call, (N.ends p).calls = [call] ∧
        N.delivered p.other = carried ((N.ends p).returned.map Prod.fst) ++ [call.payload]) := by
  obtain ⟨c, joined, hrel⟩ := rel_reachable h
  have hdir := hrel.dir p
  refine ⟨?_, fun hover htrue => ?_⟩
  · have hcarried : List.Sublist ((c p).attempts.map Prod.snd) (N.ends p).begun := by
      rw [hdir.begun]
      exact List.filter_sublist
    rw [delivered, ← hdir.delivered]
    exact (hdir.inv.sublist.map _).trans hcarried
  · obtain ⟨hturn, hin⟩ := hdir.inTurn hover htrue
    rw [delivered, ← hdir.delivered]
    cases hin with
    | idle _ hacked hreturned | nothing _ _ _ hacked hreturned =>
      left
      rw [Channel.delivered_of_acked hdir.inv hturn hacked, hreturned]
    | sending call done hcalls hattempts _ hreturned =>
      rcases Channel.delivered_cases hdir.inv hturn hattempts with hdone | hall
      · left
        rw [hdone, hreturned]
      · right
        refine ⟨call, hcalls, ?_⟩
        rw [hall, List.map_append, hreturned]
        rfl

/-! ## Two runs -/

instance decidableMay (N : Link) : ∀ op, Decidable (N.May op)
  | .connect _ => inferInstanceAs (Decidable (N.dialled = false))
  | .arrive p m _ => inferInstanceAs (Decidable (m ∈ N.net p ∧ (m.flags = TCP_SYN → N.accepted = false)))
  | .send p payload =>
    inferInstanceAs (Decidable (total (N.ends p).begun + payload.length < 2 ^ 31))
  | .turn _ _ => isTrue trivial
  | .look _ _ => isTrue trivial
  | .recv _ => isTrue trivial
  | .close _ => isTrue trivial

def joinerIp : UInt32 := 0x0A0DC84D

def hostIp : UInt32 := 0x0A0D2502

def joinerV : VTcp := { ip := joinerIp, peerIp := hostIp, peerPort := ldnControlPort }

def hostV : VTcp := { ip := hostIp, peerIp := joinerIp, peerPort := ldnControlPort }

/-- The handshake, from the initial sequence numbers 100 and 500. -/
def handshake : List Op :=
  [.connect 100, .arrive .server (joinerV.segment 100 0 TCP_SYN) 500,
    .arrive .client (hostV.segment 500 101 (TCP_SYN ||| TCP_ACK)) 0, .arrive .server (joinerV.segment 101 501 TCP_ACK) 0]

/-- The client's first payload. -/
def firstData (payload : Bytes) : Segment :=
  { joinerV.segment 101 501 (TCP_PSH ||| TCP_ACK) with payload := payload }

/-- The first payload is sent twice and arrives three times, and the second one is empty. -/
def repeated : List Op :=
  [.send .client [1, 2, 3], .turn .client 0, .turn .client 0, .arrive .server (firstData [1, 2, 3]) 0,
    .arrive .server (firstData [1, 2, 3]) 0, .recv .server, .arrive .server (firstData [1, 2, 3]) 0,
    .arrive .client (hostV.segment 501 104 TCP_ACK) 0, .look .client 0, .send .client [], .turn .client 0, .look .client 0,
    .send .client [4], .turn .client 0]

def exchanged : Link := Runs.run step (start joinerIp hostIp) (handshake ++ repeated)

theorem delivered_in_order_exchanged :
    (List.Sublist (exchanged.delivered .server) (exchanged.ends .client).begun ∧
      (exchanged.delivered .server = carried ((exchanged.ends .client).returned.map Prod.fst) ∨
        ∃ call, (exchanged.ends .client).calls = [call] ∧
          exchanged.delivered .server = carried ((exchanged.ends .client).returned.map Prod.fst) ++ [call.payload])) ∧
    (exchanged.ends .client).returned = [([1, 2, 3], true), ([], true)] ∧
    (exchanged.ends .client).begun = [[1, 2, 3], [], [4]] := by
  have hreach : Runs.Reachable step May (start joinerIp hostIp) exchanged :=
    Runs.reachable_run (handshake ++ repeated) .init (by decide +kernel)
  have hreturned : (exchanged.ends .client).returned = [([1, 2, 3], true), ([], true)] := by decide +kernel
  have h := delivered_in_order hreach .client
  refine ⟨⟨h.1, h.2 (by decide +kernel) fun x hx => ?_⟩, hreturned, by decide +kernel⟩
  rw [hreturned] at hx
  rcases List.mem_pair.1 hx with rfl | rfl <;> rfl

/-- The acknowledgement of a payload comes after its call has given up. -/
def late : List Op :=
  .send .client [1] :: List.replicate 6 (.turn .client 0) ++ [.arrive .server (firstData [1]) 0, .turn .client 0,
    .send .client [2], .turn .client 0, .arrive .server (firstData [2]) 0,
    .arrive .client (hostV.segment 501 102 TCP_ACK) 0, .look .client 0]

/-- **A call returns True for a payload that is not handed over** when the one before it returned False for one that was. -/
theorem lost_after_failure : ∃ N, Runs.Reachable step May (start joinerIp hostIp) N ∧
    (N.ends .client).returned = [([1], false), ([2], true)] ∧ N.delivered .server = [[1]] :=
  ⟨_, Runs.reachable_run (handshake ++ late) .init (by decide +kernel), by decide +kernel, by decide +kernel⟩

end Link

end Ldn
end Slp
