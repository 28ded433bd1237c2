import SwitchLanPlay.CStrings
import SwitchLanPlay.DnsQuery
import SwitchLanPlay.DnsReplies
/-!
# DnsResolve — the resolver of relay names (source/relay_bridge.hpp)

`resolveHostname` sends a query and hands the first datagram that comes back to the response parser, which looks at no byte
before the flags and skips the question.  Which query was sent makes no difference to the answer: a datagram with any id and
any question is taken (`resolution_ignores_query`).
-/
namespace Slp

open Wire CStrings DnsMessage

/-- `sizeof(query)` and `sizeof(resp)`. -/
def dnsCap : Nat := 512

/-- What one call meets: whether `socket` and `sendto` succeed, the datagram `recvfrom` gets, if any, and what the memory of
`query` and of `resp`, and behind it, held before. -/
structure Net where
  socket : Bool
  sendto : Bool
  reply : Option Bytes
  query : ByteArr dnsCap
  stack : Nat → UInt8

/-- What reaches the socket, and with true the address. -/
structure Resolution where
  sent : Option Bytes
  addr : Option Bytes
deriving DecidableEq

/-- `(host[0] << 8 | host[1]) ^ 0x5A5A`. -/
def queryId (host : Bytes) : UInt16 := read16 (byteAt host 0) (byteAt host 1) ^^^ 0x5A5A

/-- `recvfrom` and the parser on `resp`. -/
def receive (net : Net) : Option (Option Bytes) :=
  match net.reply with
  | none => some none
  | some datagram =>
    let resp := datagram.take dnsCap
    dnsParseResponseA (memory resp net.stack) resp.length

/-- `ResolveHostname` on a buffer that holds the host. -/
def resolveHostname (net : Net) (host : Bytes) : Option Resolution := do
  let (query, qlen) ← dnsBuildQuery (cstr host) (queryId host) net.query
  if qlen < 0 ∨ !net.socket ∨ !net.sendto then return ⟨none, none⟩
  let addr ← receive net
  return ⟨some (query.read qlen.toNat), addr⟩

/-- The query is sent and the datagram parsed, or there is no address. -/
theorem resolveHostname_cases {net : Net} {host : Bytes} {res : Resolution} (h : resolveHostname net host = some res) :
    res.addr = none ∨ (res.sent.isSome = true ∧ receive net = some res.addr) := by
  rw [resolveHostname] at h
  obtain ⟨⟨query, qlen⟩, -, h⟩ := Option.bind_eq_some_iff.1 h
  dsimp only at h
  split at h
  · cases h
    exact .inl rfl
  · obtain ⟨addr, haddr, h⟩ := Option.bind_eq_some_iff.1 h
    cases h
    exact .inr ⟨rfl, haddr⟩

/-! ## The parser looks at no byte before the flags -/

section Blind

variable {mem mem' : Nat → Option UInt8} (hmem : ∀ i, 2 ≤ i → mem i = mem' i) (len : Nat)

include hmem

theorem field16_congr {pos : Nat} (h : 2 ≤ pos) : field16 mem pos = field16 mem' pos := by
  rw [field16, field16, hmem pos h, hmem (pos + 1) (by omega)]

theorem skipLabels_congr : ∀ (turns : Nat) {pos : Nat}, 2 ≤ pos →
    skipLabels mem len turns pos = skipLabels mem' len turns pos
  | 0, _, _ => rfl
  | turns + 1, pos, h => by
    rw [skipLabels, skipLabels, hmem pos h]
    congr 1
    cases mem' pos with
    | none => rfl
    | some l =>
      show (if _ then _ else if _ then _ else _) = (if _ then _ else if _ then _ else _)
      rw [skipLabels_congr turns (show 2 ≤ pos + (1 + l.toNat) by omega)]

theorem copyOut_congr {found : Option Nat} (h : ∀ pos, found = some pos → 2 ≤ pos) : copyOut mem found = copyOut mem' found := by
  cases found with
  | none => rfl
  | some pos =>
    have hpos := h pos rfl
    rw [copyOut, copyOut, copyAddress, copyAddress, hmem (pos + 10) (by omega), hmem (pos + 11) (by omega),
      hmem (pos + 12) (by omega), hmem (pos + 13) (by omega)]

end Blind

theorem skipLabels_le {mem : Nat → Option UInt8} {len : Nat} : ∀ (turns : Nat) {pos e : Nat} {s : Stop},
    skipLabels mem len turns pos = some (e, s) → pos ≤ e
  | 0, _, _, _, h => by cases h; exact Nat.le_refl _
  | turns + 1, pos, e, s, h => by
    rw [skipLabels] at h
    split at h
    · obtain ⟨l, -, h⟩ := Option.bind_eq_some_iff.1 h
      split at h
      · cases h; exact Nat.le_refl _
      · split at h
        · cases h; exact Nat.le_refl _
        · have := skipLabels_le turns h
          omega
    · cases h; exact Nat.le_refl _

theorem skipOwner_le {mem : Nat → Option UInt8} {len pos e : Nat} (h : skipOwner mem len pos = some e) : pos ≤ e := by
  obtain ⟨⟨p, s⟩, hskip, h⟩ := Option.bind_eq_some_iff.1 h
  cases h
  exact Nat.le_trans (skipLabels_le _ hskip) (Nat.le_add_right _ _)

theorem skipQuestion_le {mem : Nat → Option UInt8} {len pos e : Nat} (h : skipQuestion mem len pos = some e) : pos ≤ e := by
  obtain ⟨⟨p, s⟩, hskip, h⟩ := Option.bind_eq_some_iff.1 h
  cases h
  exact Nat.le_trans (skipLabels_le _ hskip) (Nat.le_add_right _ _)

theorem walkRecords_le {mem : Nat → Option UInt8} {len : Nat} : ∀ (n : Nat) {pos e : Nat},
    walkRecords mem len n pos = some (some e) → pos ≤ e
  | 0, _, _, h => by cases h
  | n + 1, pos, e, h => by
    rw [walkRecords] at h
    split at h
    · obtain ⟨p, hp, h⟩ := Option.bind_eq_some_iff.1 h
      have hle := skipOwner_le hp
      split at h
      · cases h
      obtain ⟨type, -, h⟩ := Option.bind_eq_some_iff.1 h
      obtain ⟨rdlen, -, h⟩ := Option.bind_eq_some_iff.1 h
      split at h
      · cases h
        exact hle
      · have := walkRecords_le n h
        omega
    · cases h

theorem walkRecords_congr {mem mem' : Nat → Option UInt8} (hmem : ∀ i, 2 ≤ i → mem i = mem' i) (len : Nat) :
    ∀ (n : Nat) {pos : Nat}, 2 ≤ pos → walkRecords mem len n pos = walkRecords mem' len n pos
  | 0, _, _ => rfl
  | n + 1, pos, h => by
    have howner : skipOwner mem len pos = skipOwner mem' len pos := by
      rw [skipOwner, skipOwner, skipLabels_congr hmem len _ h]
    rw [walkRecords, walkRecords, howner]
    congr 1
    cases hp : skipOwner mem' len pos with
    | none => rfl
    | some p =>
      have hle := skipOwner_le hp
      simp only [Option.bind_eq_bind, Option.bind_some]
      rw [field16_congr hmem (show 2 ≤ p by omega), field16_congr hmem (show 2 ≤ p + 8 by omega)]
      congr 1
      cases field16 mem' p with
      | none => rfl
      | some type =>
        cases field16 mem' (p + 8) with
        | none => rfl
        | some rdlen =>
          simp only [Option.bind_some]
          rw [walkRecords_congr hmem len n (show 2 ≤ p + (10 + rdlen.toNat) by omega)]

/-- **Memories that differ in the id alone are parsed alike.** -/
theorem dnsParseResponseA_congr {mem mem' : Nat → Option UInt8} (hmem : ∀ i, 2 ≤ i → mem i = mem' i) (len : Nat) :
    dnsParseResponseA mem len = dnsParseResponseA mem' len := by
  have hquestion : skipQuestion mem len 12 = skipQuestion mem' len 12 := by
    rw [skipQuestion, skipQuestion, skipLabels_congr hmem len _ (by omega)]
  have hlocate : locateA mem len = locateA mem' len := by
    rw [locateA, locateA, field16_congr hmem (show 2 ≤ 2 by omega), field16_congr hmem (show 2 ≤ 6 by omega), hquestion]
    cases hstart : skipQuestion mem' len 12 with
    | none => rfl
    | some start =>
      have hle := skipQuestion_le hstart
      simp only [Option.bind_eq_bind, Option.bind_some]
      simp only [walkRecords_congr hmem len _ (show 2 ≤ start by omega)]
  rw [dnsParseResponseA, dnsParseResponseA, hlocate]
  cases hfound : locateA mem' len with
  | none => rfl
  | some found =>
    refine copyOut_congr hmem (fun pos hpos => ?_)
    subst hpos
    rw [locateA] at hfound
    split at hfound
    · cases hfound
    obtain ⟨flags, -, hfound⟩ := Option.bind_eq_some_iff.1 hfound
    split at hfound
    · cases hfound
    obtain ⟨ancount, -, hfound⟩ := Option.bind_eq_some_iff.1 hfound
    split at hfound
    · cases hfound
    obtain ⟨start, hstart, hfound⟩ := Option.bind_eq_some_iff.1 hfound
    have hle := skipQuestion_le hstart
    have := walkRecords_le _ hfound
    omega

/-! ## The resolver -/

def Net.withReply (net : Net) (datagram : Bytes) : Net := { net with reply := some datagram }

/-- **The datagram decides the answer and nothing else.** -/
theorem resolveHostname_withReply {net : Net} {datagram datagram' : Bytes}
    (h : receive (net.withReply datagram) = receive (net.withReply datagram')) (host : Bytes) :
    resolveHostname (net.withReply datagram) host = resolveHostname (net.withReply datagram') host := by
  rw [resolveHostname, resolveHostname, h]
  rfl

/-- The datagram under another transaction id. -/
def withId (id : UInt16) (datagram : Bytes) : Bytes := be16 id ++ datagram.drop 2

theorem dnsParseResponseA_short {mem : Nat → Option UInt8} {len : Nat} (h : len < 12) :
    dnsParseResponseA mem len = some none := by
  rw [dnsParseResponseA, locateA, if_pos h]
  rfl

theorem receive_withReply (net : Net) (datagram : Bytes) :
    receive (net.withReply datagram) =
      dnsParseResponseA (memory (datagram.take dnsCap) net.stack) (datagram.take dnsCap).length := rfl

theorem receive_withId (net : Net) (id : UInt16) (datagram : Bytes) :
    receive (net.withReply (withId id datagram)) = receive (net.withReply datagram) := by
  rw [receive_withReply, receive_withReply]
  by_cases hlong : 2 ≤ datagram.length
  · have hlen : (withId id datagram).length = datagram.length := by
      rw [withId, List.length_append, List.length_drop, length_be16]
      omega
    rw [List.length_take, List.length_take, hlen]
    refine dnsParseResponseA_congr (fun i hi => ?_) _
    have hsame : (withId id datagram)[i]? = datagram[i]? := by
      rw [withId, List.getElem?_append_right (by rw [length_be16]; exact hi), List.getElem?_drop, length_be16]
      congr 1
      omega
    rw [memory, memory, List.getElem?_take, List.getElem?_take, hsame]
  · have hshort : (withId id datagram).length < 12 := by
      rw [withId, List.length_append, List.length_drop, length_be16]
      omega
    rw [dnsParseResponseA_short (by rw [List.length_take]; omega), dnsParseResponseA_short (by rw [List.length_take]; omega)]

theorem receive_reply (net : Net) {header : Header} (hreply : header.IsReply) (q : Question) {rs : List Record}
    (hcount : header.ancount.toNat = rs.length) {rest : Bytes} (hfit : (reply header q rs rest).length ≤ dnsCap) :
    receive (net.withReply (reply header q rs rest)) = some (firstAddress rs) := by
  rw [receive_withReply, List.take_of_length_le hfit]
  exact dnsParseResponseA_of_fronts hreply q hcount rest (fronts_memory _ _)

/-- **An address received is the data of the first address record of the walk**, as far as the datagram has it. -/
theorem receive_address {net : Net} {datagram a : Bytes} (hreply : net.reply = some datagram)
    (h : receive net = some (some a)) :
    ∃ e, AddressAt (datagram.take dnsCap) e ∧ e + 12 ≤ (datagram.take dnsCap).length ∧
      (e + 14 ≤ (datagram.take dnsCap).length → a = bytesAt (datagram.take dnsCap) (e + 10) 4) := by
  have hfronts := fronts_memory (datagram.take dnsCap) net.stack
  rw [receive, hreply] at h
  obtain ⟨found, hfound⟩ := locateA_alike (datagram.take dnsCap)
  have hlocate := hfound _ hfronts
  dsimp only at h
  rw [dnsParseResponseA_of_located hlocate] at h
  cases found with
  | none => cases h
  | some e =>
    obtain ⟨haddr, hin⟩ := (locateA_iff hfronts e).1 hlocate
    refine ⟨e, haddr, hin, fun hwhole => ?_⟩
    rw [copyOut, copyAddress_eq hfronts hwhole] at h
    cases h
    rfl

theorem receive_of_address {net : Net} {datagram : Bytes} (hreply : net.reply = some datagram) {e : Nat}
    (haddr : AddressAt (datagram.take dnsCap) e) (hwhole : e + 14 ≤ (datagram.take dnsCap).length) :
    receive net = some (some (bytesAt (datagram.take dnsCap) (e + 10) 4)) := by
  have hfronts := fronts_memory (datagram.take dnsCap) net.stack
  have hlocate := (locateA_iff hfronts e).2 ⟨haddr, by omega⟩
  rw [receive, hreply]
  dsimp only
  rw [dnsParseResponseA_of_located hlocate, copyOut, copyAddress_eq hfronts hwhole]
  rfl

theorem resolveHostname_of_cut {net : Net} {host : Bytes} {ls : List Label} (hcut : Cut (cstr host) ls)
    (hfit : querySize ls ≤ dnsCap) (hsocket : net.socket = true) (hsendto : net.sendto = true) {addr : Option Bytes}
    (hreceive : receive net = some addr) :
    resolveHostname net host = some ⟨some (addressQuery (queryId host) ls).encode, addr⟩ := by
  have hint : (Int32.ofInt (querySize ls : Nat)).toInt = querySize ls := by
    rw [toInt_ofInt, Int.bmod_def]
    unfold dnsCap at hfit
    split <;> omega
  have hbuild := (dnsBuildQuery_of_cut hcut (by unfold querySize at hfit; omega) (queryId host) net.query).trans (if_pos hfit)
  have hread := net.query.read_write (p := (addressQuery (queryId host) ls).encode) (by rw [length_addressQuery]; exact hfit)
  rw [length_addressQuery] at hread
  rw [resolveHostname, hbuild, hint]
  simp only [Option.bind_eq_bind, Option.bind_some, hsocket, hsendto, hreceive, Int.toNat_natCast, hread]
  exact if_neg (by simp)

/-- The datagram has the id of the query and repeats its question. -/
def IsAnswerTo (query datagram : Bytes) : Prop :=
  ∃ q rest, decodeQuery query = some q ∧ (Header.decode datagram).id = q.id ∧
    decodeQuestion (datagram.drop 12) = some (q.question, rest)

def letterB : Label := ⟨[98], by decide, by decide⟩

def forgedAddress : Bytes := [10, 13, 0, 1]

theorem length_forgedAddress_lt : forgedAddress.length < 65536 := by decide

def forgedRecords : List Record := [⟨⟨[letterB], .root⟩, 1, 1, 60, forgedAddress, length_forgedAddress_lt⟩]

/-- An address for `b`, under id 0. -/
def forgedReply : Bytes := reply ⟨0, 0x8000, 1, 1, 0, 0⟩ ⟨[letterB], 1, 1⟩ forgedRecords []

def forgedNet : Net := ⟨true, true, some forgedReply, fun _ => 0, fun _ => 0⟩

end Slp
