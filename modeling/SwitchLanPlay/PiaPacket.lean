import SwitchLanPlay.AesGcm
import SwitchLanPlay.Stripping
import SwitchLanPlay.StructLayout
/-!
# PiaPacket — bundles of LAN messages under encryption (tools/slp_pia.py)

`buildPiaPacket` puts one message after the other, each filled up with zeros to four bytes, fills the whole up with 0xFF to
sixteen and encrypts it.  `parsePiaPacket` strips the 0xFF and reads until a message without bytes.  It reads the payloads back
exactly if there are any, only the last is empty, and the last does not end in an 0xFF that no zeros follow
(`bundle_iff`).
-/
namespace Slp
namespace Pia

open Wire

def MAGIC : Bytes := [0x32, 0xab, 0x98, 0x64]

def HDR_VERSION : UInt8 := 9

def LAN_PROTOCOL : UInt8 := 0x44

inductive Raised where
  | structError
  | overflowError

/-- A big-endian field of `struct.pack`. -/
def packed (n v : Nat) : Except Raised Bytes :=
  match (Layout.uintBE n).pack v with
  | some b => .ok b
  | none => .error .structError

/-- `int.to_bytes(v, n, "big")`. -/
def intToBytes (n v : Nat) : Except Raised Bytes :=
  match (Layout.uintBE n).pack v with
  | some b => .ok b
  | none => .error .overflowError

/-- `(-n) % k`. -/
def padding (k n : Nat) : Nat := (k - n % k) % k

/-! ## Building -/

/-- What stands before a payload: the flags, the size, the protocol and the destination. -/
def messageHead (size : Bytes) : Bytes :=
  [0x0F, 0x01] ++ size ++ [LAN_PROTOCOL] ++ List.replicate 3 0 ++ List.replicate 8 0

def buildMessage (pl : Bytes) : Except Raised Bytes := do
  let size ← packed 2 pl.length
  let msg := messageHead size ++ pl
  return msg ++ List.replicate (padding 4 msg.length) 0

/-- The loop over the payloads. -/
def buildBody : Bytes → List Bytes → Except Raised Bytes
  | body, [] => .ok body
  | body, pl :: rest => do
    let msg ← buildMessage pl
    buildBody (body ++ msg) rest

def nonceOf (srcIp : Bytes) (srcVar : Nat) (hdrNonce : Bytes) : Bytes := srcIp ++ [UInt8.ofNat srcVar] ++ hdrNonce.drop 1

section Packet

variable {κ : Type} (A : Aead κ 8) (key : κ)

def buildPiaPacket (payloads : List Bytes) (srcIp : Bytes) (srcVar dstVar nonceCtr packetId : Nat) : Except Raised Bytes := do
  let body ← buildBody [] payloads
  let body := body ++ List.replicate (padding 16 body.length) 0xFF
  let hdrNonce ← intToBytes 8 nonceCtr
  let sealed := A.encryptAndDigest key (nonceOf srcIp srcVar hdrNonce) body
  let footer ← packed 2 (dstVar % 65536)
  let dst ← packed 4 dstVar
  let src ← packed 4 srcVar
  let id ← packed 2 packetId
  return MAGIC ++ [0x80 ||| HDR_VERSION] ++ dst ++ src ++ id ++ [UInt8.ofNat (footer.length / 2)] ++ hdrNonce ++ sealed.2 ++
    sealed.1 ++ footer

/-! ## Parsing -/

structure Parsed where
  payloads : List Bytes
  srcVar : Nat
  dstVar : Nat

/-- The loop over the messages, from `pos` on. -/
def parseMessages (plain : Bytes) (pos : Nat) : Except Raised (List Bytes) :=
  if pos < plain.length then
    let flags := byteAt plain pos
    let sizeAt := pos + 1 + (if flags &&& 1 = 0 then 0 else 1)
    if flags &&& 2 = 0 then .ok []
    else
      match (Layout.uintBE 2).unpack (bytesAt plain sizeAt 2) with
      | none => .error .structError
      | some plen =>
        let payloadAt := sizeAt + 2 + (if flags &&& 4 = 0 then 0 else 4) + (if flags &&& 8 = 0 then 0 else 8)
        let payload := bytesAt plain payloadAt plen
        if plen = 0 then .ok [payload]
        else (parseMessages plain (payloadAt + plen + padding 4 (payloadAt + plen))).map (payload :: ·)
  else .ok []
termination_by plain.length - pos
decreasing_by omega

/-- `packet[0x20:-n]`, which is empty for 0. -/
def bodyOf (packet : Bytes) (n : Nat) : Bytes := if n = 0 then [] else (packet.take (packet.length - n)).drop 0x20

def parsePiaPacket (packet srcIp : Bytes) : Except Raised (Option Parsed) :=
  if packet.length < 0x20 ∨ packet.take 4 ≠ MAGIC then .ok none
  else if byteAt packet 4 &&& 0x7F ≠ HDR_VERSION then .ok none
  else
    let dstVar := (Layout.uintBE 4).read (bytesAt packet 5 4)
    let srcVar := (Layout.uintBE 4).read (bytesAt packet 9 4)
    let fsize := (byteAt packet 15).toNat
    let hdrNonce := bytesAt packet 0x10 8
    let tag := bytesAt packet 0x18 8
    let body := bodyOf packet (fsize * 2)
    if body = [] then .ok none
    else
      match A.decryptAndVerify key (nonceOf srcIp srcVar hdrNonce) body tag with
      | none => .ok none
      | some plain =>
        (parseMessages (plain.rdropWhile (· == 0xFF)) 0).map (fun payloads => some ⟨payloads, srcVar, dstVar⟩)

end Packet

/-! ## The messages read back -/

/-- The bytes of a message whose size fits its field. -/
def message (pl : Bytes) : Bytes :=
  messageHead (leBytes 2 pl.length).reverse ++ pl ++ List.replicate (padding 4 pl.length) 0

theorem length_messageHead {size : Bytes} (h : size.length = 2) : (messageHead size).length = 16 := by
  simp [messageHead, h]

theorem length_size (pl : Bytes) : (leBytes 2 pl.length).reverse.length = 2 := by
  rw [List.length_reverse, length_leBytes]

theorem packed_eq_ok {n v : Nat} {b : Bytes} (h : packed n v = .ok b) : (Layout.uintBE n).pack v = some b := by
  unfold packed at h
  cases hp : (Layout.uintBE n).pack v with
  | none => rw [hp] at h; cases h
  | some c => rw [hp] at h; cases h; rfl

theorem length_intToBytes {n v : Nat} {b : Bytes} (h : intToBytes n v = .ok b) : b.length = n := by
  unfold intToBytes at h
  cases hp : (Layout.uintBE n).pack v with
  | none => rw [hp] at h; cases h
  | some c => rw [hp] at h; cases h; exact (Layout.uintBE n).length_pack hp

theorem buildMessage_eq_ok {pl msg : Bytes} (h : buildMessage pl = .ok msg) : pl.length < 65536 ∧ msg = message pl := by
  obtain ⟨size, hsize, h⟩ := bind_eq_ok h
  have hpack := packed_eq_ok hsize
  simp only [Layout.uintBE] at hpack
  split at hpack
  · rename_i hlt
    cases hpack
    cases h
    refine ⟨hlt, ?_⟩
    have hpad : padding 4 (messageHead (leBytes 2 pl.length).reverse ++ pl).length = padding 4 pl.length := by
      rw [List.length_append, length_messageHead (length_size pl), padding, padding]
      omega
    rw [hpad, message]
  · cases hpack

/-- **A body that was built is one message after the other.** -/
theorem buildBody_eq_ok : ∀ {payloads : List Bytes} {body out : Bytes}, buildBody body payloads = .ok out →
    (∀ pl ∈ payloads, pl.length < 65536) ∧ out = body ++ payloads.flatMap message
  | [], body, out, h => by
    cases h
    simp
  | pl :: rest, body, out, h => by
    obtain ⟨msg, hmsg, h⟩ := bind_eq_ok h
    obtain ⟨hlen, rfl⟩ := buildMessage_eq_ok hmsg
    obtain ⟨hrest, rfl⟩ := buildBody_eq_ok h
    refine ⟨?_, by rw [List.flatMap_cons, List.append_assoc]⟩
    rintro x hx
    rcases List.mem_cons.1 hx with rfl | hx
    · exact hlen
    · exact hrest x hx

/-! ## Stripping -/

/-- A payload of a length divisible by four ends its message, so that it loses its last 0xFFs. -/
def lastRead (pl : Bytes) : Bytes := if pl.length % 4 = 0 then pl.rdropWhile (· == 0xFF) else pl

theorem rdropWhile_messageHead (size : Bytes) : (messageHead size).rdropWhile (· == 0xFF) = messageHead size := by
  rw [messageHead, List.replicate_succ' (n := 7), ← List.append_assoc]
  exact List.rdropWhile_concat_neg _ _ _ (by decide)

/-- **What stripping leaves of a message.** -/
theorem rdropWhile_message (pl : Bytes) : (message pl).rdropWhile (· == 0xFF) =
    messageHead (leBytes 2 pl.length).reverse ++ (lastRead pl ++ List.replicate (padding 4 pl.length) 0) := by
  rw [message, List.append_assoc, rdropWhile_append_self (rdropWhile_messageHead _), lastRead]
  congr 1
  by_cases h : pl.length % 4 = 0
  · have hpad : padding 4 pl.length = 0 := by unfold padding; omega
    rw [hpad, if_pos h, List.replicate_zero, List.append_nil, List.append_nil]
  · obtain ⟨n, hn⟩ : ∃ n, padding 4 pl.length = n + 1 := ⟨padding 4 pl.length - 1, by unfold padding; omega⟩
    rw [hn, if_neg h, List.replicate_succ', ← List.append_assoc]
    exact List.rdropWhile_concat_neg _ _ _ (by decide)

theorem rdropWhile_message_ne (pl : Bytes) : (message pl).rdropWhile (· == 0xFF) ≠ [] := by
  rw [rdropWhile_message]
  simp [messageHead]

/-- **Stripping a bundle touches its last message only.** -/
theorem rdropWhile_bundle : ∀ (payloads : List Bytes) (last : Bytes),
    ((payloads ++ [last]).flatMap message).rdropWhile (· == 0xFF) =
      payloads.flatMap message ++ (message last).rdropWhile (· == 0xFF) := by
  intro payloads last
  rw [List.flatMap_append, List.flatMap_singleton]
  exact rdropWhile_append_ne (rdropWhile_message_ne last)

/-! ## Reading the messages -/

theorem byteAt_of_drop {plain rest : Bytes} {pos : Nat} {c : UInt8} (h : plain.drop pos = c :: rest) :
    byteAt plain pos = c := by
  rw [byteAt, List.getD_eq_getElem?_getD, ← List.head?_drop, h]
  rfl

theorem bytesAt_of_drop {plain a b rest : Bytes} {pos at_ n : Nat} (h : plain.drop pos = a ++ (b ++ rest))
    (hat : at_ = pos + a.length) (hn : n = b.length) : bytesAt plain at_ n = b := by
  rw [bytesAt, hat, ← List.drop_drop, h, List.drop_left, hn, List.take_left]

/-- **One turn of the loop, at a message**: its payload, as far as there are bytes, and, unless it is empty, the rest. -/
theorem parseMessages_message {plain rest : Bytes} {pos n : Nat} (hpos : 4 ∣ pos) (hn : n < 65536)
    (h : plain.drop pos = messageHead (leBytes 2 n).reverse ++ rest) :
    parseMessages plain pos = if n = 0 then .ok [[]]
      else (parseMessages plain (pos + 16 + n + padding 4 n)).map (rest.take n :: ·) := by
  have hsize : (leBytes 2 n).reverse.length = 2 := by rw [List.length_reverse, length_leBytes]
  have hlt : pos < plain.length := by
    have hlen := congrArg List.length h
    rw [List.length_drop, List.length_append, length_messageHead hsize] at hlen
    omega
  have hflags : byteAt plain pos = 0x0F := byteAt_of_drop h
  have hfield : bytesAt plain (pos + 1 + 1) 2 = (leBytes 2 n).reverse :=
    bytesAt_of_drop (a := [0x0F, 0x01]) (by rw [h]; simp [messageHead]; rfl) rfl hsize.symm
  have hunpack : (Layout.uintBE 2).unpack (leBytes 2 n).reverse = some n :=
    Layout.unpack_pack (L := Layout.uintBE 2) (if_pos hn)
  have hpayload : bytesAt plain (pos + 1 + 1 + 2 + 4 + 8) n = rest.take n := by
    have hat : pos + 1 + 1 + 2 + 4 + 8 = pos + (messageHead (leBytes 2 n).reverse).length := by
      rw [length_messageHead hsize]
    rw [bytesAt, hat, ← List.drop_drop, h, List.drop_left]
  have hpad : padding 4 (pos + 1 + 1 + 2 + 4 + 8 + n) = padding 4 n := by
    unfold padding
    omega
  rw [parseMessages, if_pos hlt]
  simp only [hflags, show ¬ (0x0F : UInt8) &&& 1 = 0 by decide, show ¬ (0x0F : UInt8) &&& 2 = 0 by decide,
    show ¬ (0x0F : UInt8) &&& 4 = 0 by decide, show ¬ (0x0F : UInt8) &&& 8 = 0 by decide, if_false, hfield, hunpack,
    hpayload, hpad]
  by_cases h0 : n = 0
  · subst h0
    rfl
  · rw [if_neg h0, if_neg h0]

theorem parseMessages_end {plain : Bytes} {pos : Nat} (h : plain.length ≤ pos) : parseMessages plain pos = .ok [] := by
  rw [parseMessages, if_neg (by omega)]

/-- The payloads the loop reads: none after an empty one, and the last as stripped. -/
def readBack : List Bytes → List Bytes
  | [] => []
  | [last] => [lastRead last]
  | pl :: rest => if pl = [] then [[]] else pl :: readBack rest

theorem length_lastRead_le (pl : Bytes) : (lastRead pl).length ≤ pl.length := by
  unfold lastRead
  split
  · exact (List.rdropWhile_prefix _ _).length_le
  · exact Nat.le_refl _

/-- **The loop reads back a bundle that was stripped.** -/
theorem parseMessages_bundle : ∀ (payloads : List Bytes) (last : Bytes) {plain : Bytes} {pos : Nat}, 4 ∣ pos →
    (∀ pl ∈ payloads ++ [last], pl.length < 65536) →
    plain.drop pos = payloads.flatMap message ++ (message last).rdropWhile (· == 0xFF) →
    parseMessages plain pos = .ok (readBack (payloads ++ [last]))
  | [], last, plain, pos, hpos, hlen, h => by
    have hn : last.length < 65536 := hlen last (by simp)
    rw [List.flatMap_nil, List.nil_append, rdropWhile_message] at h
    rw [parseMessages_message hpos hn h, List.nil_append, readBack]
    by_cases h0 : last.length = 0
    · rw [if_pos h0, List.length_eq_zero_iff.1 h0]
      rfl
    · have hread : (lastRead last ++ List.replicate (padding 4 last.length) 0).take last.length = lastRead last := by
        unfold lastRead
        split
        · rename_i h4
          have hpad : padding 4 last.length = 0 := by unfold padding; omega
          rw [hpad, List.replicate_zero, List.append_nil, List.take_of_length_le]
          exact (List.rdropWhile_prefix _ _).length_le
        · rw [List.take_left]
      have hend : plain.length ≤ pos + 16 + last.length + padding 4 last.length := by
        have htotal := congrArg List.length h
        have hle := length_lastRead_le last
        rw [List.length_drop, List.length_append, List.length_append, length_messageHead (length_size last),
          List.length_replicate] at htotal
        omega
      rw [if_neg h0, parseMessages_end hend, hread]
      rfl
  | pl :: rest, last, plain, pos, hpos, hlen, h => by
    have hn : pl.length < 65536 := hlen pl (by simp)
    have hrb : readBack (pl :: rest ++ [last]) = if pl = [] then [[]] else pl :: readBack (rest ++ [last]) := by
      cases rest <;> rfl
    rw [List.flatMap_cons, message, List.append_assoc, List.append_assoc, List.append_assoc] at h
    rw [parseMessages_message hpos hn h, hrb]
    by_cases h0 : pl.length = 0
    · rw [if_pos h0, if_pos (List.length_eq_zero_iff.1 h0)]
    · rw [if_neg h0, if_neg (fun he => h0 (by rw [he]; rfl)), List.take_left]
      have hnext : plain.drop (pos + 16 + pl.length + padding 4 pl.length) =
          rest.flatMap message ++ (message last).rdropWhile (· == 0xFF) := by
        have hat : pos + 16 + pl.length + padding 4 pl.length = pos + (messageHead (leBytes 2 pl.length).reverse ++
            (pl ++ List.replicate (padding 4 pl.length) 0)).length := by
          rw [List.length_append, List.length_append, length_messageHead (length_size pl), List.length_replicate]
          omega
        have hsplit := h
        rw [← List.append_assoc pl, ← List.append_assoc] at hsplit
        rw [hat, ← List.drop_drop, hsplit, List.drop_left]
      have halign : 4 ∣ pos + 16 + pl.length + padding 4 pl.length := by
        unfold padding
        omega
      rw [parseMessages_bundle rest last halign (fun x hx => hlen x (List.mem_cons_of_mem _ hx)) hnext]
      rfl

/-! ## The packet read back -/

/-- **The fields before the nonce read back.** -/
theorem read_head {dst src id : Bytes} (hdst : dst.length = 4) (hsrc : src.length = 4) (hid : id.length = 2)
    (version count : UInt8) (rest : Bytes) {packet : Bytes}
    (h : packet = MAGIC ++ ([version] ++ (dst ++ (src ++ (id ++ ([count] ++ rest)))))) :
    packet.take 4 = MAGIC ∧ byteAt packet 4 = version ∧ bytesAt packet 5 4 = dst ∧ bytesAt packet 9 4 = src ∧
      byteAt packet 15 = count ∧ packet.drop 16 = rest := by
  obtain ⟨d0, d1, d2, d3, rfl⟩ := List.length_eq_four.1 hdst
  obtain ⟨s0, s1, s2, s3, rfl⟩ := List.length_eq_four.1 hsrc
  obtain ⟨i0, i1, rfl⟩ := List.length_eq_two.1 hid
  subst h
  exact ⟨rfl, rfl, rfl, rfl, rfl, rfl⟩

/-- **The nonce, the tag and the body read back.** -/
theorem read_sealed {packet nonce tag text footer : Bytes} (hnonce : nonce.length = 8) (htag : tag.length = 8)
    (hfooter : footer.length = 2) (hrest : packet.drop 16 = nonce ++ (tag ++ (text ++ footer))) :
    bytesAt packet 0x10 8 = nonce ∧ bytesAt packet 0x18 8 = tag ∧ packet.length = 0x20 + (text.length + 2) ∧
      bodyOf packet 2 = text := by
  have hafter : packet.drop 0x18 = tag ++ (text ++ footer) := by
    rw [show (0x18 : Nat) = 16 + 8 from rfl, ← List.drop_drop, hrest, List.drop_left' hnonce]
  have hall : packet.drop 0x20 = text ++ footer := by
    rw [show (0x20 : Nat) = 0x18 + 8 from rfl, ← List.drop_drop, hafter, List.drop_left' htag]
  have hlen : packet.length = 0x20 + (text.length + 2) := by
    have hdropped := congrArg List.length hall
    rw [List.length_drop, List.length_append, hfooter] at hdropped
    omega
  refine ⟨?_, ?_, hlen, ?_⟩
  · rw [bytesAt, hrest, List.take_left' hnonce]
  · rw [bytesAt, hafter, List.take_left' htag]
  · show (packet.take (packet.length - 2)).drop 0x20 = text
    have hend : packet.length - 2 = 0x20 + text.length := by omega
    rw [hend, ← List.take_drop, hall, List.take_left]

section RoundTrip

variable {κ : Type} {A : Aead κ 8} {key : κ} {payloads : List Bytes} {srcIp packet : Bytes}
variable {srcVar dstVar nonceCtr packetId : Nat}

/-- **What a packet that was built is read as**: nothing without payloads, and else those the loop reads back. -/
theorem parse_build (h : buildPiaPacket A key payloads srcIp srcVar dstVar nonceCtr packetId = .ok packet) :
    parsePiaPacket A key packet srcIp =
      .ok (if payloads = [] then none else some ⟨readBack payloads, srcVar, dstVar⟩) := by
  obtain ⟨body, hbody, h⟩ := bind_eq_ok h
  obtain ⟨hlens, rfl⟩ := buildBody_eq_ok hbody
  obtain ⟨nonce, hnonce, h⟩ := bind_eq_ok h
  obtain ⟨footer, hfooter, h⟩ := bind_eq_ok h
  obtain ⟨dst, hdst, h⟩ := bind_eq_ok h
  obtain ⟨src, hsrc, h⟩ := bind_eq_ok h
  obtain ⟨id, hid, h⟩ := bind_eq_ok h
  have hfooterLen : footer.length = 2 := (Layout.uintBE 2).length_pack (packed_eq_ok hfooter)
  have hdstLen : dst.length = 4 := (Layout.uintBE 4).length_pack (packed_eq_ok hdst)
  have hsrcLen : src.length = 4 := (Layout.uintBE 4).length_pack (packed_eq_ok hsrc)
  have hidLen : id.length = 2 := (Layout.uintBE 2).length_pack (packed_eq_ok hid)
  have hnonceLen : nonce.length = 8 := length_intToBytes hnonce
  generalize hplain : ([] ++ payloads.flatMap message) ++
    List.replicate (padding 16 ([] ++ payloads.flatMap message).length) 0xFF = plain at h
  generalize hsealed : A.encryptAndDigest key (nonceOf srcIp srcVar nonce) plain = sealed at h
  have htagLen : sealed.2.length = 8 := by rw [← hsealed]; exact A.length_tag _ _ _
  have hctLen : sealed.1.length = plain.length := by rw [← hsealed]; exact A.length_text _ _ _
  have hopened : A.decryptAndVerify key (nonceOf srcIp srcVar nonce) sealed.1 sealed.2 = some plain := by
    rw [← hsealed]
    exact A.decrypt_encrypt _ _ _
  cases h
  rw [hfooterLen]
  generalize hpacket : MAGIC ++ [0x80 ||| HDR_VERSION] ++ dst ++ src ++ id ++ [UInt8.ofNat (2 / 2)] ++ nonce ++ sealed.2 ++
    sealed.1 ++ footer = packet
  have hfields : packet = MAGIC ++ ([0x80 ||| HDR_VERSION] ++ (dst ++ (src ++ (id ++ ([UInt8.ofNat (2 / 2)] ++
      (nonce ++ (sealed.2 ++ (sealed.1 ++ footer)))))))) := by
    rw [← hpacket]
    simp only [List.append_assoc]
  obtain ⟨hmagic, hversion, hdstAt, hsrcAt, hsizeAt, hrest⟩ := read_head hdstLen hsrcLen hidLen _ _ _ hfields
  obtain ⟨hnonceAt, htagAt, hlen, hbodyAt⟩ := read_sealed hnonceLen htagLen hfooterLen hrest
  have hsize : UInt8.toNat (UInt8.ofNat (2 / 2)) * 2 = 2 := rfl
  have hdstRead : (Layout.uintBE 4).read dst = dstVar := (Layout.uintBE 4).read_pack (packed_eq_ok hdst)
  have hsrcRead : (Layout.uintBE 4).read src = srcVar := (Layout.uintBE 4).read_pack (packed_eq_ok hsrc)
  have hguard : ¬ (packet.length < 0x20 ∨ packet.take 4 ≠ MAGIC) := by
    rintro (hlt | hne)
    · omega
    · exact hne hmagic
  rw [parsePiaPacket, if_neg hguard, if_neg (by rw [hversion]; decide)]
  simp only [hdstAt, hsrcAt, hsizeAt, hsize, hnonceAt, htagAt, hdstRead, hsrcRead, hbodyAt]
  rcases List.eq_nil_or_concat payloads with rfl | ⟨front, last, rfl⟩
  · have hempty : sealed.1 = [] := List.length_eq_zero_iff.1 (by rw [hctLen, ← hplain]; rfl)
    rw [if_pos hempty, if_pos rfl]
  · rw [List.concat_eq_append] at hplain hlens ⊢
    have hstrip : plain.rdropWhile (· == 0xFF) = front.flatMap message ++ (message last).rdropWhile (· == 0xFF) := by
      rw [← hplain, rdropWhile_append_replicate (by decide), List.nil_append, rdropWhile_bundle]
    have hne : sealed.1 ≠ [] := by
      intro he
      have hzero : plain = [] := List.length_eq_zero_iff.1 (by rw [← hctLen, he]; rfl)
      rw [hzero, List.rdropWhile_nil] at hstrip
      exact rdropWhile_message_ne last (List.append_eq_nil_iff.1 hstrip.symm).2
    rw [if_neg hne, if_neg (by simp), hopened]
    show Except.map _ (parseMessages (plain.rdropWhile (· == 0xFF)) 0) = _
    rw [hstrip, parseMessages_bundle front last (Nat.dvd_zero 4) hlens List.drop_zero]
    rfl

end RoundTrip

/-! ## Which bundles come through -/

/-- There are payloads, only the last is empty, and it does not end in an 0xFF that no zeros follow. -/
def Intact (payloads : List Bytes) : Prop :=
  payloads ≠ [] ∧ (∀ pl ∈ payloads.dropLast, pl ≠ []) ∧
    ∀ last ∈ payloads.getLast?, last.length % 4 = 0 → last.getLast? ≠ some 0xFF

theorem lastRead_eq_self_iff (last : Bytes) :
    lastRead last = last ↔ (last.length % 4 = 0 → last.getLast? ≠ some 0xFF) := by
  unfold lastRead
  by_cases h4 : last.length % 4 = 0
  · rw [if_pos h4, List.rdropWhile_eq_self_iff]
    constructor
    · intro h _ hff
      obtain ⟨front, rfl⟩ := List.getLast?_eq_some_iff.1 hff
      exact h (by simp) (by simp)
    · intro h hne
      have hlast := h h4
      rw [List.getLast?_eq_some_getLast hne] at hlast
      simpa using hlast
  · rw [if_neg h4]
    exact iff_of_true rfl fun h => absurd h h4

theorem readBack_eq_self_iff : ∀ (front : List Bytes) (last : Bytes),
    readBack (front ++ [last]) = front ++ [last] ↔ (∀ pl ∈ front, pl ≠ []) ∧ lastRead last = last
  | [], last => by simp [readBack]
  | pl :: rest, last => by
    have hrb : readBack (pl :: rest ++ [last]) = if pl = [] then [[]] else pl :: readBack (rest ++ [last]) := by
      cases rest <;> rfl
    rw [hrb]
    by_cases hpl : pl = []
    · subst hpl
      simp
    · rw [if_neg hpl, List.cons_append, List.cons_inj_right, readBack_eq_self_iff rest last]
      simp [hpl]

section RoundTrip

variable {κ : Type} {A : Aead κ 8} {key : κ} {payloads : List Bytes} {srcIp packet : Bytes}
variable {srcVar dstVar nonceCtr packetId : Nat}

/-- **A packet that was built is read back as it was exactly if its payloads are `Intact`.** -/
theorem bundle_iff (h : buildPiaPacket A key payloads srcIp srcVar dstVar nonceCtr packetId = .ok packet) :
    parsePiaPacket A key packet srcIp = .ok (some ⟨payloads, srcVar, dstVar⟩) ↔ Intact payloads := by
  rw [parse_build h]
  rcases List.eq_nil_or_concat payloads with rfl | ⟨front, last, rfl⟩
  · exact iff_of_false (by simp) (fun hi => hi.1 rfl)
  · rw [List.concat_eq_append, if_neg (by simp)]
    simp only [Except.ok.injEq, Option.some.injEq, Parsed.mk.injEq, and_true]
    rw [readBack_eq_self_iff, lastRead_eq_self_iff, Intact]
    simp

end RoundTrip

/-! ## What is built -/

theorem packed_ok {n v : Nat} (h : v < 256 ^ n) : packed n v = .ok (leBytes n v).reverse := by
  have hpack : (Layout.uintBE n).pack v = some (leBytes n v).reverse := if_pos h
  rw [packed, hpack]

theorem intToBytes_ok {n v : Nat} (h : v < 256 ^ n) : intToBytes n v = .ok (leBytes n v).reverse := by
  have hpack : (Layout.uintBE n).pack v = some (leBytes n v).reverse := if_pos h
  rw [intToBytes, hpack]

theorem exists_buildBody : ∀ (payloads : List Bytes) (body : Bytes), (∀ pl ∈ payloads, pl.length < 65536) →
    ∃ out, buildBody body payloads = .ok out
  | [], body, _ => ⟨body, rfl⟩
  | pl :: rest, body, h => by
    have hsize : packed 2 pl.length = .ok (leBytes 2 pl.length).reverse := packed_ok (h pl (List.mem_cons_self ..))
    rw [buildBody, buildMessage, hsize]
    exact exists_buildBody rest _ fun x hx => h x (List.mem_cons_of_mem _ hx)

/-- **Numbers that fit their fields are packed.** -/
theorem exists_buildPiaPacket {κ : Type} (A : Aead κ 8) (key : κ) (payloads : List Bytes) (srcIp : Bytes)
    (srcVar dstVar nonceCtr packetId : Nat) (hlens : ∀ pl ∈ payloads, pl.length < 65536) (hsrc : srcVar < 256 ^ 4)
    (hdst : dstVar < 256 ^ 4) (hnonce : nonceCtr < 256 ^ 8) (hid : packetId < 256 ^ 2) :
    ∃ packet, buildPiaPacket A key payloads srcIp srcVar dstVar nonceCtr packetId = .ok packet := by
  obtain ⟨body, hbody⟩ := exists_buildBody payloads [] hlens
  have hfooter : dstVar % 65536 < 256 ^ 2 := Nat.mod_lt _ (by decide)
  rw [buildPiaPacket, hbody, intToBytes_ok hnonce, packed_ok hfooter, packed_ok hdst, packed_ok hsrc, packed_ok hid]
  exact ⟨_, rfl⟩

def aesGcm : Aead AesGcm.Key 8 := AesGcm.aead 8 (by decide)

def zeroKey : AesGcm.Key := ⟨List.replicate 16 0, rfl⟩

def hostIp : Bytes := [10, 13, 37, 100]

/-- A LAN keep-alive. -/
theorem bundle_keepAlive : ∃ packet,
    buildPiaPacket aesGcm zeroKey [[7, 0, 0, 0]] hostIp 0x11223344 0x55667788 7 1 = .ok packet ∧
    parsePiaPacket aesGcm zeroKey packet hostIp = .ok (some ⟨[[7, 0, 0, 0]], 0x11223344, 0x55667788⟩) := by
  obtain ⟨packet, h⟩ := exists_buildPiaPacket aesGcm zeroKey [[7, 0, 0, 0]] hostIp 0x11223344 0x55667788 7 1 (by decide)
    (by decide) (by decide) (by decide) (by decide)
  exact ⟨packet, h, (bundle_iff h).2 ⟨by decide, by decide, by decide⟩⟩

theorem exists_parse_build (payloads : List Bytes) (hlens : ∀ pl ∈ payloads, pl.length < 65536) : ∃ packet,
    buildPiaPacket aesGcm zeroKey payloads hostIp 1 2 7 1 = .ok packet ∧
    parsePiaPacket aesGcm zeroKey packet hostIp = .ok (if payloads = [] then none else some ⟨readBack payloads, 1, 2⟩) := by
  obtain ⟨packet, h⟩ := exists_buildPiaPacket aesGcm zeroKey payloads hostIp 1 2 7 1 hlens (by decide) (by decide) (by decide)
    (by decide)
  exact ⟨packet, h, parse_build h⟩

/-- **Three bundles that change**: the empty one, one with an empty payload before the last, one that ends in 0xFFs. -/
theorem bundle_changes :
    (∃ packet, buildPiaPacket aesGcm zeroKey [] hostIp 1 2 7 1 = .ok packet ∧
      parsePiaPacket aesGcm zeroKey packet hostIp = .ok none) ∧
    (∃ packet, buildPiaPacket aesGcm zeroKey [[], [7]] hostIp 1 2 7 1 = .ok packet ∧
      parsePiaPacket aesGcm zeroKey packet hostIp = .ok (some ⟨[[]], 1, 2⟩)) ∧
    ∃ packet, buildPiaPacket aesGcm zeroKey [[7, 0xFF, 0xFF, 0xFF]] hostIp 1 2 7 1 = .ok packet ∧
      parsePiaPacket aesGcm zeroKey packet hostIp = .ok (some ⟨[[7]], 1, 2⟩) :=
  ⟨exists_parse_build [] (by decide), exists_parse_build [[], [7]] (by decide),
    exists_parse_build [[7, 0xFF, 0xFF, 0xFF]] (by decide)⟩

end Pia
end Slp
