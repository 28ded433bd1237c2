import SwitchLanPlay.DnsBounds
/-!
# DnsReplies — the response parser on well-formed responses

A response that is a header, a question, as many records as the header announces and whatever follows: the parser returns the
data of the first address record (`dnsParseResponseA_reply`).
-/
namespace Slp

open Wire DnsMessage

/-! ## Parts of a message where they stand -/

section Parts

variable {resp pre post : Bytes}

theorem getElem?_after (b : UInt8) : (pre ++ b :: post)[pre.length]? = some b := by simp

theorem byteAt_after (b : Bytes) (i : Nat) (h : i < b.length) : byteAt (pre ++ b ++ post) (pre.length + i) = byteAt b i := by
  rw [byteAt, byteAt, List.getD_eq_getElem?_getD, List.getD_eq_getElem?_getD, List.append_assoc,
    List.getElem?_append_right (Nat.le_add_right _ _), Nat.add_sub_cancel_left, List.getElem?_append_left h]

theorem bytesAt_after (b : Bytes) : bytesAt (pre ++ b ++ post) pre.length b.length = b := by
  rw [bytesAt, List.append_assoc, List.drop_left, List.take_left]

/-- **The labels of a name are skipped one by one.** -/
theorem nameAt_labels : ∀ (ls : List Label) {pre post : Bytes} {s : Stop} {e : Nat},
    NameAt (pre ++ encodeLabels ls ++ post) (pre.length + (encodeLabels ls).length) s e →
      NameAt (pre ++ encodeLabels ls ++ post) pre.length s e
  | [], _, _, _, _, h => h
  | l :: ls, pre, post, s, e, h => by
    have hsplit : pre ++ encodeLabels (l :: ls) ++ post = (pre ++ l.encode) ++ encodeLabels ls ++ post := by
      rw [encodeLabels_cons, ← List.append_assoc]
    have hlen : pre.length + (encodeLabels (l :: ls)).length = (pre ++ l.encode).length + (encodeLabels ls).length := by
      rw [encodeLabels_cons, List.length_append, List.length_append, Nat.add_assoc]
    have hpos : pre.length + (1 + (UInt8.ofNat l.bytes.length).toNat) = (pre ++ l.encode).length := by
      rw [l.toNat_size, List.length_append, Label.length_encode, Nat.add_comm 1]
    have hrest := nameAt_labels ls (by rw [← hsplit, ← hlen]; exact h)
    have hfirst : (pre ++ encodeLabels (l :: ls) ++ post)[pre.length]? = some (UInt8.ofNat l.bytes.length) := by
      rw [List.append_assoc]
      exact getElem?_after _
    rw [← hsplit, ← hpos] at hrest
    exact .label hfirst l.not_isPointer_size l.size_ne_zero hrest

theorem fieldsAt_owner (owner : Name) :
    FieldsAt (pre ++ owner.encode ++ post) pre.length (pre.length + owner.encode.length) := by
  obtain ⟨labels, tail⟩ := owner
  have hsplit : pre ++ Name.encode ⟨labels, tail⟩ ++ post = pre ++ encodeLabels labels ++ (tail.encode ++ post) := by
    simp only [Name.encode, List.append_assoc]
  have hend : (pre ++ encodeLabels labels ++ (tail.encode ++ post))[pre.length + (encodeLabels labels).length]? =
      (tail.encode ++ post)[0]? := by
    rw [← List.length_append, List.getElem?_append_right (Nat.le_refl _), Nat.sub_self]
  rw [hsplit, Name.encode, List.length_append, ← Nat.add_assoc]
  cases tail with
  | root => exact ⟨.root, _, nameAt_labels labels (.root hend), rfl⟩
  | pointer offset h => exact ⟨.pointer, _, nameAt_labels labels (.pointer hend (isPointer_pointerByte h)), rfl⟩

theorem nameAt_question (q : Question) :
    NameAt (pre ++ q.encode ++ post) pre.length .root (pre.length + (encodeLabels q.labels).length) := by
  have hsplit : pre ++ q.encode ++ post =
      pre ++ encodeLabels q.labels ++ (0 :: (be16 q.type ++ be16 q.cls) ++ post) := by
    simp only [Question.encode, List.append_assoc]
  rw [hsplit]
  refine nameAt_labels q.labels (.root ?_)
  rw [← List.length_append, List.getElem?_append_right (Nat.le_refl _), Nat.sub_self]
  rfl

theorem load16_after (b : Bytes) (i : Nat) (h : i + 1 < b.length) :
    load16 (pre ++ b ++ post) (pre.length + i) = some (read16 (byteAt b i) (byteAt b (i + 1))) := by
  have hin : pre.length + i + 1 < (pre ++ b ++ post).length := by
    rw [List.length_append, List.length_append]
    omega
  rw [load16_eq hin, byteAt_after b i (by omega), Nat.add_assoc, byteAt_after b (i + 1) h]

theorem load16_type (r : Record) : load16 (pre ++ r.fields ++ post) pre.length = some r.type := by
  refine (load16_after r.fields 0 (by rw [Record.length_fields]; decide)).trans (congrArg some ?_)
  exact read16_be16 r.type

theorem load16_rdlength (r : Record) :
    load16 (pre ++ r.fields ++ post) (pre.length + 8) = some (UInt16.ofNat r.rdata.length) := by
  refine (load16_after r.fields 8 (by rw [Record.length_fields]; decide)).trans (congrArg some ?_)
  exact read16_be16 (UInt16.ofNat r.rdata.length)

end Parts

/-! ## The records -/

theorem firstAddress_cons (r : Record) (rs : List Record) :
    firstAddress (r :: rs) = if r.IsAddress then some r.rdata else firstAddress rs := by
  rw [firstAddress, List.find?_cons]
  by_cases h : r.IsAddress
  · rw [if_pos h, decide_eq_true h]
    rfl
  · rw [if_neg h, decide_eq_false h]
    rfl

theorem length_le_encode_record (r : Record) : 11 + r.rdata.length ≤ r.encode.length := by
  have htail : 1 ≤ r.owner.tail.encode.length := by cases r.owner.tail <;> exact Nat.le_add_left 1 _
  rw [Record.encode, List.length_append, List.length_append, Record.length_fields, Name.encode, List.length_append]
  omega

/-- What the copy makes of the walk's end. -/
def copied (mem : Nat → Option UInt8) (found : Option (Option Nat)) : Option (Option Bytes) := found.bind (copyOut mem)

section Records

variable {mem : Nat → Option UInt8} {pre post : Bytes}

theorem length_record (r : Record) :
    (pre ++ r.encode ++ post).length = pre.length + r.owner.encode.length + 10 + r.rdata.length + post.length := by
  simp only [Record.encode, List.length_append, Record.length_fields]
  omega

theorem fieldsAt_record (r : Record) :
    FieldsAt (pre ++ r.encode ++ post) pre.length (pre.length + r.owner.encode.length) := by
  have howner : pre ++ r.encode ++ post = pre ++ r.owner.encode ++ (r.fields ++ r.rdata ++ post) := by
    simp only [Record.encode, List.append_assoc]
  rw [howner]
  exact fieldsAt_owner r.owner

theorem load16_rdlength_record (r : Record) :
    load16 (pre ++ r.encode ++ post) (pre.length + r.owner.encode.length + 8) = some (UInt16.ofNat r.rdata.length) := by
  have hfields : pre ++ r.encode ++ post = (pre ++ r.owner.encode) ++ r.fields ++ (r.rdata ++ post) := by
    simp only [Record.encode, List.append_assoc]
  rw [hfields, ← List.length_append]
  exact load16_rdlength r

theorem isAddressAt_record (r : Record) :
    IsAddressAt (pre ++ r.encode ++ post) (pre.length + r.owner.encode.length) ↔ r.IsAddress := by
  have hfields : pre ++ r.encode ++ post = (pre ++ r.owner.encode) ++ r.fields ++ (r.rdata ++ post) := by
    simp only [Record.encode, List.append_assoc]
  have htype : load16 (pre ++ r.encode ++ post) (pre.length + r.owner.encode.length) = some r.type := by
    rw [hfields, ← List.length_append]
    exact load16_type r
  have hfour : UInt16.ofNat r.rdata.length = 4 ↔ r.rdata.length = 4 := by
    rw [← UInt16.toNat_inj, r.toNat_rdlength]
    rfl
  rw [IsAddressAt, htype, load16_rdlength_record, Option.some_inj, Option.some_inj, hfour, Record.IsAddress]

theorem rdlengthAt_record (r : Record) :
    rdlengthAt (pre ++ r.encode ++ post) (pre.length + r.owner.encode.length) = UInt16.ofNat r.rdata.length := by
  have hlen : (pre ++ r.encode ++ post).length = pre.length + r.owner.encode.length + 10 + r.rdata.length + post.length :=
    length_record r
  have hload : load16 (pre ++ r.encode ++ post) (pre.length + r.owner.encode.length + 8) =
      some (rdlengthAt (pre ++ r.encode ++ post) (pre.length + r.owner.encode.length)) := load16_rdlengthAt (by omega)
  rw [load16_rdlength_record] at hload
  exact (Option.some.inj hload).symm

theorem bytesAt_rdata (r : Record) :
    bytesAt (pre ++ r.encode ++ post) (pre.length + r.owner.encode.length + 10) r.rdata.length = r.rdata := by
  have hrdata : pre ++ r.encode ++ post = (pre ++ r.owner.encode ++ r.fields) ++ r.rdata ++ post := by
    simp only [Record.encode, List.append_assoc]
  have hplace : pre.length + r.owner.encode.length + 10 = (pre ++ r.owner.encode ++ r.fields).length := by
    simp only [List.length_append, Record.length_fields]
  rw [hrdata, hplace]
  exact bytesAt_after r.rdata

/-- **One record**: its address is copied out, or the walk goes on behind it. -/
theorem copied_record (r : Record) (hmem : Fronts (pre ++ r.encode ++ post) mem)
    (hpos : pre.length + 12 ≤ (pre ++ r.encode ++ post).length) (n : Nat) :
    copied mem (walkRecords mem (pre ++ r.encode ++ post).length (n + 1) pre.length) =
      if r.IsAddress then some (some r.rdata)
      else copied mem (walkRecords mem (pre ++ r.encode ++ post).length n (pre ++ r.encode).length) := by
  have hlen : (pre ++ r.encode ++ post).length = pre.length + r.owner.encode.length + 10 + r.rdata.length + post.length :=
    length_record r
  have hnext : (pre ++ r.encode).length = pre.length + r.owner.encode.length + (10 + r.rdata.length) := by
    simp only [Record.encode, List.length_append, Record.length_fields]
    omega
  rw [walkRecords_turn hmem (fieldsAt_record r) hpos, if_neg (by omega), rdlengthAt_record, r.toNat_rdlength, ← hnext]
  simp only [isAddressAt_record]
  by_cases hA : r.IsAddress
  · have hfour : r.rdata.length = 4 := hA.2
    have hbytes : bytesAt (pre ++ r.encode ++ post) (pre.length + r.owner.encode.length + 10) 4 = r.rdata := by
      rw [← hfour]
      exact bytesAt_rdata r
    rw [if_pos ⟨hA, by omega⟩, if_pos hA]
    show (copyAddress mem _).map some = _
    rw [copyAddress_eq hmem (by omega), hbytes]
    rfl
  · rw [if_neg (fun h => hA h.1), if_neg hA]

/-- **The walk over the records a message announces**, by induction on them: the test before a turn stops it early only at a
last record of eleven bytes, which has no data. -/
theorem copied_records : ∀ (rs : List Record) {pre : Bytes}, Fronts (pre ++ rs.flatMap Record.encode ++ post) mem →
    copied mem (walkRecords mem (pre ++ rs.flatMap Record.encode ++ post).length rs.length pre.length) =
      some (firstAddress rs)
  | [], _, _ => rfl
  | r :: rs, pre, hmem => by
    have hsplit : pre ++ (r :: rs).flatMap Record.encode ++ post =
        pre ++ r.encode ++ (rs.flatMap Record.encode ++ post) := by
      rw [List.flatMap_cons, List.append_assoc, List.append_assoc, List.append_assoc]
    have hmove : pre ++ r.encode ++ (rs.flatMap Record.encode ++ post) =
        (pre ++ r.encode) ++ rs.flatMap Record.encode ++ post := (List.append_assoc ..).symm
    rw [hsplit] at hmem ⊢
    rw [firstAddress_cons, List.length_cons]
    have hlen := length_le_encode_record r
    by_cases hpos : pre.length + 12 ≤ (pre ++ r.encode ++ (rs.flatMap Record.encode ++ post)).length
    · rw [copied_record r hmem hpos]
      split
      · rfl
      · rw [hmove] at hmem ⊢
        exact copied_records rs hmem
    · simp only [List.length_append] at hpos
      have hnotA : ¬ r.IsAddress := by
        rintro ⟨-, h4⟩
        omega
      have hlast : rs = [] := by
        cases rs with
        | nil => rfl
        | cons r' rs =>
          have := length_le_encode_record r'
          rw [List.flatMap_cons, List.length_append] at hpos
          omega
      rw [if_neg hnotA, walkRecords, if_neg (by simpa only [List.length_append] using hpos), hlast]
      rfl

end Records

/-! ## The response -/

/-- A response that announces its records; `rest` is any further section. -/
def reply (header : Header) (q : Question) (rs : List Record) (rest : Bytes) : Bytes :=
  header.encode ++ q.encode ++ rs.flatMap Record.encode ++ rest

theorem dnsParseResponseA_of_fronts {header : Header} (hreply : header.IsReply) (q : Question) {rs : List Record}
    (hcount : header.ancount.toNat = rs.length) (rest : Bytes) {mem : Nat → Option UInt8}
    (hmem : Fronts (reply header q rs rest) mem) :
    dnsParseResponseA mem (reply header q rs rest).length = some (firstAddress rs) := by
  have hheader : reply header q rs rest = header.encode ++ (q.encode ++ rs.flatMap Record.encode ++ rest) := by
    simp only [reply, List.append_assoc]
  have hquestion : reply header q rs rest = header.encode ++ q.encode ++ (rs.flatMap Record.encode ++ rest) := by
    simp only [reply, List.append_assoc]
  have hdecode : Header.decode (reply header q rs rest) = header := by rw [hheader, Header.decode_encode]
  have hlong : 12 ≤ (reply header q rs rest).length := by
    rw [hheader, List.length_append, Header.length_encode]
    omega
  have hname : NameAt (reply header q rs rest) 12 .root (12 + (encodeLabels q.labels).length) := by
    rw [hquestion]
    exact nameAt_question q
  have hstart : 12 + (encodeLabels q.labels).length + Stop.root.questionSkip = (header.encode ++ q.encode).length := by
    rw [List.length_append, Header.length_encode, length_encode_question]
    rfl
  have hlocate := locateA_of_long hmem hlong
  rw [hdecode, skipQuestion_eq hmem hname, hstart] at hlocate
  show copied mem (locateA mem _) = _
  rw [hlocate]
  by_cases hzero : header.ancount = 0
  · have hnil : rs = [] := List.length_eq_zero_iff.1 (by rw [← hcount, hzero]; rfl)
    rw [if_neg (fun h => h.2 hzero), hnil]
    rfl
  · rw [if_pos ⟨hreply, hzero⟩, hcount]
    exact copied_records rs hmem

/-- **The parser is right on well-formed responses**: with QR set and RCODE 0, one question whose name is written out, and as
many records as ANCOUNT says, whatever their owners, types and data and whatever follows them, it reads nothing but the
response and returns the data of the first record of type A with four bytes, or false when there is none. -/
theorem dnsParseResponseA_reply (id flags nscount arcount : UInt16) (q : Question) (rs : List Record) (rest : Bytes)
    (hqr : flags &&& 0x8000 ≠ 0) (hrcode : flags &&& 0x000F = 0) (hrs : rs.length < 65536) :
    let resp := reply ⟨id, flags, 1, UInt16.ofNat rs.length, nscount, arcount⟩ q rs rest
    dnsParseResponseA (loadByte resp) resp.length = some (firstAddress rs) ∧
    ∀ after, dnsParseResponseA (memory resp after) resp.length = some (firstAddress rs) := by
  have hcount : (UInt16.ofNat rs.length).toNat = rs.length := by
    rw [UInt16.toNat_ofNat']
    omega
  exact ⟨dnsParseResponseA_of_fronts ⟨hqr, hrcode⟩ q hcount rest (fronts_self _),
    fun after => dnsParseResponseA_of_fronts ⟨hqr, hrcode⟩ q hcount rest (fronts_memory _ after)⟩

def letterA : Label := ⟨[97], by decide, by decide⟩

/-- A CNAME record whose owner is a bare pointer, and an address record whose owner ends in one. -/
def aliasThenAddress : List Record :=
  [⟨⟨[], .pointer 12 (by decide)⟩, 5, 1, 60, [1, 98, 0], by decide⟩,
   ⟨⟨[letterA], .pointer 12 (by decide)⟩, 1, 1, 60, [10, 13, 0, 1], by decide⟩]

theorem dnsParseResponseA_reply_alias :
    dnsParseResponseA (loadByte (reply ⟨1, 0x8180, 1, 2, 0, 0⟩ ⟨[letterA], 1, 1⟩ aliasThenAddress []))
      (reply ⟨1, 0x8180, 1, 2, 0, 0⟩ ⟨[letterA], 1, 1⟩ aliasThenAddress []).length = some (some [10, 13, 0, 1]) :=
  (dnsParseResponseA_reply 1 0x8180 0 0 ⟨[letterA], 1, 1⟩ aliasThenAddress [] (by decide) (by decide) (by decide)).1

end Slp
