import SwitchLanPlay.Memory
/-!
# DnsMessage — names, questions, records and queries on the wire

A domain name is its labels and, in a record, may end in a pointer to an earlier place of the message.  `encode` writes each
part of a message and `decodeQuery` reads a query back (`decodeQuery_encode`).
-/
namespace DnsMessage

open Wire

/-! ## Names -/

structure Label where
  bytes : Bytes
  ne_nil : bytes ≠ []
  le_63 : bytes.length ≤ 63
deriving DecidableEq

namespace Label

def encode (l : Label) : Bytes := UInt8.ofNat l.bytes.length :: l.bytes

theorem toNat_size (l : Label) : (UInt8.ofNat l.bytes.length).toNat = l.bytes.length := by
  have := l.le_63
  rw [UInt8.toNat_ofNat']
  omega

theorem size_pos (l : Label) : 0 < l.bytes.length := List.length_pos_iff.2 l.ne_nil

theorem size_ne_zero (l : Label) : UInt8.ofNat l.bytes.length ≠ 0 := by
  intro h
  have hsize := l.toNat_size
  rw [h, UInt8.toNat_zero] at hsize
  exact absurd hsize.symm (Nat.ne_of_gt l.size_pos)

@[simp] theorem length_encode (l : Label) : l.encode.length = l.bytes.length + 1 := rfl

end Label

def encodeLabels (ls : List Label) : Bytes := ls.flatMap Label.encode

/-- How a name ends: at the root, or in a pointer to an offset in the message. -/
inductive NameEnd where
  | root
  | pointer (offset : Nat) (h : offset < 0x4000)
deriving DecidableEq

def pointerByte (offset : Nat) : UInt8 := UInt8.ofNat (0xC0 + offset / 256)

def NameEnd.encode : NameEnd → Bytes
  | .root => [0]
  | .pointer offset _ => [pointerByte offset, UInt8.ofNat offset]

structure Name where
  labels : List Label
  tail : NameEnd
deriving DecidableEq

def Name.encode (n : Name) : Bytes := encodeLabels n.labels ++ n.tail.encode

/-- A length byte that starts no pointer, or the two top bits that mark one. -/
def IsPointer (b : UInt8) : Prop := b &&& 0xC0 = 0xC0

instance (b : UInt8) : Decidable (IsPointer b) := inferInstanceAs (Decidable (_ = _))

theorem isPointer_iff (b : UInt8) : IsPointer b ↔ 192 ≤ b.toNat := by
  have hall : ∀ n < 256, (n &&& 192 = 192 ↔ 192 ≤ n) := by decide +kernel
  rw [← hall _ b.toNat_lt, IsPointer, ← UInt8.toNat_inj, UInt8.toNat_and]
  rfl

theorem isPointer_pointerByte {offset : Nat} (h : offset < 0x4000) : IsPointer (pointerByte offset) := by
  rw [isPointer_iff, pointerByte, UInt8.toNat_ofNat']
  omega

theorem Label.not_isPointer_size (l : Label) : ¬ IsPointer (UInt8.ofNat l.bytes.length) := by
  have := l.le_63
  rw [isPointer_iff, l.toNat_size]
  omega

@[simp] theorem encodeLabels_nil : encodeLabels [] = [] := rfl

@[simp] theorem encodeLabels_cons (l : Label) (ls : List Label) : encodeLabels (l :: ls) = l.encode ++ encodeLabels ls := rfl

/-! ## Messages -/

structure Header where
  id : UInt16
  flags : UInt16
  qdcount : UInt16
  ancount : UInt16
  nscount : UInt16
  arcount : UInt16
deriving DecidableEq

namespace Header

def encode (h : Header) : Bytes :=
  be16 h.id ++ be16 h.flags ++ be16 h.qdcount ++ be16 h.ancount ++ be16 h.nscount ++ be16 h.arcount

/-- The header of `b`, which the caller knows to hold one. -/
def decode (b : Bytes) : Header where
  id := read16 (byteAt b 0) (byteAt b 1)
  flags := read16 (byteAt b 2) (byteAt b 3)
  qdcount := read16 (byteAt b 4) (byteAt b 5)
  ancount := read16 (byteAt b 6) (byteAt b 7)
  nscount := read16 (byteAt b 8) (byteAt b 9)
  arcount := read16 (byteAt b 10) (byteAt b 11)

@[simp] theorem length_encode (h : Header) : h.encode.length = 12 := rfl

theorem decode_encode (h : Header) (rest : Bytes) : decode (h.encode ++ rest) = h := by
  obtain ⟨id, flags, qd, an, ns, ar⟩ := h
  simp [decode, encode, byteAt, be16]

/-- QR and RCODE of a response without error. -/
def IsReply (h : Header) : Prop := h.flags &&& 0x8000 ≠ 0 ∧ h.flags &&& 0x000F = 0

instance (h : Header) : Decidable h.IsReply := inferInstanceAs (Decidable (_ ∧ _))

end Header

/-- A question whose name is written out. -/
structure Question where
  labels : List Label
  type : UInt16
  cls : UInt16
deriving DecidableEq

def Question.encode (q : Question) : Bytes := encodeLabels q.labels ++ 0 :: (be16 q.type ++ be16 q.cls)

structure Record where
  owner : Name
  type : UInt16
  cls : UInt16
  ttl : UInt32
  rdata : Bytes
  rdata_fits : rdata.length < 65536
deriving DecidableEq

namespace Record

/-- What stands between a record's owner and its data. -/
def fields (r : Record) : Bytes := be16 r.type ++ be16 r.cls ++ be32 r.ttl ++ be16 (UInt16.ofNat r.rdata.length)

def encode (r : Record) : Bytes := r.owner.encode ++ r.fields ++ r.rdata

@[simp] theorem length_fields (r : Record) : r.fields.length = 10 := rfl

theorem toNat_rdlength (r : Record) : (UInt16.ofNat r.rdata.length).toNat = r.rdata.length := by
  have := r.rdata_fits
  rw [UInt16.toNat_ofNat']
  omega

/-- An IPv4 address: type A and four bytes. -/
def IsAddress (r : Record) : Prop := r.type = 1 ∧ r.rdata.length = 4

instance (r : Record) : Decidable r.IsAddress := inferInstanceAs (Decidable (_ ∧ _))

end Record

def firstAddress (rs : List Record) : Option Bytes := (rs.find? (fun r => decide r.IsAddress)).map Record.rdata

/-! ## Queries -/

/-- A message of one question. -/
structure Query where
  id : UInt16
  flags : UInt16
  question : Question
deriving DecidableEq

def Query.header (q : Query) : Header := ⟨q.id, q.flags, 1, 0, 0, 0⟩

def Query.encode (q : Query) : Bytes := q.header.encode ++ q.question.encode

/-- The labels of a name written out, and what follows it; `turns` bounds their number. -/
def decodeLabels : Nat → Bytes → Option (List Label × Bytes)
  | _, [] => none
  | 0, b :: rest => if b = 0 then some ([], rest) else none
  | turns + 1, b :: rest =>
    if b = 0 then some ([], rest)
    else if h : b.toNat ≤ 63 ∧ b.toNat ≤ rest.length ∧ 0 < b.toNat then do
      let label : Label := ⟨rest.take b.toNat, List.ne_nil_of_length_pos (by rw [List.length_take]; omega),
        by rw [List.length_take]; omega⟩
      let (ls, rest') ← decodeLabels turns (rest.drop b.toNat)
      return (label :: ls, rest')
    else none

def decodeQuestion (b : Bytes) : Option (Question × Bytes) := do
  let (labels, rest) ← decodeLabels b.length b
  let type ← load16 rest 0
  let cls ← load16 rest 2
  return (⟨labels, type, cls⟩, rest.drop 4)

/-- A query is its header, one question and nothing else. -/
def decodeQuery (b : Bytes) : Option Query :=
  if b.length < 12 then none
  else
    let header := Header.decode b
    if header.qdcount = 1 ∧ header.ancount = 0 ∧ header.nscount = 0 ∧ header.arcount = 0 then
      match decodeQuestion (b.drop 12) with
      | some (question, []) => some ⟨header.id, header.flags, question⟩
      | _ => none
    else none

/-- **Labels read back, whatever follows the root.** -/
theorem decodeLabels_encode : ∀ (ls : List Label) (turns : Nat) (rest : Bytes), ls.length ≤ turns →
    decodeLabels turns (encodeLabels ls ++ 0 :: rest) = some (ls, rest)
  | [], 0, _, _ => rfl
  | [], _ + 1, _, _ => rfl
  | _ :: _, 0, _, h => by simp at h
  | l :: ls, turns + 1, rest, h => by
    have ih := decodeLabels_encode ls turns rest (by simpa using h)
    have hsize := l.toNat_size
    have hle := l.le_63
    have hpos := l.size_pos
    have htake : (l.bytes ++ (encodeLabels ls ++ 0 :: rest)).take l.bytes.length = l.bytes := List.take_left
    have hdrop : (l.bytes ++ (encodeLabels ls ++ 0 :: rest)).drop l.bytes.length = encodeLabels ls ++ 0 :: rest :=
      List.drop_left
    rw [encodeLabels_cons, Label.encode, List.cons_append, List.cons_append, List.append_assoc, decodeLabels,
      if_neg l.size_ne_zero, dif_pos (by rw [hsize, List.length_append]; omega)]
    simp only [hsize, htake, hdrop, ih, Option.bind_eq_bind, Option.bind_some, Option.pure_def]

theorem length_le_encodeLabels (ls : List Label) : ls.length ≤ (encodeLabels ls).length := by
  induction ls with
  | nil => exact Nat.le_refl _
  | cons l ls ih =>
    rw [encodeLabels_cons, List.length_append, Label.length_encode, List.length_cons]
    omega

theorem decodeQuestion_encode (q : Question) : decodeQuestion q.encode = some (q, []) := by
  obtain ⟨labels, type, cls⟩ := q
  have hlen := length_le_encodeLabels labels
  have hname := decodeLabels_encode labels (encodeLabels labels ++ 0 :: (be16 type ++ be16 cls)).length
    (be16 type ++ be16 cls) (by rw [List.length_append]; omega)
  rw [decodeQuestion, Question.encode, hname]
  simp [load16, loadByte, be16]

/-- **A query reads back.** -/
theorem decodeQuery_encode (q : Query) : decodeQuery q.encode = some q := by
  have hhead := q.header.decode_encode q.question.encode
  have hdrop : q.encode.drop 12 = q.question.encode := List.drop_left' (Header.length_encode _)
  have hlen : ¬ q.encode.length < 12 := by
    rw [Query.encode, List.length_append, Header.length_encode]
    omega
  rw [decodeQuery, if_neg hlen, hdrop, decodeQuestion_encode, Query.encode, hhead]
  rfl

theorem length_encode_question (q : Question) : q.encode.length = (encodeLabels q.labels).length + 5 := by
  rw [Question.encode, List.length_append]
  rfl

theorem length_encode_query (q : Query) : q.encode.length = (encodeLabels q.question.labels).length + 17 := by
  rw [Query.encode, List.length_append, Header.length_encode, length_encode_question]
  omega

end DnsMessage
