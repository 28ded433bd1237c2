import SwitchLanPlay.RunLength
import SwitchLanPlay.StructLayout
/-!
# LdnCodec — packets of the LDN control plane (tools/slp_ldn.py)

A packet is a header of 12 bytes and a body, which is run-length coded when that makes it shorter.  The length in the header is
that of the body as it is sent, so that what follows a packet is not read.  Packing and unpacking give the type and the body back
(`unpackPacket_packHeader`), and packing fails only for a type of more than a byte or a body of more than 65535
(`packHeader_cases`).
-/
namespace Slp
namespace Ldn

open Wire RunLength

def LAN_MAGIC : Nat := 0x11451400

/-- What the codec raises. -/
inductive Raised where
  | valueError (text : String)
  | structError

/-- `HDR`, "<IBBH H 2x": the magic number, the type, whether the body is compressed, its length, and its length uncompressed. -/
def HDR : Layout (Nat × Nat × Nat × Nat × Nat × Unit) :=
  (Layout.uintLE 4).seq ((Layout.uintLE 1).seq ((Layout.uintLE 1).seq
    ((Layout.uintLE 2).seq ((Layout.uintLE 2).seq (Layout.pad 2)))))

/-- The loop of `compress`. -/
def compressLoop : Bytes → Bytes → Bytes
  | [], out => out
  | c :: s, out =>
    if c = 0 then compressLoop (takeRun 0 0xFF s).2 (out ++ [0, UInt8.ofNat (takeRun 0 0xFF s).1])
    else compressLoop s (out ++ [c])
termination_by s => s.length
decreasing_by
  · exact Nat.lt_succ_of_le (length_takeRun_le _ _ _)
  · exact Nat.lt_succ_self _

def compress (data : Bytes) : Option Bytes :=
  if (compressLoop data []).length < data.length then some (compressLoop data []) else none

/-- The loop of `decompress`. -/
def decompressLoop : Bytes → Bytes → Except Raised Bytes
  | [], out => .ok out
  | c :: s, out =>
    if c = 0 then
      match s with
      | [] => .error (.valueError "RLE truncated")
      | count :: s => decompressLoop s (out ++ [c] ++ List.replicate count.toNat 0)
    else decompressLoop s (out ++ [c])

def decompress (data : Bytes) : Except Raised Bytes := decompressLoop data []

/-- An exception in place of no result. -/
def orRaise {α : Type} (e : Raised) : Option α → Except Raised α
  | some v => .ok v
  | none => .error e

def packHeader (ptype : Nat) (body : Bytes) (useCompression : Bool) : Except Raised Bytes :=
  match if useCompression then compress body else none with
  | some comp => do
    let header ← orRaise .structError (HDR.pack (LAN_MAGIC, ptype, 1, comp.length, body.length, ()))
    return header ++ comp
  | none => do
    let header ← orRaise .structError (HDR.pack (LAN_MAGIC, ptype, 0, body.length, 0, ()))
    return header ++ body

/-- The end of `unpack_packet`: the body as it was before it was packed. -/
def unpackBody (compressed dl : Nat) (body : Bytes) : Except Raised Bytes :=
  if compressed = 0 then .ok body
  else do
    let body ← decompress body
    if body.length ≠ dl then .error (.valueError "decompressed length mismatch")
    else return body

def unpackPacket (buf : Bytes) : Except Raised (Option (Nat × Bytes)) :=
  if buf.length < HDR.size then .ok none
  else
    match HDR.unpack (buf.take HDR.size) with
    | none => .error .structError
    | some (magic, ptype, compressed, length, dl, _) =>
      if magic ≠ LAN_MAGIC then .ok none
      else if buf.length < HDR.size + length then .ok none
      else (unpackBody compressed dl (bytesAt buf HDR.size length)).map (fun body => some (ptype, body))

/-! ## Compression -/

/-- **`compress` codes the pieces of its data.** -/
theorem compressLoop_eq (s out : Bytes) :
    compressLoop s out = out ++ (pieces 0 0xFF s).flatMap (Piece.encode 0 UInt8.ofNat) := by
  fun_induction compressLoop s out with
  | case1 out => rw [pieces, List.flatMap_nil, List.append_nil]
  | case2 out s ih => rw [ih, pieces, if_pos rfl, List.flatMap_cons, Piece.encode, List.append_assoc]
  | case3 out c s hc ih => rw [ih, pieces, if_neg hc, List.flatMap_cons, Piece.encode, List.append_assoc]

/-- **`decompress` reads the code**, and raises an error where the code has no meaning. -/
theorem decompressLoop_eq (s out : Bytes) :
    decompressLoop s out = orRaise (.valueError "RLE truncated") ((decode 0 UInt8.toNat s).map (out ++ ·)) := by
  fun_induction decompressLoop s out with
  | case1 out => rw [decode, Option.map_some, List.append_nil, orRaise]
  | case2 out => rw [decode, if_pos rfl, Option.map_none, orRaise]
  | case3 out count s ih =>
    rw [ih, decode_run, Option.map_map]
    congr 2
    funext r
    simp [List.replicate_succ]
  | case4 c s out hc ih =>
    rw [ih, decode_literal hc, Option.map_map]
    congr 2
    funext r
    exact List.append_assoc out [c] r

/-- **What is compressed decompresses to what it was, and is shorter.** -/
theorem decompress_compress {x y : Bytes} (h : compress x = some y) : decompress y = .ok x ∧ y.length < x.length := by
  unfold compress at h
  split at h
  · rename_i hlt
    cases h
    refine ⟨?_, hlt⟩
    have hcount : ∀ n ≤ 0xFF, (UInt8.ofNat n).toNat = n := fun n hn => UInt8.toNat_ofNat_of_lt' (Nat.lt_succ_of_le hn)
    rw [decompress, decompressLoop_eq, compressLoop_eq, List.nil_append, decode_encode hcount, Option.map_some, orRaise,
      List.nil_append]
  · cases h

/-! ## Packets -/

theorem isSome_pack_HDR (ptype compressed length dl : Nat) :
    (HDR.pack (LAN_MAGIC, ptype, compressed, length, dl, ())).isSome = true ↔
      ptype ≤ 255 ∧ compressed ≤ 255 ∧ length ≤ 65535 ∧ dl ≤ 65535 := by
  have hmagic : LAN_MAGIC < 256 ^ 4 := by decide
  have hpad : ((Layout.pad 2).pack ()).isSome = true := rfl
  simp only [HDR, Layout.isSome_pack_seq, Layout.isSome_pack_uintLE, hpad, Bool.and_eq_true, decide_eq_true_eq, hmagic,
    true_and, and_true]
  omega

/-- **A packet is read up to its length.** -/
theorem unpackPacket_frame {ptype compressed dl : Nat} {header payload : Bytes}
    (h : HDR.pack (LAN_MAGIC, ptype, compressed, payload.length, dl, ()) = some header) (extra : Bytes) :
    unpackPacket (header ++ payload ++ extra) = (unpackBody compressed dl payload).map (fun body => some (ptype, body)) := by
  have hlen := HDR.length_pack h
  have hunpack := Layout.unpack_pack h
  have htake : (header ++ payload ++ extra).take HDR.size = header := by
    rw [List.append_assoc, List.take_left' hlen]
  have hbody : bytesAt (header ++ payload ++ extra) HDR.size payload.length = payload := by
    rw [bytesAt, List.append_assoc, List.drop_left' hlen, List.take_left]
  have hsize : (header ++ payload ++ extra).length = HDR.size + payload.length + extra.length := by
    rw [List.length_append, List.length_append, hlen]
  rw [unpackPacket, if_neg (by omega), htake, hunpack]
  dsimp only
  rw [if_neg (by simp), if_neg (by omega), hbody]

theorem unpackBody_compressed {x y : Bytes} (h : compress x = some y) : unpackBody 1 x.length y = .ok x := by
  rw [unpackBody, if_neg (by decide), (decompress_compress h).1]
  show (if x.length ≠ x.length then _ else _) = _
  rw [if_neg (by simp)]
  rfl

/-- **Packing gives a packet exactly when** the type fits in a byte and the length of the body in two, and the packet unpacks to
its type and body, also when bytes follow it. -/
theorem packHeader_cases (ptype : Nat) (body : Bytes) (useCompression : Bool) :
    (∃ packet, packHeader ptype body useCompression = .ok packet ∧ (ptype ≤ 255 ∧ body.length ≤ 65535) ∧
      ∀ extra, unpackPacket (packet ++ extra) = .ok (some (ptype, body))) ∨
    packHeader ptype body useCompression = .error .structError ∧ ¬ (ptype ≤ 255 ∧ body.length ≤ 65535) := by
  unfold packHeader
  cases hcomp : if useCompression then compress body else none with
  | some comp =>
    have hcompress : compress body = some comp := by
      split at hcomp
      · exact hcomp
      · cases hcomp
    have hshort := (decompress_compress hcompress).2
    have hfits := isSome_pack_HDR ptype 1 comp.length body.length
    dsimp only
    cases hpack : HDR.pack (LAN_MAGIC, ptype, 1, comp.length, body.length, ()) with
    | some header =>
      rw [hpack] at hfits
      have h := hfits.1 rfl
      refine .inl ⟨header ++ comp, rfl, ⟨h.1, h.2.2.2⟩, fun extra => ?_⟩
      rw [unpackPacket_frame hpack, unpackBody_compressed hcompress]
      rfl
    | none =>
      rw [hpack] at hfits
      refine .inr ⟨rfl, fun h => ?_⟩
      exact absurd (hfits.2 ⟨h.1, by decide, by omega, h.2⟩) (by simp)
  | none =>
    have hfits := isSome_pack_HDR ptype 0 body.length 0
    dsimp only
    cases hpack : HDR.pack (LAN_MAGIC, ptype, 0, body.length, 0, ()) with
    | some header =>
      rw [hpack] at hfits
      have h := hfits.1 rfl
      refine .inl ⟨header ++ body, rfl, ⟨h.1, h.2.2.1⟩, fun extra => ?_⟩
      rw [unpackPacket_frame hpack, unpackBody, if_pos rfl]
      rfl
    | none =>
      rw [hpack] at hfits
      refine .inr ⟨rfl, fun h => ?_⟩
      exact absurd (hfits.2 ⟨h.1, by decide, h.2, by decide⟩) (by simp)

theorem length_packHeader {ptype : Nat} {body packet : Bytes} {useCompression : Bool}
    (h : packHeader ptype body useCompression = .ok packet) : packet.length ≤ 12 + body.length := by
  have hframe : ∀ {fields} {payload : Bytes}, payload.length ≤ body.length →
      (do let header ← orRaise .structError (HDR.pack fields); return header ++ payload) = Except.ok packet →
      packet.length ≤ 12 + body.length := by
    intro fields payload hle h
    obtain ⟨header, hheader, h⟩ := bind_eq_ok h
    cases h
    have hlen : header.length = 12 := by
      cases hpack : HDR.pack fields with
      | none =>
        rw [hpack] at hheader
        cases hheader
      | some b =>
        rw [hpack] at hheader
        cases hheader
        exact HDR.length_pack hpack
    rw [List.length_append]
    omega
  unfold packHeader at h
  cases hcomp : if useCompression then compress body else none with
  | some comp =>
    rw [hcomp] at h
    have hcompress : compress body = some comp := by
      split at hcomp
      · exact hcomp
      · cases hcomp
    exact hframe (Nat.le_of_lt (decompress_compress hcompress).2) h
  | none =>
    rw [hcomp] at h
    exact hframe (Nat.le_refl _) h

/-- **The packet codec round-trips**: whatever the type and the body, compressed or not, a packet unpacks to its type and body,
also when bytes follow it.  What is compressed decompresses to what it was, and is shorter. -/
theorem unpackPacket_packHeader {ptype : Nat} (hptype : ptype ≤ 255) {body : Bytes} (hbody : body.length ≤ 65535)
    (useCompression : Bool) :
    (∃ packet, packHeader ptype body useCompression = .ok packet ∧
      ∀ extra, unpackPacket (packet ++ extra) = .ok (some (ptype, body))) ∧
    ∀ x y, compress x = some y → decompress y = .ok x ∧ y.length < x.length := by
  refine ⟨?_, fun _ _ => decompress_compress⟩
  rcases packHeader_cases ptype body useCompression with ⟨packet, hpacket, _, hunpack⟩ | ⟨_, hnot⟩
  · exact ⟨packet, hpacket, hunpack⟩
  · exact absurd ⟨hptype, hbody⟩ hnot

/-- A `Connect` with a body of 600 zero bytes, whose runs are of 256, 256 and 88. -/
theorem unpackPacket_packHeader_zeros :
    (∃ packet, packHeader 2 (List.replicate 600 0) true = .ok packet ∧
      ∀ extra, unpackPacket (packet ++ extra) = .ok (some (2, List.replicate 600 0))) ∧
    ∀ x y, compress x = some y → decompress y = .ok x ∧ y.length < x.length :=
  unpackPacket_packHeader (by decide) (by rw [List.length_replicate]; decide) true

end Ldn
end Slp
