import Mathlib.Data.List.Basic
/-!
# Bytes — byte strings, big-endian fields, bounded buffers and arrays

A byte string is a `List UInt8`.  A network-order field is written with `be16` / `be32` and read back with `read16` /
`read32`, which spell the shifts out as C does.  `ByteBuf cap` is a byte string that never outgrows its buffer, and
`ByteArr n` is a fixed array of `n` bytes with `memcpy` into a range of it.
-/
namespace Wire

abbrev Bytes := List UInt8

/-- `n` bytes from offset `off`. -/
def bytesAt (b : Bytes) (off n : Nat) : Bytes := (b.drop off).take n

/-- The byte at an index the caller has checked. -/
def byteAt (b : Bytes) (i : Nat) : UInt8 := b.getD i 0

def be16 (x : UInt16) : Bytes := [(x >>> 8).toUInt8, x.toUInt8]

def be32 (x : UInt32) : Bytes := [(x >>> 24).toUInt8, (x >>> 16).toUInt8, (x >>> 8).toUInt8, x.toUInt8]

def read16 (hi lo : UInt8) : UInt16 := (hi.toUInt16 <<< 8) ||| lo.toUInt16

def read32 (a b c d : UInt8) : UInt32 :=
  (a.toUInt32 <<< 24) ||| (b.toUInt32 <<< 16) ||| (c.toUInt32 <<< 8) ||| d.toUInt32

@[simp] theorem length_be16 (x : UInt16) : (be16 x).length = 2 := rfl

@[simp] theorem length_be32 (x : UInt32) : (be32 x).length = 4 := rfl

theorem length_bytesAt (b : Bytes) (off n : Nat) (h : off + n ≤ b.length) : (bytesAt b off n).length = n := by
  simp only [bytesAt, List.length_take, List.length_drop]
  omega

/-- **The value of a two-byte field.** -/
theorem toNat_read16 (hi lo : UInt8) : (read16 hi lo).toNat = hi.toNat * 256 + lo.toNat := by
  have hh := hi.toNat_lt
  have hl := lo.toNat_lt
  have hor := Nat.shiftLeft_add_eq_or_of_lt (i := 8) hl hi.toNat
  simp only [Nat.shiftLeft_eq] at hor
  have hmod : hi.toNat * 256 % 65536 = hi.toNat * 256 := Nat.mod_eq_of_lt (by omega)
  simp only [read16, UInt16.toNat_or, UInt16.toNat_shiftLeft, UInt8.toNat_toUInt16, Nat.shiftLeft_eq]
  simpa [hmod] using hor.symm

/-- **The value of a four-byte field.** -/
theorem toNat_read32 (a b c d : UInt8) : (read32 a b c d).toNat =
    a.toNat * 16777216 + b.toNat * 65536 + c.toNat * 256 + d.toNat := by
  have ha := a.toNat_lt
  have hb := b.toNat_lt
  have hc := c.toNat_lt
  have hd := d.toNat_lt
  have m1 : a.toNat * 16777216 % 4294967296 = a.toNat * 16777216 := Nat.mod_eq_of_lt (by omega)
  have m2 : b.toNat * 65536 % 4294967296 = b.toNat * 65536 := Nat.mod_eq_of_lt (by omega)
  have m3 : c.toNat * 256 % 4294967296 = c.toNat * 256 := Nat.mod_eq_of_lt (by omega)
  have e2 : (a.toNat * 256 + b.toNat) * 65536 = a.toNat * 16777216 + b.toNat * 65536 := by
    rw [Nat.add_mul, Nat.mul_assoc]
  have e3 : (a.toNat * 65536 + b.toNat * 256 + c.toNat) * 256 =
      a.toNat * 16777216 + b.toNat * 65536 + c.toNat * 256 := by
    rw [Nat.add_mul, Nat.add_mul, Nat.mul_assoc, Nat.mul_assoc]
  have h1 := Nat.shiftLeft_add_eq_or_of_lt (i := 24) (b := b.toNat * 65536) (by omega) a.toNat
  have h2 := Nat.shiftLeft_add_eq_or_of_lt (i := 16) (b := c.toNat * 256) (by omega) (a.toNat * 256 + b.toNat)
  have h3 := Nat.shiftLeft_add_eq_or_of_lt (i := 8) hd (a.toNat * 65536 + b.toNat * 256 + c.toNat)
  simp only [Nat.shiftLeft_eq, Nat.reducePow] at h1 h2 h3
  rw [e2] at h2
  rw [e3] at h3
  simp only [read32, UInt32.toNat_or, UInt32.toNat_shiftLeft, UInt8.toNat_toUInt32, Nat.shiftLeft_eq]
  simp [m1, m2, m3, ← h1, ← h2, ← h3]

/-- **A two-byte field reads back.** -/
@[simp] theorem read16_be16 (x : UInt16) : read16 (x >>> 8).toUInt8 x.toUInt8 = x := by
  have hx := x.toNat_lt
  apply UInt16.toNat_inj.1
  rw [toNat_read16]
  simp [Nat.shiftRight_eq_div_pow]
  omega

/-- **A four-byte field reads back.** -/
@[simp] theorem read32_be32 (x : UInt32) :
    read32 (x >>> 24).toUInt8 (x >>> 16).toUInt8 (x >>> 8).toUInt8 x.toUInt8 = x := by
  have hx := x.toNat_lt
  apply UInt32.toNat_inj.1
  rw [toNat_read32]
  simp [Nat.shiftRight_eq_div_pow]
  omega

/-! ## Bounded buffers -/

/-- The valid bytes of a buffer of `cap` bytes: the array's prefix of the recorded length. -/
structure ByteBuf (cap : Nat) where
  bytes : Bytes
  size_le : bytes.length ≤ cap
deriving DecidableEq

namespace ByteBuf

variable {cap : Nat}

def empty : ByteBuf cap := ⟨[], Nat.zero_le _⟩

instance : Inhabited (ByteBuf cap) := ⟨empty⟩

def size (b : ByteBuf cap) : Nat := b.bytes.length

/-- Append at the recorded length, once the caller has checked the room. -/
def append (b : ByteBuf cap) (p : Bytes) (h : b.size + p.length ≤ cap) : ByteBuf cap :=
  ⟨b.bytes ++ p, by rw [List.length_append]; exact h⟩

/-- `memmove` of the bytes after the first `n` to the front. -/
def drop (b : ByteBuf cap) (n : Nat) : ByteBuf cap :=
  ⟨b.bytes.drop n, by rw [List.length_drop]; exact Nat.le_trans (Nat.sub_le _ _) b.size_le⟩

@[ext] theorem ext {a b : ByteBuf cap} (h : a.bytes = b.bytes) : a = b := by
  cases a; cases b; cases h; rfl

@[simp] theorem bytes_empty : (empty : ByteBuf cap).bytes = [] := rfl

@[simp] theorem bytes_append (b : ByteBuf cap) (p : Bytes) (h : b.size + p.length ≤ cap) :
    (b.append p h).bytes = b.bytes ++ p := rfl

end ByteBuf

/-! ## Fixed arrays -/

/-- A fixed array of `n` bytes. -/
abbrev ByteArr (n : Nat) := Fin n → UInt8

namespace ByteArr

variable {n : Nat}

/-- `memcpy(a + off, src, src.length)`: the bytes outside the range keep their value. -/
def write (a : ByteArr n) (off : Nat) (src : Bytes) : ByteArr n :=
  fun i => if off ≤ i.val ∧ i.val < off + src.length then byteAt src (i.val - off) else a i

/-- The first `len` bytes. -/
def read (a : ByteArr n) (len : Nat) : Bytes := (List.ofFn a).take len

theorem write_of_mem (a : ByteArr n) (off : Nat) (src : Bytes) (i : Fin n) (h1 : off ≤ i.val)
    (h2 : i.val < off + src.length) : a.write off src i = byteAt src (i.val - off) := if_pos ⟨h1, h2⟩

theorem write_of_not_mem (a : ByteArr n) (off : Nat) (src : Bytes) (i : Fin n)
    (h : i.val < off ∨ off + src.length ≤ i.val) : a.write off src i = a i :=
  if_neg (by rintro ⟨h1, h2⟩; omega)

theorem length_read (a : ByteArr n) {len : Nat} (h : len ≤ n) : (a.read len).length = len := by
  rw [read, List.length_take, List.length_ofFn, Nat.min_eq_left h]

theorem byteAt_read (a : ByteArr n) {len i : Nat} (h : len ≤ n) (hi : i < len) :
    byteAt (a.read len) i = a ⟨i, Nat.lt_of_lt_of_le hi h⟩ := by
  have hin : i < n := Nat.lt_of_lt_of_le hi h
  simp [read, byteAt, hi, hin]

/-- **An array that agrees with a byte string on its length reads back as it.** -/
theorem read_eq_of_agree (a : ByteArr n) (p : Bytes) (hp : p.length ≤ n)
    (h : ∀ i : Fin n, i.val < p.length → a i = byteAt p i.val) : a.read p.length = p := by
  apply List.ext_getElem
  · simp [read, hp]
  · intro i h1 h2
    have := h ⟨i, by omega⟩ h2
    simpa [read, byteAt, h2] using this

end ByteArr

end Wire
