import SwitchLanPlay.Bytes
/-!
# Memory — reads and writes that fail outside their buffer

`load*` read a byte string and `store` writes a fixed array; each is `none` when one byte of the access lies outside.  Code
written with them computes a value exactly when all of its accesses are in bounds, and the `_eq` lemmas give that value from
the bounds.  A `Block` is an array and the length the code records for it, with nothing that keeps the two in step.
-/
namespace Wire

/-! ## Byte strings -/

/-- `b[i]`. -/
def loadByte (b : Bytes) (i : Nat) : Option UInt8 := b[i]?

/-- `memcpy` of `len` bytes from `b + off`. -/
def load (b : Bytes) (off len : Nat) : Option Bytes := if off + len ≤ b.length then some (bytesAt b off len) else none

def load16 (b : Bytes) (i : Nat) : Option UInt16 := do
  let hi ← loadByte b i
  let lo ← loadByte b (i + 1)
  return read16 hi lo

def load32 (b : Bytes) (i : Nat) : Option UInt32 := do
  let b0 ← loadByte b i
  let b1 ← loadByte b (i + 1)
  let b2 ← loadByte b (i + 2)
  let b3 ← loadByte b (i + 3)
  return read32 b0 b1 b2 b3

section Loads

variable {b : Bytes} {i : Nat}

theorem loadByte_eq (h : i < b.length) : loadByte b i = some (byteAt b i) := by
  simp [loadByte, byteAt, h]

theorem load_eq {off len : Nat} (h : off + len ≤ b.length) : load b off len = some (bytesAt b off len) := if_pos h

theorem load16_eq (h : i + 1 < b.length) : load16 b i = some (read16 (byteAt b i) (byteAt b (i + 1))) := by
  rw [load16, loadByte_eq (by omega), loadByte_eq h]
  rfl

theorem load32_eq (h : i + 3 < b.length) :
    load32 b i = some (read32 (byteAt b i) (byteAt b (i + 1)) (byteAt b (i + 2)) (byteAt b (i + 3))) := by
  rw [load32, loadByte_eq (by omega), loadByte_eq (by omega), loadByte_eq (by omega), loadByte_eq h]
  rfl

end Loads

/-- The bytes copied out of a prefix are those of the whole. -/
theorem byteAt_take {b : Bytes} {n i : Nat} (h : i < n) : byteAt (b.take n) i = byteAt b i := by
  simp [byteAt, List.getD_eq_getElem?_getD, List.getElem?_take_of_lt h]

theorem bytesAt_take {b : Bytes} {n off len : Nat} (h : off + len ≤ n) : bytesAt (b.take n) off len = bytesAt b off len := by
  rw [bytesAt, bytesAt, List.drop_take, List.take_take, Nat.min_eq_left (by omega)]

/-! ## Fixed arrays -/

namespace ByteArr

variable {n : Nat}

/-- `memcpy` of `src` to `a + off`. -/
def store (a : ByteArr n) (off : Nat) (src : Bytes) : Option (ByteArr n) :=
  if off + src.length ≤ n then some (a.write off src) else none

/-- `memcpy` of `len` bytes from `a + off`. -/
def fetch (a : ByteArr n) (off len : Nat) : Option Bytes :=
  if off + len ≤ n then some (bytesAt (List.ofFn a) off len) else none

theorem store_eq (a : ByteArr n) {off : Nat} {src : Bytes} (h : off + src.length ≤ n) :
    a.store off src = some (a.write off src) := if_pos h

theorem fetch_eq (a : ByteArr n) {off len : Nat} (h : off + len ≤ n) :
    a.fetch off len = some (bytesAt (List.ofFn a) off len) := if_pos h

theorem fetch_front (a : ByteArr n) {len : Nat} (h : len ≤ n) : a.fetch 0 len = some (a.read len) :=
  a.fetch_eq (by omega)

@[simp] theorem write_nil (a : ByteArr n) (off : Nat) : a.write off [] = a :=
  funext (fun i => write_of_not_mem _ _ _ _ (by rw [List.length_nil]; omega))

/-- **A copy right behind another one is one copy.** -/
theorem write_append (a : ByteArr n) (off : Nat) (p q : Bytes) :
    (a.write off p).write (off + p.length) q = a.write off (p ++ q) := by
  funext i
  by_cases hq : off + p.length ≤ i.val ∧ i.val < off + p.length + q.length
  · rw [write_of_mem _ _ _ _ hq.1 hq.2, write_of_mem _ _ _ _ (by omega) (by rw [List.length_append]; omega), byteAt, byteAt,
      List.getD_eq_getElem?_getD, List.getD_eq_getElem?_getD, List.getElem?_append_right (by omega), Nat.sub_add_eq]
  · rw [write_of_not_mem _ _ _ _ (by omega)]
    by_cases hp : off ≤ i.val ∧ i.val < off + p.length
    · rw [write_of_mem _ _ _ _ hp.1 hp.2, write_of_mem _ _ _ _ hp.1 (by rw [List.length_append]; omega), byteAt, byteAt,
        List.getD_eq_getElem?_getD, List.getD_eq_getElem?_getD, List.getElem?_append_left (by omega)]
    · rw [write_of_not_mem _ _ _ _ (by omega), write_of_not_mem _ _ _ _ (by rw [List.length_append]; omega)]

/-- **Copies to places that do not meet commute.** -/
theorem write_comm (a : ByteArr n) {off off' : Nat} {p q : Bytes} (h : off + p.length ≤ off') :
    (a.write off' q).write off p = (a.write off p).write off' q := by
  funext i
  by_cases hp : off ≤ i.val ∧ i.val < off + p.length
  · rw [write_of_mem _ _ _ _ hp.1 hp.2, write_of_not_mem _ _ _ _ (by omega), write_of_mem _ _ _ _ hp.1 hp.2]
  · rw [write_of_not_mem _ _ _ _ (by omega)]
    by_cases hq : off' ≤ i.val ∧ i.val < off' + q.length
    · rw [write_of_mem _ _ _ _ hq.1 hq.2, write_of_mem _ _ _ _ hq.1 hq.2]
    · rw [write_of_not_mem _ _ _ _ (by omega), write_of_not_mem _ _ _ _ (by omega), write_of_not_mem _ _ _ _ (by omega)]

theorem read_write (a : ByteArr n) {p : Bytes} (h : p.length ≤ n) : (a.write 0 p).read p.length = p :=
  read_eq_of_agree _ _ h (fun i hi => write_of_mem a 0 p i (Nat.zero_le _) (by omega))

/-- **What was copied behind the first `len` bytes reads back behind them.** -/
theorem read_write_append (a : ByteArr n) {len : Nat} {p : Bytes} (h : len + p.length ≤ n) :
    (a.write len p).read (len + p.length) = a.read len ++ p := by
  apply List.ext_getElem
  · rw [length_read _ h, List.length_append, length_read _ (by omega)]
  · intro i h1 h2
    rw [length_read _ h] at h1
    have hi : i < n := by omega
    simp only [read, List.getElem_take, List.getElem_ofFn]
    by_cases hlt : i < len
    · rw [write_of_not_mem _ _ _ _ (Or.inl hlt), List.getElem_append_left (by simp; omega)]
      simp
    · have hin : (a.write len p) ⟨i, hi⟩ = byteAt p (i - len) := write_of_mem _ _ _ _ (by simp; omega) (by simp; omega)
      have hlen : (List.take len (List.ofFn a)).length = len := length_read a (by omega)
      rw [hin, List.getElem_append_right (by omega), byteAt, List.getD_eq_getElem?_getD]
      simp only [hlen]
      rw [List.getElem?_eq_getElem (by omega), Option.getD_some]

end ByteArr

/-- A byte string copied into an array of `cap` bytes whose length is recorded beside it. -/
def ByteBuf.ofBytes {cap : Nat} (p : Bytes) : Option (ByteBuf cap) := if h : p.length ≤ cap then some ⟨p, h⟩ else none

theorem ByteBuf.ofBytes_eq {cap : Nat} {p : Bytes} (h : p.length ≤ cap) : ByteBuf.ofBytes p = some (⟨p, h⟩ : ByteBuf cap) :=
  dif_pos h

/-! ## Arrays with a recorded length -/

/-- An array and the length recorded beside it. -/
structure Block (cap : Nat) where
  cells : ByteArr cap
  len : Nat

namespace Block

variable {cap : Nat}

def zero : Block cap := ⟨fun _ => 0, 0⟩

/-- The bytes it holds. -/
def toBuf (b : Block cap) : ByteBuf cap :=
  ⟨b.cells.read b.len, by
    rw [ByteArr.read, List.length_take, List.length_ofFn]
    exact Nat.min_le_right _ _⟩

/-- `memcpy` to the front, whose length becomes the block's. -/
def assign (b : Block cap) (src : Bytes) : Option (Block cap) := do
  let cells ← b.cells.store 0 src
  return ⟨cells, src.length⟩

/-- `memcpy` behind what is there. -/
def append (b : Block cap) (src : Bytes) : Option (Block cap) := do
  let cells ← b.cells.store b.len src
  return ⟨cells, b.len + src.length⟩

/-- The first `n` bytes go; `memmove` of the rest, if any, to the front. -/
def dropFront (b : Block cap) (n : Nat) : Option (Block cap) :=
  if 0 < b.len - n then do
    let rest ← b.cells.fetch n (b.len - n)
    let cells ← b.cells.store 0 rest
    return ⟨cells, b.len - n⟩
  else some ⟨b.cells, b.len - n⟩

theorem length_toBuf {b : Block cap} (h : b.len ≤ cap) : b.toBuf.bytes.length = b.len := ByteArr.length_read _ h

/-- A result that is no fault: a block within its array that holds these bytes. -/
def Holds (r : Option (Block cap)) (p : Bytes) : Prop := ∃ b, r = some b ∧ b.len ≤ cap ∧ b.toBuf.bytes = p

theorem assign_holds (b : Block cap) {src : Bytes} (h : src.length ≤ cap) : Holds (b.assign src) src := by
  refine ⟨⟨b.cells.write 0 src, src.length⟩, ?_, h, ByteArr.read_write _ h⟩
  rw [assign, ByteArr.store_eq _ (by omega)]
  rfl

theorem append_holds {b : Block cap} {src : Bytes} (h : b.len + src.length ≤ cap) :
    Holds (b.append src) (b.toBuf.bytes ++ src) := by
  refine ⟨⟨b.cells.write b.len src, b.len + src.length⟩, ?_, h, ByteArr.read_write_append _ h⟩
  rw [append, ByteArr.store_eq _ h]
  rfl

theorem dropFront_holds {b : Block cap} (hb : b.len ≤ cap) {n : Nat} (hn : n ≤ b.len) :
    Holds (b.dropFront n) (b.toBuf.bytes.drop n) := by
  have hdrop : b.toBuf.bytes.drop n = bytesAt (List.ofFn b.cells) n (b.len - n) := List.drop_take
  unfold dropFront
  split
  · have hlen : (bytesAt (List.ofFn b.cells) n (b.len - n)).length = b.len - n :=
      length_bytesAt _ _ _ (by rw [List.length_ofFn]; omega)
    have hread : (b.cells.write 0 (bytesAt (List.ofFn b.cells) n (b.len - n))).read (b.len - n) =
        bytesAt (List.ofFn b.cells) n (b.len - n) := by
      have hfits : (bytesAt (List.ofFn b.cells) n (b.len - n)).length ≤ cap := by omega
      have hrw := b.cells.read_write hfits
      rwa [hlen] at hrw
    refine ⟨⟨_, b.len - n⟩, ?_, Nat.le_trans (Nat.sub_le _ _) hb, by rw [hdrop]; exact hread⟩
    rw [ByteArr.fetch_eq _ (by omega)]
    simp only [Option.bind_eq_bind, Option.bind_some]
    rw [ByteArr.store_eq _ (by omega)]
    rfl
  · have hz : b.len - n = 0 := by omega
    refine ⟨⟨b.cells, b.len - n⟩, rfl, Nat.le_trans (Nat.sub_le _ _) hb, ?_⟩
    rw [hdrop, hz, toBuf]
    rfl

end Block

end Wire
