import Mathlib.Algebra.Group.Nat.Defs
import SwitchLanPlay.Bytes
/-!
# StructLayout — fixed layouts of numbers in bytes

A `Layout α` writes values of `α` into a fixed number of bytes and reads them back.  Writing fails for a value that is out of
range, and a written value reads back (`unpack_pack`).  Layouts are put together field by field (`seq`), with bytes of padding
between the fields.
-/
namespace Wire

/-- **Steps that may fail give a result only when each of them does.** -/
theorem bind_eq_ok {ε α β : Type} {x : Except ε α} {f : α → Except ε β} {b : β} (h : (x >>= f) = .ok b) :
    ∃ a, x = .ok a ∧ f a = .ok b := by
  cases x with
  | error _ => cases h
  | ok a => exact ⟨a, rfl, h⟩

/-- The low `n` bytes of a number, lowest first. -/
def leBytes : Nat → Nat → Bytes
  | 0, _ => []
  | n + 1, v => UInt8.ofNat v :: leBytes n (v / 256)

/-- The number that bytes spell, lowest first. -/
def leValue : Bytes → Nat
  | [] => 0
  | b :: s => b.toNat + 256 * leValue s

theorem length_leBytes : ∀ n v : Nat, (leBytes n v).length = n
  | 0, _ => rfl
  | n + 1, v => congrArg (· + 1) (length_leBytes n (v / 256))

theorem leValue_leBytes : ∀ {n v : Nat}, v < 256 ^ n → leValue (leBytes n v) = v
  | 0, v, h => by
    rw [Nat.pow_zero] at h
    show 0 = v
    omega
  | n + 1, v, h => by
    have htail : v / 256 < 256 ^ n := by
      rw [Nat.pow_succ] at h
      exact Nat.div_lt_of_lt_mul (by omega)
    have hbyte : (UInt8.ofNat v).toNat = v % 256 := UInt8.toNat_ofNat'
    rw [leBytes, leValue, leValue_leBytes htail, hbyte]
    omega

theorem leValue_lt : ∀ b : Bytes, leValue b < 256 ^ b.length
  | [] => Nat.one_pos
  | c :: b => by
    have hc := c.toNat_lt
    have hb := leValue_lt b
    rw [leValue, List.length_cons, Nat.pow_succ]
    omega

/-- The bytes that spell a number are its bytes. -/
theorem leBytes_leValue : ∀ b : Bytes, leBytes b.length (leValue b) = b
  | [] => rfl
  | c :: b => by
    have hc := c.toNat_lt
    have hdiv : (c.toNat + 256 * leValue b) / 256 = leValue b := by omega
    have hbyte : UInt8.ofNat (c.toNat + 256 * leValue b) = c := by
      apply UInt8.toNat_inj.1
      rw [UInt8.toNat_ofNat']
      omega
    rw [List.length_cons, leValue, leBytes, hdiv, hbyte, leBytes_leValue b]

/-- A number in two's complement of `n` bytes. -/
def toUnsigned (n : Nat) (v : Int) : Nat := (v % ((256 ^ n : Nat) : Int)).toNat

def toSigned (n u : Nat) : Int := if u < 256 ^ n / 2 then u else (u : Int) - ((256 ^ n : Nat) : Int)

/-- The numbers that `n` bytes hold in two's complement. -/
def InSigned (n : Nat) (v : Int) : Prop := -((256 ^ n / 2 : Nat) : Int) ≤ v ∧ v < ((256 ^ n / 2 : Nat) : Int)

instance (n : Nat) (v : Int) : Decidable (InSigned n v) := by
  unfold InSigned
  infer_instance

theorem toUnsigned_lt (n : Nat) (v : Int) : toUnsigned n v < 256 ^ n := by
  have hpos : 0 < 256 ^ n := Nat.pow_pos (by decide)
  have hmod := Int.emod_lt_of_pos v (b := ((256 ^ n : Nat) : Int)) (by omega)
  have hnn := Int.emod_nonneg v (b := ((256 ^ n : Nat) : Int)) (by omega)
  unfold toUnsigned
  omega

theorem toSigned_toUnsigned {n : Nat} {v : Int} (h : InSigned n v) : toSigned n (toUnsigned n v) = v := by
  obtain ⟨hlo, hhi⟩ := h
  have hpos : 0 < 256 ^ n := Nat.pow_pos (by decide)
  unfold toSigned toUnsigned
  generalize 256 ^ n = m at *
  by_cases hv : 0 ≤ v
  · have hmod : v % (m : Int) = v := Int.emod_eq_of_lt hv (by omega)
    rw [hmod, if_pos (by omega)]
    omega
  · have hmod : v % (m : Int) = v + m := by
      rw [← Int.add_emod_right, Int.emod_eq_of_lt (by omega) (by omega)]
    rw [hmod, if_neg (by omega)]
    omega

theorem toSigned_inj {n u v : Nat} (hu : u < 256 ^ n) (hv : v < 256 ^ n) : toSigned n u = toSigned n v ↔ u = v := by
  unfold toSigned
  generalize 256 ^ n = m at *
  split <;> split <;> omega

theorem toUnsigned_toSigned {n u : Nat} (h : u < 256 ^ n) : toUnsigned n (toSigned n u) = u := by
  unfold toUnsigned toSigned
  generalize 256 ^ n = m at *
  split
  · rw [Int.emod_eq_of_lt (by omega) (by omega), Int.toNat_natCast]
  · rw [← Int.add_emod_right, Int.emod_eq_of_lt (by omega) (by omega)]
    omega

structure Layout (α : Type) where
  size : Nat
  /-- The value's bytes, `none` when it is out of range. -/
  pack : α → Option Bytes
  /-- The value in `size` bytes. -/
  read : Bytes → α
  length_pack : ∀ {v : α} {b : Bytes}, pack v = some b → b.length = size
  read_pack : ∀ {v : α} {b : Bytes}, pack v = some b → read b = v

namespace Layout

variable {α β : Type}

/-- A number of `n` bytes, lowest first. -/
def uintLE (n : Nat) : Layout Nat where
  size := n
  pack v := if v < 256 ^ n then some (leBytes n v) else none
  read := leValue
  length_pack h := by
    split at h
    · cases h
      exact length_leBytes _ _
    · cases h
  read_pack h := by
    split at h
    · rename_i hlt
      cases h
      exact leValue_leBytes hlt
    · cases h

/-- A number of `n` bytes, highest first. -/
def uintBE (n : Nat) : Layout Nat where
  size := n
  pack v := if v < 256 ^ n then some (leBytes n v).reverse else none
  read b := leValue b.reverse
  length_pack h := by
    split at h
    · cases h
      rw [List.length_reverse, length_leBytes]
    · cases h
  read_pack h := by
    split at h
    · rename_i hlt
      cases h
      rw [List.reverse_reverse, leValue_leBytes hlt]
    · cases h

/-- A signed number of `n` bytes, lowest first. -/
def sintLE (n : Nat) : Layout Int where
  size := n
  pack v := if InSigned n v then some (leBytes n (toUnsigned n v)) else none
  read b := toSigned n (leValue b)
  length_pack h := by
    split at h
    · cases h
      exact length_leBytes _ _
    · cases h
  read_pack h := by
    split at h
    · rename_i hin
      cases h
      rw [leValue_leBytes (toUnsigned_lt n _), toSigned_toUnsigned hin]
    · cases h

/-- A signed number of `n` bytes, highest first. -/
def sintBE (n : Nat) : Layout Int where
  size := n
  pack v := if InSigned n v then some (leBytes n (toUnsigned n v)).reverse else none
  read b := toSigned n (leValue b.reverse)
  length_pack h := by
    split at h
    · cases h
      rw [List.length_reverse, length_leBytes]
    · cases h
  read_pack h := by
    split at h
    · rename_i hin
      cases h
      rw [List.reverse_reverse, leValue_leBytes (toUnsigned_lt n _), toSigned_toUnsigned hin]
    · cases h

/-- Exactly `n` bytes. -/
def bytes (n : Nat) : Layout Bytes where
  size := n
  pack v := if v.length = n then some v else none
  read b := b
  length_pack h := by
    split at h
    · rename_i hlen
      cases h
      exact hlen
    · cases h
  read_pack h := by
    split at h
    · cases h
      rfl
    · cases h

/-- Padding of `n` zero bytes, which are not read. -/
def pad (n : Nat) : Layout Unit where
  size := n
  pack _ := some (List.replicate n 0)
  read _ := ()
  length_pack h := by
    cases h
    exact List.length_replicate
  read_pack _ := rfl

/-- Two layouts, one after the other. -/
def seq (A : Layout α) (B : Layout β) : Layout (α × β) where
  size := A.size + B.size
  pack v := do
    let a ← A.pack v.1
    let b ← B.pack v.2
    return a ++ b
  read b := (A.read (b.take A.size), B.read (b.drop A.size))
  length_pack h := by
    obtain ⟨a, ha, h⟩ := Option.bind_eq_some_iff.1 h
    obtain ⟨b, hb, h⟩ := Option.bind_eq_some_iff.1 h
    cases h
    rw [List.length_append, A.length_pack ha, B.length_pack hb]
  read_pack := by
    rintro ⟨x, y⟩ _ h
    obtain ⟨a, ha, h⟩ := Option.bind_eq_some_iff.1 h
    obtain ⟨b, hb, h⟩ := Option.bind_eq_some_iff.1 h
    cases h
    rw [List.take_left' (A.length_pack ha), List.drop_left' (A.length_pack ha), A.read_pack ha, B.read_pack hb]

/-- **The bytes of a pair are those of its parts.** -/
theorem pack_seq {A : Layout α} {B : Layout β} {x : α} {y : β} {b : Bytes} (h : (A.seq B).pack (x, y) = some b) :
    ∃ a c, b = a ++ c ∧ A.pack x = some a ∧ B.pack y = some c := by
  obtain ⟨a, ha, h⟩ := Option.bind_eq_some_iff.1 h
  obtain ⟨c, hc, h⟩ := Option.bind_eq_some_iff.1 h
  cases h
  exact ⟨a, c, rfl, ha, hc⟩

theorem pack_uintLE {n v : Nat} {b : Bytes} (h : (uintLE n).pack v = some b) : v < 256 ^ n ∧ b = leBytes n v := by
  simp only [uintLE] at h
  split at h
  · cases h
    exact ⟨‹_›, rfl⟩
  · cases h

theorem pack_sintLE {n : Nat} {v : Int} {b : Bytes} (h : (sintLE n).pack v = some b) :
    InSigned n v ∧ b = leBytes n (toUnsigned n v) := by
  simp only [sintLE] at h
  split at h
  · cases h
    exact ⟨‹_›, rfl⟩
  · cases h

theorem pack_bytes {n : Nat} {v b : Bytes} (h : (bytes n).pack v = some b) : v.length = n ∧ b = v := by
  simp only [bytes] at h
  split at h
  · cases h
    exact ⟨‹_›, rfl⟩
  · cases h

/-- Reads the bytes if their number is right. -/
def unpack (L : Layout α) (b : Bytes) : Option α := if b.length = L.size then some (L.read b) else none

theorem unpack_pack {L : Layout α} {v : α} {b : Bytes} (h : L.pack v = some b) : L.unpack b = some v := by
  rw [unpack, if_pos (L.length_pack h), L.read_pack h]

/-- **A pair is packed when both its parts are.** -/
theorem isSome_pack_seq (A : Layout α) (B : Layout β) (v : α × β) :
    ((A.seq B).pack v).isSome = ((A.pack v.1).isSome && (B.pack v.2).isSome) := by
  simp only [seq]
  cases A.pack v.1 with
  | none => rfl
  | some a => cases B.pack v.2 <;> rfl

theorem isSome_pack_uintLE (n v : Nat) : ((uintLE n).pack v).isSome = decide (v < 256 ^ n) := by
  simp only [uintLE]
  split
  · rename_i h
    exact (decide_eq_true h).symm
  · rename_i h
    exact (decide_eq_false h).symm

end Layout
end Wire
