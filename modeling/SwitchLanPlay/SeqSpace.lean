import Mathlib.Algebra.Group.Nat.Defs
import Mathlib.Data.List.Basic
/-!
# SeqSpace — a byte stream numbered modulo 2^32

The byte at offset `n` of a stream has sequence number `seqAt base n`.  Offsets below 2^32 are told apart by their numbers
(`seqAt_inj`), and a distance below 2^32 is read back from two of them (`toNat_sub_seqAt`).  A segment carries a piece of
the stream: a prefix of what follows an offset.
-/
namespace SeqSpace

/-- The sequence number of offset `n` in a stream that starts at `base`. -/
def seqAt (base : UInt32) (n : Nat) : UInt32 := base + UInt32.ofNat n

@[simp] theorem seqAt_zero (base : UInt32) : seqAt base 0 = base := by simp [seqAt]

theorem toNat_seqAt (base : UInt32) (n : Nat) : (seqAt base n).toNat = (base.toNat + n) % 2 ^ 32 := by
  rw [seqAt, UInt32.toNat_add, UInt32.toNat_ofNat']
  omega

@[simp] theorem seqAt_add (base : UInt32) (m n : Nat) : seqAt base m + UInt32.ofNat n = seqAt base (m + n) := by
  rw [← UInt32.toNat_inj, UInt32.toNat_add, toNat_seqAt, toNat_seqAt, UInt32.toNat_ofNat']
  omega

theorem seqAt_succ (base : UInt32) (n : Nat) : seqAt base n + 1 = seqAt base (n + 1) := seqAt_add base n 1

/-- **Offsets below 2^32 have different numbers.** -/
theorem seqAt_inj {base : UInt32} {m n : Nat} (hm : m < 2 ^ 32) (hn : n < 2 ^ 32) (h : seqAt base m = seqAt base n) :
    m = n := by
  have h' := congrArg UInt32.toNat h
  rw [toNat_seqAt, toNat_seqAt] at h'
  omega

theorem toNat_sub_seqAt (base : UInt32) {m n : Nat} (hle : m ≤ n) (hlt : n - m < 2 ^ 32) :
    (seqAt base n - seqAt base m).toNat = n - m := by
  rw [UInt32.toNat_sub, toNat_seqAt, toNat_seqAt]
  omega

section Pieces

variable {α : Type} {stream stream' piece got : List α} {n : Nat}

/-- **A piece stays a piece when the stream grows.** -/
theorem piece_mono (hs : stream <+: stream') (hp : piece <+: stream.drop n) (hn : n ≤ stream.length) :
    piece <+: stream'.drop n := by
  obtain ⟨rest, rfl⟩ := hs
  rw [List.drop_append_of_le_length hn]
  exact hp.trans (List.prefix_append _ _)

/-- **The piece right after a prefix extends it.** -/
theorem prefix_append_piece (hg : got <+: stream) (hp : piece <+: stream.drop got.length) : got ++ piece <+: stream := by
  obtain ⟨rest, rfl⟩ := hg
  rw [List.drop_left] at hp
  exact (List.prefix_append_right_inj got).2 hp

end Pieces

end SeqSpace
