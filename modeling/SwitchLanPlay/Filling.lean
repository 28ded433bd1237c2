import SwitchLanPlay.Bytes
/-!
# Filling — a zeroed buffer that is filled from its front

A buffer of `n` bytes is made of zeros, and slices of it are assigned in the order of their places.  What is there after each
assignment is what was assigned so far and zeros behind it (`setSlice_filled`), so that the buffer ends as its fields, one after
the other, whatever is left out between them being zeros (`filled_skip`).
-/
namespace Wire

/-- `b[i:j] = v`, for `i` up to `j`; the buffer's size changes when `v` has another length than the slice. -/
def setSlice (b : Bytes) (i j : Nat) (v : Bytes) : Bytes := b.take i ++ v ++ b.drop j

/-- A buffer of `n` bytes, all of them zeros behind `done`. -/
def filled (n : Nat) (done : Bytes) : Bytes := done ++ List.replicate (n - done.length) 0

theorem length_filled {n : Nat} {done : Bytes} (h : done.length ≤ n) : (filled n done).length = n := by
  rw [filled, List.length_append, List.length_replicate]
  omega

/-- **A slice that is replaced by as many bytes leaves the buffer's size.** -/
theorem length_setSlice {b v : Bytes} {i j n : Nat} (hb : b.length = n) (hj : i + v.length = j) (hn : j ≤ n) :
    (setSlice b i j v).length = n := by
  rw [setSlice, List.length_append, List.length_append, List.length_take, List.length_drop]
  omega

/-- **A slice reads back.** -/
theorem bytesAt_setSlice {b v : Bytes} {i : Nat} (hi : i ≤ b.length) (j : Nat) : bytesAt (setSlice b i j v) i v.length = v := by
  have htake : (b.take i).length = i := by rw [List.length_take, Nat.min_eq_left hi]
  rw [setSlice, List.append_assoc, bytesAt, List.drop_left' htake, List.take_left]

theorem filled_nil (n : Nat) : filled n [] = List.replicate n 0 := rfl

theorem filled_of_length {n : Nat} {done : Bytes} (h : done.length = n) : filled n done = done := by
  rw [filled, h, Nat.sub_self, List.replicate_zero, List.append_nil]

/-- **The next slice is filled.** -/
theorem setSlice_filled {n i j : Nat} {done v : Bytes} (hi : done.length = i) (hj : i + v.length = j) :
    setSlice (filled n done) i j v = filled n (done ++ v) := by
  have htake : (filled n done).take i = done := by rw [filled, ← hi, List.take_left]
  have hdrop : (filled n done).drop j = List.replicate (n - (done ++ v).length) 0 := by
    rw [filled, ← hj, ← hi, List.drop_length_add_append, List.drop_replicate, List.length_append, Nat.sub_sub]
  rw [setSlice, htake, hdrop, filled]

/-- **One byte is filled.** -/
theorem set_filled {n i : Nat} {done : Bytes} (hi : done.length = i) (hn : i < n) (c : UInt8) :
    (filled n done).set i c = filled n (done ++ [c]) := by
  obtain ⟨k, hk⟩ : ∃ k, n - done.length = k + 1 := ⟨n - done.length - 1, by omega⟩
  have hrest : n - (done ++ [c]).length = k := by
    rw [List.length_append, List.length_singleton]
    omega
  rw [filled, filled, hk, hrest, ← hi, List.set_append_right _ _ (Nat.le_refl _), Nat.sub_self, List.replicate_succ,
    List.set_cons_zero, List.append_assoc, List.singleton_append]

/-- **What is left out is zeros.** -/
theorem filled_skip {n : Nat} {done : Bytes} {i : Nat} (hi : done.length ≤ i) (hn : i ≤ n) :
    filled n done = filled n (done ++ List.replicate (i - done.length) 0) := by
  have hlen : (done ++ List.replicate (i - done.length) (0 : UInt8)).length = i := by
    rw [List.length_append, List.length_replicate]
    omega
  rw [filled, filled, hlen, List.append_assoc, List.replicate_append_replicate]
  congr 2
  omega

/-- **A cut behind what was filled loses only zeros.** -/
theorem take_filled {n m : Nat} {done : Bytes} (hm : done.length ≤ m) (hn : m ≤ n) :
    (filled n done).take m = filled m done := by
  rw [filled, filled, List.take_append, List.take_of_length_le hm, List.take_replicate]
  congr 2
  omega

theorem filled_filled {n m : Nat} {done : Bytes} (hm : done.length ≤ m) (hn : m ≤ n) :
    filled n (filled m done) = filled n done := by
  rw [filled, length_filled hm, filled, filled, List.append_assoc, List.replicate_append_replicate]
  congr 2
  omega

/-- **A buffer cut behind what was filled is got back by filling up with zeros.** -/
theorem filled_take {n m : Nat} {done : Bytes} (hm : done.length ≤ m) (hn : done.length ≤ n) :
    filled n ((filled n done).take m) = filled n done := by
  by_cases hmn : m ≤ n
  · rw [take_filled hm hmn, filled_filled hm hmn]
  · rw [List.take_of_length_le (by rw [length_filled hn]; omega), filled_of_length (length_filled hn)]

end Wire
