import Mathlib.Algebra.GroupWithZero.Nat
import Mathlib.Data.List.Basic
/-!
# OnesComplement — sums with end-around carry

Words are the numbers up to `m`.  `sum` adds them with the carry out of the top brought back in at the bottom; it depends on
their plain total alone (`sum_eq_reduce`), which folding the carry of a wider accumulator does not change (`reduce_carry`).
A word that complements the sum of the others makes the whole sum `m` (`reduce_add_complement`).
-/
namespace OnesComplement

variable {m : Nat}

/-- Two words; a carry out of the top is added at the bottom. -/
def add (m a b : Nat) : Nat := if a + b ≤ m then a + b else a + b - m

def sum (m : Nat) (ws : List Nat) : Nat := ws.foldr (add m) 0

/-- The word a total comes down to: 0 for 0 alone, and `m` for its other multiples. -/
def reduce (m n : Nat) : Nat := if n = 0 then 0 else (n - 1) % m + 1

/-- One fold of an accumulator: its low word, and what is above it. -/
def carry (m n : Nat) : Nat := n % (m + 1) + n / (m + 1)

theorem reduce_le (hm : 0 < m) (n : Nat) : reduce m n ≤ m := by
  have := Nat.mod_lt (n - 1) hm
  unfold reduce
  split <;> omega

theorem reduce_of_le {n : Nat} (h : n ≤ m) : reduce m n = n := by
  unfold reduce
  split
  · omega
  · rw [Nat.mod_eq_of_lt (by omega)]
    omega

theorem reduce_add_mul {n : Nat} (hn : 0 < n) (k : Nat) : reduce m (n + m * k) = reduce m n := by
  have hsub : n + m * k - 1 = n - 1 + m * k := by omega
  rw [reduce, reduce, if_neg (by omega), if_neg (by omega), hsub, Nat.add_mul_mod_self_left]

theorem reduce_pos {n : Nat} (hn : 0 < n) : 0 < reduce m n := by
  rw [reduce, if_neg (by omega)]
  omega

/-- A total is its word and a multiple of `m`. -/
theorem exists_eq_reduce (m n : Nat) : ∃ k, n = reduce m n + m * k := by
  rcases Nat.eq_zero_or_pos n with rfl | hn
  · exact ⟨0, rfl⟩
  · refine ⟨(n - 1) / m, ?_⟩
    have hdiv := Nat.mod_add_div (n - 1) m
    rw [reduce, if_neg (by omega)]
    omega

/-- **A summand may be reduced first.** -/
theorem reduce_add_reduce (a b : Nat) : reduce m (a + reduce m b) = reduce m (a + b) := by
  obtain ⟨k, hk⟩ := exists_eq_reduce m b
  rcases Nat.eq_zero_or_pos b with rfl | hb
  · rfl
  · have hpos := reduce_pos (m := m) hb
    rw [show a + b = a + reduce m b + m * k by omega, reduce_add_mul (by omega)]

theorem add_eq_reduce {a b : Nat} (ha : a ≤ m) (hb : b ≤ m) : add m a b = reduce m (a + b) := by
  unfold add
  split
  · rename_i h
    rw [reduce_of_le h]
  · have hsplit : a + b = (a + b - m) + m * 1 := by omega
    rw [hsplit, reduce_add_mul (by omega), Nat.mul_one, Nat.add_sub_cancel, reduce_of_le (by omega)]

/-- **The sum of words is the word of their total.** -/
theorem sum_eq_reduce (hm : 0 < m) : ∀ {ws : List Nat}, (∀ w ∈ ws, w ≤ m) → sum m ws = reduce m ws.sum
  | [], _ => rfl
  | w :: ws, h => by
    have ih := sum_eq_reduce hm (fun w' hw' => h w' (List.mem_cons_of_mem _ hw'))
    rw [sum] at ih
    rw [sum, List.foldr_cons, ih, add_eq_reduce (h w List.mem_cons_self) (reduce_le hm _), reduce_add_reduce, List.sum_cons]

/-- A fold takes `m` off for each unit of carry. -/
theorem carry_add_mul (m n : Nat) : n = carry m n + m * (n / (m + 1)) := by
  have hdiv := Nat.mod_add_div n (m + 1)
  rw [Nat.add_mul, Nat.one_mul] at hdiv
  unfold carry
  generalize n / (m + 1) = q at hdiv ⊢
  generalize n % (m + 1) = r at hdiv ⊢
  omega

/-- **Folding the carry keeps the word.** -/
theorem reduce_carry (n : Nat) : reduce m (carry m n) = reduce m n := by
  have hsplit := carry_add_mul m n
  rcases Nat.eq_zero_or_pos (carry m n) with h0 | hpos
  · have hq : n / (m + 1) = 0 := Nat.eq_zero_of_add_eq_zero_left h0
    rw [hq, h0] at hsplit
    rw [h0, hsplit, Nat.mul_zero]
  · calc reduce m (carry m n) = reduce m (carry m n + m * (n / (m + 1))) := (reduce_add_mul hpos _).symm
      _ = reduce m n := by rw [← hsplit]

/-- **The complement of a sum completes it.** -/
theorem reduce_add_complement (hm : 0 < m) (n : Nat) : reduce m (n + (m - reduce m n)) = m := by
  have hle := reduce_le hm n
  obtain ⟨k, hk⟩ := exists_eq_reduce m n
  have hsplit : n + (m - reduce m n) = m + m * k := by omega
  rw [hsplit, reduce_add_mul hm, reduce_of_le (Nat.le_refl m)]

end OnesComplement
