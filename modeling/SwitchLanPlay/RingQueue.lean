import Mathlib.Data.List.Basic
import Mathlib.Logic.Function.Basic
/-!
# RingQueue — a bounded FIFO on a circular array

`RingQueue cap α` is an array of `cap` cells with a head index and a count, both in range by construction.  `toList` is the
queue it holds, oldest first; `push` and `pop` are the list's append and uncons (`toList_push`, `toList_pop`).
-/

structure RingQueue (cap : Nat) (α : Type) where
  cells : Fin cap → α
  head : Nat
  count : Nat
  head_lt : head < cap
  count_le : count ≤ cap

namespace RingQueue

variable {cap : Nat} {α : Type}

/-- The ring of a fresh array. -/
def ofCells (cells : Fin cap → α) (h : 0 < cap) : RingQueue cap α where
  cells := cells
  head := 0
  count := 0
  head_lt := h
  count_le := Nat.zero_le _

/-- The cell `i` places after the head. -/
def index (r : RingQueue cap α) (i : Nat) : Fin cap :=
  ⟨(r.head + i) % cap, Nat.mod_lt _ (Nat.lt_of_le_of_lt (Nat.zero_le _) r.head_lt)⟩

/-- The queue the ring holds, oldest first. -/
def toList (r : RingQueue cap α) : List α := (List.range r.count).map (fun i => r.cells (r.index i))

/-- Write at the tail and count it, unless the ring is full. -/
def push (r : RingQueue cap α) (a : α) : RingQueue cap α :=
  if h : r.count < cap then
    { r with cells := Function.update r.cells (r.index r.count) a, count := r.count + 1, count_le := h }
  else r

/-- The oldest element. -/
def front? (r : RingQueue cap α) : Option α := if r.count = 0 then none else some (r.cells (r.index 0))

/-- Advance the head past the oldest element. -/
def pop (r : RingQueue cap α) : RingQueue cap α :=
  { r with
    head := (r.head + 1) % cap
    count := r.count - 1
    head_lt := Nat.mod_lt _ (Nat.lt_of_le_of_lt (Nat.zero_le _) r.head_lt)
    count_le := Nat.le_trans (Nat.sub_le _ _) r.count_le }

/-- Head and count back to zero; the cells keep their bytes. -/
def clear (r : RingQueue cap α) : RingQueue cap α :=
  { r with
    head := 0
    count := 0
    head_lt := Nat.lt_of_le_of_lt (Nat.zero_le _) r.head_lt
    count_le := Nat.zero_le _ }

@[simp] theorem length_toList (r : RingQueue cap α) : r.toList.length = r.count := by simp [toList]

theorem index_injOn (r : RingQueue cap α) {i j : Nat} (hi : i < cap) (hj : j < cap) (h : r.index i = r.index j) :
    i = j := by
  have hmod : (r.head + i) % cap = (r.head + j) % cap := congrArg Fin.val h
  have := r.head_lt
  rcases Nat.lt_or_ge (r.head + i) cap with h1 | h1 <;> rcases Nat.lt_or_ge (r.head + j) cap with h2 | h2
  · rw [Nat.mod_eq_of_lt h1, Nat.mod_eq_of_lt h2] at hmod; omega
  · rw [Nat.mod_eq_of_lt h1, Nat.mod_eq_sub_mod h2, Nat.mod_eq_of_lt (by omega)] at hmod; omega
  · rw [Nat.mod_eq_of_lt h2, Nat.mod_eq_sub_mod h1, Nat.mod_eq_of_lt (by omega)] at hmod; omega
  · rw [Nat.mod_eq_sub_mod h1, Nat.mod_eq_sub_mod h2, Nat.mod_eq_of_lt (by omega), Nat.mod_eq_of_lt (by omega)] at hmod
    omega

/-- **A push into a ring with room appends.** -/
theorem toList_push (r : RingQueue cap α) (a : α) (h : r.count < cap) : (r.push a).toList = r.toList ++ [a] := by
  have hc : (r.push a).count = r.count + 1 := by simp [push, h]
  have hold : ∀ i, i < r.count → (r.push a).cells ((r.push a).index i) = r.cells (r.index i) := by
    intro i hi
    have hne : r.index i ≠ r.index r.count := fun he => by
      have := r.index_injOn (by omega) h he
      omega
    simp only [push, dif_pos h]
    exact Function.update_of_ne hne _ _
  have hnew : (r.push a).cells ((r.push a).index r.count) = a := by
    simp only [push, dif_pos h]
    exact Function.update_self _ _ _
  rw [toList, hc, List.range_succ, List.map_append, List.map_singleton, hnew]
  congr 1
  exact List.map_congr_left (fun i hi => hold i (List.mem_range.1 hi))

theorem index_pop (r : RingQueue cap α) (i : Nat) : r.pop.index i = r.index (i + 1) := by
  apply Fin.ext
  show ((r.head + 1) % cap + i) % cap = (r.head + (i + 1)) % cap
  rw [Nat.mod_add_mod]
  congr 1
  omega

/-- **The queue is its oldest element and what a pop leaves.** -/
theorem toList_pop (r : RingQueue cap α) (a : α) (h : r.front? = some a) : r.toList = a :: r.pop.toList := by
  unfold front? at h
  split at h
  · cases h
  · rename_i hc
    have hcount : r.count = r.pop.count + 1 := by show r.count = r.count - 1 + 1; omega
    have ha : r.cells (r.index 0) = a := Option.some.inj h
    rw [toList, hcount, List.range_succ_eq_map, List.map_cons, ha, List.map_map]
    congr 1
    refine List.map_congr_left (fun i _ => ?_)
    rw [index_pop]
    rfl

theorem toList_of_front_none (r : RingQueue cap α) (h : r.front? = none) : r.toList = [] := by
  unfold front? at h
  split at h
  · rename_i hc; simp [toList, hc]
  · cases h

end RingQueue
