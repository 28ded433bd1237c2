import Mathlib.Data.List.DropRight
import SwitchLanPlay.Bytes
/-!
# Stripping — bytes cut off at an end

`List.rdropWhile` takes bytes off the end of a string.  Of a string put together from two it takes from the second, and from
the first only when nothing is left of the second (`rdropWhile_append`).
-/
namespace Wire

variable {p : UInt8 → Bool} {a b : Bytes}

theorem rdropWhile_append (p : UInt8 → Bool) (a b : Bytes) :
    (a ++ b).rdropWhile p = if b.rdropWhile p = [] then a.rdropWhile p else a ++ b.rdropWhile p := by
  simp only [List.rdropWhile, List.reverse_append, List.dropWhile_append, List.isEmpty_iff, List.reverse_eq_nil_iff]
  split
  · rfl
  · rw [List.reverse_append, List.reverse_reverse]

/-- **Only the end is stripped when something is left of it.** -/
theorem rdropWhile_append_ne (h : b.rdropWhile p ≠ []) : (a ++ b).rdropWhile p = a ++ b.rdropWhile p := by
  rw [rdropWhile_append, if_neg h]

/-- **Nothing is stripped of a beginning that ends in another byte.** -/
theorem rdropWhile_append_self (h : a.rdropWhile p = a) : (a ++ b).rdropWhile p = a ++ b.rdropWhile p := by
  rw [rdropWhile_append]
  split
  · rename_i hb
    rw [hb, h, List.append_nil]
  · rfl

theorem rdropWhile_append_replicate {c : UInt8} (h : p c = true) (a : Bytes) (n : Nat) :
    (a ++ List.replicate n c).rdropWhile p = a.rdropWhile p := by
  have hall : (List.replicate n c).rdropWhile p = [] := by
    rw [List.rdropWhile_eq_nil_iff]
    intro x hx
    rw [List.eq_of_mem_replicate hx]
    exact h
  rw [rdropWhile_append, if_pos hall]

end Wire
